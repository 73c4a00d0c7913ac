import Criteria.Proofs.Render.Literals

/-!
# What a member node indexes

The source of a member node is the literal of its target with a parameter in brackets behind it; only
the literal of an object is put in parentheses. So the index takes the whole target unless the literal
has a minus sign, or is the source text of a function that is no operand: of `-5[a]` it takes the
numeral, and of `x => x.n[a]` the last access.

* `Indexes` — the text is an index expression of a whole literal.
* `Value.StandsAlone` — the literal can stand before an index.
* `indexes_indexed_iff` — a value is indexed as a whole when its literal can stand before an index.
* `member_indexes` — the source of a member node.
-/

set_option autoImplicit false

namespace Criteria

open Datum Grammar Render

/-- The text is an index expression whose base is the whole literal, in parentheses or not. -/
def Grammar.Indexes (text : String) (lit : List Node) (key : String) : Prop :=
  IndexOf text lit key ∨ IndexOf text [.group .paren lit] key

/-- The literal has no minus sign, and is no source text of a function that is no operand. -/
def Value.StandsAlone (v : Value) (lit : List Node) : Prop :=
  (Operand.literal v).isNegativeNumber = false ∧ ∀ f, v = .function f → IsOperand lit

variable {s : Store} {v : Value} {lit : List Node} {key : String}

/-! ## The literal before an index -/

theorem isNegative_datum (s : Store) (v : Value) :
    (s.datum v).isNegative = (Operand.literal v).isNegativeNumber := by
  cases v <;> simp only [Store.datum] <;> cases s.size <;> rfl

theorem datum_ne_function (hv : ∀ f, v ≠ .function f) (f : Function) : s.datum v ≠ .function f := by
  cases v with
  | function g => exact absurd rfl (hv g)
  | _ => simp only [Store.datum]; cases s.size <;> exact nofun

theorem isOperand_iff_standsAlone (hlit : IsLiteral (s.datum v) lit) :
    IsOperand lit ↔ v.StandsAlone lit := by
  by_cases hv : ∃ f, v = .function f
  · obtain ⟨f, rfl⟩ := hv
    exact ⟨fun h => ⟨rfl, fun _ _ => h⟩, fun h => h.2 f rfl⟩
  · have hnone : ∀ f, v ≠ .function f := fun f hf => hv ⟨f, hf⟩
    rw [hlit.operand_iff (datum_ne_function hnone), isNegative_datum]
    exact ⟨fun h => ⟨h, fun f hf => absurd hf (hnone f)⟩, fun h => h.1⟩

theorem written_key (hkey : isBareKey key) :
    Written ("[" ++ key ++ "]" ++ "") [.group .square [.leaf (.word key)]] :=
  .squares (.leaf (.word hkey)) .empty

theorem written_indexed (hlit : Written (s.literal v) lit) (hv : ∀ o, v ≠ .object o)
    (hkey : isBareKey key) :
    Written (indexed s v key) (lit ++ [.group .square [.leaf (.word key)]]) := by
  have hwritten := hlit.append (c := '[') (by simp [String.toList_append]) rfl (written_key hkey)
  have htext : indexed s v key = s.literal v ++ ("[" ++ key ++ "]" ++ "") := by
    refine String.toList_inj.1 ?_
    cases v with
    | object o => exact absurd rfl (hv o)
    | _ => simp [indexed]
  rwa [htext]

theorem written_indexed_object {o : ObjectRef} (hlit : Written (s.literal (.object o)) lit)
    (hkey : isBareKey key) :
    Written (indexed s (.object o) key)
      ([.group .paren lit] ++ [.group .square [.leaf (.word key)]]) := by
  have htext : indexed s (.object o) key =
      "(" ++ s.literal (.object o) ++ ")" ++ ("[" ++ key ++ "]" ++ "") :=
    String.toList_inj.1 (by simp [indexed])
  rw [htext]
  exact .parens hlit (written_key hkey)

/-- A value is indexed as a whole when its literal can stand before an index. -/
theorem indexes_indexed_iff (hlit : IsLiteral (s.datum v) lit) (hkey : isBareKey key)
    (hname : key ∉ reservedWords) : Indexes (indexed s v key) lit key ↔ v.StandsAlone lit := by
  by_cases hv : ∃ o, v = .object o
  · obtain ⟨o, rfl⟩ := hv
    have hwritten := written_indexed_object hlit.written hkey
    exact ⟨fun _ => ⟨rfl, nofun⟩, fun _ => .inr ⟨hwritten, .parens hlit.expression, hname⟩⟩
  · have hwritten := written_indexed hlit.written (fun o ho => hv ⟨o, ho⟩) hkey
    rw [← isOperand_iff_standsAlone hlit]
    constructor
    · rintro (h | h)
      · exact h.base
      · exact h.unique hwritten ▸ h.base
    · exact fun h => .inl ⟨hwritten, h, hname⟩

/-! ## Member nodes -/

theorem toSource_member (s : Store) (v : Value) :
    (Predicate.member v).toSource s = .ok ⟨["a"], indexed s v "a", .memberAccess⟩ := by
  rfl

/-- What is indexed as a whole can stand before the index. -/
theorem standsAlone_of_indexes (hv : (s.datum v).Legible) (hlit : Written (s.literal v) lit)
    (h : Indexes (indexed s v "a") lit "a") : v.StandsAlone lit := by
  obtain ⟨lit', hlit'⟩ := isLiteral hv
  rw [hlit.unique hlit'.written] at h ⊢
  exact (indexes_indexed_iff hlit' rfl (by decide)).1 h

/-- **What a member node indexes.** The source of a member node, on names of its own or on a given list,
is an index of the whole literal of its target exactly when the literal can stand before an index: it has
no minus sign and is no function that would need parentheses. Then nothing of the literal is left outside
of what is indexed. -/
theorem Predicate.member_indexes (s : Store) {v : Value} (hv : (s.datum v).Legible) :
    ∃ lit, Written (s.literal v) lit ∧ IsExpression lit ∧
      (∃ src, (Predicate.member v).toSource s = .ok src ∧ src.params = ["a"] ∧
        src.precedence = .memberAccess ∧ (Indexes src.body lit "a" ↔ v.StandsAlone lit)) ∧
      ∀ names names' text, (predicate s (.member v)).run names = .ok text names' →
        ∃ key, (Naming.next "key").run names = .ok key names' ∧
          (isBareKey key → key ∉ reservedWords → (Indexes text lit key ↔ v.StandsAlone lit)) := by
  obtain ⟨lit, hlit⟩ := isLiteral hv
  refine ⟨lit, hlit.written, hlit.expression, ⟨_, toSource_member s v, rfl, rfl, ?_⟩, ?_⟩
  · exact indexes_indexed_iff hlit rfl (by decide)
  · intro names names' text h
    rw [predicate] at h
    obtain ⟨key, names'', hkey, hpure⟩ := Naming.ok_of_bind h
    cases hpure
    exact ⟨key, hkey, indexes_indexed_iff hlit⟩

/-- A function whose source text is an arrow function that reads a property. -/
def readsN : Function := { name := "", arity := 1, closure := ⟨0⟩, source := some "x => x.n" }

theorem written_readsN : Written "x => x.n" [.leaf (.word "x"), .leaf (.mark "=>"), .leaf (.word "x"),
    .leaf (.mark "."), .leaf (.word "n")] :=
  .cons (l := some _) rfl (.blank (.cons (l := some _) rfl (.blank (.cons (l := some _) rfl
    (.cons (l := some _) rfl (.one rfl))))))

theorem legible_readsN : readsN.Legible := by
  have hx : "x" ∉ reservedWords := by decide
  have hbody : IsExpression [.leaf (.word "x"), .leaf (.mark "."), .leaf (.word "n")] :=
    IsOperand.isExpression (.access (.name hx) "n")
  exact ⟨_, written_readsN, .arrow (.bare hx) hbody nofun⟩

/-- Inside a list neither a minus sign nor an arrow matters. -/
theorem member_indexes_list :
    let s : Store := { arrays := #[[.int (-1), .function readsN]] }
    (s.datum (.array ⟨0⟩)).Legible ∧ ∃ lit src, Written (s.literal (.array ⟨0⟩)) lit ∧
      (Predicate.member (.array ⟨0⟩)).toSource s = .ok src ∧ src.body = "[-1, x => x.n][a]" ∧
      Indexes src.body lit "a" := by
  intro s
  have hlegible : (s.datum (.array ⟨0⟩)).Legible := by
    intro f hf
    rw [List.mem_singleton.1 hf]
    exact legible_readsN
  obtain ⟨lit, hlit, -, ⟨src, hsrc, -, -, hiff⟩, -⟩ := Predicate.member_indexes s hlegible
  refine ⟨hlegible, lit, src, hlit, hsrc, ?_, hiff.2 ⟨rfl, nofun⟩⟩
  cases hsrc
  decide

/-- A negative number and an arrow function are not indexed as a whole. -/
theorem member_leaves_text_outside :
    (∃ src, (Predicate.member (.int (-5))).toSource {} = .ok src ∧ src.body = "-5[a]" ∧
      ¬ ∃ lit, Written (Store.literal {} (.int (-5))) lit ∧ Indexes src.body lit "a") ∧
    ∃ src, (Predicate.member (.function readsN)).toSource {} = .ok src ∧ src.body = "x => x.n[a]" ∧
      ¬ ∃ lit, Written (Store.literal {} (.function readsN)) lit ∧ Indexes src.body lit "a" := by
  refine ⟨⟨_, toSource_member _ _, by decide, ?_⟩, ⟨_, toSource_member _ _, by decide, ?_⟩⟩
  · have hlegible : (Store.datum {} (.int (-5))).Legible := nofun
    rintro ⟨lit, hlit, hindexes⟩
    have halone := standsAlone_of_indexes hlegible hlit hindexes
    exact absurd halone.1 (by decide)
  · have hlegible : (Store.datum {} (.function readsN)).Legible := by
      intro f hf
      rw [List.mem_singleton.1 hf]
      exact legible_readsN
    rintro ⟨lit, hlit, hindexes⟩
    have halone := standsAlone_of_indexes hlegible hlit hindexes
    rw [hlit.unique written_readsN] at halone
    exact absurd ((halone.2 readsN rfl).mark_eq (s := "=>") (by simp)) (by decide)

end Criteria
