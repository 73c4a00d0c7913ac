import Criteria.Proofs.Render.DumpText

/-!
# What a dump tells

A dump is read in one way as far as everything between quotes is: the kinds of the nodes stand before
the brackets, and the details within end at the closing ones. The names of properties are not escaped. A
name with its own closing quote in it may be read as other nodes.

* `HidesNoEnd` — no name in the tree has a quote that could be the closing one.
* `tellsApart_operand`, `tellsApart_detail` — operands and nodes are told by their dumps.
* `dump_eq_iff` — trees with the same dump.
-/

set_option autoImplicit false

namespace Criteria

open Dump Text

/-! ## Type labels -/

namespace TypeMask

theorem contains_single (m : TypeMask) (c : TypeCategory) :
    m.contains (single c) = m.bits.getLsbD c.index := by
  have hne : BitVec.twoPow 13 c.index ≠ 0#13 := by cases c <;> decide
  rw [contains, single, BitVec.and_twoPow]
  cases m.bits.getLsbD c.index with
  | true => simp
  | false => simpa using hne.symm

theorem mem_categories {m : TypeMask} {c : TypeCategory} :
    c ∈ m.categories ↔ m.bits.getLsbD c.index = true := by
  have hall : c ∈ TypeCategory.all := by cases c <;> decide
  rw [categories, List.mem_filter, contains_single]
  exact and_iff_right hall

theorem categories_injective {m m' : TypeMask} (h : m.categories = m'.categories) : m = m' := by
  have hindex : ∀ i < 13, ∃ c ∈ TypeCategory.all, c.index = i := by decide
  suffices hbits : m.bits = m'.bits by
    cases m
    cases m'
    rw [TypeMask.mk.injEq]
    exact hbits
  refine BitVec.eq_of_getLsbD_eq fun i hi => ?_
  obtain ⟨c, -, rfl⟩ := hindex i hi
  rw [Bool.eq_iff_iff, ← mem_categories, ← mem_categories, h]

end TypeMask

theorem tellsApart_categoryLabel (c d : TypeCategory) :
    TellsApart (fun k => ∀ e ∈ k.head?, e = ')' ∨ e = '|') c.label d.label (c = d) := by
  have hchars : ∀ c : TypeCategory, ∀ e ∈ c.label.toList, (e != ')' && e != '|') = true := by
    intro c
    rw [← List.all_eq_true]
    cases c <;> rfl
  have hlabel : c.label = d.label → c = d := by
    cases c <;> cases d <;> first | exact fun _ => rfl | exact fun h => absurd h (by decide)
  refine (tellsApart_run (f := fun e => e != ')' && e != '|') (fun k hk e he => ?_) (hchars c)
    (hchars d)).imp hlabel
  rcases hk e he with rfl | rfl <;> rfl

/-- The labels of a mask end at the closing bracket. -/
theorem tellsApart_label (m m' : TypeMask) :
    TellsApart (fun k => k.head? = some ')') m.label m'.label (m = m') := by
  have hhead : ∀ (c : TypeCategory) (k us : List Char), c.label.toList ++ k ≠ ')' :: us ∧
      c.label.toList ++ k ≠ '0' :: us := by
    intro c k us
    cases c <;> exact ⟨fun h => absurd (List.cons.inj h).1 (by decide),
      fun h => absurd (List.cons.inj h).1 (by decide)⟩
  have hall := tellsApart_list "|" rfl (by decide)
    (fun k e he => .inl (Option.some.inj he).symm) (fun k e he => .inr (Option.some.inj he).symm)
    (fun c (_ : c ∈ m.categories) k us => (hhead c k us).1)
    (fun d (_ : d ∈ m'.categories) k us => (hhead d k us).1)
    (fun c _ d _ => tellsApart_categoryLabel c d)
  rw [List.forall₂_eq_eq_eq] at hall
  have hlabel : ∀ m : TypeMask, m.label = if m.categories = [] then "0" else
      String.intercalate "|" (m.categories.map TypeCategory.label) := by
    intro m
    unfold TypeMask.label
    cases m.categories <;> rfl
  have hzero : ∀ {m : TypeMask} (k us : List Char), m.categories ≠ [] →
      (String.intercalate "|" (m.categories.map TypeCategory.label)).toList ++ k ≠ '0' :: us := by
    intro m k us hm
    obtain ⟨c, cs, hcs⟩ := List.exists_cons_of_ne_nil hm
    rw [hcs, toList_intercalate_cons, List.append_assoc]
    exact (hhead c _ us).2
  intro k k' hk hk' htext
  rw [hlabel, hlabel] at htext
  by_cases hnil : m.categories = [] <;> by_cases hnil' : m'.categories = []
  · rw [if_pos hnil, if_pos hnil'] at htext
    exact ⟨TypeMask.categories_injective (hnil.trans hnil'.symm), List.append_cancel_left htext⟩
  · rw [if_pos hnil, if_neg hnil'] at htext
    exact absurd htext.symm (hzero k' _ hnil')
  · rw [if_neg hnil, if_pos hnil'] at htext
    exact absurd htext (hzero k _ hnil)
  · rw [if_neg hnil, if_neg hnil'] at htext
    exact (hall.imp TypeMask.categories_injective) k k' hk hk' htext

/-! ## Names and kinds -/

/-- No name that a node reads has a quote in it that could be the closing one. -/
def HidesNoEnd (nodes : List Predicate) : Prop :=
  ∀ name filter, .property (some name) filter ∈ nodes → hidesEnd name.toList = false

namespace HidesNoEnd

variable {p : Predicate} {ps qs : List Predicate}

theorem mono (h : HidesNoEnd qs) (hsub : ps ⊆ qs) : HidesNoEnd ps :=
  fun name filter hmem => h name filter (hsub hmem)

theorem tail (h : HidesNoEnd (p :: ps)) : HidesNoEnd ps := h.mono (List.subset_cons_self p ps)

theorem left (h : HidesNoEnd (ps ++ qs)) : HidesNoEnd ps := h.mono (List.subset_append_left ps qs)

theorem right (h : HidesNoEnd (ps ++ qs)) : HidesNoEnd qs := h.mono (List.subset_append_right ps qs)

theorem of_mem {xs : List Operand} {x : Operand} (h : HidesNoEnd (Operand.allNodes xs))
    (hx : x ∈ xs) : HidesNoEnd x.nodes := by
  induction xs with
  | nil => cases hx
  | cons y rest ih =>
    rcases List.mem_cons.1 hx with rfl | hx
    · exact h.left
    · exact ih h.right hx

theorem name {name : Option String} {filter : Option Operand}
    (h : HidesNoEnd (.property name filter :: ps)) : ∀ text ∈ name, hidesEnd text.toList = false := by
  rintro text ⟨⟩
  exact h text filter List.mem_cons_self

end HidesNoEnd

/-- Two trees whose roots are of one kind. -/
inductive SameKind : Predicate → Predicate → Prop
  | type (mask mask' : TypeMask) : SameKind (.type mask) (.type mask')
  | charset (cell cell' : CharsetCell) (set set' : String) :
      SameKind (.charset cell set) (.charset cell' set')
  | string (start start' : List UInt8) : SameKind (.string start) (.string start')
  | unary (op : UnaryOp) (x x' : Operand) : SameKind (.unary op x) (.unary op x')
  | binary (op : BinaryOp) (left right left' right' : Operand) :
      SameKind (.binary op left right) (.binary op left' right')
  | boolean (op : BooleanOp) (xs xs' : List Operand) : SameKind (.boolean op xs) (.boolean op xs')
  | property (name name' : Option String) (filter filter' : Option Operand) :
      SameKind (.property name filter) (.property name' filter')
  | shift (count count' : Nat) (x x' : Operand) : SameKind (.shift count x) (.shift count' x')

theorem sameKind_of_kind {p q : Predicate} (hp : p.isStructural) (hq : q.isStructural)
    (h : p.kind = q.kind) : SameKind p q := by
  cases p with
  | type | charset | string | property | shift =>
    cases q with
    | unary op | binary op | boolean op => cases op <;> cases h
    | _ => first | constructor | cases h | cases hq
  | unary op | binary op | boolean op =>
    cases q with
    | unary op' | binary op' | boolean op' =>
      cases op <;> cases op' <;> first | constructor | cases h
    | _ => cases op <;> first | cases h | cases hq
  | _ => cases hp

/-! ## Reading a dump -/

variable {s t : Store} {x y : Operand}

/-- What stands behind the detail of a node. -/
def Closed (k : List Char) : Prop := k.head? = some ')'

theorem Closed.separated {k : List Char} (h : Closed k) : Grammar.Separated k := by
  intro c hc
  rw [h] at hc
  cases hc
  rfl

theorem Closed.followsName {k : List Char} (h : Closed k) : followsName k := by
  obtain ⟨k, rfl⟩ := List.head?_eq_some_iff.1 h
  rfl

/-- A set ends at its closing bracket. -/
theorem tellsApart_setDetail {follows : List Char → Prop} (cs ds : List Char) :
    TellsApart follows (setDetail cs) (setDetail ds) (cs = ds) := by
  have hhead : ∀ (cs : List Char), ∀ c ∈ cs, ∀ k us, (setMember c).toList ++ k ≠ ' ' :: us := by
    intro cs c _ k us h
    rw [toList_setMember] at h
    exact absurd (List.cons.inj h).1 (by decide)
  have hmember : ∀ c ∈ cs, ∀ d ∈ ds, TellsApart (fun _ => True) (setMember c) (setMember d) (c = d) :=
    fun c _ d _ => tellsApart_setMember c d
  have hall := tellsApart_list ", " rfl (by decide) (fun _ => trivial) (fun _ => trivial) (hhead cs)
    (hhead ds) hmember
  rw [List.forall₂_eq_eq_eq] at hall
  have hmembers := (hall.behind "[ ").before (fun _ => True) " (len = " fun _ _ => rfl
  have hcount : cs = ds →
      TellsApart (fun _ => True) (toString cs.length) (toString ds.length) True := by
    rintro rfl
    exact .refl _
  have hboth := hmembers.seq hcount (fun _ _ => trivial) fun _ _ => trivial
  exact (hboth.before _ ") ]" fun _ _ => trivial).imp And.left

theorem kindNames_nodup : (Kind.all.map Kind.name).Nodup := by decide

theorem kindName_injective {kind kind' : Kind} (h : kind.name = kind'.name) : kind = kind' := by
  have hall : ∀ kind : Kind, kind ∈ Kind.all := by
    intro kind
    cases kind <;> decide
  exact List.inj_on_of_nodup_map kindNames_nodup (hall kind) (hall kind') h

/-- A node is read as its kind, and then as its detail. -/
theorem tellsApart_node {follows : List Char → Prop} {kind kind' : Kind} {detail detail' : String}
    {related : Prop} (h : kind = kind' → TellsApart Closed detail detail' related) :
    TellsApart follows (node kind detail) (node kind' detail') related := by
  have hchars : ∀ kind : Kind, ∀ c ∈ kind.name.toList, c.isAlphanum := by
    intro kind
    rw [← List.all_eq_true]
    cases kind <;> rfl
  have hname : TellsApart (fun k => k.head? = some '(') kind.name kind'.name (kind = kind') := by
    refine (tellsApart_run (f := Char.isAlphanum) (fun k hk c hc => ?_) (hchars kind)
      (hchars kind')).imp kindName_injective
    rw [hk] at hc
    cases hc
    rfl
  have hopen := (hname.behind "Predicate.").before (fun _ => True) "(" fun _ _ => rfl
  exact ((hopen.seq h (fun _ _ => trivial) fun _ _ => trivial).before _ ")" fun _ _ => rfl).imp
    And.right

/-- The property that a node reads is told if no name hides an end. -/
theorem tellsApart_access {name name' : Option String}
    (h : ∀ text ∈ name, hidesEnd text.toList = false)
    (h' : ∀ text ∈ name', hidesEnd text.toList = false) :
    TellsApart (fun k => followsName k) (accessText name) (accessText name') (name = name') := by
  have hquote : ∀ (text : String) (k k' : List Char),
      (nameQuoted text).toList ++ k ≠ "[key]".toList ++ k' := by
    intro text k k' heq
    rw [toList_nameQuoted] at heq
    exact absurd (List.cons.inj heq).1 (by decide)
  cases name with
  | none =>
    cases name' with
    | none => exact (TellsApart.refl _).imp fun _ => rfl
    | some text' => exact fun k k' _ _ heq => absurd heq.symm (hquote text' k' k)
  | some text =>
    cases name' with
    | none => exact fun k k' _ _ heq => absurd heq (hquote text k k')
    | some text' =>
      exact ((tellsApart_name_iff text).2 (h text rfl) text' (h' text' rfl)).imp (congrArg some)

/-! ## Operands -/

theorem contents_of_isPlain {v : Value} (h : v.isPlain) : s.contents v = [] := by
  cases v <;> first | rfl | cases h

theorem isData_of_isPlain {v : Value} (h : v.isPlain) : v.isData := by
  cases v <;> first | rfl | cases h

theorem literalType_plain {v : Value} (h : v.isPlain) (k : List Char) :
    Store.literalType ((s.literal v).toList ++ k) = v.typeName :=
  Store.literalType_literal (Store.acyclic_of_contents_eq_nil (contents_of_isPlain h))
    (isData_of_isPlain h) k

theorem tellsApart_plain {v w : Value} (hv : v.isPlain) (hw : w.isPlain) :
    TellsApart Grammar.Separated (s.literal v) (t.literal w) (v = w) := by
  have hacyclic : ∀ (s : Store) (v : Value), v.isPlain → s.Acyclic v := fun _ _ h =>
    Store.acyclic_of_contents_eq_nil (contents_of_isPlain h)
  have hdata : ∀ (s : Store) (v : Value), v.isPlain → s.IsData v := fun _ _ h =>
    Store.isData_of_contents_eq_nil (contents_of_isPlain h) (isData_of_isPlain h)
  refine (Store.tellsApart_literal (hacyclic s v hv) (hacyclic t w hw) (hdata s v hv)
    (hdata t w hw)).imp fun h => ?_
  cases h with
  | array | object => cases hv
  | _ => rfl

/-- The first characters of an operand tell whether it is unset, a tree or a literal. -/
def Operand.shownType : Operand → String
  | .unset => "undefined"
  | .nested _ => ""
  | .literal v => v.typeName

theorem dumpTexts_eq_map (s : Store) (xs : List Operand) :
    Operand.dumpTexts s xs = xs.map (Operand.dumpText s) := by
  induction xs with
  | nil => rfl
  | cons x xs ih => rw [Operand.dumpTexts, ih, List.map_cons]

/-- A literal of a tree looks neither like an unset operand nor like a tree. -/
theorem shownType_literal {v : Value} (h : (Operand.literal v).isStructural) :
    v.typeName ≠ "undefined" ∧ v.typeName ≠ "" := by
  cases v <;> simp [Operand.isStructural, Value.isUndefined, Value.isPlain, Value.typeName] at h ⊢

theorem exists_cons_node (kind : Kind) (detail : String) (k : List Char) :
    ∃ cs, (node kind detail).toList ++ k = 'P' :: cs := by
  rw [node, String.append_assoc, String.append_assoc, String.append_assoc, String.toList_append]
  exact ⟨_, rfl⟩

theorem literalType_dumpText (hx : x.isStructural) (k : List Char) :
    Store.literalType ((x.dumpText s).toList ++ k) = x.shownType := by
  cases x with
  | unset =>
    rw [Operand.dumpText]
    rfl
  | nested p =>
    obtain ⟨kind, hkind⟩ := exists_kind hx
    obtain ⟨cs, hcs⟩ := exists_cons_node kind (p.detail s) k
    rw [dumpText_nested hkind, hcs]
    rfl
  | literal v =>
    rw [Operand.isStructural, Bool.and_eq_true] at hx
    exact literalType_plain hx.1 k

theorem operandType_eq {k k' : List Char} (hx : x.isStructural) (hy : y.isStructural)
    (h : (x.dumpText s).toList ++ k = (y.dumpText t).toList ++ k') : x.shownType = y.shownType := by
  rw [← literalType_dumpText hx k, h, literalType_dumpText hy k']

theorem dumpText_append_ne (hx : x.isStructural) (k us : List Char) :
    (x.dumpText s).toList ++ k ≠ ')' :: us := by
  cases x with
  | unset =>
    rw [Operand.dumpText]
    exact fun h => absurd (List.cons.inj h).1 (by decide)
  | nested p =>
    obtain ⟨kind, hkind⟩ := exists_kind hx
    obtain ⟨cs, hcs⟩ := exists_cons_node kind (p.detail s) k
    rw [dumpText_nested hkind, hcs]
    exact fun h => absurd (List.cons.inj h).1 (by decide)
  | literal v =>
    rw [Operand.isStructural, Bool.and_eq_true] at hx
    rw [Operand.dumpText]
    exact Store.literal_append_ne (Store.acyclic_of_contents_eq_nil (contents_of_isPlain hx.1))
      (isData_of_isPlain hx.1) (fun _ => rfl) k us

/-- A property is read as its name and then as its filter. -/
theorem tellsApart_property {name name' : Option String} {filter filter' : Option Operand}
    (hname : TellsApart (fun k => followsName k) (accessText name) (accessText name') (name = name'))
    (h : ∀ x ∈ filter, ∀ y ∈ filter',
      TellsApart Grammar.Separated (x.dumpText s) (y.dumpText t) (x.bare = y.bare)) :
    TellsApart Closed ((Predicate.property name filter).detail s)
      ((Predicate.property name' filter').detail t)
      ((Predicate.property name filter).bare = (Predicate.property name' filter').bare) := by
  have hnext : ∀ (x : Operand) (s : Store) (k : List Char),
      followsName ((", " ++ x.dumpText s).toList ++ k) := by
    intro x s k
    rw [String.toList_append]
    rfl
  -- a bracket behind the name where the other node has a filter
  have hdiffer : ∀ (x : Operand) (s : Store) (k k' : List Char), Closed k →
      k ≠ (", " ++ x.dumpText s).toList ++ k' := by
    intro x s k k' hk heq
    rw [heq, String.toList_append] at hk
    exact absurd (Option.some.inj hk) (by decide)
  cases filter with
  | none =>
    cases filter' with
    | none =>
      rw [Predicate.detail, Predicate.detail]
      intro k k' hk hk' htext
      exact (hname.imp fun h => by rw [h]) k k' hk.followsName hk'.followsName htext
    | some y =>
      rw [Predicate.detail, Predicate.detail]
      intro k k' hk _ htext
      rw [String.toList_append, List.append_assoc] at htext
      exact absurd (hname _ _ hk.followsName (hnext y t k') htext).2 (hdiffer y t k k' hk)
  | some x =>
    cases filter' with
    | none =>
      rw [Predicate.detail, Predicate.detail]
      intro k k' _ hk' htext
      rw [String.toList_append, List.append_assoc] at htext
      exact absurd (hname _ _ (hnext x s k) hk'.followsName htext).2.symm (hdiffer x s k' k hk')
    | some y =>
      rw [Predicate.detail, Predicate.detail]
      have hfilter : TellsApart Closed _ _ _ :=
        ((h x rfl y rfl).behind ", ").mono fun _ => Closed.separated
      refine (hname.seq (fun _ => hfilter) (fun k _ => hnext x s k) fun k _ => hnext y t k).imp ?_
      rintro ⟨hsame, hbare⟩
      rw [Predicate.bare, Predicate.bare, hsame, hbare]

mutual

theorem tellsApart_operand : ∀ x y : Operand, x.isStructural → y.isStructural →
    HidesNoEnd x.nodes → HidesNoEnd y.nodes →
      TellsApart Grammar.Separated (x.dumpText s) (y.dumpText t) (x.bare = y.bare)
  | .unset, y, hx, hy, _, _ => by
    intro k k' _ _ htext
    have htype := operandType_eq hx hy htext
    cases y with
    | unset =>
      rw [Operand.dumpText, Operand.dumpText] at htext
      exact ⟨rfl, List.append_cancel_left htext⟩
    | nested => simp [Operand.shownType] at htype
    | literal w => exact absurd htype.symm (shownType_literal hy).1
  | .nested p, y, hx, hy, hp, hq => by
    intro k k' hk hk' htext
    have htype := operandType_eq hx hy htext
    cases y with
    | unset => simp [Operand.shownType] at htype
    | nested q =>
      obtain ⟨kind, hkind⟩ := exists_kind hx
      obtain ⟨kind', hkind'⟩ := exists_kind hy
      rw [dumpText_nested hkind, dumpText_nested hkind'] at htext
      have hdetail : kind = kind' →
          TellsApart Closed (p.detail s) (q.detail t) (p.bare = q.bare) := by
        rintro rfl
        exact tellsApart_detail p q hx hy hp hq (sameKind_of_kind hx hy (hkind.trans hkind'.symm))
      refine (tellsApart_node hdetail k k' hk hk' htext).imp_left fun h => ?_
      rw [Operand.bare, Operand.bare, h]
    | literal w => exact absurd htype.symm (shownType_literal hy).2
  | .literal v, y, hx, hy, _, _ => by
    intro k k' hk hk' htext
    have htype := operandType_eq hx hy htext
    cases y with
    | unset => exact absurd htype (shownType_literal hx).1
    | nested => exact absurd htype (shownType_literal hx).2
    | literal w =>
      rw [Operand.isStructural, Bool.and_eq_true] at hx hy
      rw [Operand.dumpText, Operand.dumpText] at htext
      exact (tellsApart_plain hx.1 hy.1 k k' hk hk' htext).imp_left fun h => by rw [h]

/-- The details of nodes of one kind. -/
theorem tellsApart_detail : ∀ p q : Predicate, p.isStructural → q.isStructural →
    HidesNoEnd p.nodes → HidesNoEnd q.nodes → SameKind p q →
      TellsApart Closed (p.detail s) (q.detail t) (p.bare = q.bare)
  | .type mask, _, _, _, _, _, .type _ mask' => by
    rw [Predicate.detail, Predicate.detail]
    exact ((tellsApart_label mask mask').behind "type == ").imp (congrArg _)
  | .charset _ set, _, _, _, _, _, .charset _ _ _ set' => by
    rw [Predicate.detail, Predicate.detail]
    exact (tellsApart_setDetail _ _).imp fun h => by
      rw [Predicate.bare, Predicate.bare, String.toList_inj.1 h]
  | .string start, _, _, _, _, _, .string _ start' => by
    rw [Predicate.detail, Predicate.detail]
    exact (tellsApart_bytes start start').imp (congrArg _)
  | .unary op x, q, hx, hy, hp, hq, hkind => by
    cases hkind with
    | unary _ _ y =>
      have htold := tellsApart_operand x y hx hy hp.tail hq.tail
      rw [Predicate.detail, Predicate.detail]
      refine ((htold.behind (unaryOpening op)).before _ " )" fun _ _ => Store.separated_cons rfl _).imp ?_
      intro h
      rw [Predicate.bare, Predicate.bare, h]
  | .binary op left right, q, hx, hy, hp, hq, hkind => by
    cases hkind with
    | binary _ _ _ left' right' =>
      rw [Predicate.isStructural, Bool.and_eq_true] at hx hy
      have hleft := tellsApart_operand left left' hx.1 hy.1 hp.tail.left hq.tail.left
      have hright := tellsApart_operand right right' hx.2 hy.2 hp.tail.right hq.tail.right
      have hopen := (hleft.behind "(").before (fun _ => True) " " fun _ _ => Store.separated_cons rfl _
      have hsymbol := (hopen.before (fun _ => True) op.symbol fun _ _ => trivial).before (fun _ => True)
        " " fun _ _ => trivial
      have hboth := hsymbol.seq (fun _ => hright) (fun _ _ => trivial) fun _ _ => trivial
      rw [Predicate.detail, Predicate.detail]
      refine (hboth.before _ ")" fun _ _ => Store.separated_cons rfl _).imp ?_
      rintro ⟨hl, hr⟩
      rw [Predicate.bare, Predicate.bare, hl, hr]
  | .boolean op xs, q, hx, hy, hp, hq, hkind => by
    cases hkind with
    | boolean _ _ ys =>
      have hall := tellsApart_list ", " rfl (by decide) (Store.separated_cons rfl) (Store.separated_cons rfl)
        (fun x hmem => dumpText_append_ne (Operand.isStructural_of_mem hx hmem))
        (fun y hmem => dumpText_append_ne (Operand.isStructural_of_mem hy hmem))
        (fun x hmem y hmem' => tellsApart_operands xs hx hp.tail x hmem y
          (Operand.isStructural_of_mem hy hmem') (hq.tail.of_mem hmem'))
      rw [Predicate.detail, Predicate.detail, dumpTexts_eq_map, dumpTexts_eq_map]
      refine hall.imp fun h => ?_
      have hbare : xs.map Operand.bare = ys.map Operand.bare := by
        rw [← List.forall₂_eq_eq_eq, List.forall₂_map_left_iff, List.forall₂_map_right_iff]
        exact h
      rw [Predicate.bare, Predicate.bare, Operand.allBare_eq_map, Operand.allBare_eq_map, hbare]
  | .property name none, q, _, _, hp, hq, hkind => by
    cases hkind with
    | property _ name' _ filter' =>
      exact tellsApart_property (tellsApart_access hp.name hq.name) nofun
  | .property name (some x), q, hx, hy, hp, hq, hkind => by
    cases hkind with
    | property _ name' _ filter' =>
      refine tellsApart_property (tellsApart_access hp.name hq.name) fun x' hx' y hy' => ?_
      cases hx'
      cases hy'
      exact tellsApart_operand x y hx hy hp.tail hq.tail
  | .shift count x, q, hx, hy, hp, hq, hkind => by
    cases hkind with
    | shift _ count' _ y =>
      have htold := tellsApart_operand x y hx hy hp.tail hq.tail
      have hnat := tellsApart_nat Store.isDigit_of_separated count count'
      have hcount := (hnat.behind ">> ").before (fun _ => True) " " fun _ _ =>
        Store.separated_cons rfl _
      rw [Predicate.detail, Predicate.detail]
      refine (hcount.seq (fun _ => htold.mono fun _ => Closed.separated) (fun _ _ => trivial)
        fun _ _ => trivial).imp ?_
      rintro ⟨hn, hx⟩
      rw [Predicate.bare, Predicate.bare, hn, hx]

theorem tellsApart_operands : ∀ xs : List Operand, Operand.allStructural xs →
    HidesNoEnd (Operand.allNodes xs) → ∀ x ∈ xs, ∀ y : Operand, y.isStructural →
      HidesNoEnd y.nodes → TellsApart Grammar.Separated (x.dumpText s) (y.dumpText t) (x.bare = y.bare)
  | [], _, _, _, hmem, _, _, _ => nomatch hmem
  | x :: rest, hxs, hnodes, z, hmem, y, hy, hq => by
    rw [Operand.allStructural, Bool.and_eq_true] at hxs
    rcases List.mem_cons.1 hmem with hz | hmem
    · rw [hz]
      exact tellsApart_operand x y hxs.1 hy hnodes.left hq
    · exact tellsApart_operands rest hxs.2 hnodes.right z hmem y hy hq

end

/-! ## Trees with the same dump -/

theorem dumpText_eq_iff {p q : Predicate} (hp : p.isStructural) (hq : q.isStructural)
    (hnp : HidesNoEnd p.nodes) (hnq : HidesNoEnd q.nodes) :
    p.dumpText s = q.dumpText t ↔ p.bare = q.bare := by
  constructor
  · intro h
    have htold := tellsApart_operand (s := s) (t := t) (.nested p) (.nested q) hp hq hnp hnq
    have hbare := htold.of_eq (by rintro c ⟨⟩) h
    rw [Operand.bare, Operand.bare] at hbare
    exact Operand.nested.inj hbare
  · intro h
    rw [dumpText_bare (s := s) (t := s) hp, dumpText_bare (s := t) (t := s) hq, h]

/-- **Dumps tell the tree.** Trees of type tests, character sets, byte strings, operators, properties
and shifts, with slots that are unset, nested or hold `null`, a truth value, an integer or a string,
have dumps. As long as no name of a property has its closing quote in it, the dumps are the same text if
and only if the trees are the same but for the cells of their sets, whatever the stores hold and whether
or not the sets were decoded before.

Bytes, members of sets and strings end at their closing quote, whatever follows them. A name ends there,
with a bracket or a comma and a blank behind it, if and only if none of its own quotes has such behind
it. -/
theorem dump_eq_iff {L L' : Labels} {w w' : World} {p q : Predicate} (hw : L.Holds w.caches)
    (hw' : L'.Holds w'.caches) (hp : L.Fits p.nodes) (hq : L'.Fits q.nodes)
    (hsp : p.isStructural) (hsq : q.isStructural) (hnp : HidesNoEnd p.nodes)
    (hnq : HidesNoEnd q.nodes) :
    (∃ text text' v v', p.dump.run w = .ok text v ∧ q.dump.run w' = .ok text' v' ∧
      (text = text' ↔ p.bare = q.bare)) ∧
    (∀ xs ys, TellsApart (fun _ => True) (bytesQuoted xs) (bytesQuoted ys) (xs = ys)) ∧
    (∀ c d, TellsApart (fun _ => True) (setMember c) (setMember d) (c = d)) ∧
    (∀ text text', TellsApart (fun _ => True) (quote text) (quote text') (text = text')) ∧
    (∀ name, (∀ other, hidesEnd other.toList = false →
      TellsApart (fun k => followsName k) (nameQuoted name) (nameQuoted other) (name = other)) ↔
        hidesEnd name.toList = false) := by
  obtain ⟨v, hrun, -, -⟩ := gives_dump p hp (p.isComplete_of_isStructural hsp) w hw
  obtain ⟨v', hrun', -, -⟩ := gives_dump q hq (q.isComplete_of_isStructural hsq) w' hw'
  exact ⟨⟨_, _, v, v', hrun, hrun', dumpText_eq_iff hsp hsq hnp hnq⟩, tellsApart_bytes,
    tellsApart_setMember, tellsApart_quote, tellsApart_name_iff⟩

/-- Two trees that differ in the cells of their character sets, one of them decoded before. -/
theorem dump_eq_iff_cells :
    let p : CharsetCell → Predicate := fun cell => .boolean .or
      [.nested (.charset cell "it's"), .nested (.property (some "it's (") (some .unset)),
        .literal (.str "')")]
    let w : World := { caches := { charsets := #[some "it's".toList, none] } }
    ∃ text v v', (p ⟨0⟩).dump.run w = .ok text v ∧ (p ⟨1⟩).dump.run w = .ok text v' := by
  intro p w
  let L : Labels := { charsets := #["it's", "it's"] }
  have hw : L.Holds w.caches := by
    refine ⟨rfl, rfl, fun cell set chars hset hchars => ?_, fun cell source flags prepared h => ?_⟩
    · obtain ⟨_ | _ | i⟩ := cell
      · cases hset
        cases hchars
        rfl
      · cases hchars
      · cases hset
    · cases h
  have hfits : ∀ cell : CharsetCell, L.charsets[cell.index]? = some "it's" → L.Fits (p cell).nodes := by
    intro cell hcell q hq
    simp only [p, Predicate.nodes, Predicate.inner, Operand.allNodes, Operand.nodes, List.append_nil,
      List.cons_append, List.nil_append, List.mem_cons, List.not_mem_nil, or_false] at hq
    rcases hq with rfl | rfl | rfl
    · trivial
    · exact hcell
    · trivial
  have hnames : ∀ cell, HidesNoEnd (p cell).nodes := by
    intro cell name filter hmem
    simp [p, Predicate.nodes, Predicate.inner, Operand.allNodes, Operand.nodes] at hmem
    rw [hmem.1]
    decide
  obtain ⟨⟨text, text', v, v', hrun, hrun', htext⟩, -⟩ :=
    dump_eq_iff hw hw (hfits ⟨0⟩ rfl) (hfits ⟨1⟩ rfl) rfl rfl (hnames ⟨0⟩) (hnames ⟨1⟩)
  obtain rfl := htext.2 rfl
  exact ⟨text, v, v', hrun, hrun'⟩

/-- A property whose name holds another node, and the two nodes that its dump shows. -/
theorem dump_same_text :
    let p : Predicate := .boolean .or
      [.nested (.property (some "a") none), .nested (.property (some "b") none)]
    let q : Predicate := .boolean .or
      [.nested (.property (some "a'), Predicate.property('b") none)]
    p.isStructural ∧ q.isStructural ∧ p.bare ≠ q.bare ∧
      p.dump.run {} =
        .ok "Predicate.or(Predicate.property('a'), Predicate.property('b'))" {} ∧
      q.dump.run {} =
        .ok "Predicate.or(Predicate.property('a'), Predicate.property('b'))" {} := by
  refine ⟨rfl, rfl, ?_, rfl, rfl⟩
  intro h
  exact absurd (congrArg List.length (Predicate.boolean.inj h).2) (by decide)

end Criteria
