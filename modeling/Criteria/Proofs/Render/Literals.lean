import Criteria.Proofs.Render.Operands
import Criteria.Render.Source
import Mathlib.Data.List.Forall2

/-!
# What a literal is written as

The nodes of the literal of a value. Every literal is an expression, as long as the functions in it are
shown by expressions. It is an operand as well, and an index behind it takes all of it, unless it
starts with a minus sign or is the source text of a function that is no operand.

* `Datum.functions`, `Datum.Legible` — the functions that a literal shows.
* `Datum.isLiteral` — the nodes of a literal, by recursion on the datum.
-/

set_option autoImplicit false

namespace Criteria

open Grammar

/-! ## Functions in a literal -/

/-- The function is shown by an expression. -/
def Function.Legible (f : Function) : Prop :=
  ∃ ns, Written (Datum.functionLiteral f) ns ∧ IsExpression ns

namespace Datum

mutual

/-- The functions in a datum, at every depth. -/
def functions : Datum → List Function
  | function f => [f]
  | array _ items => itemFunctions items
  | object _ entries => entryFunctions entries
  | _ => []

def itemFunctions : List Datum → List Function
  | [] => []
  | d :: rest => d.functions ++ itemFunctions rest

def entryFunctions : List (String × Datum) → List Function
  | [] => []
  | (_, d) :: rest => d.functions ++ entryFunctions rest

end

/-- Every function in the datum is shown by an expression. -/
def Legible (d : Datum) : Prop := ∀ f ∈ d.functions, f.Legible

/-- Whether the datum is a number below zero. -/
def isNegative : Datum → Bool
  | int n => n < 0
  | float x => x < 0
  | _ => false

/-! ## The nodes of a literal -/

/-- The nodes are those of the literal: an expression, and an operand unless there is a minus sign. -/
structure IsLiteral (d : Datum) (ns : List Node) : Prop where
  written : Written d.literal ns
  expression : IsExpression ns
  operand_iff : (∀ f, d ≠ .function f) → (IsOperand ns ↔ d.isNegative = false)

theorem IsLiteral.of_operand {d : Datum} {ns : List Node} (hwritten : Written d.literal ns)
    (h : IsOperand ns) (hneg : d.isNegative = false) : IsLiteral d ns :=
  ⟨hwritten, h.isExpression, fun _ => ⟨fun _ => hneg, fun _ => h⟩⟩

/-- A minus sign and an operand behind it. -/
theorem IsLiteral.of_minus {d : Datum} {x : Leaf}
    (hwritten : Written d.literal [.leaf (.mark "-"), .leaf x]) (h : IsOperand [.leaf x])
    (hneg : d.isNegative = true) : IsLiteral d [.leaf (.mark "-"), .leaf x] := by
  have hminus : .mark "-" ∈ prefixOperators := by decide
  refine ⟨hwritten, .chain (.prefixed hminus (.operand h)), fun _ => ⟨fun hop => ?_, fun hpos => ?_⟩⟩
  · exact absurd (hop.mark_eq List.mem_cons_self) (by decide)
  · rw [hneg] at hpos
    cases hpos

theorem isLiteral_word {d : Datum} (hkey : isBareKey d.literal) (hname : d.literal ∉ reservedWords)
    (hneg : d.isNegative = false) : IsLiteral d [.leaf (.word d.literal)] :=
  .of_operand (.leaf (.word hkey)) (.name hname) hneg

/-- A number: a word or a numeral, with a minus sign before it when it is below zero. -/
theorem isLiteral_signed {d : Datum} (text : String)
    (hliteral : d.literal = if d.isNegative then "-" ++ text else text)
    (htext : text = "NaN" ∨ text = "Infinity" ∨ Number.IsNumeral text.toList) :
    ∃ ns, IsLiteral d ns := by
  obtain ⟨x, c, cs, hx, hoperand, hcs, hminus, hequal⟩ : ∃ x c cs, Written text [.leaf x] ∧
      IsOperand [.leaf x] ∧ text.toList = c :: cs ∧ c ≠ '-' ∧ c ≠ '=' := by
    rcases htext with rfl | rfl | hnumeral
    · have hname : "NaN" ∉ reservedWords := by decide
      exact ⟨_, 'N', ['a', 'N'], .leaf (.word rfl), .name hname, rfl, by decide, by decide⟩
    · have hname : "Infinity" ∉ reservedWords := by decide
      exact ⟨_, 'I', _, .leaf (.word rfl), .name hname, rfl, by decide, by decide⟩
    · obtain ⟨c, cs, hcs, hc⟩ := hnumeral.exists_cons
      refine ⟨_, c, cs, .leaf (.numeral hnumeral), .number _, hcs, ?_, ?_⟩ <;> rintro rfl <;>
        exact absurd hc (by decide)
  cases hneg : d.isNegative with
  | true =>
    rw [hneg, if_pos rfl] at hliteral
    exact ⟨_, .of_minus (hliteral ▸ hx.minus hcs hminus hequal) hoperand hneg⟩
  | false =>
    rw [hneg, if_neg Bool.false_ne_true] at hliteral
    exact ⟨_, .of_operand (hliteral ▸ hx) hoperand hneg⟩

theorem written_toString (n : Nat) :
    Written (toString n) [.leaf (.number (String.ofList (Nat.toDigits 10 n)))] := by
  rw [Written, ParamNames.toList_toString]
  exact Lexes.numeral (Number.isNumeral_toDigits n)

theorem isLiteral_int (n : Int64) : ∃ ns, IsLiteral (.int n) ns := by
  have hneg : isNegative (.int n) = decide (n.toInt < 0) := by
    simp [isNegative, Int64.lt_iff_toInt_lt]
  have hliteral : literal (.int n) = toString n.toInt := rfl
  refine isLiteral_signed (toString n.toInt.natAbs) ?_ (.inr (.inr ?_))
  · rw [hneg, hliteral]
    by_cases hn : n.toInt < 0
    · obtain ⟨k, hk⟩ := Int.eq_negSucc_of_lt_zero hn
      rw [if_pos (decide_eq_true hn), hk]
      rfl
    · obtain ⟨k, hk⟩ := Int.eq_ofNat_of_zero_le (Int.not_lt.1 hn)
      rw [if_neg (by simp [hn]), hk]
      rfl
  · rw [ParamNames.toList_toString]
    exact Number.isNumeral_toDigits _

theorem isLiteral_float (x : Float) : ∃ ns, IsLiteral (.float x) ns := by
  obtain ⟨text, htext, hcases⟩ := Number.format_eq x
  have hliteral : literal (.float x) = Number.format x := rfl
  refine isLiteral_signed text ?_ hcases
  rw [hliteral, htext]
  simp [isNegative]

theorem isLiteral_symbol (ref : SymbolRef) (description : String) :
    ∃ ns, IsLiteral (.symbol ref description) ns := by
  let body : List Node := [.leaf (.quoted (Text.quoteBody description.toList))]
  have hcallee : Written "Symbol" [.leaf (.word "Symbol")] := .leaf (.word rfl)
  have hname : "Symbol" ∉ reservedWords := by decide
  have hargs : Written ("(" ++ Text.quote description ++ ")" ++ "") [.group .paren body] :=
    .parens (.leaf (.quote description)) .empty
  have hliteral : literal (.symbol ref description) = "Symbol(" ++ Text.quote description ++ ")" := rfl
  have htext : literal (.symbol ref description) =
      "Symbol" ++ ("(" ++ Text.quote description ++ ")" ++ "") :=
    String.toList_inj.1 (by simp [hliteral])
  have hbody : ∀ e ∈ [body], IsExpression e := by
    intro e he
    rw [List.mem_singleton.1 he]
    exact IsOperand.isExpression (.quoted _)
  have hwritten := hcallee.append (c := '(') (by simp [String.toList_append]) rfl hargs
  rw [← htext] at hwritten
  exact ⟨_, .of_operand hwritten (.call (.name hname) hbody) rfl⟩

theorem isLiteral_bytes (data : List UInt8) : ∃ ns, IsLiteral (.bytes data) ns := by
  let digits (b : UInt8) : List Node := [.leaf (.number (String.ofList (Nat.toDigits 10 b.toNat)))]
  let list : List Node := [.group .square (separate (data.map digits))]
  let texts := data.map fun b => toString b.toNat
  have hdigits : List.Forall₂ Written texts (data.map digits) := by
    rw [List.forall₂_map_left_iff, List.forall₂_map_right_iff]
    exact List.forall₂_same.2 fun b _ => written_toString b.toNat
  have hlist : Written ("[" ++ String.intercalate ", " texts ++ "]" ++ "") list :=
    .squares (.separate hdigits) .empty
  have hfield : Written ".buffer" [.leaf (.mark "."), .leaf (.word "buffer")] :=
    Lexes.dot (by decide) (Lexes.word (w := "buffer") rfl)
  have hcallee : Written ("new" ++ " Uint8Array") [.leaf (.word "new"), .leaf (.word "Uint8Array")] :=
    Written.append (.leaf (.word rfl)) (c := ' ') rfl rfl
      (Lexes.blank (Lexes.word (w := "Uint8Array") rfl))
  have hargs : Written ("(" ++ ("[" ++ String.intercalate ", " texts ++ "]" ++ "") ++ ")" ++ ".buffer")
      (.group .paren list :: [.leaf (.mark "."), .leaf (.word "buffer")]) :=
    .parens hlist hfield
  have hbytes : ∀ e ∈ data.map digits, IsExpression e := by
    intro e he
    obtain ⟨b, -, rfl⟩ := List.mem_map.1 he
    exact IsOperand.isExpression (.number _)
  have hargument : ∀ e ∈ [list], IsExpression e := by
    intro e he
    rw [List.mem_singleton.1 he]
    exact IsOperand.isExpression (.list hbytes)
  have hname : "Uint8Array" ∉ reservedWords := by decide
  have hliteral : literal (.bytes data) =
      "new Uint8Array([" ++ String.intercalate ", " texts ++ "]).buffer" := rfl
  have htext : literal (.bytes data) = "new" ++ " Uint8Array" ++
      ("(" ++ ("[" ++ String.intercalate ", " texts ++ "]" ++ "") ++ ")" ++ ".buffer") :=
    String.toList_inj.1 (by simp [hliteral])
  have hwritten := hcallee.append (c := '(') (by simp [String.toList_append]) rfl hargs
  rw [← htext] at hwritten
  exact ⟨_, .of_operand hwritten (.access (.create hname hargument) "buffer") rfl⟩

theorem isLiteral_array (ref : ArrayRef) {items : List Datum} {es : List (List Node)}
    (htexts : List.Forall₂ Written (itemLiterals items) es) (hes : ∀ e ∈ es, IsExpression e) :
    IsLiteral (.array ref items) [.group .square (separate es)] := by
  refine .of_operand ?_ (.list hes) rfl
  have hsquares := Written.squares (.separate htexts) .empty
  rwa [String.append_empty] at hsquares

theorem isLiteral_object (ref : ObjectRef) {entries : List (String × Datum)}
    {es : List (Leaf × List Node)}
    (htexts : List.Forall₂ Written (entryLiterals entries) (es.map entryNodes))
    (hkeys : ∀ e ∈ es, e.1.isKey) (hes : ∀ e ∈ es, IsExpression e.2) :
    IsLiteral (.object ref entries) [.group .curly (separate (es.map entryNodes))] := by
  refine .of_operand ?_ (.record hkeys hes) rfl
  cases entries with
  | nil =>
    have hliteral : literal (.object ref []) = "\x7b\x7d" := rfl
    rw [List.forall₂_nil_left_iff.1 htexts, hliteral]
    exact .group .curly .empty .empty rfl
  | cons entry entries => exact .braces (.separate htexts)

/-- The key of an entry is written as a key. -/
theorem lexes_key (key : String) : ∃ x : Leaf, x.isKey ∧
    Lexes (if isBareKey key then key else Text.quote key).toList [.leaf x] := by
  split
  · rename_i hkey
    exact ⟨.word key, rfl, .word hkey⟩
  · exact ⟨_, rfl, .quote key⟩

mutual

/-- Every literal that can be read is an expression, and an operand unless it has a minus sign or is a
function. -/
theorem isLiteral : ∀ {d : Datum}, d.Legible → ∃ ns, IsLiteral d ns
  | undefined, _ => ⟨_, isLiteral_word rfl (by decide) rfl⟩
  | null, _ => ⟨_, isLiteral_word rfl (by decide) rfl⟩
  | bool true, _ => ⟨_, isLiteral_word rfl (by decide) rfl⟩
  | bool false, _ => ⟨_, isLiteral_word rfl (by decide) rfl⟩
  | int n, _ => isLiteral_int n
  | float x, _ => isLiteral_float x
  | str s, _ => ⟨_, .of_operand (.leaf (.quote s)) (.quoted _) rfl⟩
  | symbol ref description, _ => isLiteral_symbol ref description
  | bytes data, _ => isLiteral_bytes data
  | array ref items, h => by
    obtain ⟨es, htexts, hes⟩ := written_itemLiterals h
    exact ⟨_, isLiteral_array ref htexts hes⟩
  | object ref entries, h => by
    obtain ⟨es, htexts, hkeys, hes⟩ := written_entryLiterals h
    exact ⟨_, isLiteral_object ref htexts hkeys hes⟩
  | function f, h => by
    obtain ⟨ns, hwritten, hns⟩ := h f (List.mem_singleton.2 rfl)
    exact ⟨ns, hwritten, hns, fun hd => absurd rfl (hd f)⟩

theorem written_itemLiterals : ∀ {items : List Datum}, (∀ f ∈ itemFunctions items, f.Legible) →
    ∃ es, List.Forall₂ Written (itemLiterals items) es ∧ ∀ e ∈ es, IsExpression e
  | [], _ => ⟨[], .nil, nofun⟩
  | d :: rest, h => by
    obtain ⟨ns, hd⟩ := isLiteral (d := d) fun f hf => h f (List.mem_append_left _ hf)
    have hrest : ∀ f ∈ itemFunctions rest, f.Legible := fun f hf => h f (List.mem_append_right _ hf)
    obtain ⟨es, htexts, hes⟩ := written_itemLiterals hrest
    exact ⟨ns :: es, .cons hd.written htexts, List.forall_mem_cons.2 ⟨hd.expression, hes⟩⟩

theorem written_entryLiterals : ∀ {entries : List (String × Datum)},
    (∀ f ∈ entryFunctions entries, f.Legible) → ∃ es : List (Leaf × List Node),
      List.Forall₂ Written (entryLiterals entries) (es.map entryNodes) ∧
        (∀ e ∈ es, e.1.isKey) ∧ ∀ e ∈ es, IsExpression e.2
  | [], _ => ⟨[], .nil, nofun, nofun⟩
  | (key, d) :: rest, h => by
    obtain ⟨ns, hd⟩ := isLiteral (d := d) fun f hf => h f (List.mem_append_left _ hf)
    have hrest : ∀ f ∈ entryFunctions rest, f.Legible := fun f hf => h f (List.mem_append_right _ hf)
    obtain ⟨es, htexts, hkeys, hes⟩ := written_entryLiterals hrest
    obtain ⟨x, hx, hkey⟩ := lexes_key key
    exact ⟨(x, ns) :: es, .cons (.entry hkey hd.written) htexts,
      List.forall_mem_cons.2 ⟨hx, hkeys⟩, List.forall_mem_cons.2 ⟨hd.expression, hes⟩⟩

end

end Datum

end Criteria
