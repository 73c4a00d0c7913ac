import Criteria.Proofs.Render.Body
import Criteria.Proofs.Render.Capacity
import Criteria.Proofs.Render.Parser

/-!
# Skipping arguments

A shift is written as its operand, on the names behind those that it skips. It has the precedence of its
operand, so the expression around it is written as around the operand itself, with other names. There is
one place where more than the precedence counts: the base of an exponentiation, where a number with a
minus sign is in parentheses. A shift does not show its number there.

* `Frame` — a node around one of its operands.
* `Operand.Skips` — an operand is another one that skips some names on the way.

Principal results:

* `needsParens_shift` — when a shift needs the parentheses of its operand.
* `Operand.Skips.frame` — skipping goes on through the nodes around an operand.
* `shift_transparent` — what a shift changes of the parentheses and of the source around it.
* `shift_hides_minus` — a base that loses its parentheses: the body is no expression.
-/

set_option autoImplicit false

namespace Criteria

open Grammar Naming ParamNames Render

variable {α : Type} {s : Store}

/-! ## Parentheses -/

/-- The base of an exponentiation, where a number with a minus sign is in parentheses. -/
def Position.IsBase (position : Position) (operator : Precedence) : Prop :=
  operator = .exponentiation ∧ position = .left

instance (position : Position) (operator : Precedence) : Decidable (position.IsBase operator) :=
  inferInstanceAs (Decidable (_ ∧ _))

/-- Only the precedence of an operand counts, except at the base of an exponentiation. -/
theorem needsParens_congr {x y : Operand} {operator : Precedence} {position : Position}
    (hprecedence : y.precedence = x.precedence)
    (hbase : position.IsBase operator → y.isNegativeNumber = x.isNegativeNumber) :
    needsParens operator y position = needsParens operator x position := by
  have hneeds : ∀ inner,
      position.needsParens operator inner y = position.needsParens operator inner x := by
    intro inner
    cases position with
    | left =>
      by_cases hop : operator = .exponentiation
      · simp only [Position.needsParens, hbase ⟨hop, rfl⟩]
      · simp only [Position.needsParens, hop, decide_false, Bool.false_and]
    | right | operand | chain => rfl
  simp only [needsParens, hprecedence, hneeds]

/-- A number with a minus sign is an atom, in parentheses at the base of an exponentiation. -/
theorem needsParens_of_isNegativeNumber {x : Operand} (hx : x.isNegativeNumber) :
    x.precedence = .ok .memberAccess ∧ needsParens .exponentiation x .left = .ok true := by
  have hprecedence : x.precedence = .ok .memberAccess := by
    cases x with
    | literal v => rfl
    | unset | nested => cases hx
  refine ⟨hprecedence, ?_⟩
  rw [needsParens, hprecedence]
  simp only [Position.needsParens, hx, Bool.or_true]
  rfl

/-- A shift is in the parentheses of its operand, but a number behind it has none for its sign. -/
theorem needsParens_shift (count : Nat) (x : Operand) (operator : Precedence) (position : Position) :
    needsParens operator (.nested (.shift count x)) position =
      if position.IsBase operator ∧ x.isNegativeNumber then .ok false
      else needsParens operator x position := by
  split
  · rename_i h
    obtain ⟨⟨rfl, rfl⟩, hx⟩ := h
    have hprecedence : (Operand.nested (.shift count x)).precedence = x.precedence := rfl
    rw [needsParens, hprecedence, (needsParens_of_isNegativeNumber hx).1]
    rfl
  · rename_i h
    exact needsParens_congr rfl fun hbase =>
      (Bool.eq_false_of_not_eq_true fun hx => h ⟨hbase, hx⟩).symm

theorem Render.wrapped_congr {x y : Operand} {operator : Precedence} {position : Position}
    (hprecedence : y.precedence = x.precedence)
    (hbase : position.IsBase operator → y.isNegativeNumber = x.isNegativeNumber) (text : String) :
    wrapped operator y position text = wrapped operator x position text := by
  rw [wrapped, wrapped, needsParens_congr hprecedence hbase]

/-! ## Names left out -/

/-- The list without `n` elements, from the index `k` on. -/
def without (k n : Nat) (l : List α) : List α := l.take k ++ l.drop (k + n)

theorem take_without {m k : Nat} (h : m ≤ k) (n : Nat) (l : List α) :
    (without k n l).take m = l.take m := by
  rw [without, List.take_append, List.take_take, Nat.min_eq_left h]
  by_cases hlength : k ≤ l.length
  · rw [List.length_take, Nat.min_eq_left hlength, Nat.sub_eq_zero_of_le h, List.take_zero,
      List.append_nil]
  · rw [List.drop_eq_nil_of_le (by omega), List.take_nil, List.append_nil]

theorem drop_without {k m : Nat} (h : k ≤ m) (n : Nat) (l : List α) :
    (without k n l).drop m = l.drop (m + n) := by
  rw [without, List.drop_append, List.drop_take, Nat.sub_eq_zero_of_le h, List.take_zero,
    List.nil_append, List.drop_drop, List.length_take]
  by_cases hlength : k ≤ l.length
  · rw [Nat.min_eq_left hlength, show k + n + (m - k) = m + n by omega]
  · rw [List.drop_eq_nil_of_le (by omega), List.drop_eq_nil_of_le (by omega)]

theorem drop_without_add (m k n : Nat) (l : List α) :
    (without (m + k) n l).drop m = without k n (l.drop m) := by
  rw [without, without, List.drop_append, List.drop_take, Nat.add_sub_cancel_left, List.drop_drop,
    List.drop_drop, List.length_take]
  by_cases hlength : m + k ≤ l.length
  · rw [Nat.min_eq_left hlength, Nat.sub_eq_zero_of_le (Nat.le_add_right m k), Nat.add_zero,
      Nat.add_assoc]
  · have hnil : ∀ i, l.drop (m + k + n + i) = [] := fun i => List.drop_eq_nil_of_le (by omega)
    rw [hnil, ← Nat.add_assoc, ← Nat.add_zero (m + k + n), hnil]

/-! ## Nodes around an operand -/

/-- A node around one of its operands. -/
inductive Frame where
  | unary (op : UnaryOp)
  | left (op : BinaryOp) (other : Operand)
  | right (op : BinaryOp) (other : Operand)
  | chain (op : BooleanOp) (before after : List Operand)
  | shift (count : Nat)

namespace Frame

/-- The node with an operand in its place. -/
def around : Frame → Operand → Predicate
  | unary op, x => .unary op x
  | left op other, x => .binary op x other
  | right op other, x => .binary op other x
  | chain op before after, x => .boolean op (before ++ x :: after)
  | shift count, x => .shift count x

/-- The slots that take their names before those of the operand. -/
def slotsBefore : Frame → Nat
  | unary _ => 0
  | left _ _ => 0
  | right _ other => other.slots
  | chain _ before _ => Operand.slotSum before
  | shift count => count

/-- The operand is the base of an exponentiation. -/
def isBase : Frame → Bool
  | left .pow _ => true
  | _ => false

/-- An operand with nodes around it, the first of them outside. -/
def plug : List Frame → Operand → Operand
  | [], x => x
  | f :: fs, x => .nested (f.around (plug fs x))

/-- The slots that take their names before those of the operand inside. -/
def slotsBeforeAll (fs : List Frame) : Nat := (fs.map slotsBefore).sum

theorem isBase_left {op : BinaryOp} {other : Operand} (h : Position.left.IsBase op.precedence) :
    (left op other).isBase := by
  cases op <;> first | rfl | exact absurd h.1 (by decide)

end Frame

namespace Operand

theorem slotSum_append (xs ys : List Operand) : slotSum (xs ++ ys) = slotSum xs + slotSum ys := by
  induction xs with
  | nil => rw [List.nil_append, slotSum, Nat.zero_add]
  | cons x rest ih => rw [List.cons_append, slotSum, slotSum, ih, Nat.add_assoc]

theorem allComplete_append (xs ys : List Operand) :
    allComplete (xs ++ ys) = (allComplete xs && allComplete ys) := by
  induction xs with
  | nil => rw [List.nil_append, allComplete, Bool.true_and]
  | cons x rest ih => rw [List.cons_append, allComplete, allComplete, ih, Bool.and_assoc]

theorem allFilterTrees_append (xs ys : List Operand) :
    allFilterTrees (xs ++ ys) = allFilterTrees xs ++ allFilterTrees ys := by
  induction xs with
  | nil => rfl
  | cons x rest ih => rw [List.cons_append, allFilterTrees, allFilterTrees, ih, List.append_assoc]

theorem bodies_append (operator : Precedence) (xs ys : List Operand) (names : List String) :
    bodies s operator (xs ++ ys) names =
      bodies s operator xs names ++ bodies s operator ys (names.drop (slotSum xs)) := by
  induction xs generalizing names with
  | nil => rfl
  | cons x rest ih =>
    rw [List.cons_append, bodies, bodies, ih, slotSum, List.drop_drop, List.cons_append]

end Operand

theorem Predicate.body_boolean (op : BooleanOp) {xs : List Operand} (hxs : xs ≠ [])
    (names : List String) : (Predicate.boolean op xs).body s names =
      String.intercalate (" " ++ op.symbol ++ " ") (Operand.bodies s op.precedence xs names) := by
  cases xs with
  | nil => exact absurd rfl hxs
  | cons x rest => rfl

/-! ## Skipping -/

/-- The operand `y` is the operand `x`, but skips `n` names behind the first `k`. -/
structure Operand.Skips (s : Store) (k n : Nat) (x y : Operand) : Prop where
  start : k ≤ x.slots
  slots : y.slots = x.slots + n
  complete : y.isComplete = x.isComplete
  filters : y.filterTrees = x.filterTrees
  precedence : y.precedence = x.precedence
  body : ∀ names, y.body s names = x.body s (without k n names)

namespace Operand.Skips

variable {k n : Nat} {x y : Operand}

theorem shift (count : Nat) (x : Operand) : Skips s 0 count x (.nested (.shift count x)) where
  start := Nat.zero_le _
  slots := Nat.add_comm ..
  complete := rfl
  filters := rfl
  precedence := rfl
  body names := by rw [without, List.take_zero, List.nil_append, Nat.zero_add]; rfl

theorem unary (h : Skips s k n x y) (op : UnaryOp) :
    Skips s k n (.nested (.unary op x)) (.nested (.unary op y)) where
  start := h.start
  slots := h.slots
  complete := h.complete
  filters := h.filters
  precedence := rfl
  body names := by
    have hx := h.body names
    have hwrap : ∀ text, wrapped .unary y .operand text = wrapped .unary x .operand text :=
      wrapped_congr h.precedence nofun
    cases op <;> simp only [Operand.body, Predicate.body, hx, hwrap]

theorem left (h : Skips s k n x y) (op : BinaryOp) (other : Operand)
    (hbase : Position.left.IsBase op.precedence → y.isNegativeNumber = x.isNegativeNumber) :
    Skips s k n (.nested (.binary op x other)) (.nested (.binary op y other)) where
  start := Nat.le_add_right_of_le h.start
  slots := by
    have hslots := h.slots
    simp only [Operand.slots, Predicate.slots]
    omega
  complete := by simp only [Operand.isComplete, Predicate.isComplete, h.complete]
  filters := by simp only [Operand.filterTrees, Predicate.filterTrees, h.filters]
  precedence := rfl
  body names := by
    have hx := h.body names
    have hother : names.drop y.slots = (without k n names).drop x.slots := by
      rw [h.slots, drop_without h.start]
    have hwrap := wrapped_congr h.precedence hbase
    cases op <;> simp only [Operand.body, Predicate.body, hx, hother, hwrap]

theorem right (h : Skips s k n x y) (op : BinaryOp) (other : Operand) :
    Skips s (other.slots + k) n (.nested (.binary op other x)) (.nested (.binary op other y)) where
  start := Nat.add_le_add_left h.start _
  slots := by
    have hslots := h.slots
    simp only [Operand.slots, Predicate.slots]
    omega
  complete := by simp only [Operand.isComplete, Predicate.isComplete, h.complete]
  filters := by simp only [Operand.filterTrees, Predicate.filterTrees, h.filters]
  precedence := rfl
  body names := by
    have hother : other.body s names = other.body s (without (other.slots + k) n names) :=
      other.body_congr (take_without (Nat.le_add_right _ _) n names).symm
    have hx := h.body (names.drop other.slots)
    rw [← drop_without_add] at hx
    have hwrap : ∀ text,
        wrapped op.precedence y .right text = wrapped op.precedence x .right text :=
      wrapped_congr h.precedence nofun
    cases op <;> simp only [Operand.body, Predicate.body, hx, ← hother, hwrap]

theorem chain (h : Skips s k n x y) (op : BooleanOp) (before after : List Operand) :
    Skips s (Operand.slotSum before + k) n (.nested (.boolean op (before ++ x :: after)))
      (.nested (.boolean op (before ++ y :: after))) where
  start := by
    have hstart := h.start
    simp only [Operand.slots, Predicate.slots, slotSum_append, slotSum]
    omega
  slots := by
    have hslots := h.slots
    simp only [Operand.slots, Predicate.slots, slotSum_append, slotSum]
    omega
  complete := by
    simp only [Operand.isComplete, Predicate.isComplete, allComplete_append, allComplete, h.complete]
  filters := by
    simp only [Operand.filterTrees, Predicate.filterTrees, allFilterTrees_append, allFilterTrees,
      h.filters]
  precedence := rfl
  body names := by
    have hbefore : bodies s op.precedence before names =
        bodies s op.precedence before (without (Operand.slotSum before + k) n names) :=
      bodies_congr _ before (take_without (Nat.le_add_right _ _) n names).symm
    have hx := h.body (names.drop (slotSum before))
    have hafter : (names.drop (slotSum before)).drop y.slots =
        (without k n (names.drop (slotSum before))).drop x.slots := by
      rw [h.slots, drop_without h.start]
    rw [← drop_without_add] at hx hafter
    have hwrap : ∀ text,
        wrapped op.precedence y .chain text = wrapped op.precedence x .chain text :=
      wrapped_congr h.precedence nofun
    simp only [Operand.body, Predicate.body_boolean op (List.append_ne_nil_of_right_ne_nil _
      (List.cons_ne_nil _ _)), bodies_append, bodies, hx, ← hbefore, hafter, hwrap]

theorem behind (h : Skips s k n x y) (count : Nat) :
    Skips s (count + k) n (.nested (.shift count x)) (.nested (.shift count y)) where
  start := Nat.add_le_add_left h.start _
  slots := by
    have hslots := h.slots
    simp only [Operand.slots, Predicate.slots]
    omega
  complete := h.complete
  filters := h.filters
  precedence := h.precedence
  body names := by
    have hx := h.body (names.drop count)
    rw [← drop_without_add] at hx
    exact hx

/-- An operand that skips names makes the node around it skip them, unless the node looks at its
sign. -/
theorem frame (h : Skips s k n x y) (f : Frame)
    (hbase : f.isBase → y.isNegativeNumber = x.isNegativeNumber) :
    Skips s (f.slotsBefore + k) n (.nested (f.around x)) (.nested (f.around y)) := by
  cases f with
  | unary op =>
    rw [Frame.slotsBefore, Nat.zero_add]
    exact h.unary op
  | left op other =>
    rw [Frame.slotsBefore, Nat.zero_add]
    exact h.left op other fun hop => hbase (Frame.isBase_left hop)
  | right op other => exact h.right op other
  | chain op before after => exact h.chain op before after
  | shift count => exact h.behind count

/-- A shift inside some nodes makes them skip its names, unless the innermost looks at a sign. -/
theorem plug (count : Nat) (x : Operand) : ∀ fs : List Frame,
    (∀ f ∈ fs.getLast?, f.isBase → x.isNegativeNumber = false) →
      Skips s (Frame.slotsBeforeAll fs) count (Frame.plug fs x)
        (Frame.plug fs (.nested (.shift count x)))
  | [], _ => shift count x
  | [f], h => (shift count x).frame f fun hf => (h f rfl hf).symm
  | f :: g :: fs, h => (plug count x (g :: fs) h).frame f fun _ => rfl

end Operand.Skips

/-- A tree has a source where one with the same filters that takes as many arguments has one. -/
theorem Predicate.toSource_of_le {p q : Predicate} (hp : p.isComplete) (hq : q.isComplete)
    (hslots : p.slots ≤ q.slots) (hfilters : q.filterTrees = p.filterTrees) {src : Source}
    (h : q.toSource s = .ok src) : ∃ src, p.toSource s = .ok src := by
  cases hsource : p.toSource s with
  | ok src => exact ⟨src, rfl⟩
  | error e =>
    exfalso
    obtain ⟨r, hr, n, hn, hover⟩ := (toSource_fails_iff hp).1 ⟨e, hsource⟩
    have hfails : ∃ r ∈ q :: q.filterTrees, ∃ n, r.argCount = .ok n ∧ nameCapacity < n := by
      rcases List.mem_cons.1 hr with rfl | hr
      · rw [argCount_eq hp, Except.ok.injEq] at hn
        rw [← hn, nameCapacity_lt_capCount] at hover
        exact ⟨q, List.mem_cons_self, _, argCount_eq hq,
          nameCapacity_lt_capCount.2 (Nat.lt_of_lt_of_le hover hslots)⟩
      · rw [hfilters]
        exact ⟨r, List.mem_cons_of_mem _ hr, n, hn, hover⟩
    obtain ⟨e', he⟩ := (toSource_fails_iff (s := s) hq).2 hfails
    rw [h] at he
    cases he

/-- **What a shift changes of the source around it.** It is in parentheses where its operand is, except
that a number with a minus sign keeps its own at the base of an exponentiation and a shift of it has
none there.

Unless it stands there, the body around the shift is the body around the operand, with other names: those
of the arguments that are skipped are left out. A shift takes more arguments, so where it has a source
on a list of its own, the operand has one. A property filter is written by a source of its own. -/
theorem shift_transparent (s : Store) (count : Nat) (x : Operand) :
    (∀ operator position, needsParens operator (.nested (.shift count x)) position =
      needsParens operator x position ↔ ¬(position.IsBase operator ∧ x.isNegativeNumber)) ∧
    ∀ (f : Frame) (fs : List Frame),
      (∀ g ∈ (f :: fs).getLast?, g.isBase → x.isNegativeNumber = false) →
      let p := f.around (Frame.plug fs x)
      let q := f.around (Frame.plug fs (.nested (.shift count x)))
      let k := Frame.slotsBeforeAll (f :: fs)
      p.isComplete →
        (∀ src, q.toSource s = .ok src → ∃ src₀, p.toSource s = .ok src₀ ∧
          src.precedence = src₀.precedence ∧ src.params.length = src₀.params.length + count ∧
          src₀.body = p.body s src₀.params ∧
          src.body = p.body s (without k count src.params)) ∧
        (∀ ns src ns', ns.Valid → (p.toSourceOn s).run ns = .ok src ns' →
          src.body = p.body s src.params) ∧
        ∀ ns src ns', ns.Valid → (q.toSourceOn s).run ns = .ok src ns' →
          src.body = p.body s (without k count src.params) := by
  constructor
  · intro operator position
    rw [needsParens_shift]
    split
    · rename_i h
      obtain ⟨⟨rfl, rfl⟩, hx⟩ := h
      rw [(needsParens_of_isNegativeNumber hx).2]
      exact ⟨nofun, fun h => absurd ⟨⟨rfl, rfl⟩, hx⟩ h⟩
    · rename_i h
      exact ⟨fun _ => h, fun _ => rfl⟩
  · intro f fs hsign p q k hp
    have hskips : Operand.Skips s k count (.nested p) (.nested q) := .plug count x (f :: fs) hsign
    have hq : q.isComplete := hskips.complete.trans hp
    have hslots : q.slots = p.slots + count := hskips.slots
    have hprecedence : q.precedence = p.precedence := hskips.precedence
    have hbody : ∀ names, q.body s names = p.body s (without k count names) := hskips.body
    refine ⟨fun src hsrc => ?_, fun ns src ns' hns hrun => Predicate.toSourceOn_body hp hns hrun,
      fun ns src ns' hns hrun => ?_⟩
    · have hle : p.slots ≤ q.slots := hslots ▸ Nat.le_add_right _ _
      obtain ⟨src₀, hsrc₀⟩ := Predicate.toSource_of_le hp hq hle hskips.filters hsrc
      have harrow := Predicate.toSource_eq_arrow hq hsrc
      have harrow₀ := Predicate.toSource_eq_arrow hp hsrc₀
      subst harrow harrow₀
      refine ⟨_, hsrc₀, ?_, ?_, rfl, hbody _⟩
      · simp only [Predicate.arrow, Predicate.outermost, hprecedence]
      · simp only [Predicate.arrow, length_letterNames, hslots]
    · rw [← hbody]
      exact Predicate.toSourceOn_body hq hns hrun

/-- A shift of a sum, left of a product and right of a difference. -/
theorem shift_transparent_product :
    let x : Operand := .nested (.binary .add .unset .unset)
    let fs : List Frame := [.left .mul .unset]
    let f : Frame := .right .sub .unset
    let src : Source := ⟨["a", "b", "c", "d", "e"], "a - (c + d) * e", .additive⟩
    (∀ g ∈ (f :: fs).getLast?, g.isBase → x.isNegativeNumber = false) ∧
      (f.around (Frame.plug fs x)).isComplete ∧
      needsParens .multiplicative (.nested (.shift 1 x)) .left = .ok true ∧
      (f.around (Frame.plug fs (.nested (.shift 1 x)))).toSource {} = .ok src ∧
      without (Frame.slotsBeforeAll (f :: fs)) 1 src.params = ["a", "c", "d", "e"] ∧
      src.body = (f.around (Frame.plug fs x)).body {} ["a", "c", "d", "e"] ∧
      ∃ src₀, (f.around (Frame.plug fs x)).toSource {} = .ok src₀ ∧ 5 = src₀.params.length + 1 := by
  intro x fs f src
  have hsign : ∀ g ∈ (f :: fs).getLast?, g.isBase → x.isNegativeNumber = false := fun _ _ _ => rfl
  have hsrc : (Predicate.binary .sub .unset (.nested (.binary .mul
      (.nested (.shift 1 (.nested (.binary .add .unset .unset)))) .unset))).toSource {} =
      .ok ⟨["a", "b", "c", "d", "e"], "a - (c + d) * e", .additive⟩ := by decide +kernel
  obtain ⟨hparens, hsource⟩ := shift_transparent {} 1 x
  obtain ⟨hown, -, -⟩ := hsource f fs hsign rfl
  obtain ⟨src₀, hsrc₀, -, hlength, -, hbody⟩ := hown src hsrc
  have hneeded := (hparens .multiplicative .left).2 (by decide)
  exact ⟨hsign, rfl, hneeded.trans rfl, hsrc, rfl, hbody, src₀, hsrc₀, hlength⟩

/-- Where the parser ends before the text does, the text is no expression. -/
theorem Grammar.not_parses {text : String} {ts us : List Token} {rest : List Char} {t : Token}
    {e : Expr} {d : Nat} (hts : Reads text.toList ts rest) (hrest : Text.trimLeft rest = [])
    (hparse : ∀ n, parse (n + d) .logicalOr ts = some (e, t :: us)) (e' : Expr) :
    ¬Parses text e' := by
  rintro ⟨ts', rest', hts', hrest', he'⟩
  cases hts.unique hrest hts' hrest'
  have hend : Stops .logicalOr [] := trivial
  have hall := (parse_of_derives he' [] hend.follows).trans (hend.resume e')
  rw [List.append_nil] at hall
  have hsome : Reaches (fun n => parse n .logicalOr ts) fun _ => some (e, t :: us) :=
    ⟨d, fun n => ⟨n, Nat.le_refl n, hparse n⟩⟩
  cases hall.unique hsome

/-- A number with a minus sign as a base, itself and behind a shift that skips nothing or one argument:
without the parentheses the body is no expression. -/
theorem shift_hides_minus :
    let x : Operand := .literal (.int (-2))
    let power (base : Operand) : Predicate := .binary .pow base .unset
    needsParens .exponentiation x .left = .ok true ∧
      (∀ count, needsParens .exponentiation (.nested (.shift count x)) .left = .ok false) ∧
      (power x).toSource {} = .ok ⟨["a"], "(-2) ** a", .exponentiation⟩ ∧
      (power (.nested (.shift 0 x))).toSource {} = .ok ⟨["a"], "-2 ** a", .exponentiation⟩ ∧
      (power (.nested (.shift 1 x))).toSource {} = .ok ⟨["a", "b"], "-2 ** b", .exponentiation⟩ ∧
      (∃ e, Parses "(-2) ** a" e) ∧ ∀ e, ¬Parses "-2 ** a" e := by
  intro x power
  refine ⟨rfl, fun count => needsParens_shift count x _ _, by rfl, by rfl, by rfl, ?_, fun e => ?_⟩
  · have hbase : Derives .memberAccess
        [.symbol "(", .symbol "-", .number 2, .symbol ")"] (.prefixed .minus (.number 2)) :=
      .parens ((Derives.prefixed .minus (.tighter (.number 2))).loosen (by decide))
    have hpower : Derives .exponentiation
        [.symbol "(", .symbol "-", .number 2, .symbol ")", .symbol "**", .name "a"] _ :=
      .power hbase ((Derives.name "a").loosen (by decide))
    exact ⟨_, _, [], .cons rfl (.cons rfl (.cons rfl (.cons rfl (.cons rfl (.cons rfl (.nil _)))))),
      rfl, hpower.loosen (by decide)⟩
  · have htokens : Reads "-2 ** a".toList [.symbol "-", .number 2, .symbol "**", .name "a"] [] :=
      .cons rfl (.cons rfl (.cons rfl (.cons rfl (.nil _))))
    have hends : ∀ n, parse (n + 20) .logicalOr [.symbol "-", .number 2, .symbol "**", .name "a"] =
        some (.prefixed .minus (.number 2), [.symbol "**", .name "a"]) := fun n => rfl
    exact not_parses htokens rfl hends e

end Criteria
