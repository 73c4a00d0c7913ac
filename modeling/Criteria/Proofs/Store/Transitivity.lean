import Criteria.Proofs.Number.Rounding
import Criteria.Proofs.Store.Equality

/-!
# Values that equal a third one

Two integers are compared exactly, an integer and a double as doubles. A double can therefore equal two
different integers. Nothing else keeps equality from being transitive, however deep it stands in arrays
and objects.

* `Store.Clash` — the middle value has a double where the outer ones have different integers.
* `Clash.exists_numbers` — the integers and the double are reached from the values.
* `Store.same_trans` — without a clash the outer values are equal.
* `same_trans_iff` — with one they are not.
-/

set_option autoImplicit false

namespace Criteria

open Relation

/-! ## Places -/

theorem forall₂_iff_getElem? {α β : Type} {r : α → β → Prop} {xs : List α} {ys : List β} :
    List.Forall₂ r xs ys ↔ ∀ i : Nat, Option.Rel r xs[i]? ys[i]? := by
  induction xs generalizing ys with
  | nil =>
    cases ys with
    | nil => exact iff_of_true .nil fun _ => .none
    | cons y ys => exact iff_of_false (by rintro ⟨⟩) fun h => by cases h 0
  | cons x xs ih =>
    cases ys with
    | nil => exact iff_of_false (by rintro ⟨⟩) fun h => by cases h 0
    | cons y ys =>
      rw [List.forall₂_cons, ih]
      refine ⟨fun ⟨hxy, hrest⟩ i => ?_, fun h => ⟨?_, fun i => h (i + 1)⟩⟩
      · cases i with
        | zero => exact .some hxy
        | succ i => exact hrest i
      · have hfirst := h 0
        rwa [List.getElem?_cons_zero, List.getElem?_cons_zero, Option.rel_some_some] at hfirst

/-- What relates the contents of two places to those of a third relates them to each other. -/
theorem rel_trans {α : Type} {r : α → α → Prop} {x y z : Option α} (hxy : Option.Rel r x y)
    (hyz : Option.Rel r y z)
    (h : ∀ u v w, x = some u → y = some v → z = some w → r u v → r v w → r u w) :
    Option.Rel r x z := by
  cases hxy with
  | none => exact hyz
  | some huv =>
    cases hyz with
    | some hvw => exact .some (h _ _ _ rfl rfl rfl huv hvw)

theorem Entries.mem_of_get? {es : Entries} {key : String} {v : Value} (h : es.get? key = some v) :
    (key, v) ∈ es := by
  induction es with
  | nil => cases h
  | cons e rest ih =>
    obtain ⟨k, w⟩ := e
    rw [Entries.get?] at h
    split at h
    · next hk =>
      cases h
      rw [hk]
      exact List.mem_cons_self
    · exact List.mem_cons_of_mem _ (ih h)

/-! ## Kinds -/

/-- The kinds of values that are compared in ways of their own. -/
inductive Value.Kind where
  | plain
  | number
  | array
  | object

def Value.kind : Value → Value.Kind
  | .int _ => .number
  | .float _ => .number
  | .array _ => .array
  | .object _ => .object
  | _ => .plain

namespace Store

variable {s : Store} {u v w : Value}

theorem kind_of_same (h : s.same u v = true) : u.kind = v.kind := by
  rw [same, datum, datum] at h
  generalize s.size = n at h
  cases n <;> cases u <;> cases v <;> simp [unfold, Datum.same] at h <;> rfl

/-- A plain value and one that equals it are equal to the same values. -/
theorem same_congr (h : s.same u v = true) (hplain : v.kind = .plain) (w : Value) :
    s.same u w = s.same v w := by
  have hkind := (kind_of_same h).trans hplain
  simp only [same, datum] at h ⊢
  cases v <;> cases hplain <;> cases u <;> cases hkind <;> simp [unfold, Datum.same] at h <;>
    cases s.unfold s.size w <;> simp [unfold, Datum.same, h]

theorem same_int_iff {a b : Int64} : s.same (.int a) (.int b) = true ↔ a = b := by
  simp [same, datum, unfold, Datum.same]

theorem same_int_float {a : Int64} {x : Float} :
    s.same (.int a) (.float x) = (Float.ofInt a.toInt == x) := by
  simp [same, datum, unfold, Datum.same]

theorem same_float_int {a : Int64} {x : Float} :
    s.same (.float x) (.int a) = (Float.ofInt a.toInt == x) := by
  simp [same, datum, unfold, Datum.same]

theorem same_float {x y : Float} : s.same (.float x) (.float y) = (x == y) := by
  simp [same, datum, unfold, Datum.same]

/-! ## Clashes -/

/-- Somewhere the middle value has a double and the outer ones have different integers that equal it. -/
inductive Clash (s : Store) : Value → Value → Value → Prop
  | number {a b : Int64} {x : Float} (hne : a ≠ b) (ha : (Float.ofInt a.toInt == x) = true)
      (hb : (Float.ofInt b.toInt == x) = true) : Clash s (.int a) (.float x) (.int b)
  | item {a b c : ArrayRef} {i : Nat} {u v w : Value} (hu : (s.items a)[i]? = some u)
      (hv : (s.items b)[i]? = some v) (hw : (s.items c)[i]? = some w) (h : Clash s u v w) :
      Clash s (.array a) (.array b) (.array c)
  | entry {o p q : ObjectRef} {key : String} {u v w : Value} (hu : s.getOwn? o key = some u)
      (hv : s.getOwn? p key = some v) (hw : s.getOwn? q key = some w) (h : Clash s u v w) :
      Clash s (.object o) (.object p) (.object q)

theorem contains_item {a : ArrayRef} {i : Nat} (h : (s.items a)[i]? = some v) :
    s.Contains (.array a) v := List.mem_of_getElem? h

theorem contains_entry {o : ObjectRef} {key : String} (h : s.getOwn? o key = some v) :
    s.Contains (.object o) v := List.mem_map_of_mem (Entries.mem_of_get? h)

namespace Clash

theorem ne (h : s.Clash u v w) : u ≠ w := by
  induction h with
  | number hne => exact fun heq => hne (Value.int.inj heq)
  | item hu _ hw _ ih =>
    rintro ⟨⟩
    exact ih (Option.some.inj (hu.symm.trans hw))
  | entry hu _ hw _ ih =>
    rintro ⟨⟩
    exact ih (Option.some.inj (hu.symm.trans hw))

/-- The outer values of a clash are not equal. -/
theorem not_same (hs : s.WellKeyed) (h : s.Clash u v w) (hu : s.Acyclic u) (hw : s.Acyclic w) :
    ¬ s.same u w = true := by
  induction h with
  | number hne => exact fun hsame => hne (same_int_iff.1 hsame)
  | @item a b c i u v w hitem hitem' hitem'' h ih =>
    have hne := (Clash.item hitem hitem' hitem'' h).ne
    rw [same_array_iff hu hw, forall₂_iff_getElem?]
    rintro (rfl | hsame)
    · exact hne rfl
    · have hplace := hsame i
      rw [hitem, hitem'', Option.rel_some_some] at hplace
      exact ih (hu.contents (contains_item hitem)) (hw.contents (contains_item hitem'')) hplace
  | @entry o p q key u v w hentry hentry' hentry'' h ih =>
    have hne := (Clash.entry hentry hentry' hentry'' h).ne
    rw [same_object_iff hs hu hw]
    rintro (rfl | hsame)
    · exact hne rfl
    · have hplace := hsame key
      rw [hentry, hentry'', Option.rel_some_some] at hplace
      exact ih (hu.contents (contains_entry hentry)) (hw.contents (contains_entry hentry'')) hplace

/-- The integers and the double of a clash are reached from its values. -/
theorem exists_numbers (h : s.Clash u v w) : ∃ (a b : Int64) (x : Float),
    ReflTransGen s.Contains u (.int a) ∧ ReflTransGen s.Contains v (.float x) ∧
      ReflTransGen s.Contains w (.int b) ∧ a ≠ b ∧ (Float.ofInt a.toInt == x) = true ∧
      (Float.ofInt b.toInt == x) = true := by
  induction h with
  | number hne ha hb => exact ⟨_, _, _, .refl, .refl, .refl, hne, ha, hb⟩
  | item hu hv hw _ ih =>
    obtain ⟨a, b, x, ha, hx, hb, h⟩ := ih
    exact ⟨a, b, x, ha.head (contains_item hu), hx.head (contains_item hv),
      hb.head (contains_item hw), h⟩
  | entry hu hv hw _ ih =>
    obtain ⟨a, b, x, ha, hx, hb, h⟩ := ih
    exact ⟨a, b, x, ha.head (contains_entry hu), hx.head (contains_entry hv),
      hb.head (contains_entry hw), h⟩

end Clash

/-! ## Chains -/

/-- Values that equal one integer are equal. -/
theorem same_trans_int {b : Int64} (huv : s.same u (.int b) = true) (hvw : s.same (.int b) w = true) :
    s.same u w = true := by
  have hu := kind_of_same huv
  have hw := kind_of_same hvw
  cases u with
  | int a =>
    rw [same_int_iff.1 huv]
    exact hvw
  | float x =>
    cases w with
    | int c =>
      rw [← same_int_iff.1 hvw]
      exact huv
    | float y =>
      rw [same_float_int, Number.beq_comm] at huv
      rw [same_int_float] at hvw
      rw [same_float]
      exact Number.beq_trans huv hvw
    | _ => cases hw
  | _ => cases hu

/-- Numbers that equal one double are equal or clash. -/
theorem same_trans_float {x : Float} (huv : s.same u (.float x) = true)
    (hvw : s.same (.float x) w = true) (hclash : ¬ s.Clash u (.float x) w) : s.same u w = true := by
  have hu := kind_of_same huv
  have hw := kind_of_same hvw
  cases u with
  | int a =>
    rw [same_int_float] at huv
    cases w with
    | int c =>
      rw [same_float_int] at hvw
      refine same_int_iff.2 (by_contra fun hne => hclash (.number hne huv hvw))
    | float y =>
      rw [same_float] at hvw
      rw [same_int_float]
      exact Number.beq_trans huv hvw
    | _ => cases hw
  | float y =>
    rw [same_float] at huv
    cases w with
    | int c =>
      rw [same_float_int, Number.beq_comm] at hvw
      rw [same_float_int, Number.beq_comm]
      exact Number.beq_trans huv hvw
    | float z =>
      rw [same_float] at hvw ⊢
      exact Number.beq_trans huv hvw
    | _ => cases hw
  | _ => cases hu

theorem same_trans_array {a b c : ArrayRef} (ha : s.Acyclic (.array a)) (hb : s.Acyclic (.array b))
    (hc : s.Acyclic (.array c)) (hab : s.same (.array a) (.array b) = true)
    (hbc : s.same (.array b) (.array c) = true)
    (hitems : ∀ (i : Nat) (u v w : Value), (s.items a)[i]? = some u → (s.items b)[i]? = some v →
      (s.items c)[i]? = some w → s.same u v = true → s.same v w = true → s.same u w = true) :
    s.same (.array a) (.array c) = true := by
  rw [same_array_iff ha hb] at hab
  rw [same_array_iff hb hc] at hbc
  rw [same_array_iff ha hc]
  rcases hab with rfl | hab
  · exact hbc
  rcases hbc with rfl | hbc
  · exact .inr hab
  rw [forall₂_iff_getElem?] at hab hbc ⊢
  exact .inr fun i => rel_trans (hab i) (hbc i) (hitems i)

theorem same_trans_object (hs : s.WellKeyed) {o p q : ObjectRef} (ho : s.Acyclic (.object o))
    (hp : s.Acyclic (.object p)) (hq : s.Acyclic (.object q))
    (hop : s.same (.object o) (.object p) = true) (hpq : s.same (.object p) (.object q) = true)
    (hentries : ∀ key u v w, s.getOwn? o key = some u → s.getOwn? p key = some v →
      s.getOwn? q key = some w → s.same u v = true → s.same v w = true → s.same u w = true) :
    s.same (.object o) (.object q) = true := by
  rw [same_object_iff hs ho hp] at hop
  rw [same_object_iff hs hp hq] at hpq
  rw [same_object_iff hs ho hq]
  rcases hop with rfl | hop
  · exact hpq
  rcases hpq with rfl | hpq
  · exact .inr hop
  exact .inr fun key => rel_trans (hop key) (hpq key) (hentries key)

/-- Values that equal a third one are equal or clash. -/
theorem same_trans (hs : s.WellKeyed) (hu : s.Acyclic u) (hv : s.Acyclic v) (hw : s.Acyclic w)
    (huv : s.same u v = true) (hvw : s.same v w = true) (hclash : ¬ s.Clash u v w) :
    s.same u w = true := by
  -- by induction on the middle value; the outer ones are of its kind
  refine hv.induction (P := fun v => ∀ u w, s.Acyclic u → s.Acyclic w → s.same u v = true →
    s.same v w = true → ¬ s.Clash u v w → s.same u w = true) ?_ u w hu hw huv hvw hclash
  intro v hv ih u w hu hw huv hvw hclash
  have hkindu := kind_of_same huv
  have hkindw := kind_of_same hvw
  cases v with
  | int b => exact same_trans_int huv hvw
  | float x => exact same_trans_float huv hvw hclash
  | array b =>
    cases u with
    | array a =>
      cases w with
      | array c =>
        refine same_trans_array hu hv hw huv hvw fun i u v w hu' hv' hw' huv hvw => ?_
        exact ih v (contains_item hv') u w (hu.contents (contains_item hu'))
          (hw.contents (contains_item hw')) huv hvw fun h => hclash (.item hu' hv' hw' h)
      | _ => cases hkindw
    | _ => cases hkindu
  | object p =>
    cases u with
    | object o =>
      cases w with
      | object q =>
        refine same_trans_object hs hu hv hw huv hvw fun key u v w hu' hv' hw' huv hvw => ?_
        exact ih v (contains_entry hv') u w (hu.contents (contains_entry hu'))
          (hw.contents (contains_entry hw')) huv hvw fun h => hclash (.entry hu' hv' hw' h)
      | _ => cases hkindw
    | _ => cases hkindu
  | _ => rw [same_congr huv rfl, hvw]

end Store

/-- **Values that equal a third one.** Two values that equal the same third value are equal, unless in
some place the third has a double and they have different integers there, each of which equals the
double. Such integers are `2 ^ 53` or more in magnitude and have the same nearest double. So equality is
transitive where the third value has no double, or one of the others has small integers only. -/
theorem same_trans_iff {s : Store} (hs : s.WellKeyed) {u v w : Value} (hu : s.Acyclic u)
    (hv : s.Acyclic v) (hw : s.Acyclic w) (huv : s.same u v = true) (hvw : s.same v w = true) :
    (s.same u w = true ↔ ¬ s.Clash u v w) ∧
    (s.Clash u v w → ∃ (a b : Int64) (x : Float), ReflTransGen s.Contains u (.int a) ∧
      ReflTransGen s.Contains v (.float x) ∧ ReflTransGen s.Contains w (.int b) ∧ a ≠ b ∧
      (Float.ofInt a.toInt == x) = true ∧ (Float.ofInt b.toInt == x) = true ∧
      Number.nearestInt a.toInt = Number.nearestInt b.toInt ∧
      2 ^ 53 ≤ a.toInt.natAbs ∧ 2 ^ 53 ≤ b.toInt.natAbs) ∧
    ((∀ x, ¬ ReflTransGen s.Contains v (.float x)) ∨
      (∀ n, ReflTransGen s.Contains u (.int n) → n.toInt.natAbs < 2 ^ 53) ∨
      (∀ n, ReflTransGen s.Contains w (.int n) → n.toInt.natAbs < 2 ^ 53) →
      s.same u w = true) := by
  have hchain := Store.same_trans hs hu hv hw huv hvw
  refine ⟨⟨fun hsame hclash => hclash.not_same hs hu hw hsame, hchain⟩, fun hclash => ?_,
    fun hsmall => hchain fun hclash => ?_⟩
  · obtain ⟨a, b, x, ha, hx, hb, hne, hax, hbx⟩ := hclash.exists_numbers
    exact ⟨a, b, x, ha, hx, hb, hne, hax, hbx, Number.large_of_beq hne hax hbx⟩
  · obtain ⟨a, b, x, ha, hx, hb, hne, hax, hbx⟩ := hclash.exists_numbers
    obtain ⟨-, hlargea, hlargeb⟩ := Number.large_of_beq hne hax hbx
    rcases hsmall with hfloat | hsmall | hsmall
    · exact hfloat x hx
    · exact Nat.not_lt_of_le hlargea (hsmall a ha)
    · exact Nat.not_lt_of_le hlargeb (hsmall b hb)

/-- Of three arrays the second holds a double, and the others different integers that equal it. -/
theorem same_trans_iff_arrays :
    let cs : List Store.Change := [.newArray [.int 9007199254740992],
      .newArray [.float (Float.ofBits 0x4340000000000000)], .newArray [.int 9007199254740993]]
    let s := Store.afterChanges {} cs
    s.WellKeyed ∧ s.Acyclic (.array ⟨0⟩) ∧ s.Acyclic (.array ⟨1⟩) ∧ s.Acyclic (.array ⟨2⟩) ∧
      s.same (.array ⟨0⟩) (.array ⟨1⟩) = true ∧ s.same (.array ⟨1⟩) (.array ⟨2⟩) = true ∧
      ¬ s.same (.array ⟨0⟩) (.array ⟨2⟩) = true := by
  intro cs s
  have hs : s.WellKeyed := Store.wellKeyed_afterChanges (by decide)
  have hflat : ∀ v w, s.Contains v w → s.contents w = [] := by
    intro v w hw
    cases v with
    | array a =>
      obtain ⟨_ | _ | _ | i⟩ := a
      · cases List.mem_singleton.1 hw
        rfl
      · cases List.mem_singleton.1 hw
        rfl
      · cases List.mem_singleton.1 hw
        rfl
      · cases hw
    | object o => cases hw
    | _ => cases hw
  have hacyclic : ∀ v, s.Acyclic v := Store.acyclic_of_flat hflat
  have hleft : s.same (.array ⟨0⟩) (.array ⟨1⟩) = true := by
    refine (Store.same_array_iff (hacyclic _) (hacyclic _)).2 (.inr (.cons ?_ .nil))
    rw [Store.same_int_float]
    decide
  have hright : s.same (.array ⟨1⟩) (.array ⟨2⟩) = true := by
    refine (Store.same_array_iff (hacyclic _) (hacyclic _)).2 (.inr (.cons ?_ .nil))
    rw [Store.same_float_int]
    decide
  obtain ⟨hsame, -⟩ :=
    same_trans_iff hs (hacyclic _) (hacyclic _) (hacyclic _) hleft hright
  refine ⟨hs, hacyclic _, hacyclic _, hacyclic _, hleft, hright, fun h => hsame.1 h ?_⟩
  exact .item (i := 0) rfl rfl rfl (.number (by decide) (by decide) (by decide))

/-- A double that equals two different integers. -/
theorem same_not_transitive :
    let s : Store := {}
    let x := Float.ofBits 0x4340000000000000
    s.Acyclic (.int 9007199254740992) ∧ s.Acyclic (.float x) ∧ s.Acyclic (.int 9007199254740993) ∧
      s.same (.int 9007199254740992) (.float x) = true ∧
      s.same (.float x) (.int 9007199254740993) = true ∧
      s.same (.int 9007199254740992) (.int 9007199254740993) = false := by
  refine ⟨Store.acyclic_of_contents_eq_nil rfl, Store.acyclic_of_contents_eq_nil rfl,
    Store.acyclic_of_contents_eq_nil rfl, ?_, ?_, ?_⟩
  · rw [Store.same_int_float]
    decide
  · rw [Store.same_float_int]
    decide
  · rw [Bool.eq_false_iff, ne_eq, Store.same_int_iff]
    decide

end Criteria
