import Criteria.Value.Property

/-!
# Properties that are there

Whether a value has a property and what is read of it are told apart, case by case over the kinds of
values.

* `Store.Carries` — the property of a value under a key, one rule for each kind of property.
* `hasProperty_eq_isSome` — the test for a property finds what reading finds.
* `property?_eq_some_iff`, `hasProperty_iff` — both go by the rules.
* `getProperty_error_iff` — only `undefined` and `null` have nothing to read.
-/

set_option autoImplicit false

namespace Criteria.Store

/-- The value has a property under the key. -/
inductive Carries (s : Store) : Value → String → Value → Prop where
  /-- The nearest object on the chain that owns one has it. -/
  | inherited {o owner : ObjectRef} {nearer further : List ObjectRef} {key : String} {w : Value}
      (hchain : o :: s.prototypes o = nearer ++ owner :: further)
      (howned : s.getOwn? owner key = some w) (hnearer : ∀ p ∈ nearer, s.getOwn? p key = none) :
      Carries s (.object o) key w
  | arrayLength (a : ArrayRef) : Carries s (.array a) "length" (countValue (s.items a).length)
  | item {a : ArrayRef} {key : String} {i : Nat} {w : Value} (hkey : elementIndex? key = some i)
      (hitem : (s.items a)[i]? = some w) (hother : key ≠ "length") : Carries s (.array a) key w
  | textLength (text : String) : Carries s (.str text) "length" (countValue text.length)
  | character {text : String} {key : String} {i : Nat} {c : Char} (hkey : elementIndex? key = some i)
      (hchar : text.toList[i]? = some c) (hother : key ≠ "length") :
      Carries s (.str text) key (.str (String.singleton c))
  | byteLength (data : List UInt8) : Carries s (.bytes data) "byteLength" (countValue data.length)
  | functionName (f : Function) : Carries s (.function f) "name" (.str f.name)
  | functionLength (f : Function) : Carries s (.function f) "length" (countValue f.arity)
  | functionPrototype {f : Function} {p : ObjectRef} (hproto : f.prototype = some p) :
      Carries s (.function f) "prototype" (.object p)

variable {s : Store} {v w : Value} {key : String}

/-! ## Sequences -/

theorem elementAt?_eq_some_iff {α : Type} {xs : List α} {x : α} :
    elementAt? xs key = some x ↔ ∃ i, elementIndex? key = some i ∧ xs[i]? = some x := by
  rw [elementAt?]
  cases elementIndex? key with
  | none => simp
  | some i => simp

theorem hasElement_eq_isSome {α : Type} (xs : List α) (key : String) :
    hasElement xs.length key = (elementAt? xs key).isSome := by
  rw [hasElement, elementAt?]
  cases elementIndex? key with
  | none => rfl
  | some i =>
    rw [Bool.eq_iff_iff]
    simp

theorem length_characters (text : String) : (characters text).length = text.length := by
  rw [characters, List.length_map, String.length_toList]

/-- The test for a property of a sequence. -/
theorem isSome_sequenceProperty (elements : List Value) (key : String) :
    (sequenceProperty elements key).isSome =
      (decide (key = "length") || hasElement elements.length key) := by
  rw [sequenceProperty]
  split
  · rename_i h
    simp [h]
  · rename_i h
    simp [h, hasElement_eq_isSome]

/-! ## The test and the reading -/

/-- The test for a property finds one exactly where reading finds one. -/
theorem hasProperty_eq_isSome (s : Store) (v : Value) (key : String) :
    s.hasProperty v key = (s.property? key v).isSome := by
  cases v with
  | array a => exact (isSome_sequenceProperty _ key).symm
  | str text =>
    rw [property?, isSome_sequenceProperty, length_characters]
    rfl
  | bytes data =>
    rw [hasProperty, property?]
    split <;> simp [*]
  | function f =>
    rw [hasProperty, property?, functionProperty]
    split
    · simp [*]
    · split
      · simp [*]
      · split <;> simp [*]
  | _ => rfl

theorem Carries.property? (h : s.Carries v key w) : s.property? key v = some w := by
  cases h with
  | inherited hchain howned hnearer =>
    exact List.findSome?_eq_some_iff.2 ⟨_, _, _, hchain, howned, hnearer⟩
  | arrayLength a => rfl
  | item hkey hitem hother =>
    rw [Store.property?, sequenceProperty, if_neg hother]
    exact elementAt?_eq_some_iff.2 ⟨_, hkey, hitem⟩
  | textLength text =>
    rw [Store.property?, sequenceProperty, if_pos rfl, length_characters]
  | character hkey hchar hother =>
    rw [Store.property?, sequenceProperty, if_neg hother]
    refine elementAt?_eq_some_iff.2 ⟨_, hkey, ?_⟩
    rw [characters, List.getElem?_map, hchar, Option.map_some]
  | byteLength data => rfl
  | functionName f => rfl
  | functionLength f => rfl
  | functionPrototype hproto => simp [Store.property?, functionProperty, hproto]

theorem carries_of_property? (h : s.property? key v = some w) : s.Carries v key w := by
  cases v with
  | object o =>
    obtain ⟨nearer, owner, further, hchain, howned, hnearer⟩ := List.findSome?_eq_some_iff.1 h
    exact .inherited hchain howned hnearer
  | array a =>
    rw [Store.property?, sequenceProperty] at h
    split at h
    · rename_i hkey
      cases h
      exact hkey ▸ .arrayLength a
    · rename_i hother
      obtain ⟨i, hkey, hitem⟩ := elementAt?_eq_some_iff.1 h
      exact .item hkey hitem hother
  | str text =>
    rw [Store.property?, sequenceProperty] at h
    split at h
    · rename_i hkey
      cases h
      rw [hkey, length_characters]
      exact .textLength text
    · rename_i hother
      obtain ⟨i, hkey, hitem⟩ := elementAt?_eq_some_iff.1 h
      rw [characters, List.getElem?_map, Option.map_eq_some_iff] at hitem
      obtain ⟨c, hchar, rfl⟩ := hitem
      exact .character hkey hchar hother
  | bytes data =>
    rw [Store.property?] at h
    split at h
    · rename_i hkey
      cases h
      exact hkey ▸ .byteLength data
    · cases h
  | function f =>
    rw [Store.property?, functionProperty] at h
    split at h
    · rename_i hkey
      cases h
      exact hkey ▸ .functionName f
    split at h
    · rename_i hkey
      cases h
      exact hkey ▸ .functionLength f
    split at h
    · rename_i hkey
      obtain ⟨p, hproto, rfl⟩ := Option.map_eq_some_iff.1 h
      exact hkey ▸ .functionPrototype hproto
    · cases h
  | _ => cases h

/-- What is found under a key is the property that the value has. -/
theorem property?_eq_some_iff : s.property? key v = some w ↔ s.Carries v key w :=
  ⟨carries_of_property?, Carries.property?⟩

theorem hasProperty_iff : s.hasProperty v key = true ↔ ∃ w, s.Carries v key w := by
  rw [hasProperty_eq_isSome, Option.isSome_iff_exists]
  exact exists_congr fun _ => property?_eq_some_iff

/-- A property that the value has is read. -/
theorem Carries.getProperty (h : s.Carries v key w) : s.getProperty v key = .ok w := by
  have hproperty := h.property?
  cases v with
  | undefined | null => cases hproperty
  | _ =>
    show Except.ok ((s.property? key _).getD .undefined) = _
    rw [hproperty, Option.getD_some]

/-! ## What is missing -/

theorem getProperty_error_iff {e : EvalError} : s.getProperty v key = .error e ↔
    (v = .undefined ∨ v = .null) ∧ e = .notObject v.typeName := by
  cases v <;> simp [getProperty, eq_comm]

theorem getProperty_of_hasProperty_false (h : s.hasProperty v key = false) (hundefined : v ≠ .undefined)
    (hnull : v ≠ .null) : s.getProperty v key = .ok .undefined := by
  rw [hasProperty_eq_isSome, Option.isSome_eq_false_iff, Option.isNone_iff_eq_none] at h
  cases v with
  | undefined => exact absurd rfl hundefined
  | null => exact absurd rfl hnull
  | _ =>
    show Except.ok ((s.property? key _).getD .undefined) = _
    rw [h, Option.getD_none]

/-- Reading with `undefined` in place of a failure. -/
theorem toOption_getProperty (s : Store) (v : Value) (key : String) :
    (s.getProperty v key).toOption.getD .undefined = (s.property? key v).getD .undefined := by
  cases v <;> rfl

end Criteria.Store
