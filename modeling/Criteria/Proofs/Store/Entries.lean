import Criteria.Store
import Mathlib.Data.List.Induction
import Mathlib.Data.List.Nodup

/-!
# Entries of an object

Entries come from the pairs that were written, one after the other.

* `Entries.keys_ofPairs` — the keys are those that were written, in the order of their first writing.
* `Entries.nodup_keys` — no key stands twice.
* `Entries.get?_ofPairs` — under a key stands the value that was written last.
-/

set_option autoImplicit false

namespace Criteria

/-- One element more is a first occurrence, or changes nothing. -/
theorem eraseDups_concat {α : Type} [BEq α] [LawfulBEq α] [DecidableEq α] (xs : List α) (x : α) :
    (xs ++ [x]).eraseDups = if x ∈ xs then xs.eraseDups else xs.eraseDups ++ [x] := by
  rw [List.eraseDups_append, List.cons_removeAll, List.nil_removeAll]
  by_cases hx : x ∈ xs <;> simp [hx, List.eraseDups_cons]

namespace Entries

/-- The keys, in order. -/
def keys (es : Entries) : List String := es.map Prod.fst

theorem keys_cons (key : String) (v : Value) (rest : Entries) :
    keys ((key, v) :: rest) = key :: keys rest := rfl

/-- An old key keeps its place, a new one comes last. -/
theorem keys_put (key : String) (v : Value) (es : Entries) :
    (es.put key v).keys = if key ∈ es.keys then es.keys else es.keys ++ [key] := by
  induction es with
  | nil => rfl
  | cons e rest ih =>
    obtain ⟨k, w⟩ := e
    by_cases hk : k = key
    · subst hk
      simp [put, keys]
    · have hkey : key ≠ k := Ne.symm hk
      rw [put, if_neg hk, keys_cons, keys_cons, ih]
      simp only [List.mem_cons, hkey, false_or]
      split <;> rfl

theorem get?_put (key key' : String) (v : Value) (es : Entries) :
    (es.put key v).get? key' = if key = key' then some v else es.get? key' := by
  induction es with
  | nil => rfl
  | cons e rest ih =>
    obtain ⟨k, w⟩ := e
    by_cases hk : k = key
    · subst hk
      by_cases hk' : k = key' <;> simp [put, get?, hk']
    · by_cases hk' : k = key'
      · subst hk'
        simp [put, get?, hk, Ne.symm hk]
      · simp [put, get?, hk, hk', ih]

theorem ofPairs_append (before after : List (String × Value)) :
    ofPairs (before ++ after) = after.foldl (fun es (key, v) => es.put key v) (ofPairs before) :=
  List.foldl_append

theorem ofPairs_concat (pairs : List (String × Value)) (key : String) (v : Value) :
    ofPairs (pairs ++ [(key, v)]) = (ofPairs pairs).put key v :=
  ofPairs_append pairs [(key, v)]

/-- The keys are listed in the order of their first writing. -/
theorem keys_ofPairs (pairs : List (String × Value)) :
    (ofPairs pairs).keys = (pairs.map Prod.fst).eraseDups := by
  induction pairs using List.reverseRecOn with
  | nil => rfl
  | append_singleton pairs pair ih =>
    rw [ofPairs_concat, keys_put, ih, List.map_append, List.map_singleton, eraseDups_concat]
    simp only [List.mem_eraseDups]

theorem nodup_keys (pairs : List (String × Value)) : (ofPairs pairs).keys.Nodup := by
  induction pairs using List.reverseRecOn with
  | nil => exact List.nodup_nil
  | append_singleton pairs pair ih =>
    rw [ofPairs_concat, keys_put]
    split
    · exact ih
    · rename_i hnew
      exact List.concat_eq_append ▸ ih.concat hnew

/-- Under a key stands the value that was written last. -/
theorem get?_ofPairs (pairs : List (String × Value)) (key : String) :
    (ofPairs pairs).get? key = pairs.reverse.lookup key := by
  induction pairs using List.reverseRecOn with
  | nil => rfl
  | append_singleton pairs pair ih =>
    obtain ⟨k, v⟩ := pair
    rw [ofPairs_concat, get?_put, ih, List.reverse_append, List.reverse_singleton,
      List.singleton_append, List.lookup_cons]
    by_cases hk : k = key
    · rw [if_pos hk, hk, beq_self_eq_true]
    · rw [if_neg hk, beq_false_of_ne (Ne.symm hk)]

end Entries

end Criteria
