import Criteria.Proofs.Store.Captures
import Criteria.Proofs.Store.Entries

/-!
# How a store comes about

A store comes about by changes: arrays, objects and symbols are made, properties and elements are set,
captures are exported. An object is made with a prototype that exists, and keeps it.

* `Store.Change`, `Store.afterChanges` — the changes, and what they lead to.
* `Change.object_apply` — what one change does to an object.
* `Store.Keeps` — an object has the entries that were written to it.
* `Store.Aged` — a prototype is older than the objects that inherit from it.
-/

set_option autoImplicit false

namespace Criteria

namespace Store

/-- A change of a store. A function is a value, and making one changes nothing. -/
inductive Change where
  | newArray (items : List Value)
  | newObject (pairs : List (String × Value)) (prototype : Option ObjectRef)
  | newSymbol
  | setOwn (o : ObjectRef) (key : String) (v : Value)
  | setItem (a : ArrayRef) (i : Nat) (v : Value)
  | setLength (a : ArrayRef) (n : Nat)
  | pushItem (a : ArrayRef) (v : Value)
  | setItems (a : ArrayRef) (items : List Value)
  | exportCaptures (spans : Spans) (limit : Nat)
  | fillCaptures (sink : ArrayRef) (spans : Spans) (limit : Nat)

namespace Change

/-- The store after a change. -/
def apply (s : Store) : Change → Store
  | newArray items => (s.newArray items).2
  | newObject pairs prototype => (s.newObject pairs prototype).2
  | newSymbol => s.newSymbol.2
  | setOwn o key v => s.setOwn o key v
  | setItem a i v => s.setItem a i v
  | setLength a n => s.setLength a n
  | pushItem a v => s.pushItem a v
  | setItems a items => s.setItems a items
  | exportCaptures spans limit => (s.exportCaptures spans limit).2
  | fillCaptures sink spans limit => s.fillCaptures sink spans limit

/-- The objects that a change names exist. -/
def Legal (s : Store) : Change → Prop
  | newObject _ prototype => ∀ p ∈ prototype, p.index < s.objects.size
  | setOwn o _ _ => o.index < s.objects.size
  | _ => True

instance (s : Store) : (c : Change) → Decidable (c.Legal s)
  | newObject _ prototype => inferInstanceAs (Decidable (∀ p ∈ prototype, p.index < s.objects.size))
  | setOwn o _ _ => inferInstanceAs (Decidable (o.index < s.objects.size))
  | newArray _ | newSymbol | setItem .. | setLength .. | pushItem .. | setItems ..
  | exportCaptures .. | fillCaptures .. => inferInstanceAs (Decidable True)

/-- The pairs that a change writes to an object. -/
def writes (s : Store) (o : ObjectRef) : Change → List (String × Value)
  | newObject pairs _ => if o.index = s.objects.size then pairs else []
  | setOwn o' key v => if o' = o then [(key, v)] else []
  | _ => []

end Change

/-- The store after some changes. -/
def afterChanges (s : Store) (cs : List Change) : Store := cs.foldl Change.apply s

/-- Each change names objects that exist by then. -/
def LegalAll : Store → List Change → Prop
  | _, [] => True
  | s, c :: rest => c.Legal s ∧ LegalAll (c.apply s) rest

instance decidableLegalAll : (s : Store) → (cs : List Change) → Decidable (LegalAll s cs)
  | _, [] => inferInstanceAs (Decidable True)
  | s, c :: rest =>
    have := decidableLegalAll (c.apply s) rest
    inferInstanceAs (Decidable (c.Legal s ∧ LegalAll (c.apply s) rest))

/-- The pairs that some changes write to an object, in order. -/
def allWrites (o : ObjectRef) : Store → List Change → List (String × Value)
  | _, [] => []
  | s, c :: rest => c.writes s o ++ allWrites o (c.apply s) rest

variable {s s' : Store} {c : Change} {cs : List Change} {o : ObjectRef}

/-! ## What a change does to an object -/

theorem objects_exportSpans (s : Store) (spans : Spans) :
    (s.exportSpans spans).2.objects = s.objects :=
  (exportSpans_spec (Nat.zero_le s.arrays.size) spans).1.objects

theorem setOwn_of_lt (h : o.index < s.objects.size) (key : String) (v : Value) :
    s.setOwn o key v =
      let cell := { s.objects[o.index] with entries := s.objects[o.index].entries.put key v }
      { s with objects := s.objects.setIfInBounds o.index cell } := by
  rw [setOwn, Array.getElem?_eq_getElem h]

/-- A change leaves an object as it is, or makes it with a prototype that is older, or sets one of its
properties. -/
theorem Change.object_apply (hc : c.Legal s) (o : ObjectRef) :
    ((c.apply s).objects[o.index]? = s.objects[o.index]? ∧ c.writes s o = []) ∨
      (s.objects[o.index]? = none ∧ ∃ prototype, (∀ p ∈ prototype, p.index < o.index) ∧
        (c.apply s).objects[o.index]? = some ⟨.ofPairs (c.writes s o), prototype⟩) ∨
      ∃ cell key v, s.objects[o.index]? = some cell ∧ c.writes s o = [(key, v)] ∧
        (c.apply s).objects[o.index]? = some { cell with entries := cell.entries.put key v } := by
  cases c with
  | newObject pairs prototype =>
    rw [apply, Store.newObject, Array.getElem?_push, writes]
    by_cases ho : o.index = s.objects.size
    · rw [if_pos ho, if_pos ho]
      exact .inr (.inl ⟨Array.getElem?_eq_none (Nat.le_of_eq ho.symm), prototype, ho ▸ hc, rfl⟩)
    · rw [if_neg ho, if_neg ho]
      exact .inl ⟨rfl, rfl⟩
  | setOwn o' key v =>
    have hlt : o'.index < s.objects.size := hc
    rw [apply, setOwn_of_lt hlt, writes]
    by_cases ho : o' = o
    · subst ho
      rw [if_pos rfl, Array.getElem?_setIfInBounds_self_of_lt hlt]
      exact .inr (.inr ⟨_, key, v, Array.getElem?_eq_getElem hlt, rfl, rfl⟩)
    · have hindex : o'.index ≠ o.index := fun hi => ho (by cases o; cases o'; cases hi; rfl)
      rw [if_neg ho, Array.getElem?_setIfInBounds_ne hindex]
      exact .inl ⟨rfl, rfl⟩
  | exportCaptures spans limit | fillCaptures _ spans limit =>
    have hobjects := objects_exportSpans s (spans.take limit)
    exact .inl ⟨congrArg (fun objects => objects[o.index]?) hobjects, rfl⟩
  -- arrays and symbols are apart from objects
  | _ => exact .inl ⟨rfl, rfl⟩

/-! ## Entries -/

/-- An object has the entries that were written to it. Nothing was written to one that does not
exist. -/
structure Keeps (s : Store) (o : ObjectRef) (ws : List (String × Value)) : Prop where
  entries : s.entries o = .ofPairs ws
  unwritten : s.objects[o.index]? = none → ws = []

namespace Keeps

variable {ws : List (String × Value)}

theorem init (o : ObjectRef) : Keeps {} o [] := ⟨rfl, fun _ => rfl⟩

/-- A change adds what it writes. -/
theorem step (h : s.Keeps o ws) (hc : c.Legal s) : (c.apply s).Keeps o (ws ++ c.writes s o) := by
  obtain ⟨hentries, hunwritten⟩ := h
  rw [Store.entries] at hentries
  rcases Change.object_apply hc o with ⟨hkept, hnone⟩ | ⟨hnew, prototype, -, hmade⟩ |
    ⟨cell, key, v, hcell, hwrite, hset⟩
  · rw [hnone, List.append_nil]
    exact ⟨by rw [Store.entries, hkept, hentries], fun h => hunwritten (hkept ▸ h)⟩
  · rw [hunwritten hnew, List.nil_append]
    exact ⟨by rw [Store.entries, hmade], fun h => nomatch hmade.symm.trans h⟩
  · rw [hcell] at hentries
    refine ⟨?_, fun h => nomatch hset.symm.trans h⟩
    rw [Store.entries, hset, hwrite, Entries.ofPairs_concat, ← hentries]

theorem run (h : s.Keeps o ws) (hcs : LegalAll s cs) :
    (afterChanges s cs).Keeps o (ws ++ allWrites o s cs) := by
  induction cs generalizing s ws with
  | nil => exact (List.append_nil ws).symm ▸ h
  | cons c rest ih =>
    have hrest := ih (h.step hcs.1) hcs.2
    rwa [List.append_assoc] at hrest

end Keeps

/-! ## Ages -/

/-- A prototype is older than the objects that inherit from it. -/
def Aged (s : Store) : Prop := ∀ o p, s.prototype? o = some p → p.index < o.index

namespace Aged

theorem init : Aged {} := fun _ _ h => nomatch h

/-- No object changes its prototype. -/
theorem step (h : s.Aged) (hc : c.Legal s) : (c.apply s).Aged := by
  intro o p hp
  rw [prototype?] at hp
  rcases Change.object_apply hc o with ⟨hkept, -⟩ | ⟨-, prototype, hprior, hmade⟩ |
    ⟨cell, key, v, hcell, -, hset⟩
  · rw [hkept] at hp
    exact h o p hp
  · rw [hmade] at hp
    exact hprior p hp
  · rw [hset] at hp
    exact h o p (by rw [prototype?, hcell, ← hp])

theorem run (h : s.Aged) (hcs : LegalAll s cs) : (afterChanges s cs).Aged := by
  induction cs generalizing s with
  | nil => exact h
  | cons c rest ih => exact ih (h.step hcs.1) hcs.2

end Aged

end Store

end Criteria
