import Criteria.Proofs.Render.Requests

/-!
# What a failed source leaves of a list of names

Writing a tree on a given list can end for want of memory, and the list is not set back. What becomes
of it is told by the requests that came before the one that failed.

* `NameRequest.Lacks` — why a request is refused.
* `perform_allocation_iff` — a request is refused for no other reason.

Principal results:

* `failed_source_names` — which request ends the writing, and when the list is as it was.
* `failed_source_moved` — it need not be: a list that has grown and moved on.
-/

set_option autoImplicit false

namespace Criteria

open Naming ParamNames NameRequest

variable {s : Store} {ns ns' : ParamNames} {n : Nat}

/-- The request finds no memory, where `n` names would have been needed: the list is used up and can be
no longer, there is no room, or a filter has no source. -/
def NameRequest.Lacks (s : Store) (ns : ParamNames) (n : Nat) : NameRequest → Prop
  | name _ => ns.position = ns.names.size ∧ n = ns.names.size + 1 ∧ nameCapacity < n
  | room count => n = capCount (ns.position + count) ∧ ns.names.size < n ∧ nameCapacity < n
  | filter p => p.toSource s = .error (.allocation n)

theorem NameRequest.perform_allocation_iff (hns : ns.WellFormed) {r : NameRequest} :
    (r.perform s).run ns = .error (.allocation n) ns ↔ r.Lacks s ns n := by
  cases r with
  | name hint =>
    have hnext : (perform s (.name hint)).run ns = .error (.allocation n) ns ↔
        (Naming.next hint).run ns = .error (.allocation n) ns := by
      refine ⟨fun h => ?_, run_bind_error⟩
      rcases error_of_bind h with h | ⟨_, _, _, h⟩
      · exact h
      · cases h
    rw [hnext, Lacks]
    constructor
    · intro h
      obtain ⟨hend, hfull, he, -⟩ := next_error hns h
      cases he
      exact ⟨hend, rfl, hfull⟩
    · rintro ⟨hend, rfl, hfull⟩
      rw [run_next_of_eq hint hend, if_pos hfull]
  | room count =>
    rw [perform, run_reserve, Lacks]
    constructor
    · intro h
      split at h <;> cases h
      rename_i hroom
      exact ⟨rfl, hroom⟩
    · rintro ⟨rfl, hroom⟩
      rw [if_pos hroom]
  | filter p =>
    rw [perform, Lacks]
    cases p.toSource s with
    | ok src => constructor <;> intro h <;> cases h
    | error e => constructor <;> intro h <;> cases h <;> rfl

/-- What requests that succeed do with a list of names. -/
theorem NameRequest.performAll_names (hns : ns.WellFormed) {rs : List NameRequest}
    (h : (performAll s rs).run ns = .ok () ns') :
    ns'.WellFormed ∧ ns.names.toList <+: ns'.names.toList ∧
      ns'.position = ns.position + drawn rs ∧
      ns'.names.size = max ns.names.size (ns.position + drawn rs) := by
  obtain ⟨names, hnames, hlength⟩ := handsOut_performAll h
  rw [← hlength]
  exact ⟨hnames.wellFormed hns, hnames.isPrefix hns, hnames.position hns, hnames.size hns⟩

/-- Writing a complete tree ends for want of memory when a request is refused, after those before it
were granted. -/
theorem Predicate.toSourceOn_allocation_iff {t : Predicate} (ht : t.isComplete)
    (hns : ns.WellFormed) : (t.toSourceOn s).run ns = .error (.allocation n) ns' ↔
      ∃ before r after, t.requests = before ++ r :: after ∧
        (performAll s before).run ns = .ok () ns' ∧ r.Lacks s ns' n := by
  have hcomes := comesTo_toSourceOn (s := s) ht
  constructor
  · intro h
    obtain ⟨before, r, after, hsplit, hbefore, hfail⟩ := performAll_error_iff.1 (hcomes.error h)
    have hns' := (performAll_names hns hbefore).1
    exact ⟨before, r, after, hsplit, hbefore, (perform_allocation_iff hns').1 hfail⟩
  · rintro ⟨before, r, after, hsplit, hbefore, hlacks⟩
    have hns' := (performAll_names hns hbefore).1
    have hfail := performAll_error_iff.2
      ⟨before, r, after, hsplit, hbefore, (perform_allocation_iff hns').2 hlacks⟩
    cases hrun : (t.toSourceOn s).run ns with
    | ok src ns'' =>
      have hok := hcomes.ok hrun
      rw [hfail] at hok
      cases hok
    | error e ns'' =>
      have herror := hcomes.error hrun
      rw [hfail] at herror
      cases herror
      rfl

/-- **What a failed source leaves of a list of names.** Writing a complete tree on a list ends for want
of memory when a request of the tree is refused, after those before it were granted.

The list is then as these left it. The names that were there stand where they stood, the position has
moved by the names that were asked for, and names were added as far as the list was too short. So the
list is as it was exactly when no name was asked for before. -/
theorem failed_source_names (s : Store) (t : Predicate) (ht : t.isComplete) (ns : ParamNames)
    (hns : ns.WellFormed) (n : Nat) (ns' : ParamNames) :
    ((t.toSourceOn s).run ns = .error (.allocation n) ns' ↔
      ∃ before r after, t.requests = before ++ r :: after ∧
        (performAll s before).run ns = .ok () ns' ∧ r.Lacks s ns' n) ∧
    ∀ before, (performAll s before).run ns = .ok () ns' →
      ns'.WellFormed ∧ ns.names.toList <+: ns'.names.toList ∧
      ns'.position = ns.position + drawn before ∧
      ns'.names.size = max ns.names.size (ns.position + drawn before) ∧
      (ns'.names = ns.names ∧ ns'.position = ns.position ↔ drawn before = 0) := by
  refine ⟨t.toSourceOn_allocation_iff ht hns, fun before hbefore => ?_⟩
  obtain ⟨hwf, hgrows, hposition, hsize⟩ := performAll_names hns hbefore
  refine ⟨hwf, hgrows, hposition, hsize, fun ⟨_, hsame⟩ => by omega, fun hnone => ?_⟩
  have hposition' : ns'.position = ns.position := by rw [hposition, hnone, Nat.add_zero]
  have hsize' : ns'.names.size = ns.names.size := by
    have hin := hns.position
    rw [hsize, hnone]
    omega
  exact ⟨Array.toList_inj.1 (hgrows.eq_of_length (by simp [hsize'])).symm, hposition'⟩

/-- A filter that has no source, on a list of one name: the names are as they were, but the position has
moved. -/
theorem failed_source_names_filter :
    let p : Predicate := .shift countLimit .unset
    let t : Predicate := .property (some "k") (some (.nested p))
    let ns : ParamNames := ofNames ["x"]
    let ns' : ParamNames := { ns with position := 1 }
    t.isComplete ∧ ns.WellFormed ∧ t.requests = [.name "object"] ++ [.filter p] ∧
      (performAll {} [.name "object"]).run ns = .ok () ns' ∧
      p.toSource {} = .error (.allocation countLimit) ∧
      (t.toSourceOn {}).run ns = .error (.allocation countLimit) ns' ∧
      ns'.position = ns.position + 1 ∧ ¬(ns'.names = ns.names ∧ ns'.position = ns.position) := by
  intro p t ns ns'
  have hns : ns.WellFormed := (names_ofNames ["x"]).1
  have hbefore : (performAll {} [.name "object"]).run ns = .ok () ns' := by rfl
  have hfilter : p.toSource {} = .error (.allocation countLimit) := by rfl
  obtain ⟨hiff, hafter⟩ := failed_source_names {} t rfl ns hns countLimit ns'
  obtain ⟨-, -, hposition, -, hkept⟩ := hafter _ hbefore
  have hdrawn : drawn [.name "object"] = 1 := rfl
  rw [hdrawn] at hposition hkept
  exact ⟨rfl, hns, rfl, hbefore, hfilter, hiff.2 ⟨_, _, [], rfl, hbefore, hfilter⟩, hposition,
    mt hkept.1 Nat.one_ne_zero⟩

/-- A failed source can leave a list longer than it was and further on: a shift finds no room behind two
operands. -/
theorem failed_source_moved :
    let t : Predicate := .binary .add (.nested (.binary .add .unset .unset))
      (.nested (.shift countLimit .unset))
    let ns : ParamNames := ofNames ["x"]
    let ns' : ParamNames := ⟨#["x", "value"], ["value", "x"], 2⟩
    t.isComplete ∧ (t.toSourceOn {}).run ns = .error (.allocation countLimit) ns' ∧
      ns'.names ≠ ns.names ∧ ns'.position ≠ ns.position := by
  intro t ns ns'
  have hrequests : ∀ count, (Predicate.binary .add (.nested (.binary .add .unset .unset))
      (.nested (.shift count .unset))).requests = [.name "value", .name "value"] ++ .room count ::
        (List.replicate count (.name "skip") ++ [.name "value"]) := fun count => rfl
  have hns : ns.WellFormed := (names_ofNames ["x"]).1
  have hbefore : (performAll {} [.name "value", .name "value"]).run ns = .ok () ns' := by rfl
  have hlacks : Lacks {} ns' countLimit (.room countLimit) := by
    refine ⟨?_, ?_, ?_⟩ <;> decide
  have hrun := (t.toSourceOn_allocation_iff rfl hns).2
    ⟨_, _, _, hrequests countLimit, hbefore, hlacks⟩
  exact ⟨rfl, hrun, by decide, by decide⟩

end Criteria
