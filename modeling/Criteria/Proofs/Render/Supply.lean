import Criteria.Proofs.Render.Parameters
import Criteria.Proofs.Store.Entries

/-!
# What holds of every list of names

A list of names begins empty, with generated names or with given ones. It is then used: a name is
asked for, or room for some; it is rewound; the source of a tree is written on it.

* `ParamNames.Origin`, `ParamNames.Use` — how a list begins, and what is done with one.
* `ParamNames.HandsOut` — some names are handed out, one after the other.

Principal results:

* `HandsOut.slice` — the names that are handed out stand one behind the other in the list, from the
  position on.
* `Draws.handsOut` — writing a tree hands out names, and does nothing else with the list, whether it
  succeeds or not.
* `names_invariant` — what holds after every run.
-/

set_option autoImplicit false

namespace Criteria

open ParamNames

/-! ## One name after the other -/

/-- The list after a step, whether it succeeds or not. -/
def Naming.after {α : Type} (x : Naming α) (ns : ParamNames) : ParamNames :=
  match x.run ns with
  | .ok _ ns' => ns'
  | .error _ ns' => ns'

/-- What a step gives back; nothing when it fails. -/
def Naming.result? {α : Type} (x : Naming α) (ns : ParamNames) : Option α :=
  match x.run ns with
  | .ok a _ => some a
  | .error _ _ => none

namespace ParamNames

/-- Some names are handed out, one after the other. -/
inductive HandsOut : ParamNames → List String → ParamNames → Prop where
  | none (ns : ParamNames) : HandsOut ns [] ns
  | next {hint name : String} {names : List String} {ns ns' ns'' : ParamNames}
      (h : (Naming.next hint).run ns = .ok name ns') (rest : HandsOut ns' names ns'') :
      HandsOut ns (name :: names) ns''

/-- There is a name for every hint, unless the list is used up and can be no longer. -/
theorem WellFormed.next_cases {ns : ParamNames} (hns : ns.WellFormed) (hint : String) :
    (ns.position = ns.names.size ∧ nameCapacity < ns.names.size + 1 ∧
        (Naming.next hint).run ns = .error (.allocation (ns.names.size + 1)) ns) ∨
      ∃ name ns', (Naming.next hint).run ns = .ok name ns' ∧
        ns'.names[ns.position]? = some name := by
  cases h : (Naming.next hint).run ns with
  | ok name ns' => exact .inr ⟨name, ns', rfl, (Naming.wellFormed_next hns h).2.2.2⟩
  | error e ns' =>
    obtain ⟨hend, hfull, rfl, rfl⟩ := Naming.next_error hns h
    exact .inl ⟨hend, hfull, rfl⟩

namespace HandsOut

variable {ns ns' ns'' : ParamNames} {names names' : List String}

theorem append (h : HandsOut ns names ns') (h' : HandsOut ns' names' ns'') :
    HandsOut ns (names ++ names') ns'' := by
  induction h with
  | none ns => exact h'
  | next hnext _ ih => exact .next hnext (ih h')

theorem wellFormed (h : HandsOut ns names ns') (hns : ns.WellFormed) : ns'.WellFormed := by
  induction h with
  | none ns => exact hns
  | next hnext _ ih => exact ih (Naming.wellFormed_next hns hnext).1

theorem isPrefix (h : HandsOut ns names ns') (hns : ns.WellFormed) :
    ns.names.toList <+: ns'.names.toList := by
  induction h with
  | none ns => exact List.prefix_refl _
  | next hnext _ ih =>
    obtain ⟨hwf, -, hgrows, -⟩ := Naming.wellFormed_next hns hnext
    exact hgrows.trans (ih hwf)

theorem position (h : HandsOut ns names ns') (hns : ns.WellFormed) :
    ns'.position = ns.position + names.length := by
  induction h with
  | none ns => rfl
  | next hnext _ ih =>
    obtain ⟨hwf, hposition, -, -⟩ := Naming.wellFormed_next hns hnext
    rw [ih hwf, hposition, List.length_cons]
    omega

/-- The names that were handed out are those between the positions. -/
theorem slice (h : HandsOut ns names ns') (hns : ns.WellFormed) :
    (ns'.names.toList.drop ns.position).take names.length = names := by
  induction h with
  | none ns => rfl
  | @next _ name names ns mid ns' hnext rest ih =>
    obtain ⟨hwf, hposition, -, hname⟩ := Naming.wellFormed_next hns hnext
    have hat : ns'.names.toList[ns.position]? = some name := by
      obtain ⟨added, hadded⟩ := rest.isPrefix hwf
      rw [← Array.getElem?_toList] at hname
      rw [← hadded, List.getElem?_append_left (List.getElem?_eq_some_iff.mp hname).1, hname]
    obtain ⟨hlt, hget⟩ := List.getElem?_eq_some_iff.mp hat
    have hrest := ih hwf
    rw [hposition] at hrest
    rw [List.drop_eq_getElem_cons hlt, List.length_cons, List.take_succ_cons, hget, hrest]

/-- No name is handed out twice: none stands in the list twice. -/
theorem nodup (h : HandsOut ns names ns') (hns : ns.WellFormed) : names.Nodup := by
  rw [← h.slice hns]
  exact (h.wellFormed hns).nodup.sublist ((List.take_sublist _ _).trans (List.drop_sublist _ _))

/-- The names handed out since the first position. -/
theorem since_eq (h : HandsOut ns names ns') (hns : ns.WellFormed) :
    ns'.since ns.position = names := by
  rw [since, h.position hns, List.drop_take, Nat.add_sub_cancel_left, h.slice hns]

end HandsOut

end ParamNames

/-! ## Steps -/

namespace Naming

variable {α β : Type}

theorem after_ok {x : Naming α} {a : α} {ns ns' : ParamNames} (h : x.run ns = .ok a ns') :
    x.after ns = ns' := by
  rw [after, h]

theorem after_error {x : Naming α} {e : RenderFailure} {ns ns' : ParamNames}
    (h : x.run ns = .error e ns') : x.after ns = ns' := by
  rw [after, h]

theorem result?_ok {x : Naming α} {a : α} {ns ns' : ParamNames} (h : x.run ns = .ok a ns') :
    x.result? ns = some a := by
  rw [result?, h]

theorem result?_error {x : Naming α} {e : RenderFailure} {ns ns' : ParamNames}
    (h : x.run ns = .error e ns') : x.result? ns = none := by
  rw [result?, h]

theorem after_reserve (count : Nat) (ns : ParamNames) : (reserve count).after ns = ns := by
  rw [after, run_reserve]
  split
  · rename_i h
    split at h <;> cases h
    rfl
  · rename_i h
    split at h <;> cases h
    rfl

/-- Asking for a name hands it out, or leaves the list as it is. -/
theorem handsOut_next (hint : String) (ns : ParamNames) :
    ∃ names, HandsOut ns names ((next hint).after ns) := by
  cases h : (next hint).run ns with
  | ok name ns' =>
    rw [after_ok h]
    exact ⟨[name], .next h (.none ns')⟩
  | error e ns' =>
    rw [after_error h]
    rw [run_next] at h
    split at h <;> cases h
    exact ⟨[], .none ns⟩

/-- A step that consists of requests hands out names, and does nothing else with the list. -/
theorem Draws.handsOut {n : Nat} {x : Naming α} (h : Draws n x) (ns : ParamNames) :
    ∃ names, HandsOut ns names (x.after ns) := by
  induction h generalizing ns with
  | pure a => exact ⟨[], .none ns⟩
  | throw e n => exact ⟨[], .none ns⟩
  | get => exact ⟨[], .none ns⟩
  | reserve count =>
    rw [after_reserve]
    exact ⟨[], .none ns⟩
  | next => exact handsOut_next _ ns
  | @bind _ _ _ _ x f _ _ ihx ihf =>
    obtain ⟨names, hx⟩ := ihx ns
    cases hrun : x.run ns with
    | ok a ns' =>
      rw [after_ok hrun] at hx
      obtain ⟨names', hf⟩ := ihf a ns'
      have hafter : (x >>= f).after ns = (f a).after ns' := by
        rw [after, run_bind_ok hrun, after]
      exact ⟨names ++ names', hafter ▸ hx.append hf⟩
    | error e ns' =>
      rw [after_error hrun] at hx
      exact ⟨names, after_error (run_bind_error hrun) ▸ hx⟩

end Naming

/-! ## Runs -/

namespace ParamNames

/-- How a list of names begins. -/
inductive Origin where
  | empty
  | seeded (count : Nat)
  | given (names : List String)

/-- The list at its beginning. -/
def Origin.make : Origin → Except RenderFailure ParamNames
  | .empty => .ok {}
  | .seeded count => ParamNames.seeded count
  | .given names => .ok (ofNames names)

/-- What is done with a list of names. -/
inductive Use where
  | next (hint : String)
  | reserve (count : Nat)
  | rewind
  /-- The source of a tree is written. -/
  | source (s : Store) (t : Predicate)

namespace Use

/-- The list after one use, which may fail. -/
def perform : Use → ParamNames → ParamNames
  | next hint, ns => (Naming.next hint).after ns
  | reserve count, ns => (Naming.reserve count).after ns
  | rewind, ns => ns.rewind
  | source s t, ns => (t.toSourceOn s).after ns

/-- The names that one use gives back: a name, or the parameters of a source. -/
def answer : Use → ParamNames → List String
  | next hint, ns => ((Naming.next hint).result? ns).toList
  | source s t, ns => ((t.toSourceOn s).result? ns).elim [] Source.params
  | _, _ => []

/-- Whether the use hands out names from where the list stands. -/
def goesOn : Use → Bool
  | rewind => false
  | _ => true

end Use

/-- The list after some uses. -/
def afterUses (uses : List Use) (ns : ParamNames) : ParamNames :=
  uses.foldl (fun ns use => use.perform ns) ns

/-- The names that some uses give back, in order. -/
def answers : List Use → ParamNames → List String
  | [], _ => []
  | use :: rest, ns => use.answer ns ++ answers rest (use.perform ns)

variable {ns : ParamNames}

/-! ## Beginnings -/

theorem WellFormed.names_insert (hns : ns.WellFormed) (name : String) :
    (ns.insert name).names.toList =
      if name ∈ ns.names.toList then ns.names.toList else ns.names.toList ++ [name] := by
  by_cases hname : name ∈ ns.names.toList
  · rw [if_pos hname, insert_of_mem ((hns.taken name).2 hname)]
  · rw [if_neg hname, insert_of_notMem (mt (hns.taken name).1 hname), Array.toList_push]

/-- Of given names the first occurrences are kept, in order. -/
theorem names_ofNames (names : List String) :
    (ofNames names).WellFormed ∧ (ofNames names).names.toList = names.eraseDups := by
  induction names using List.reverseRecOn with
  | nil => exact ⟨wellFormed_empty, rfl⟩
  | append_singleton names name ih =>
    have hconcat : ofNames (names ++ [name]) = (ofNames names).insert name := List.foldl_append
    rw [hconcat]
    refine ⟨ih.1.insert name, ?_⟩
    rw [ih.1.names_insert, ih.2, eraseDups_concat]
    simp only [List.mem_eraseDups]

theorem Origin.wellFormed {origin : Origin} (h : origin.make = .ok ns) : ns.WellFormed := by
  cases origin with
  | empty =>
    cases h
    exact wellFormed_empty
  | seeded count =>
    rcases seeded_names count with ⟨-, hfull⟩ | ⟨-, _, hok, hseeded⟩
    · rw [make, hfull] at h
      cases h
    · rw [make, hok] at h
      cases h
      exact hseeded.wellFormed
  | given names =>
    cases h
    exact (names_ofNames names).1

/-! ## Uses -/

theorem WellFormed.rewind (hns : ns.WellFormed) : ns.rewind.WellFormed :=
  ⟨hns.nodup, hns.taken, Nat.zero_le _⟩

/-- A use that is no rewind hands out names. Those that it gives back are among them; when it fails,
it gives back none. -/
theorem Use.handsOut (hns : ns.WellFormed) {use : Use} (h : use.goesOn) :
    ∃ names, HandsOut ns names (use.perform ns) ∧ (use.answer ns).Sublist names := by
  cases use with
  | rewind => cases h
  | reserve count =>
    rw [perform, Naming.after_reserve]
    exact ⟨[], .none ns, List.nil_sublist _⟩
  | next hint =>
    cases hrun : (Naming.next hint).run ns with
    | ok name ns' =>
      rw [perform, answer, Naming.after_ok hrun, Naming.result?_ok hrun]
      exact ⟨[name], .next hrun (.none ns'), List.Sublist.refl _⟩
    | error e ns' =>
      obtain ⟨names, hnames⟩ := Naming.handsOut_next hint ns
      rw [answer, Naming.result?_error hrun]
      exact ⟨names, hnames, List.nil_sublist _⟩
  | source s t =>
    obtain ⟨names, hnames⟩ := (Predicate.draws_toSourceOn s t).handsOut ns
    refine ⟨names, hnames, ?_⟩
    cases hrun : (t.toSourceOn s).run ns with
    | ok src ns' =>
      rw [Naming.after_ok hrun] at hnames
      rw [answer, Naming.result?_ok hrun, Option.elim_some, (Predicate.toSourceOn_ok hrun).2.1,
        hnames.since_eq hns]
    | error e ns' =>
      rw [answer, Naming.result?_error hrun]
      exact List.nil_sublist _

theorem WellFormed.perform (hns : ns.WellFormed) (use : Use) :
    (use.perform ns).WellFormed ∧ ns.names.toList <+: (use.perform ns).names.toList := by
  cases hgo : use.goesOn with
  | true =>
    obtain ⟨names, hnames, -⟩ := Use.handsOut hns hgo
    exact ⟨hnames.wellFormed hns, hnames.isPrefix hns⟩
  | false =>
    cases use with
    | rewind => exact ⟨hns.rewind, List.prefix_refl _⟩
    | next | reserve | source => cases hgo

theorem WellFormed.afterUses (hns : ns.WellFormed) (uses : List Use) :
    (afterUses uses ns).WellFormed ∧ ns.names.toList <+: (afterUses uses ns).names.toList := by
  induction uses generalizing ns with
  | nil => exact ⟨hns, List.prefix_refl _⟩
  | cons use rest ih =>
    obtain ⟨hwf, hgrows⟩ := hns.perform use
    obtain ⟨hwf', hgrows'⟩ := ih hwf
    exact ⟨hwf', hgrows.trans hgrows'⟩

/-- Between two rewinds names are handed out one after the other. -/
theorem HandsOut.afterUses (hns : ns.WellFormed) {uses : List Use} (h : ∀ use ∈ uses, use.goesOn) :
    ∃ names, HandsOut ns names (afterUses uses ns) ∧ (answers uses ns).Sublist names := by
  induction uses generalizing ns with
  | nil => exact ⟨[], .none ns, List.Sublist.refl _⟩
  | cons use rest ih =>
    obtain ⟨names, hnames, hanswer⟩ := Use.handsOut hns (h use List.mem_cons_self)
    obtain ⟨names', hnames', hanswers⟩ :=
      ih (hnames.wellFormed hns) fun use hmem => h use (List.mem_cons_of_mem _ hmem)
    exact ⟨names ++ names', hnames.append hnames', hanswer.append hanswers⟩

end ParamNames

/-- **What holds of every list of names.** However a list begins and whatever is done with it:

* no name stands in it twice, the names in use are those in the list, and the position is in it;
* later uses only append to it, and a rewind moves only the position;
* of given names the first occurrences are kept, in order;
* a fresh name is the first candidate that is not in use, and at most one candidate more is tried
  than there are names in use;
* a name that is asked for is the one that stands at the position afterwards, and none is there only
  when the list is used up and can be no longer;
* what is handed out without a rewind is handed out once, and so is what is given back. -/
theorem names_invariant (origin : ParamNames.Origin) (first : ParamNames)
    (hfirst : origin.make = .ok first) (uses : List ParamNames.Use) :
    let ns := afterUses uses first
    (ns.names.toList.Nodup ∧ (∀ name, name ∈ ns.taken ↔ name ∈ ns.names.toList) ∧
      ns.position ≤ ns.names.size) ∧
    (first.names.toList <+: ns.names.toList ∧
      (∀ later, ns.names.toList <+: (afterUses later ns).names.toList) ∧
      ns.rewind = { ns with position := 0 }) ∧
    (∀ given, origin = .given given → first.names.toList = given.eraseDups) ∧
    (∀ (any : ParamNames) (hint : String), ∃ k ≤ any.taken.toFinset.card,
      any.fresh hint = candidate hint k ∧ candidate hint k ∉ any.taken ∧
        ∀ j < k, candidate hint j ∈ any.taken) ∧
    (∀ hint, (ns.position = ns.names.size ∧ nameCapacity < ns.names.size + 1 ∧
        (Naming.next hint).run ns = .error (.allocation (ns.names.size + 1)) ns) ∨
      ∃ name ns', (Naming.next hint).run ns = .ok name ns' ∧
        ns'.names[ns.position]? = some name) ∧
    (∀ later : List ParamNames.Use, (∀ use ∈ later, use.goesOn) →
      ∃ names, HandsOut ns names (afterUses later ns) ∧ names.Nodup ∧
        (answers later ns).Sublist names ∧ (answers later ns).Nodup) := by
  intro ns
  have hbegin := Origin.wellFormed hfirst
  obtain ⟨hns, hgrows⟩ := hbegin.afterUses uses
  refine ⟨⟨hns.nodup, hns.taken, hns.position⟩, ⟨hgrows, fun later => (hns.afterUses later).2, rfl⟩,
    ?_, fresh_eq_candidate, hns.next_cases, ?_⟩
  · rintro given rfl
    cases hfirst
    exact (names_ofNames given).2
  · intro later hlater
    obtain ⟨names, hnames, hanswers⟩ := HandsOut.afterUses hns hlater
    have hnodup := hnames.nodup hns
    exact ⟨names, hnames, hnodup, hanswers, hnodup.sublist hanswers⟩

/-- A list with a numbered name: the search passes over it. -/
theorem names_invariant_numbered :
    let first : ParamNames := ofNames ["value2", "value", "value2"]
    let ns := afterUses [.next "x", .reserve 5, .rewind] first
    let later : List ParamNames.Use :=
      [.next "x", .source {} (.binary .add .unset (.literal (.int 1))), .next "value"]
    Origin.make (.given ["value2", "value", "value2"]) = .ok first ∧
      (∀ use ∈ later, use.goesOn) ∧ ns.names.toList = ["value2", "value"] ∧
      (afterUses later ns).names.toList = ["value2", "value", "value3"] ∧
      ∃ names, HandsOut ns names (afterUses later ns) ∧ names.Nodup ∧
        ["value2", "value", "value3"].Sublist names := by
  intro first ns later
  have hgo : ∀ use ∈ later, use.goesOn := by decide
  have hanswers : answers later ns = ["value2", "value", "value3"] := by decide +kernel
  obtain ⟨-, -, -, -, -, hlater⟩ :=
    names_invariant (.given ["value2", "value", "value2"]) first rfl [.next "x", .reserve 5, .rewind]
  obtain ⟨names, hnames, hnodup, hsub, -⟩ := hlater later hgo
  exact ⟨rfl, hgo, by decide +kernel, by decide +kernel, names, hnames, hnodup, hanswers ▸ hsub⟩

end Criteria
