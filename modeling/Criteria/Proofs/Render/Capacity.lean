import Criteria.Proofs.Render.Requests

/-!
# Room for names

Source on a list of its own starts with room for one name for each argument, and each filter is written
on a list of its own in turn. Nothing else can want for memory: the names of a tree fit into the list
that was made for it.

* `Predicate.filterTrees` — the filters of a tree that are written on lists of their own.
* `Predicate.isOversized` — the tree takes more arguments than a list can have names.
* `Naming.Within` — a step that ends for want of memory only at an oversized filter.
* `NameRequest.Covered` — how many names are asked for, and room for no more than are asked for after.

Principal results:

* `Predicate.toSource_error_iff` — a tree has no source when itself or a filter is oversized.
* `Predicate.covered_requests` — a tree asks for room only for the names that it takes.
* `source_refused` — when a tree has no source for want of memory.
-/

set_option autoImplicit false

namespace Criteria

open Naming ParamNames
open NameRequest (performAll performAll_cons performAll_append drawn drawn_append drawn_cons drawn_replicate)

variable {α β : Type} {s : Store}

mutual

/-- The filters in an operand that are written on lists of their own. -/
def Operand.filterTrees : Operand → List Predicate
  | .nested p => p.filterTrees
  | _ => []

/-- The filters in a tree that are written on lists of their own, filters of filters included, in the
order in which they are started. -/
def Predicate.filterTrees : Predicate → List Predicate
  | .unary _ x => x.filterTrees
  | .binary _ left right => left.filterTrees ++ right.filterTrees
  | .boolean _ xs => Operand.allFilterTrees xs
  | .property _ (some (.nested p)) => p :: p.filterTrees
  | .shift _ x => x.filterTrees
  | _ => []

/-- The filters in some operands. -/
def Operand.allFilterTrees : List Operand → List Predicate
  | [] => []
  | x :: rest => x.filterTrees ++ Operand.allFilterTrees rest

end

mutual

theorem Operand.filterTrees_complete :
    ∀ {x : Operand}, x.isComplete → ∀ q ∈ x.filterTrees, q.isComplete
  | .unset, _, _, hq | .literal _, _, _, hq => nomatch hq
  | .nested p, h, q, hq => by
    rw [Operand.isComplete] at h
    rw [Operand.filterTrees] at hq
    exact Predicate.filterTrees_complete h q hq

theorem Predicate.filterTrees_complete :
    ∀ {p : Predicate}, p.isComplete → ∀ q ∈ p.filterTrees, q.isComplete
  | .unset, _, _, hq | .type _, _, _, hq | .charset .., _, _, hq | .string _, _, _, hq
  | .regex .., _, _, hq | .compare .., _, _, hq | .member _, _, _, hq | .function .., _, _, hq
  | .property _ none, _, _, hq | .property _ (some .unset), _, _, hq
  | .property _ (some (.literal _)), _, _, hq => nomatch hq
  | .unary _ x, h, q, hq => by
    rw [Predicate.isComplete] at h
    rw [Predicate.filterTrees] at hq
    exact Operand.filterTrees_complete h q hq
  | .binary _ left right, h, q, hq => by
    rw [Predicate.isComplete, Bool.and_eq_true] at h
    rw [Predicate.filterTrees, List.mem_append] at hq
    rcases hq with hq | hq
    · exact Operand.filterTrees_complete h.1 q hq
    · exact Operand.filterTrees_complete h.2 q hq
  | .boolean _ xs, h, q, hq => by
    rw [Predicate.isComplete] at h
    rw [Predicate.filterTrees] at hq
    exact Operand.allFilterTrees_complete h q hq
  | .property _ (some (.nested p)), h, q, hq => by
    rw [Predicate.isComplete, Operand.isComplete] at h
    rw [Predicate.filterTrees, List.mem_cons] at hq
    rcases hq with rfl | hq
    · exact h
    · exact Predicate.filterTrees_complete h q hq
  | .shift _ x, h, q, hq => by
    rw [Predicate.isComplete] at h
    rw [Predicate.filterTrees] at hq
    exact Operand.filterTrees_complete h q hq

theorem Operand.allFilterTrees_complete : ∀ {xs : List Operand}, Operand.allComplete xs →
    ∀ q ∈ Operand.allFilterTrees xs, q.isComplete
  | [], _, _, hq => nomatch hq
  | x :: rest, h, q, hq => by
    rw [Operand.allComplete, Bool.and_eq_true] at h
    rw [Operand.allFilterTrees, List.mem_append] at hq
    rcases hq with hq | hq
    · exact Operand.filterTrees_complete h.1 q hq
    · exact Operand.allFilterTrees_complete h.2 q hq

end

/-- The tree takes more arguments than a list can have names. -/
def Predicate.isOversized (p : Predicate) : Bool := nameCapacity < p.slots

theorem nameCapacity_lt_countLimit : nameCapacity < countLimit := by decide

theorem nameCapacity_lt_capCount {n : Nat} : nameCapacity < capCount n ↔ nameCapacity < n := by
  have hlimit := nameCapacity_lt_countLimit
  unfold capCount
  omega

theorem Predicate.isOversized_iff {p : Predicate} (hp : p.isComplete) :
    p.isOversized ↔ ∃ n, p.argCount = .ok n ∧ nameCapacity < n := by
  rw [isOversized, decide_eq_true_iff, argCount_eq hp]
  constructor
  · intro h
    exact ⟨_, rfl, nameCapacity_lt_capCount.2 h⟩
  · rintro ⟨_, hcount, h⟩
    cases hcount
    exact nameCapacity_lt_capCount.1 h

theorem Predicate.not_isOversized_iff {p : Predicate} (hp : p.isComplete) :
    p.isOversized = false ↔ ∃ n, p.argCount = .ok n ∧ n ≤ nameCapacity := by
  rw [← Bool.not_eq_true, isOversized_iff hp, argCount_eq hp]
  simp

/-! ## Steps on a list that is long enough -/

/-- On a list with `n` more names the step takes `n`, unless one of the trees is oversized: then it asks
for the names of the first such tree and fails. -/
structure Naming.Within (n : Nat) (trees : List Predicate) (x : Naming α) : Prop where
  ok : trees.find? Predicate.isOversized = none → ∀ ns : ParamNames,
    ns.position + n ≤ ns.names.size → ∃ a, x.run ns = .ok a { ns with position := ns.position + n }
  error : ∀ {p}, trees.find? Predicate.isOversized = some p → ∀ ns : ParamNames,
    ns.position + n ≤ ns.names.size →
      ∃ ns', x.run ns = .error (.allocation (capCount p.slots)) ns'

namespace Naming.Within

variable {n k : Nat} {trees trees' : List Predicate} {x : Naming α} {f : α → Naming β}

theorem pure (a : α) : Within 0 [] (Pure.pure a : Naming α) :=
  ⟨fun _ _ _ => ⟨a, rfl⟩, nofun⟩

theorem bind (hx : Within n trees x) (hf : ∀ a, Within k trees' (f a)) :
    Within (n + k) (trees ++ trees') (x >>= f) := by
  have hfirst : (trees ++ trees').find? Predicate.isOversized =
      (trees.find? Predicate.isOversized).or (trees'.find? Predicate.isOversized) :=
    List.find?_append
  constructor
  · intro hnone ns hroom
    rw [hfirst, Option.or_eq_none_iff] at hnone
    obtain ⟨a, ha⟩ := hx.ok hnone.1 ns (by omega)
    obtain ⟨b, hb⟩ := (hf a).ok hnone.2 { ns with position := ns.position + n }
      (by simp only; omega)
    rw [run_bind_ok ha, hb, Nat.add_assoc]
    exact ⟨b, rfl⟩
  · intro p hp ns hroom
    rw [hfirst, Option.or_eq_some_iff] at hp
    rcases hp with hp | ⟨hnone, hp⟩
    · obtain ⟨ns', he⟩ := hx.error hp ns (by omega)
      exact ⟨ns', run_bind_error he⟩
    · obtain ⟨a, ha⟩ := hx.ok hnone ns (by omega)
      rw [run_bind_ok ha]
      exact (hf a).error hp _ (by simp only; omega)

/-- What follows may take nothing. -/
theorem map (hx : Within n trees x) (hf : ∀ a, Within 0 [] (f a)) : Within n trees (x >>= f) := by
  have h := hx.bind hf
  rwa [List.append_nil] at h

/-- A step may take nothing. -/
theorem after (hx : Within 0 [] x) (hf : ∀ a, Within n trees (f a)) :
    Within n trees (x >>= f) := by
  have h := hx.bind hf
  rwa [Nat.zero_add, List.nil_append] at h

theorem next (hint : String) : Within 1 [] (Naming.next hint) :=
  ⟨fun _ _ hroom => ⟨_, run_next_of_lt hint hroom⟩, nofun⟩

theorem nextMany (hint : String) : ∀ count, Within count [] (Naming.nextMany hint count)
  | 0 => .pure []
  | count + 1 => by
    have h : Within (1 + count) [] (Naming.nextMany hint (count + 1)) :=
      (next hint).bind fun _ => (nextMany hint count).map fun _ => .pure _
    rwa [Nat.add_comm 1 count] at h

/-- Room for names that are there is not refused. -/
theorem run_reserve_of_le {count : Nat} {ns : ParamNames}
    (h : ns.position + count ≤ ns.names.size) : (Naming.reserve count).run ns = .ok () ns := by
  have hneeded := capCount_le (ns.position + count)
  rw [run_reserve, if_neg (by omega)]

/-- Room is made for the names that a step takes, and for no more. -/
theorem reserve {count : Nat} (hcount : count ≤ n) {y : Naming α} (hy : Within n trees y) :
    Within n trees (Naming.reserve count >>= fun _ => y) := by
  constructor
  · intro hnone ns hroom
    rw [run_bind_ok (run_reserve_of_le (by omega))]
    exact hy.ok hnone ns hroom
  · intro p hp ns hroom
    rw [run_bind_ok (run_reserve_of_le (by omega))]
    exact hy.error hp ns hroom

end Naming.Within

/-! ## Source on a list of its own -/

/-- The list that is made for a tree is long enough for it. There is none when the tree is oversized. -/
theorem Predicate.seeded_slots (p : Predicate) :
    (p.isOversized = true ∧
      seeded (capCount p.slots) = .error (.allocation (capCount p.slots))) ∨
    (p.isOversized = false ∧ ∃ ns, seeded (capCount p.slots) = .ok ns ∧ ns.WellFormed ∧
      ns.position + p.slots ≤ ns.names.size) := by
  obtain ⟨hlong, hseeded⟩ | ⟨hshort, ns, hseeded, hletters⟩ := seeded_names (capCount p.slots)
  · exact .inl ⟨decide_eq_true (nameCapacity_lt_capCount.1 hlong), hseeded⟩
  · have hfits : ¬nameCapacity < p.slots := mt nameCapacity_lt_capCount.2 (Nat.not_lt.2 hshort)
    have hlimit := nameCapacity_lt_countLimit
    have hlength := congrArg List.length hletters.names
    rw [length_letterNames, Array.length_toList, capCount_of_le (by omega)] at hlength
    refine .inr ⟨decide_eq_false hfits, ns, hseeded, hletters.wellFormed, ?_⟩
    rw [hletters.position]
    omega

/-- The source of a tree is refused for the first tree that is oversized: itself, or a filter. -/
theorem Predicate.toSource_of_within {p : Predicate} (hp : p.isComplete)
    (h : Within p.slots p.filterTrees (Render.predicate s p)) :
    match (p :: p.filterTrees).find? isOversized with
    | none => ∃ src, p.toSource s = .ok src
    | some q => p.toSource s = .error (.allocation (capCount q.slots)) := by
  obtain ⟨precedence, hprecedence⟩ := precedence_of_isComplete hp
  rw [toSource, Render.onOwnNames, argCount_eq hp, List.find?_cons]
  obtain ⟨hself, hseeded⟩ | ⟨hself, ns, hseeded, -, hroom⟩ := p.seeded_slots
  · simp only [hself, hseeded]
  · simp only [hself, hseeded, hprecedence]
    cases hfilters : p.filterTrees.find? isOversized with
    | none =>
      obtain ⟨body, hrun⟩ := h.ok hfilters ns hroom
      simp only [hrun]
      exact ⟨_, rfl⟩
    | some q =>
      obtain ⟨ns', hrun⟩ := h.error hfilters ns hroom
      simp only [hrun]

namespace Render

theorem within_wrap {x : Operand} (hx : x.isComplete) (operator : Precedence) (position : Position)
    (text : String) : Within 0 [] (wrap operator x position text) := by
  obtain ⟨needed, hneeded⟩ := Operand.needsParens_of_isComplete hx operator position
  rw [wrap, hneeded]
  refine (Within.pure needed).after fun needed => ?_
  cases needed <;> exact .pure _

theorem within_access (name : Option String) :
    Within (Predicate.propertyArgCount name) [] (access name) := by
  cases name with
  | some name => exact (Within.next _).map fun _ => .pure _
  | none => exact (Within.next _).bind fun _ => (Within.next _).map fun _ => .pure _

/-- A filter that is written on a list of its own. -/
theorem within_filtered_nested {p : Predicate} (hp : p.isComplete)
    (h : Within p.slots p.filterTrees (predicate s p)) (access : String) :
    Within 0 (p :: p.filterTrees) (filtered s (some (.nested p)) access) := by
  have hsource := Predicate.toSource_of_within hp h
  constructor
  · intro hnone ns _
    rw [hnone] at hsource
    obtain ⟨src, hsrc⟩ := hsource
    rw [filtered_nested_ok hsrc]
    exact ⟨_, rfl⟩
  · intro q hq ns _
    rw [hq] at hsource
    rw [filtered_nested_error hsource]
    exact ⟨ns, rfl⟩

mutual

theorem within_operand (hint : String) :
    ∀ {x : Operand}, x.isComplete → Within x.slots x.filterTrees (operand s hint x)
  | .unset, _ => by
    rw [operand, Operand.slots, Operand.filterTrees]
    · exact .next hint
    · nofun
  | .nested p, h => by
    rw [Operand.isComplete] at h
    rw [operand, Operand.slots, Operand.filterTrees]
    exact within_predicate h
  | .literal v, _ => by
    rw [Operand.slots, Operand.filterTrees]
    · cases v <;> exact .pure _
    · nofun

/-- Writing a tree takes a name for each slot, and ends for want of memory only at a filter. -/
theorem within_predicate :
    ∀ {p : Predicate}, p.isComplete → Within p.slots p.filterTrees (predicate s p)
  | .type mask, _ => (Within.next _).map fun _ => .pure _
  | .charset _ set, _ => (Within.next _).map fun _ => .pure _
  | .string start, _ => (Within.next _).map fun _ => .pure _
  | .regex _ source flags, _ => (Within.next _).map fun _ => .pure _
  | .compare op stored, _ => (Within.next _).map fun _ => .pure _
  | .member target, _ => (Within.next _).map fun _ => .pure _
  | .unary op x, h => by
    rw [Predicate.isComplete] at h
    have hx := within_operand "value" h
    rw [Predicate.slots, Predicate.filterTrees]
    cases op with
    | sqrt => exact hx.map fun _ => .pure _
    | not | notNot | bitNot =>
      exact hx.map fun _ => (within_wrap h _ _ _).map fun _ => .pure _
  | .binary op left right, h => by
    rw [Predicate.isComplete, Bool.and_eq_true] at h
    have hl := within_operand "value" h.1
    have hr := within_operand "value" h.2
    rw [Predicate.slots, Predicate.filterTrees]
    cases op with
    | atan2 => exact hl.bind fun _ => hr.map fun _ => .pure _
    | _ =>
      exact hl.bind fun _ => (within_wrap h.1 _ _ _).after fun _ => hr.map fun _ =>
        (within_wrap h.2 _ _ _).map fun _ => .pure _
  | .boolean op xs, h => by
    rw [Predicate.isComplete] at h
    rw [Predicate.slots, Predicate.filterTrees]
    cases xs with
    | nil => exact .pure _
    | cons x rest => exact (within_chain op.precedence h).map fun _ => .pure _
  | .property name none, _ => by
    rw [predicate_property]
    exact (within_access name).map fun _ => .pure _
  | .property name (some .unset), _ => by
    rw [predicate_property]
    exact (within_access name).map fun _ => .pure _
  | .property name (some (.nested p)), h => by
    rw [Predicate.isComplete, Operand.isComplete] at h
    rw [predicate_property, Predicate.slots, Predicate.filterTrees]
    exact (within_access name).bind fun _ => within_filtered_nested h (within_predicate h) _
  | .property name (some (.literal v)), _ => by
    rw [predicate_property]
    refine (within_access name).map fun access => ?_
    cases v with
    | function f =>
      rw [filtered]
      cases f.source <;> exact .pure _
    | _ => exact .pure _
  | .shift count x, h => by
    rw [Predicate.isComplete] at h
    rw [predicate, Predicate.slots, Predicate.filterTrees]
    exact .reserve (Nat.le_add_right _ _) ((Within.nextMany _ count).bind fun _ =>
      within_operand "value" h)
  | .function f receiver arity, _ => by
    rw [predicate, Predicate.slots, Predicate.filterTrees]
    · exact .reserve (Nat.le_refl _) ((Within.nextMany _ arity).map fun _ => .pure _)
    all_goals nofun

theorem within_chain (operator : Precedence) : ∀ {xs : List Operand}, Operand.allComplete xs →
    Within (Operand.slotSum xs) (Operand.allFilterTrees xs) (chain s operator xs)
  | [], _ => .pure []
  | x :: rest, h => by
    rw [Operand.allComplete, Bool.and_eq_true] at h
    rw [chain, Operand.slotSum, Operand.allFilterTrees]
    exact (within_operand "value" h.1).bind fun _ => (within_wrap h.1 _ _ _).after fun _ =>
      (within_chain operator h.2).map fun _ => .pure _

end

end Render

theorem Predicate.withFilters_complete {p : Predicate} (hp : p.isComplete) :
    ∀ q ∈ p :: p.filterTrees, q.isComplete :=
  List.forall_mem_cons.2 ⟨hp, filterTrees_complete hp⟩

/-- A complete tree has no source when it or a filter is oversized. The first of them is told. -/
theorem Predicate.toSource_error_iff {p : Predicate} (hp : p.isComplete) {e : RenderFailure} :
    p.toSource s = .error e ↔ ∃ q n, (p :: p.filterTrees).find? isOversized = some q ∧
      q.argCount = .ok n ∧ e = .allocation n := by
  have hsource := toSource_of_within hp (Render.within_predicate (s := s) hp)
  cases hfirst : (p :: p.filterTrees).find? isOversized with
  | none =>
    rw [hfirst] at hsource
    obtain ⟨src, hsrc⟩ := hsource
    rw [hsrc]
    constructor
    · nofun
    · rintro ⟨q, n, hq, -⟩
      cases hq
  | some q =>
    have hcount := argCount_eq (withFilters_complete hp q (List.mem_of_find?_eq_some hfirst))
    rw [hfirst] at hsource
    rw [hsource]
    constructor
    · intro h
      cases h
      exact ⟨q, _, rfl, hcount, rfl⟩
    · rintro ⟨_, n, hq, hn, rfl⟩
      cases hq
      rw [hcount, Except.ok.injEq] at hn
      rw [hn]

/-- The first tree that is oversized: those before it are not. -/
theorem Predicate.first_isOversized_iff {p q : Predicate} (hp : p.isComplete) :
    (p :: p.filterTrees).find? isOversized = some q ↔
      ∃ before after, p :: p.filterTrees = before ++ q :: after ∧
        (∀ q' ∈ before, ∃ n, q'.argCount = .ok n ∧ n ≤ nameCapacity) ∧
        ∃ n, q.argCount = .ok n ∧ nameCapacity < n := by
  have hcomplete := withFilters_complete hp
  rw [List.find?_eq_some_iff_append]
  constructor
  · rintro ⟨hover, before, after, hsplit, hbefore⟩
    rw [hsplit] at hcomplete
    refine ⟨before, after, hsplit, fun q' hq' => ?_,
      (isOversized_iff (hcomplete q (by simp))).1 hover⟩
    have hfits : q'.isOversized = false := by simpa using hbefore q' hq'
    exact (not_isOversized_iff (hcomplete q' (by simp [hq']))).1 hfits
  · rintro ⟨before, after, hsplit, hbefore, hover⟩
    rw [hsplit] at hcomplete
    refine ⟨(isOversized_iff (hcomplete q (by simp))).2 hover, before, after, hsplit,
      fun q' hq' => ?_⟩
    rw [(not_isOversized_iff (hcomplete q' (by simp [hq']))).2 (hbefore q' hq')]
    rfl

/-- The failure tells how many arguments the first oversized tree takes. -/
theorem Predicate.toSource_allocation_iff {p : Predicate} (hp : p.isComplete) {n : Nat} :
    p.toSource s = .error (.allocation n) ↔
      ∃ before q after, p :: p.filterTrees = before ++ q :: after ∧
        (∀ q' ∈ before, ∃ count, q'.argCount = .ok count ∧ count ≤ nameCapacity) ∧
        q.argCount = .ok n ∧ nameCapacity < n := by
  rw [toSource_error_iff hp]
  constructor
  · rintro ⟨q, _, hfirst, hcount, he⟩
    cases he
    obtain ⟨before, after, hsplit, hbefore, m, hm, hover⟩ := (first_isOversized_iff hp).1 hfirst
    rw [hcount, Except.ok.injEq] at hm
    exact ⟨before, q, after, hsplit, hbefore, hcount, hm ▸ hover⟩
  · rintro ⟨before, q, after, hsplit, hbefore, hcount, hover⟩
    have hfirst := (first_isOversized_iff hp).2 ⟨before, after, hsplit, hbefore, n, hcount, hover⟩
    exact ⟨q, n, hfirst, hcount, rfl⟩

/-- There is no source exactly when some tree is oversized. -/
theorem Predicate.toSource_fails_iff {p : Predicate} (hp : p.isComplete) :
    (∃ e, p.toSource s = .error e) ↔
      ∃ q ∈ p :: p.filterTrees, ∃ n, q.argCount = .ok n ∧ nameCapacity < n := by
  have hcomplete := withFilters_complete hp
  constructor
  · rintro ⟨e, he⟩
    obtain ⟨q, -, hfirst, -⟩ := (toSource_error_iff hp).1 he
    have hmem := List.mem_of_find?_eq_some hfirst
    exact ⟨q, hmem, (isOversized_iff (hcomplete q hmem)).1 (List.find?_some hfirst)⟩
  · rintro ⟨q, hmem, hover⟩
    have hq := (isOversized_iff (hcomplete q hmem)).2 hover
    obtain ⟨q', hfirst⟩ := Option.isSome_iff_exists.1 (List.find?_isSome.2 ⟨q, hmem, hq⟩)
    have hcount := argCount_eq (hcomplete q' (List.mem_of_find?_eq_some hfirst))
    exact ⟨_, (toSource_error_iff hp).2 ⟨q', _, hfirst, hcount, rfl⟩⟩

/-! ## Requests for room -/

/-- `n` names are asked for, and room for no more names than are asked for after it. -/
structure NameRequest.Covered (n : Nat) (rs : List NameRequest) : Prop where
  drawn_eq : drawn rs = n
  room_le : ∀ {before count after}, rs = before ++ .room count :: after → count ≤ drawn after

namespace NameRequest.Covered

variable {m n : Nat} {rs rs' : List NameRequest}

/-- Requests of which none is for room. -/
theorem of_notRoom (hdrawn : drawn rs = n) (hroom : ∀ count, .room count ∉ rs) : Covered n rs := by
  refine ⟨hdrawn, ?_⟩
  rintro before count after rfl
  exact absurd (List.mem_append_right before List.mem_cons_self) (hroom count)

theorem nil : Covered 0 [] := of_notRoom rfl fun _ => List.not_mem_nil

theorem name (hint : String) : Covered 1 [.name hint] := of_notRoom rfl fun count => by simp

theorem append (h : Covered m rs) (h' : Covered n rs') : Covered (m + n) (rs ++ rs') := by
  refine ⟨by rw [drawn_append, h.drawn_eq, h'.drawn_eq], fun {before count after} hsplit => ?_⟩
  rcases List.append_eq_append_iff.1 hsplit with ⟨middle, rfl, hrest⟩ | ⟨middle, hrs, hrest⟩
  · exact h'.room_le hrest
  · cases middle with
    | nil =>
      have hstart : rs' = [] ++ .room count :: after := hrest.symm
      exact h'.room_le hstart
    | cons r middle =>
      rw [List.cons_append, List.cons.injEq] at hrest
      obtain ⟨rfl, rfl⟩ := hrest
      have hinside := h.room_le hrs
      rw [drawn_append]
      omega

/-- Room for names that are asked for next. -/
theorem room (hint : String) (count : Nat) (h : Covered n rs) :
    Covered (count + n) (.room count :: (List.replicate count (.name hint) ++ rs)) := by
  have hnames : Covered count (List.replicate count (.name hint)) :=
    of_notRoom (drawn_replicate count hint) fun _ hmem => nomatch List.eq_of_mem_replicate hmem
  have hrest := hnames.append h
  refine ⟨hrest.drawn_eq, fun {before count' after} hsplit => ?_⟩
  cases before with
  | nil =>
    cases hsplit
    rw [hrest.drawn_eq]
    exact Nat.le_add_right _ _
  | cons r before =>
    rw [List.cons_append, List.cons.injEq] at hsplit
    exact hrest.room_le hsplit.2

end NameRequest.Covered

open NameRequest

theorem NameRequest.covered_ofAccess (key : Option String) :
    Covered (Predicate.propertyArgCount key) (ofAccess key) := by
  cases key with
  | some key => exact .name "object"
  | none => exact (Covered.name "object").append (.name "key")

theorem NameRequest.covered_ofFilter (filter : Option Operand) : Covered 0 (ofFilter filter) := by
  unfold ofFilter
  split
  · exact .of_notRoom rfl fun count => by simp
  · exact .nil

mutual

theorem Operand.covered_requests (hint : String) :
    ∀ x : Operand, Covered x.slots (x.requests hint)
  | .unset => by
    rw [Operand.requests, Operand.slots]
    exact .name hint
  | .nested p => by
    rw [Operand.requests, Operand.slots]
    exact p.covered_requests
  | .literal _ => by
    rw [Operand.requests, Operand.slots]
    exact .nil

/-- A tree asks for a name for each slot, and for room only for names that it asks for next. -/
theorem Predicate.covered_requests : ∀ p : Predicate, Covered p.slots p.requests
  | .unset => .nil
  | .type _ | .charset .. | .string _ | .regex .. | .compare .. | .member _ => .name _
  | .unary _ x => by
    rw [Predicate.requests, Predicate.slots]
    exact x.covered_requests "value"
  | .binary _ left right => by
    rw [Predicate.requests, Predicate.slots]
    exact (left.covered_requests "value").append (right.covered_requests "value")
  | .boolean _ xs => by
    rw [Predicate.requests, Predicate.slots]
    exact Operand.covered_allRequests xs
  | .property key f => (covered_ofAccess key).append (covered_ofFilter f)
  | .shift count x => by
    rw [Predicate.requests, Predicate.slots]
    exact .room "skip" count (x.covered_requests "value")
  | .function _ _ arity => by
    have h := Covered.nil.room "arg" arity
    rwa [List.append_nil] at h

theorem Operand.covered_allRequests :
    ∀ xs : List Operand, Covered (Operand.slotSum xs) (Operand.allRequests xs)
  | [] => .nil
  | x :: rest => by
    rw [Operand.allRequests, Operand.slotSum]
    exact (x.covered_requests "value").append (Operand.covered_allRequests rest)

end

/-- On a list with a name for each slot, no name is added while a tree is written, and room is always
there. -/
theorem Predicate.names_of_requests (p : Predicate) {ns ns' : ParamNames} (hns : ns.WellFormed)
    (hroom : ns.position + p.slots ≤ ns.names.size) {before after : List NameRequest}
    (hsplit : p.requests = before ++ after) (hrun : (performAll s before).run ns = .ok () ns') :
    ns'.names = ns.names ∧ ns'.position = ns.position + drawn before := by
  obtain ⟨names, hnames, hlength⟩ := handsOut_performAll hrun
  have hdrawn := p.covered_requests.drawn_eq
  rw [hsplit, drawn_append] at hdrawn
  have hsize := hnames.size hns
  rw [hlength] at hsize
  refine ⟨Array.toList_inj.1 ((hnames.isPrefix hns).eq_of_length ?_).symm, ?_⟩
  · rw [Array.length_toList, Array.length_toList]
    omega
  · rw [hnames.position hns, hlength]

/-- Where a tree asks for room on such a list, there is room. -/
theorem Predicate.room_of_requests (p : Predicate) {ns ns' : ParamNames} (hns : ns.WellFormed)
    (hroom : ns.position + p.slots ≤ ns.names.size) {n : Nat} {before rest : List NameRequest}
    (hsplit : p.requests = before ++ .room n :: rest)
    (hrun : (performAll s before).run ns = .ok () ns') : ns'.position + n ≤ ns'.names.size := by
  obtain ⟨hnames, hposition⟩ := p.names_of_requests hns hroom hsplit hrun
  have hle := p.covered_requests.room_le hsplit
  have hdrawn := p.covered_requests.drawn_eq
  rw [hsplit, drawn_append, drawn_cons] at hdrawn
  rw [hnames, hposition]
  omega

/-- **When a tree has no source for want of memory.** A complete tree has no source exactly when itself
or one of the filters that are written on lists of their own takes more arguments than a list can have
names. The failure tells the count of the first of them, in the order of writing.

On the list that is made for a tree nothing else can fail: after any of its requests the names are as
they were, and where room is asked for, there is room. -/
theorem source_refused (s : Store) (t : Predicate) (ht : t.isComplete) :
    (∀ n, t.toSource s = .error (.allocation n) ↔
      ∃ before p after, t :: t.filterTrees = before ++ p :: after ∧
        (∀ q ∈ before, ∃ count, q.argCount = .ok count ∧ count ≤ nameCapacity) ∧
        p.argCount = .ok n ∧ nameCapacity < n) ∧
    ((∃ e, t.toSource s = .error e) ↔
      ∃ p ∈ t :: t.filterTrees, ∃ n, p.argCount = .ok n ∧ nameCapacity < n) ∧
    ComesTo s t.requests (Render.predicate s t) ∧
    ∀ count ns, t.argCount = .ok count → seeded count = .ok ns →
      ∀ before after ns', t.requests = before ++ after →
        (performAll s before).run ns = .ok () ns' → ns'.names = ns.names ∧
          ∀ n rest, after = .room n :: rest →
            ns'.position + n ≤ ns'.names.size ∧ (Naming.reserve n).run ns' = .ok () ns' := by
  refine ⟨fun n => Predicate.toSource_allocation_iff ht, Predicate.toSource_fails_iff ht,
    Render.comesTo_predicate ht, ?_⟩
  intro count ns hcount hseeded before after ns' hsplit hrun
  rw [Predicate.argCount_eq ht, Except.ok.injEq] at hcount
  subst hcount
  obtain ⟨-, hrefused⟩ | ⟨-, ns₀, hmade, hns, hroom⟩ := t.seeded_slots
  · rw [hrefused] at hseeded
    cases hseeded
  · rw [hmade] at hseeded
    cases hseeded
    refine ⟨(t.names_of_requests hns hroom hsplit hrun).1, fun n rest hafter => ?_⟩
    have hfits := t.room_of_requests hns hroom (hsplit.trans (congrArg _ hafter)) hrun
    exact ⟨hfits, Within.run_reserve_of_le hfits⟩

/-- A filter that skips too many arguments, after a shift that finds room for the one it skips. -/
theorem source_refused_filter :
    let p : Predicate := .shift countLimit .unset
    let t : Predicate := .boolean .or
      [.unset, .nested (.shift 1 .unset), .nested (.property (some "k") (some (.nested p)))]
    t.isComplete ∧ t.argCount = .ok 4 ∧ t.filterTrees = [p] ∧
      t.toSource {} = .error (.allocation countLimit) ∧
      ∃ ns ns', seeded 4 = .ok ns ∧ (performAll {} [.name "value"]).run ns = .ok () ns' ∧
        ns'.names = ns.names ∧ ns'.position = 1 ∧ (Naming.reserve 1).run ns' = .ok () ns' := by
  intro p t
  have hfilters : t.filterTrees = [p] := by
    simp [t, Predicate.filterTrees, Operand.filterTrees, Operand.allFilterTrees, p]
  have hcount : p.argCount = .ok countLimit := by rfl
  obtain ⟨hallocation, -, -, hroom⟩ := source_refused {} t rfl
  have hrefused : t.toSource {} = .error (.allocation countLimit) := by
    refine (hallocation countLimit).2 ⟨[t], p, [], ?_, ?_, hcount, nameCapacity_lt_countLimit⟩
    · rw [hfilters]
      rfl
    · intro q hq
      rw [List.mem_singleton.1 hq]
      exact ⟨4, rfl, by decide⟩
  obtain ⟨hnames, hshift⟩ := hroom 4 _ rfl rfl [.name "value"] _ _ rfl rfl
  exact ⟨rfl, rfl, hfilters, hrefused, _, _, rfl, rfl, hnames, rfl, (hshift 1 _ rfl).2⟩

end Criteria
