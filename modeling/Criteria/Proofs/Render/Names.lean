import Criteria.Render.Names
import Mathlib.Data.Finset.Card

/-!
# Handing out names

* `ParamNames.WellFormed` — what holds of every list of names: no name stands in it twice.
* `ParamNames.Valid` — a well-formed list that is no longer than a list can be.
* `ParamNames.Advance` — what handing out `n` names does to a list.
* `Naming.Draws` — a step that consists of requests for `n` names.
* `Naming.Takes` — a step that hands out `n` names from every valid list.

`fresh_eq_candidate` — a fresh name is the first candidate that is not taken.
`seeded_names` — a list of generated names is the letter names in order, all of them different.
`Draws.takes` — a step that consists of requests hands out as many names.
-/

set_option autoImplicit false

namespace Criteria

variable {α β : Type}

namespace ParamNames

/-! ## Fresh names -/

theorem toList_toString (n : Nat) : (toString n).toList = Nat.toDigits 10 n := by
  rw [Nat.toString_eq_repr, Nat.toList_repr]

/-- Decimal numerals are different for different numbers. -/
theorem toDigits_injective : Function.Injective (Nat.toDigits 10) := by
  intro m n h
  have hm : Nat.ofDigitChars 10 (Nat.toDigits 10 m) 0 = m := by simp
  rw [← hm, h]
  simp

theorem append_toString_injective (hint : String) :
    Function.Injective fun n : Nat => hint ++ toString n := by
  intro m n h
  have hlist := congrArg String.toList h
  simp only [String.toList_append, toList_toString] at hlist
  exact toDigits_injective (List.append_cancel_left hlist)

/-- The names that are tried for a hint, in order: the hint, then the hint with 2, 3, … -/
def candidate (hint : String) : Nat → String
  | 0 => hint
  | k + 1 => hint ++ toString (k + 2)

theorem candidate_injective (hint : String) : Function.Injective (candidate hint) := by
  have hne : ∀ k, hint ≠ candidate hint (k + 1) := by
    intro k h
    have hlist := congrArg String.toList h
    rw [candidate, String.toList_append, toList_toString] at hlist
    simp at hlist
  intro i j h
  cases i with
  | zero =>
    cases j with
    | zero => rfl
    | succ j => exact absurd h (hne j)
  | succ i =>
    cases j with
    | zero => exact absurd h.symm (hne i)
    | succ j =>
      have hij := append_toString_injective hint h
      omega

/-- The candidates are different, so no more of the first ones are taken than there are names. -/
theorem le_card_of_candidates {taken : List String} {hint : String} {k : Nat}
    (h : ∀ j < k, candidate hint j ∈ taken) : k ≤ taken.toFinset.card := by
  have hsub : (Finset.range k).image (candidate hint) ⊆ taken.toFinset := by
    intro name hname
    obtain ⟨j, hj, rfl⟩ := Finset.mem_image.mp hname
    exact List.mem_toFinset.mpr (h j (Finset.mem_range.mp hj))
  have hcard := Finset.card_le_card hsub
  rwa [Finset.card_image_of_injective _ (candidate_injective hint), Finset.card_range] at hcard

/-- The search ends at the first candidate after `k` that is not taken, or all it tried are. -/
theorem freshFrom_cases (taken : List String) (hint : String) : ∀ fuel k,
    (∀ j, k < j → j ≤ k + fuel → candidate hint j ∈ taken) ∨
      ∃ j, k < j ∧ freshFrom taken hint fuel (k + 2) = candidate hint j ∧
        candidate hint j ∉ taken ∧ ∀ i, k < i → i < j → candidate hint i ∈ taken
  | 0, k => .inl fun j hj hj' => by omega
  | fuel + 1, k => by
    by_cases hc : candidate hint (k + 1) ∈ taken
    · have hstep : freshFrom taken hint (fuel + 1) (k + 2) = freshFrom taken hint fuel (k + 3) :=
        if_pos (List.contains_iff_mem.mpr hc)
      have hnext : ∀ j, k < j → j = k + 1 ∨ k + 1 < j := fun j hj => by omega
      rcases freshFrom_cases taken hint fuel (k + 1) with h | ⟨j, hj, heq, hfree, hbefore⟩
      · refine .inl fun j hj hj' => ?_
        rcases hnext j hj with rfl | hlt
        · exact hc
        · exact h j hlt (by omega)
      · refine .inr ⟨j, by omega, hstep.trans heq, hfree, fun i hi hi' => ?_⟩
        rcases hnext i hi with rfl | hlt
        · exact hc
        · exact hbefore i hlt hi'
    · have hstep : freshFrom taken hint (fuel + 1) (k + 2) = candidate hint (k + 1) :=
        if_neg (mt List.contains_iff_mem.mp hc)
      exact .inr ⟨k + 1, Nat.lt_succ_self k, hstep, hc, fun i hi hi' => by omega⟩

/-- A fresh name is the first candidate that is not taken. No more candidates are tried than there
are names in use, and one. -/
theorem fresh_eq_candidate (ns : ParamNames) (hint : String) :
    ∃ k ≤ ns.taken.toFinset.card, ns.fresh hint = candidate hint k ∧
      candidate hint k ∉ ns.taken ∧ ∀ j < k, candidate hint j ∈ ns.taken := by
  by_cases hh : hint ∈ ns.taken
  · have hfresh : ns.fresh hint = freshFrom ns.taken hint (ns.taken.length + 1) 2 := by
      simp [fresh, hh]
    have hzero : ∀ {j : Nat}, (0 < j → candidate hint j ∈ ns.taken) → candidate hint j ∈ ns.taken := by
      intro j hpos
      cases j with
      | zero => exact hh
      | succ j => exact hpos (Nat.succ_pos j)
    rcases freshFrom_cases ns.taken hint (ns.taken.length + 1) 0 with
      hall | ⟨k, -, heq, hfree, hbefore⟩
    · have hcard := le_card_of_candidates (k := ns.taken.length + 2) fun j hj =>
        hzero fun hpos => hall j hpos (by omega)
      have hlen := List.toFinset_card_le ns.taken
      omega
    · have htaken : ∀ j < k, candidate hint j ∈ ns.taken := fun j hj =>
        hzero fun hpos => hbefore j hpos hj
      exact ⟨k, le_card_of_candidates htaken, hfresh.trans heq, hfree, htaken⟩
  · have hfresh : ns.fresh hint = hint := by simp [fresh, hh]
    exact ⟨0, Nat.zero_le _, hfresh, hh, nofun⟩

theorem fresh_notMem (ns : ParamNames) (hint : String) : ns.fresh hint ∉ ns.taken := by
  obtain ⟨k, -, heq, hfree, -⟩ := fresh_eq_candidate ns hint
  rwa [heq]

/-- The hints that names are made from. -/
def hints : List String := ["value", "chars", "string", "input", "object", "key", "skip", "arg"]

/-- The name is a hint or a hint with a number. -/
def IsMade (name : String) : Prop :=
  ∃ hint ∈ hints, name = hint ∨ ∃ n : Nat, name = hint ++ toString n

theorem isMade_fresh (ns : ParamNames) {hint : String} (h : hint ∈ hints) :
    IsMade (ns.fresh hint) := by
  obtain ⟨k, -, heq, -, -⟩ := fresh_eq_candidate ns hint
  refine ⟨hint, h, ?_⟩
  cases k with
  | zero => exact .inl heq
  | succ k => exact .inr ⟨k + 2, heq⟩

/-! ## Well-formed lists -/

theorem insert_of_mem {ns : ParamNames} {name : String} (h : name ∈ ns.taken) :
    ns.insert name = ns := by
  simp [insert, h]

theorem insert_of_notMem {ns : ParamNames} {name : String} (h : name ∉ ns.taken) :
    ns.insert name = { ns with names := ns.names.push name, taken := name :: ns.taken } := by
  simp [insert, h]

/-- What holds of every list of names. -/
structure WellFormed (ns : ParamNames) : Prop where
  nodup : ns.names.toList.Nodup
  taken : ∀ name, name ∈ ns.taken ↔ name ∈ ns.names.toList
  position : ns.position ≤ ns.names.size

theorem wellFormed_empty : WellFormed {} := by
  refine ⟨List.nodup_nil, fun name => ?_, Nat.le_refl 0⟩
  simp

theorem WellFormed.insert {ns : ParamNames} (h : ns.WellFormed) (name : String) :
    (ns.insert name).WellFormed := by
  by_cases hmem : name ∈ ns.taken
  · rwa [insert_of_mem hmem]
  · rw [insert_of_notMem hmem]
    have hnew := mt (h.taken name).mpr hmem
    refine ⟨?_, fun other => ?_, ?_⟩
    · rw [Array.toList_push]
      exact List.nodup_append.mpr ⟨h.nodup, List.nodup_singleton _, by
        intro a ha b hb
        rw [List.mem_singleton.mp hb]
        exact fun hab => hnew (hab ▸ ha)⟩
    · rw [Array.toList_push, List.mem_append, List.mem_singleton, List.mem_cons, h.taken]
      exact or_comm
    · rw [Array.size_push]; exact Nat.le_succ_of_le h.position

/-! ## Valid lists -/

/-- A well-formed list that is no longer than a list can be. -/
structure Valid (ns : ParamNames) : Prop where
  nodup : ns.names.toList.Nodup
  taken : ∀ name, name ∈ ns.taken ↔ name ∈ ns.names.toList
  size : ns.names.size ≤ nameCapacity
  position : ns.position ≤ ns.names.size

namespace Valid

variable {ns : ParamNames}

theorem wellFormed (h : ns.Valid) : ns.WellFormed := ⟨h.nodup, h.taken, h.position⟩

theorem ofWellFormed (h : ns.WellFormed) (hsize : ns.names.size ≤ nameCapacity) : ns.Valid :=
  ⟨h.nodup, h.taken, hsize, h.position⟩

theorem rewind (h : ns.Valid) : ns.rewind.Valid :=
  ⟨h.nodup, h.taken, h.size, Nat.zero_le _⟩

theorem insert (h : ns.Valid) {name : String} (hsize : ns.names.size + 1 ≤ nameCapacity) :
    (ns.insert name).Valid := by
  refine .ofWellFormed (h.wellFormed.insert name) ?_
  by_cases hmem : name ∈ ns.taken
  · rw [insert_of_mem hmem]; exact h.size
  · rw [insert_of_notMem hmem, Array.size_push]; exact hsize

end Valid

theorem valid_empty : Valid {} := .ofWellFormed wellFormed_empty (Nat.zero_le _)

/-- Lists of given names are valid; a list of more names than there can be is not given. -/
theorem valid_ofNames {names : List String} (h : names.length ≤ nameCapacity) :
    (ofNames names).Valid := by
  have hgo : ∀ (names : List String) (ns : ParamNames), ns.Valid →
      ns.names.size + names.length ≤ nameCapacity → (names.foldl ParamNames.insert ns).Valid := by
    intro names
    induction names with
    | nil => intro ns hns _; exact hns
    | cons name rest ih =>
      intro ns hns hlen
      rw [List.length_cons] at hlen
      refine ih _ (hns.insert (by omega)) ?_
      by_cases hmem : name ∈ ns.taken
      · rw [insert_of_mem hmem]; omega
      · rw [insert_of_notMem hmem, Array.size_push]; omega
  exact hgo names {} valid_empty (by simpa using h)

/-! ## Generated names -/

theorem toNat_letter (i : Nat) : (Char.ofNat ('a'.toNat + i % 26)).toNat = 97 + i % 26 := by
  have hletters : ∀ k < 26, (Char.ofNat ('a'.toNat + k)).toNat = 97 + k := by decide
  exact hletters _ (Nat.mod_lt i (by omega))

/-- A generated name is a letter and the number of its round. -/
theorem toList_letterName (i : Nat) : (letterName i).toList =
    Char.ofNat ('a'.toNat + i % 26) :: if i < 26 then [] else Nat.toDigits 10 (i / 26) := by
  unfold letterName
  split
  · rw [String.toList_singleton]
  · rw [String.toList_append, String.toList_singleton, toList_toString]
    rfl

theorem letterName_injective : Function.Injective letterName := by
  intro i j h
  have hlist := congrArg String.toList h
  rw [toList_letterName, toList_letterName, List.cons.injEq] at hlist
  obtain ⟨hletter, hround⟩ := hlist
  have hmod : i % 26 = j % 26 := by
    have hnat := congrArg Char.toNat hletter
    rw [toNat_letter, toNat_letter] at hnat
    omega
  have hdiv : i / 26 = j / 26 := by
    split at hround <;> split at hround
    · omega
    · exact absurd hround.symm (by simp)
    · exact absurd hround (by simp)
    · exact toDigits_injective hround
  omega

/-- The generated names of the first `count` arguments. -/
def letterNames (count : Nat) : List String := (List.range count).map letterName

@[simp] theorem length_letterNames (count : Nat) : (letterNames count).length = count := by
  rw [letterNames, List.length_map, List.length_range]

theorem nodup_letterNames (count : Nat) : (letterNames count).Nodup :=
  List.Nodup.map letterName_injective List.nodup_range

/-- A list whose names are the first letter names. -/
structure IsSeeded (ns : ParamNames) (count : Nat) : Prop where
  names : ns.names.toList = letterNames count
  taken : ∀ name, name ∈ ns.taken ↔ name ∈ ns.names.toList
  position : ns.position = 0

theorem IsSeeded.insertLetters : ∀ {k index : Nat} {ns : ParamNames}, ns.IsSeeded index →
    (ns.insertLetters k index).IsSeeded (index + k)
  | 0, _, _, h => h
  | k + 1, index, ns, h => by
    have hnew : letterName index ∉ ns.taken := by
      rw [h.taken, h.names, letterNames, List.mem_map]
      rintro ⟨i, hi, heq⟩
      rw [letterName_injective heq, List.mem_range] at hi
      omega
    have hnext : (ns.insert (letterName index)).IsSeeded (index + 1) := by
      rw [insert_of_notMem hnew]
      refine ⟨?_, fun name => ?_, h.position⟩
      · rw [Array.toList_push, h.names, letterNames, letterNames, List.range_succ, List.map_append]
        rfl
      · rw [Array.toList_push, List.mem_append, List.mem_singleton, List.mem_cons, h.taken]
        exact or_comm
    have hrest := hnext.insertLetters (k := k)
    rw [show index + (k + 1) = index + 1 + k by omega]
    exact hrest

theorem IsSeeded.wellFormed {ns : ParamNames} {count : Nat} (h : ns.IsSeeded count) :
    ns.WellFormed :=
  ⟨h.names ▸ nodup_letterNames count, h.taken, h.position ▸ Nat.zero_le _⟩

theorem IsSeeded.valid {ns : ParamNames} {count : Nat} (h : ns.IsSeeded count)
    (hcount : count ≤ nameCapacity) : ns.Valid := by
  refine .ofWellFormed h.wellFormed ?_
  have hlen := congrArg List.length h.names
  rw [length_letterNames, Array.length_toList] at hlen
  omega

/-- A list of generated names has the first letter names, and there is one unless it is too long. -/
theorem seeded_names (count : Nat) :
    (nameCapacity < count ∧ seeded count = .error (.allocation count)) ∨
      (count ≤ nameCapacity ∧ ∃ ns, seeded count = .ok ns ∧ ns.IsSeeded count) := by
  unfold seeded
  by_cases h : nameCapacity < count
  · exact .inl ⟨h, if_pos h⟩
  · have hempty : ({} : ParamNames).IsSeeded 0 := ⟨rfl, fun name => by simp, rfl⟩
    have hseeded := hempty.insertLetters (k := count)
    rw [Nat.zero_add] at hseeded
    exact .inr ⟨Nat.le_of_not_lt h, _, if_neg h, hseeded⟩

/-! ## Advances -/

/-- From one list to another, `n` names were handed out. Names that are there stay where they are,
and names made from hints are added only past the end. -/
structure Advance (n : Nat) (ns ns' : ParamNames) : Prop where
  valid : ns'.Valid
  position : ns'.position = ns.position + n
  names : ns.names.toList <+: ns'.names.toList
  size : ns'.names.size = max ns.names.size (ns.position + n)
  made : ∀ name ∈ ns'.names.toList, name ∈ ns.names.toList ∨ IsMade name

namespace Advance

variable {ns ns' ns'' : ParamNames} {n k : Nat}

theorem refl (h : ns.Valid) : Advance 0 ns ns :=
  ⟨h, rfl, List.prefix_refl _, by have := h.position; omega, fun _ hname => .inl hname⟩

theorem trans (h : Advance n ns ns') (h' : Advance k ns' ns'') : Advance (n + k) ns ns'' := by
  refine ⟨h'.valid, ?_, h.names.trans h'.names, ?_, fun name hname => ?_⟩
  · rw [h'.position, h.position, Nat.add_assoc]
  · rw [h'.size, h.size, h.position]
    omega
  · rcases h'.made name hname with hold | hmade
    · exact h.made name hold
    · exact .inr hmade

/-- The names that were handed out are a slice of the list. -/
theorem since_eq (h : Advance n ns ns') :
    ns'.since ns.position = (ns'.names.toList.drop ns.position).take n := by
  unfold since
  rw [h.position, List.drop_take, Nat.add_sub_cancel_left]

/-- Nothing is added while there are names enough. -/
theorem names_eq (h : Advance n ns ns') (hn : ns.position + n ≤ ns.names.size) :
    ns'.names = ns.names := by
  have hsize := h.size
  rw [Nat.max_eq_left hn] at hsize
  exact Array.toList_inj.mp (h.names.eq_of_length (by simp [hsize])).symm

end Advance

end ParamNames

/-! ## Steps that hand out names -/

namespace Naming

open ParamNames

theorem run_bind_ok {x : Naming α} {f : α → Naming β} {a : α} {ns ns' : ParamNames}
    (h : x.run ns = .ok a ns') : (x >>= f).run ns = (f a).run ns' := by
  rw [EStateM.run_bind, h]

theorem run_bind_error {x : Naming α} {f : α → Naming β} {e : RenderFailure} {ns ns' : ParamNames}
    (h : x.run ns = .error e ns') : (x >>= f).run ns = .error e ns' := by
  rw [EStateM.run_bind, h]

/-- A sequence of two steps that succeeds: both do. -/
theorem ok_of_bind {x : Naming α} {f : α → Naming β} {b : β} {ns ns'' : ParamNames}
    (h : (x >>= f).run ns = .ok b ns'') :
    ∃ a ns', x.run ns = .ok a ns' ∧ (f a).run ns' = .ok b ns'' := by
  cases hx : x.run ns with
  | ok a ns' => exact ⟨a, ns', rfl, run_bind_ok hx ▸ h⟩
  | error e ns' => rw [run_bind_error hx] at h; cases h

/-- A sequence of two steps that fails: one of them does. -/
theorem error_of_bind {x : Naming α} {f : α → Naming β} {e : RenderFailure} {ns ns'' : ParamNames}
    (h : (x >>= f).run ns = .error e ns'') :
    x.run ns = .error e ns'' ∨ ∃ a ns', x.run ns = .ok a ns' ∧ (f a).run ns' = .error e ns'' := by
  cases hx : x.run ns with
  | ok a ns' => exact .inr ⟨a, ns', rfl, run_bind_ok hx ▸ h⟩
  | error e' ns' =>
    rw [run_bind_error hx] at h
    cases h
    exact .inl rfl

/-- The step hands out `n` names from every valid list, or at most as many before it fails. -/
structure Takes (n : Nat) (x : Naming α) : Prop where
  ok : ∀ {ns a ns'}, ns.Valid → x.run ns = .ok a ns' → Advance n ns ns'
  error : ∀ {ns e ns'}, ns.Valid → x.run ns = .error e ns' → ∃ k ≤ n, Advance k ns ns'

namespace Takes

variable {n k : Nat} {x : Naming α} {f : α → Naming β}

theorem pure (a : α) : Takes 0 (Pure.pure a : Naming α) := by
  refine ⟨fun hns h => ?_, nofun⟩
  cases h
  exact .refl hns

theorem throw (e : RenderFailure) (n : Nat) : Takes n (throw e : Naming α) := by
  refine ⟨nofun, fun hns h => ?_⟩
  cases h
  exact ⟨0, Nat.zero_le n, .refl hns⟩

theorem bind (hx : x.Takes n) (hf : ∀ a, (f a).Takes k) : (x >>= f).Takes (n + k) := by
  constructor
  · intro ns b ns'' hns h
    obtain ⟨a, ns', ha, hb⟩ := ok_of_bind h
    have hadv := hx.ok hns ha
    exact hadv.trans ((hf a).ok hadv.valid hb)
  · intro ns e ns'' hns h
    rcases error_of_bind h with he | ⟨a, ns', ha, he⟩
    · obtain ⟨j, hj, hadv⟩ := hx.error hns he
      exact ⟨j, Nat.le_add_right_of_le hj, hadv⟩
    · have hadv := hx.ok hns ha
      obtain ⟨j, hj, hadv'⟩ := (hf a).error hadv.valid he
      exact ⟨n + j, Nat.add_le_add_left hj n, hadv.trans hadv'⟩

end Takes

theorem run_next (hint : String) (ns : ParamNames) : (next hint).run ns =
    if ns.names.size ≤ ns.position ∧ nameCapacity < ns.names.size + 1 then
      .error (.allocation (ns.names.size + 1)) ns
    else
      let ns' := if ns.position < ns.names.size then ns else ns.insert (ns.fresh hint)
      .ok (ns'.names.getD ns'.position hint) { ns' with position := ns'.position + 1 } := by
  unfold next
  simp only [EStateM.run_bind, EStateM.run_get]
  split <;> rfl

/-- The name at the position is handed out when there is one. -/
theorem run_next_of_lt {ns : ParamNames} (hint : String) (h : ns.position < ns.names.size) :
    (next hint).run ns = .ok ns.names[ns.position] { ns with position := ns.position + 1 } := by
  rw [run_next, if_neg (by omega), if_pos h]
  simp only [Array.getD, h, dif_pos]
  rfl

/-- Past the end a fresh name is handed out, unless the list is full. -/
theorem run_next_of_eq {ns : ParamNames} (hint : String) (h : ns.position = ns.names.size) :
    (next hint).run ns =
      if nameCapacity < ns.names.size + 1 then .error (.allocation (ns.names.size + 1)) ns
      else .ok (ns.fresh hint)
        ⟨ns.names.push (ns.fresh hint), ns.fresh hint :: ns.taken, ns.position + 1⟩ := by
  have hnlt : ¬ns.position < ns.names.size := by omega
  by_cases hcap : nameCapacity < ns.names.size + 1
  · rw [run_next, if_pos ⟨Nat.le_of_eq h.symm, hcap⟩, if_pos hcap]
  · rw [run_next, if_neg (fun hfull => hcap hfull.2), if_neg hcap, if_neg hnlt,
      insert_of_notMem (fresh_notMem ns hint)]
    simp only [h, Array.getD, Array.size_push, Nat.lt_add_one, dif_pos,
      Array.getInternal_eq_getElem, Array.getElem_push_eq]

/-- A name that is asked for is the one at the position. There is one: the list is not used up, or a
name that is not in it is added at its end. -/
theorem wellFormed_next {hint name : String} {ns ns' : ParamNames} (hns : ns.WellFormed)
    (h : (next hint).run ns = .ok name ns') :
    ns'.WellFormed ∧ ns'.position = ns.position + 1 ∧ ns.names.toList <+: ns'.names.toList ∧
      ns'.names[ns.position]? = some name := by
  rcases Nat.eq_or_lt_of_le hns.position with hend | hlt
  · rw [run_next_of_eq hint hend] at h
    split at h
    · cases h
    · cases h
      have hadded := hns.insert (ns.fresh hint)
      rw [insert_of_notMem (fresh_notMem ns hint)] at hadded
      refine ⟨⟨hadded.nodup, hadded.taken, ?_⟩, rfl, ?_, ?_⟩
      · simp only [Array.size_push, hend, Nat.le_refl]
      · rw [Array.toList_push]; exact List.prefix_append _ _
      · rw [hend, Array.getElem?_push_size]
  · rw [run_next_of_lt hint hlt] at h
    cases h
    exact ⟨⟨hns.nodup, hns.taken, hlt⟩, rfl, List.prefix_refl _, Array.getElem?_eq_getElem hlt⟩

/-- There is no name only when the list is used up and can be no longer. -/
theorem next_error {hint : String} {e : RenderFailure} {ns ns' : ParamNames} (hns : ns.WellFormed)
    (h : (next hint).run ns = .error e ns') :
    ns.position = ns.names.size ∧ nameCapacity < ns.names.size + 1 ∧
      e = .allocation (ns.names.size + 1) ∧ ns' = ns := by
  rw [run_next] at h
  split at h
  · rename_i hfull
    cases h
    exact ⟨Nat.le_antisymm hns.position hfull.1, hfull.2, rfl, rfl⟩
  · cases h

theorem takes_next {hint : String} (hhint : hint ∈ hints) : (next hint).Takes 1 := by
  constructor
  · intro ns name ns' hns h
    obtain ⟨hwf, hposition, hgrows, -⟩ := wellFormed_next hns.wellFormed h
    rcases Nat.eq_or_lt_of_le hns.position with hend | hlt
    · rw [run_next_of_eq hint hend] at h
      split at h
      · cases h
      · rename_i hcap
        cases h
        refine ⟨.ofWellFormed hwf ?_, hposition, hgrows, ?_, fun name hname => ?_⟩
        · rw [Array.size_push]; exact Nat.le_of_not_lt hcap
        · rw [Array.size_push]; omega
        · rw [Array.toList_push, List.mem_append, List.mem_singleton] at hname
          rcases hname with hold | rfl
          · exact .inl hold
          · exact .inr (isMade_fresh ns hhint)
    · rw [run_next_of_lt hint hlt] at h
      cases h
      exact ⟨.ofWellFormed hwf hns.size, hposition, hgrows, by simp only; omega,
        fun _ hname => .inl hname⟩
  · intro ns e ns' hns h
    obtain ⟨-, -, -, rfl⟩ := next_error hns.wellFormed h
    exact ⟨0, Nat.zero_le 1, .refl hns⟩

theorem run_reserve (count : Nat) (ns : ParamNames) : (reserve count).run ns =
    if ns.names.size < capCount (ns.position + count) ∧
        nameCapacity < capCount (ns.position + count) then
      .error (.allocation (capCount (ns.position + count))) ns
    else .ok () ns := by
  unfold reserve
  simp only [EStateM.run_bind, EStateM.run_get]
  split <;> rfl

theorem takes_reserve (count : Nat) : (reserve count).Takes 0 := by
  constructor
  · intro ns a ns' hns h
    rw [run_reserve] at h
    split at h <;> cases h
    exact .refl hns
  · intro ns e ns' hns h
    rw [run_reserve] at h
    split at h <;> cases h
    exact ⟨0, Nat.le_refl 0, .refl hns⟩

/-- The step consists of requests for names, `n` of them unless it fails, and of requests for room. -/
inductive Draws : {α : Type} → Nat → Naming α → Prop where
  | pure {α : Type} (a : α) : Draws 0 (Pure.pure a : Naming α)
  | throw {α : Type} (e : RenderFailure) (n : Nat) : Draws n (throw e : Naming α)
  | get : Draws 0 (get : Naming ParamNames)
  | reserve (count : Nat) : Draws 0 (reserve count)
  | next {hint : String} (h : hint ∈ hints) : Draws 1 (next hint)
  | bind {α β : Type} {n k : Nat} {x : Naming α} {f : α → Naming β} (hx : Draws n x)
      (hf : ∀ a, Draws k (f a)) : Draws (n + k) (x >>= f)

namespace Draws

variable {n : Nat} {x : Naming α} {f : α → Naming β}

/-- What follows a step may hand out nothing. -/
theorem bindNone (hx : Draws n x) (hf : ∀ a, Draws 0 (f a)) : Draws n (x >>= f) :=
  hx.bind hf

/-- A step may hand out nothing. -/
theorem noneBind (hx : Draws 0 x) (hf : ∀ a, Draws n (f a)) : Draws n (x >>= f) := by
  have h := hx.bind hf
  rwa [Nat.zero_add] at h

theorem ofExcept (x : Except Fault α) : Draws 0 (Naming.ofExcept x) := by
  cases x with
  | ok a => exact .pure a
  | error f => exact .throw _ 0

theorem nextMany {hint : String} (h : hint ∈ hints) : ∀ count, Draws count (Naming.nextMany hint count)
  | 0 => .pure []
  | count + 1 => by
    rw [Naming.nextMany, Nat.add_comm]
    exact (Draws.next h).bind fun _ => (nextMany h count).bindNone fun _ => .pure _

/-- As many names are handed out as are asked for. -/
theorem takes (h : Draws n x) : x.Takes n := by
  induction h with
  | pure a => exact .pure a
  | throw e n => exact .throw e n
  | get =>
    refine ⟨fun hns h => ?_, nofun⟩
    cases h
    exact .refl hns
  | reserve count => exact takes_reserve count
  | next hhint => exact takes_next hhint
  | bind _ _ ihx ihf => exact ihx.bind ihf

end Draws

end Naming

end Criteria
