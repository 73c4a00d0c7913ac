import Criteria.Proofs.Session.Basic

/-!
# What the caches hold

A cell belongs to one node and one copy of it has another, so that each cell has one literal. In a
sound cache a cell that is filled holds what its literal comes to.

* `Caches.decoded?_decode_self`, `Caches.decoded?_decode_ne` — one cell is filled, the others stay.
* `Labels.Holds` — sound caches; `Labels.Holds.decode`, `Labels.Holds.prepare` keep them so.
-/

set_option autoImplicit false

namespace Criteria

namespace Caches

variable (c : Caches)

/-! ## Filling a cell -/

@[simp] theorem size_charsets_decode (cell : CharsetCell) (set : String) :
    (c.decode cell set).2.charsets.size = c.charsets.size := by
  unfold decode
  split
  · rfl
  · exact Array.size_setIfInBounds

@[simp] theorem size_patterns_prepare (cell : RegexCell) (source : String) (flags : Regex.Flags) :
    (c.prepare cell source flags).2.patterns.size = c.patterns.size := by
  unfold prepare
  split
  · rfl
  · exact Array.size_setIfInBounds

@[simp] theorem patterns_decode (cell : CharsetCell) (set : String) :
    (c.decode cell set).2.patterns = c.patterns := by
  unfold decode
  split <;> rfl

@[simp] theorem charsets_prepare (cell : RegexCell) (source : String) (flags : Regex.Flags) :
    (c.prepare cell source flags).2.charsets = c.charsets := by
  unfold prepare
  split <;> rfl

theorem decode_of_some {cell : CharsetCell} {chars : List Char} (set : String)
    (h : c.decoded? cell = some chars) : c.decode cell set = (chars, c) := by
  simp only [decode, h]

theorem prepare_of_some {cell : RegexCell} {prepared : Prepared} (source : String)
    (flags : Regex.Flags) (h : c.prepared? cell = some prepared) :
    c.prepare cell source flags = (prepared, c) := by
  simp only [prepare, h]

/-- Decoding a set fills the cell. -/
theorem decoded?_decode_self {cell : CharsetCell} (hcell : cell.index < c.charsets.size)
    (set : String) : (c.decode cell set).2.decoded? cell = some (c.decode cell set).1 := by
  cases h : c.decoded? cell with
  | some chars => rw [decode_of_some c set h, h]
  | none =>
    simp only [decode, h]
    rw [decoded?, Array.getElem?_setIfInBounds_self_of_lt hcell, Option.join_some]

/-- Decoding a set fills no other cell. -/
theorem decoded?_decode_ne {cell other : CharsetCell} (hne : other ≠ cell) (set : String) :
    (c.decode cell set).2.decoded? other = c.decoded? other := by
  cases h : c.decoded? cell with
  | some chars => rw [decode_of_some c set h]
  | none =>
    have hindex : cell.index ≠ other.index := fun hi =>
      hne (by cases other; cases cell; cases hi; rfl)
    simp only [decode, h]
    rw [decoded?, Array.getElem?_setIfInBounds_ne hindex, ← decoded?]

/-- Preparing a pattern fills the cell. -/
theorem prepared?_prepare_self {cell : RegexCell} (hcell : cell.index < c.patterns.size)
    (source : String) (flags : Regex.Flags) :
    (c.prepare cell source flags).2.prepared? cell = some (c.prepare cell source flags).1 := by
  cases h : c.prepared? cell with
  | some prepared => rw [prepare_of_some c source flags h, h]
  | none =>
    simp only [prepare, h]
    rw [prepared?, Array.getElem?_setIfInBounds_self_of_lt hcell, Option.join_some]

/-- Preparing a pattern fills no other cell. -/
theorem prepared?_prepare_ne {cell other : RegexCell} (hne : other ≠ cell) (source : String)
    (flags : Regex.Flags) :
    (c.prepare cell source flags).2.prepared? other = c.prepared? other := by
  cases h : c.prepared? cell with
  | some prepared => rw [prepare_of_some c source flags h]
  | none =>
    have hindex : cell.index ≠ other.index := fun hi =>
      hne (by cases other; cases cell; cases hi; rfl)
    simp only [prepare, h]
    rw [prepared?, Array.getElem?_setIfInBounds_ne hindex, ← prepared?]

/-! ## Cells that are there -/

section HasCell

variable {c} {c' : Caches} {x : Cell}

/-- The cell is one of the caches. -/
def HasCell (c : Caches) : Cell → Prop
  | .charset cell => cell.index < c.charsets.size
  | .pattern cell => cell.index < c.patterns.size

/-- A cell that is filled is there. -/
theorem hasCell_of_isFilled (h : c.isFilled x) : c.HasCell x := by
  cases x with
  | charset cell =>
    by_contra hout
    have hnone : c.charsets[cell.index]? = none := Array.getElem?_eq_none (Nat.le_of_not_lt hout)
    simp only [isFilled, decoded?, hnone, Option.join_none] at h
    cases h
  | pattern cell =>
    by_contra hout
    have hnone : c.patterns[cell.index]? = none := Array.getElem?_eq_none (Nat.le_of_not_lt hout)
    simp only [isFilled, prepared?, hnone, Option.join_none] at h
    cases h

theorem hasCell_congr (hcharsets : c'.charsets.size = c.charsets.size)
    (hpatterns : c'.patterns.size = c.patterns.size) (x : Cell) : c'.HasCell x ↔ c.HasCell x := by
  cases x with
  | charset cell => rw [HasCell, HasCell, hcharsets]
  | pattern cell => rw [HasCell, HasCell, hpatterns]

end HasCell

/-! ## New cells -/

theorem decoded?_newCharset (decoded : Option (List Char)) (cell : CharsetCell) :
    (c.newCharset decoded).2.decoded? cell =
      if cell = ⟨c.charsets.size⟩ then decoded else c.decoded? cell := by
  simp only [newCharset, decoded?, Array.getElem?_push]
  by_cases h : cell.index = c.charsets.size
  · have he : cell = ⟨c.charsets.size⟩ := by cases cell; cases h; rfl
    rw [if_pos h, if_pos he, Option.join_some]
  · have hne : cell ≠ ⟨c.charsets.size⟩ := fun he => h (by rw [he])
    rw [if_neg h, if_neg hne]

theorem prepared?_newPattern (cell : RegexCell) :
    c.newPattern.2.prepared? cell = c.prepared? cell := by
  simp only [newPattern, prepared?, Array.getElem?_push]
  split
  · rename_i h
    rw [Option.join_some, h, Array.getElem?_size, Option.join_none]
  · rfl

end Caches

/-! ## Sound caches -/

/-- The literals that the cells belong to. -/
structure Labels where
  charsets : Array String := #[]
  patterns : Array (String × Regex.Flags) := #[]

namespace Labels

variable {L L' : Labels} {c : Caches}

/-- The cell of the node, if it has one, belongs to the literal of the node. -/
def Covers (L : Labels) : Predicate → Prop
  | .charset cell set => L.charsets[cell.index]? = some set
  | .regex cell source flags => L.patterns[cell.index]? = some (source, flags)
  | _ => True

/-- The cells of the nodes belong to the literals of the nodes. -/
def Fits (L : Labels) (nodes : List Predicate) : Prop := ∀ p ∈ nodes, L.Covers p

/-- Each cell that is filled holds what its literal comes to. -/
structure Holds (L : Labels) (c : Caches) : Prop where
  size_charsets : c.charsets.size = L.charsets.size
  size_patterns : c.patterns.size = L.patterns.size
  decoded : ∀ (cell : CharsetCell) set chars, L.charsets[cell.index]? = some set →
    c.decoded? cell = some chars → chars = set.toList
  prepared : ∀ (cell : RegexCell) source flags prepared,
    L.patterns[cell.index]? = some (source, flags) → c.prepared? cell = some prepared →
      prepared = Regex.compile source flags

theorem Fits.append {ps qs : List Predicate} :
    L.Fits (ps ++ qs) ↔ L.Fits ps ∧ L.Fits qs :=
  List.forall_mem_append

theorem Fits.cons {p : Predicate} {ps : List Predicate} :
    L.Fits (p :: ps) ↔ L.Covers p ∧ L.Fits ps :=
  List.forall_mem_cons

theorem Fits.allNodes {xs : List Operand} (h : ∀ x ∈ xs, L.Fits x.nodes) :
    L.Fits (Operand.allNodes xs) := by
  induction xs with
  | nil => exact fun p hp => absurd hp List.not_mem_nil
  | cons x rest ih =>
    obtain ⟨hx, hrest⟩ := List.forall_mem_cons.1 h
    exact Fits.append.2 ⟨hx, ih hrest⟩

/-- A cell belongs to one node only. -/
theorem Covers.eq {p q : Predicate} {x : Cell} (hp : L.Covers p) (hq : L.Covers q)
    (hpx : p.cell? = some x) (hqx : q.cell? = some x) : p = q := by
  cases p with
  | charset cell set =>
    cases q with
    | charset cell' set' =>
      cases hpx
      cases hqx
      have hset : some set = some set' := hp.symm.trans hq
      cases hset
      rfl
    | regex => cases hpx; cases hqx
    | _ => cases hqx
  | regex cell source flags =>
    cases q with
    | charset => cases hpx; cases hqx
    | regex cell' source' flags' =>
      cases hpx
      cases hqx
      have hpattern : some (source, flags) = some (source', flags') := hp.symm.trans hq
      cases hpattern
      rfl
    | _ => cases hqx
  | _ => cases hpx

/-- The cell of a node is there. -/
theorem Holds.hasCell {p : Predicate} {x : Cell} (h : L.Holds c) (hp : L.Covers p)
    (hx : p.cell? = some x) : c.HasCell x := by
  cases p with
  | charset cell set =>
    cases hx
    rw [Caches.HasCell, h.size_charsets]
    exact (Array.getElem?_eq_some_iff.1 hp).1
  | regex cell source flags =>
    cases hx
    rw [Caches.HasCell, h.size_patterns]
    exact (Array.getElem?_eq_some_iff.1 hp).1
  | _ => cases hx

/-- Decoding gives the characters of the set, from the cell or not, and leaves the caches sound. -/
theorem Holds.decode (h : L.Holds c) {cell : CharsetCell} {set : String}
    (hcell : L.charsets[cell.index]? = some set) :
    (c.decode cell set).1 = set.toList ∧ L.Holds (c.decode cell set).2 := by
  have hchars : (c.decode cell set).1 = set.toList := by
    unfold Caches.decode
    split
    · rename_i chars hsome
      exact h.decoded cell set chars hcell hsome
    · rfl
  have hin : c.HasCell (.charset cell) := h.hasCell (p := .charset cell set) hcell rfl
  refine ⟨hchars, ?_, ?_, fun other set' chars hother hsome => ?_, ?_⟩
  · rw [Caches.size_charsets_decode, h.size_charsets]
  · rw [Caches.patterns_decode, h.size_patterns]
  · by_cases he : other = cell
    · rw [he, Caches.decoded?_decode_self c hin] at hsome
      rw [he, hcell] at hother
      cases hother
      cases hsome
      exact hchars
    · rw [Caches.decoded?_decode_ne c he] at hsome
      exact h.decoded other set' chars hother hsome
  · intro other source flags prepared hother hsome
    rw [Caches.prepared?, Caches.patterns_decode, ← Caches.prepared?] at hsome
    exact h.prepared other source flags prepared hother hsome

/-- Preparing gives what compiling the pattern comes to, from the cell or not, and leaves the caches
sound. -/
theorem Holds.prepare (h : L.Holds c) {cell : RegexCell} {source : String} {flags : Regex.Flags}
    (hcell : L.patterns[cell.index]? = some (source, flags)) :
    (c.prepare cell source flags).1 = Regex.compile source flags ∧
      L.Holds (c.prepare cell source flags).2 := by
  have hcompiled : (c.prepare cell source flags).1 = Regex.compile source flags := by
    unfold Caches.prepare
    split
    · rename_i prepared hsome
      exact h.prepared cell source flags prepared hcell hsome
    · rfl
  have hin : c.HasCell (.pattern cell) := h.hasCell (p := .regex cell source flags) hcell rfl
  refine ⟨hcompiled, ?_, ?_, ?_, fun other source' flags' prepared hother hsome => ?_⟩
  · rw [Caches.charsets_prepare, h.size_charsets]
  · rw [Caches.size_patterns_prepare, h.size_patterns]
  · intro other set chars hother hsome
    rw [Caches.decoded?, Caches.charsets_prepare, ← Caches.decoded?] at hsome
    exact h.decoded other set chars hother hsome
  · by_cases he : other = cell
    · rw [he, Caches.prepared?_prepare_self c hin] at hsome
      rw [he, hcell] at hother
      cases hother
      cases hsome
      exact hcompiled
    · rw [Caches.prepared?_prepare_ne c he] at hsome
      exact h.prepared other source' flags' prepared hother hsome

/-! ## More cells -/

/-- The labels `L'` are `L` with further ones. -/
structure Extends (L L' : Labels) : Prop where
  charsets : ∃ more, L'.charsets = L.charsets ++ more
  patterns : ∃ more, L'.patterns = L.patterns ++ more

theorem Extends.refl (L : Labels) : L.Extends L :=
  ⟨⟨#[], Array.append_empty.symm⟩, ⟨#[], Array.append_empty.symm⟩⟩

theorem Extends.trans {L'' : Labels} (h : L.Extends L') (h' : L'.Extends L'') : L.Extends L'' := by
  obtain ⟨⟨charsets, hcharsets⟩, patterns, hpatterns⟩ := h
  obtain ⟨⟨charsets', hcharsets'⟩, patterns', hpatterns'⟩ := h'
  refine ⟨⟨charsets ++ charsets', ?_⟩, patterns ++ patterns', ?_⟩
  · rw [hcharsets', hcharsets, Array.append_assoc]
  · rw [hpatterns', hpatterns, Array.append_assoc]

theorem getElem?_of_append {α : Type} {xs ys more : Array α} {k : Nat} {a : α}
    (hys : ys = xs ++ more) (h : xs[k]? = some a) : ys[k]? = some a := by
  obtain ⟨hk, -⟩ := Array.getElem?_eq_some_iff.1 h
  rw [hys, Array.getElem?_append_left hk, h]

/-- A cell keeps its literal. -/
theorem Covers.extend (h : L.Extends L') {p : Predicate} (hp : L.Covers p) : L'.Covers p := by
  obtain ⟨⟨more, hmore⟩, more', hmore'⟩ := h
  cases p with
  | charset cell set => exact getElem?_of_append hmore hp
  | regex cell source flags => exact getElem?_of_append hmore' hp
  | _ => trivial

theorem Fits.extend (h : L.Extends L') {ps : List Predicate} (hps : L.Fits ps) : L'.Fits ps :=
  fun p hp => (hps p hp).extend h

/-- A new character-set cell belongs to its set, and is empty or holds its characters. -/
theorem Holds.newCharset (h : L.Holds c) (set : String) (decoded : Option (List Char))
    (hdecoded : ∀ chars, decoded = some chars → chars = set.toList) : ∃ L', L.Extends L' ∧
      L'.Holds (c.newCharset decoded).2 ∧ L'.Covers (.charset (c.newCharset decoded).1 set) := by
  refine ⟨{ L with charsets := L.charsets.push set }, ?_, ?_, ?_⟩
  · exact ⟨⟨#[set], Array.push_eq_append⟩, ⟨#[], Array.append_empty.symm⟩⟩
  · refine ⟨?_, h.size_patterns, fun cell set' chars hcell hsome => ?_, h.prepared⟩
    · simp only [Caches.newCharset, Array.size_push, h.size_charsets]
    · rw [Caches.decoded?_newCharset] at hsome
      split at hsome
      · rename_i he
        rw [he, h.size_charsets, Array.getElem?_push_size] at hcell
        cases hcell
        exact hdecoded chars hsome
      · rename_i hne
        have hindex : cell.index ≠ L.charsets.size := by
          intro hi
          refine hne ?_
          rw [h.size_charsets, ← hi]
        simp only [Array.getElem?_push, if_neg hindex] at hcell
        exact h.decoded cell set' chars hcell hsome
  · simp only [Covers, Caches.newCharset, h.size_charsets, Array.getElem?_push_size]

/-- A new pattern cell belongs to its pattern, and is empty. -/
theorem Holds.newPattern (h : L.Holds c) (source : String) (flags : Regex.Flags) :
    ∃ L', L.Extends L' ∧ L'.Holds c.newPattern.2 ∧
      L'.Covers (.regex c.newPattern.1 source flags) := by
  refine ⟨{ L with patterns := L.patterns.push (source, flags) }, ?_, ?_, ?_⟩
  · exact ⟨⟨#[], Array.append_empty.symm⟩, ⟨#[(source, flags)], Array.push_eq_append⟩⟩
  · refine ⟨h.size_charsets, ?_, h.decoded, fun cell source' flags' prepared hcell hsome => ?_⟩
    · simp only [Caches.newPattern, Array.size_push, h.size_patterns]
    · rw [Caches.prepared?_newPattern] at hsome
      by_cases hi : cell.index = L.patterns.size
      -- nothing was prepared for a cell that is new
      · rw [Caches.prepared?, hi, ← h.size_patterns, Array.getElem?_size] at hsome
        cases hsome
      · simp only [Array.getElem?_push, if_neg hi] at hcell
        exact h.prepared cell source' flags' prepared hcell hsome
  · simp only [Covers, Caches.newPattern, h.size_patterns, Array.getElem?_push_size]

end Labels

end Criteria
