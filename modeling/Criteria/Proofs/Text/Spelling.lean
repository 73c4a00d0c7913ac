import Criteria.Proofs.Render.Grammar
import Criteria.Proofs.Text.Digits
import Criteria.Text.Quoted
import Mathlib.Data.List.Forall2

/-!
# What stands between quotes

Between the quotes a character is spelled: it stands there itself, or an escape stands for it. From the
left it can be seen which it is and where it ends, whatever stands behind it.

* `Spells` — the spellings of a character.
* `unquoteBody?` — reads what stands between quotes, and refuses what is not spelled.

Principal results:

* `spells_quoteChar` — a quoted text is made of spellings of its characters.
* `Spells.unique`, `spellings_unique` — a spelling is told from what stands behind it.
* `unquoteBody?_eq_some_iff` — what is read is what is spelled.
-/

set_option autoImplicit false

namespace Criteria.Text

/-! ## Characters of escapes -/

variable {c c' d : Char}

theorem toNat_of_isControl (h : isControl c) : c.toNat < 0xa0 := by
  simp only [isControl, Bool.or_eq_true, Bool.and_eq_true, decide_eq_true_eq] at h
  omega

theorem toNat_of_isHexDigit (h : IsHexDigit c) : 48 ≤ c.toNat ∧ c.toNat ≤ 57 ∨
    97 ≤ c.toNat ∧ c.toNat ≤ 102 ∨ 65 ≤ c.toNat ∧ c.toNat ≤ 70 := h

/-- A hexadecimal digit is no character that is escaped. -/
theorem plain_of_isHexDigit (h : IsHexDigit c) : c ≠ '"' ∧ c ≠ '\\' ∧ isControl c = false := by
  have hbounds := toNat_of_isHexDigit h
  refine ⟨?_, ?_, ?_⟩
  · rintro rfl
    exact absurd hbounds (by decide)
  · rintro rfl
    exact absurd hbounds (by decide)
  · rw [← Bool.not_eq_true]
    intro hcontrol
    simp only [isControl, Bool.or_eq_true, Bool.and_eq_true, decide_eq_true_eq] at hcontrol
    omega

theorem escapeLetter_of_unescape? (h : Grammar.unescape? d = some c) :
    d = '"' ∨ d = '\\' ∨ d = 'n' ∨ d = 'r' ∨ d = 't' := by
  unfold Grammar.unescape? at h
  split at h <;> simp_all

/-! ## Spellings -/

/-- What may stand between quotes for a character: the character itself, the letter of its escape, or
its number in four hexadecimal digits. -/
inductive Spells : List Char → Char → Prop where
  | plain {c : Char} (hquote : c ≠ '"') (hslash : c ≠ '\\') (hcontrol : isControl c = false) :
      Spells [c] c
  | letter {d c : Char} (h : Grammar.unescape? d = some c) : Spells ['\\', d] c
  | numbered {ds : List Char} {c : Char} (hlength : ds.length = 4) (h : hex? ds = some c.toNat) :
      Spells ('\\' :: 'u' :: ds) c

variable {part part' body k k' : List Char} {parts parts' : List (List Char)} {cs cs' : List Char}

namespace Spells

theorem ne_nil (h : Spells part c) : part ≠ [] := by
  cases h <;> simp

/-- No control character is needed to spell one. -/
theorem isControl_eq_false (h : Spells part c) : ∀ d ∈ part, isControl d = false := by
  intro d hd
  cases h with
  | plain _ _ hcontrol =>
    rw [List.mem_singleton.1 hd]
    exact hcontrol
  | letter hletter =>
    rcases List.mem_pair.1 hd with rfl | rfl
    · decide
    · rcases escapeLetter_of_unescape? hletter with rfl | rfl | rfl | rfl | rfl <;> decide
  | numbered _ hds =>
    simp only [List.mem_cons] at hd
    rcases hd with rfl | rfl | hd
    · decide
    · decide
    · have hdigits := (hex?_isSome_iff.1 (Option.isSome_of_eq_some hds)).2
      exact (plain_of_isHexDigit (hdigits d hd)).2.2

/-- A spelling is told from what stands behind it, and spells one character. -/
theorem unique (h : Spells part c) (h' : Spells part' c') (heq : part ++ k = part' ++ k') :
    part = part' ∧ c = c' ∧ k = k' := by
  cases h with
  | plain _ hslash _ =>
    cases h' with
    | plain => simp_all
    | letter | numbered => exact absurd (List.cons.inj heq).1 hslash
  | letter hletter =>
    cases h' with
    | plain _ hslash _ => exact absurd (List.cons.inj heq).1.symm hslash
    | letter => simp_all
    | numbered =>
      -- `u` is no letter of an escape
      simp only [List.cons_append, List.cons.injEq, true_and] at heq
      rw [heq.1] at hletter
      cases hletter
  | numbered hlength hds =>
    cases h' with
    | plain _ hslash _ => exact absurd (List.cons.inj heq).1.symm hslash
    | letter hletter =>
      simp only [List.cons_append, List.cons.injEq, true_and] at heq
      rw [← heq.1] at hletter
      cases hletter
    | numbered hlength' hds' =>
      simp only [List.cons_append, List.cons.injEq, true_and] at heq
      obtain ⟨rfl, hk⟩ := List.append_inj heq (hlength.trans hlength'.symm)
      rw [hds, Option.some.injEq, Char.toNat_inj] at hds'
      exact ⟨rfl, hds', hk⟩

end Spells

/-- The spellings of a text can be told apart when they stand one behind the other. -/
theorem spellings_unique (h : List.Forall₂ Spells parts cs) (h' : List.Forall₂ Spells parts' cs')
    (heq : parts.flatten = parts'.flatten) : parts = parts' ∧ cs = cs' := by
  induction h generalizing parts' cs' with
  | nil =>
    cases h' with
    | nil => exact ⟨rfl, rfl⟩
    | cons hpart _ => simp [hpart.ne_nil] at heq
  | cons hpart _ ih =>
    cases h' with
    | nil => simp [hpart.ne_nil] at heq
    | cons hpart' hrest' =>
      rw [List.flatten_cons, List.flatten_cons] at heq
      obtain ⟨rfl, rfl, hflat⟩ := hpart.unique hpart' heq
      obtain ⟨rfl, rfl⟩ := ih hrest' hflat
      exact ⟨rfl, rfl⟩

/-! ## Quoting -/

/-- A character stands between the quotes as one of its spellings. -/
theorem spells_quoteChar (c : Char) : Spells (quoteChar c) c := by
  unfold quoteChar
  split
  · subst c; exact .letter rfl
  split
  · subst c; exact .letter rfl
  split
  · subst c; exact .letter rfl
  split
  · subst c; exact .letter rfl
  split
  · subst c; exact .letter rfl
  split
  · rename_i hcontrol
    have hc : c.toNat < 16 ^ 4 := Nat.lt_trans (toNat_of_isControl hcontrol) (by decide)
    exact .numbered (by simp [hexFixed]) (hex?_hexFixed (by decide) hc)
  · rename_i hquote hslash _ _ _ hcontrol
    exact .plain hquote hslash (Bool.not_eq_true _ ▸ hcontrol)

theorem spells_map_quoteChar (cs : List Char) : List.Forall₂ Spells (cs.map quoteChar) cs := by
  rw [List.forall₂_map_left_iff, List.forall₂_same]
  intro c _
  exact spells_quoteChar c

theorem quoteBody_eq_flatten (cs : List Char) : quoteBody cs = (cs.map quoteChar).flatten := by
  induction cs with
  | nil => rfl
  | cons c cs ih => rw [List.map_cons, List.flatten_cons, ← ih, quoteBody]

/-! ## Reading -/

/-- The character of a number, if there is one. -/
def charOfNumber? (n : Nat) : Option Char := if n.isValidChar then some (Char.ofNat n) else none

theorem charOfNumber?_eq_some_iff {n : Nat} : charOfNumber? n = some c ↔ n = c.toNat := by
  unfold charOfNumber?
  split
  · rename_i hvalid
    have hnat : (Char.ofNat n).toNat = n := by
      rw [Char.ofNat, dif_pos hvalid]
      rfl
    rw [Option.some.injEq, ← Char.toNat_inj, hnat]
  · rename_i hvalid
    simp only [reduceCtorEq, false_iff]
    rintro rfl
    exact hvalid c.valid

/-- Reads what stands between quotes. -/
def unquoteBody? : List Char → Option (List Char)
  | [] => some []
  | '\\' :: 'u' :: a :: b :: c :: d :: rest =>
    match (hex? [a, b, c, d]).bind charOfNumber? with
    | some e => (unquoteBody? rest).map (e :: ·)
    | none => none
  | '\\' :: d :: rest =>
    match Grammar.unescape? d with
    | some c => (unquoteBody? rest).map (c :: ·)
    | none => none
  | c :: rest =>
    if c = '"' ∨ c = '\\' ∨ isControl c then none else (unquoteBody? rest).map (c :: ·)

/-- A spelling is read as the character that it spells, whatever stands behind it. -/
theorem Spells.unquoteBody?_append (h : Spells part c) (k : List Char) :
    unquoteBody? (part ++ k) = (unquoteBody? k).map (c :: ·) := by
  cases h with
  | plain hquote hslash hcontrol =>
    rw [List.singleton_append, unquoteBody?.eq_def]
    split <;> simp_all
  | letter hletter =>
    rw [List.cons_append, List.singleton_append, unquoteBody?.eq_def]
    rcases escapeLetter_of_unescape? hletter with rfl | rfl | rfl | rfl | rfl <;> simp [hletter]
  | @numbered ds c hlength hds =>
    match ds, hlength with
    | [a, b, d, e], _ =>
      simp only [List.cons_append, List.nil_append]
      rw [unquoteBody?, hds, Option.bind_some, charOfNumber?_eq_some_iff.2 rfl]

/-- What is read is what is spelled, and nothing else is read. -/
theorem unquoteBody?_eq_some_iff :
    unquoteBody? body = some cs ↔ ∃ parts, parts.flatten = body ∧ List.Forall₂ Spells parts cs := by
  constructor
  · intro h
    fun_induction unquoteBody? body generalizing cs with
    | case1 =>
      cases h
      exact ⟨[], rfl, .nil⟩
    | case2 a b d e rest c hc ih =>
      obtain ⟨cs, hcs, rfl⟩ := Option.map_eq_some_iff.1 h
      obtain ⟨parts, rfl, hparts⟩ := ih hcs
      obtain ⟨n, hn, hnumber⟩ := Option.bind_eq_some_iff.1 hc
      rw [charOfNumber?_eq_some_iff.1 hnumber] at hn
      exact ⟨['\\', 'u', a, b, d, e] :: parts, rfl, .cons (.numbered rfl hn) hparts⟩
    | case3 => cases h
    | case4 d rest _ c hc ih =>
      obtain ⟨cs, hcs, rfl⟩ := Option.map_eq_some_iff.1 h
      obtain ⟨parts, rfl, hparts⟩ := ih hcs
      exact ⟨['\\', d] :: parts, rfl, .cons (.letter hc) hparts⟩
    | case5 => cases h
    | case6 => cases h
    | case7 c rest _ _ hc ih =>
      obtain ⟨cs, hcs, rfl⟩ := Option.map_eq_some_iff.1 h
      obtain ⟨parts, rfl, hparts⟩ := ih hcs
      simp only [not_or, Bool.not_eq_true] at hc
      exact ⟨[c] :: parts, rfl, .cons (.plain hc.1 hc.2.1 hc.2.2) hparts⟩
  · rintro ⟨parts, rfl, hparts⟩
    induction hparts with
    | nil => rfl
    | cons hpart _ ih => rw [List.flatten_cons, hpart.unquoteBody?_append, ih, Option.map_some]

end Criteria.Text
