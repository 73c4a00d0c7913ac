import Criteria.Proofs.Render.Splice

/-!
# The header of a filter that is spliced

What a header is, told in characters: white space, a parameter, bare or in parentheses, an arrow, the
parameter again, and a tail. The parameters in it are whole words, although nothing asks for it: white
space, a parenthesis or the arrow ends the first one, and the tail ends the second one.

* `IsIdentifier`, `IsHeader` — identifiers, and the form of a source with a header.
* `IsRun` — a word that is no part of a longer one.

Principal results:

* `isHeader_iff_extendsParam` — this is the form of the filters that are spliced.
* `IsHeader.exists_runs`, `IsHeader.unique` — the parameters are whole words, and a source has one
  parameter only.
* `header_grammar` — which sources have their header taken off, and what is left of them.
-/

set_option autoImplicit false

namespace Criteria

open Grammar Render

/-! ## Words -/

/-- ASCII letters, digits, `_` and `$`. -/
def IsWordChar (c : Char) : Prop := c.isAlphanum ∨ c = '_' ∨ c = '$'

/-- A word that does not start with a digit. -/
structure IsIdentifier (x : String) : Prop where
  ne_empty : x ≠ ""
  isWordChar : ∀ c ∈ x.toList, IsWordChar c
  head : ∀ c ∈ x.toList.head?, ¬c.isDigit

/-- What stands between the two texts is no part of a longer word. -/
structure IsRun (before after : List Char) : Prop where
  left : ∀ c ∈ before.getLast?, ¬IsWordChar c
  right : ∀ c ∈ after.head?, ¬IsWordChar c

theorem isIdentChar_iff {c : Char} : isIdentChar c ↔ IsWordChar c := by
  simp [isIdentChar, IsWordChar, or_assoc]

theorem isIdentStart_iff {c : Char} : isIdentStart c ↔ IsWordChar c ∧ ¬c.isDigit := by
  have halpha : c.isAlpha → ¬c.isDigit := by
    intro ha hd
    have hletter := toNat_of_isAlpha ha
    have hdigit : 48 ≤ c.toNat ∧ c.toNat ≤ 57 := Char.isDigit_iff_toNat.1 hd
    omega
  simp only [isIdentStart, IsWordChar, Char.isAlphanum, Bool.or_eq_true, beq_iff_eq]
  constructor
  · rintro ((ha | rfl) | rfl)
    · exact ⟨.inl (.inl ha), halpha ha⟩
    · exact ⟨.inr (.inl rfl), by decide⟩
    · exact ⟨.inr (.inr rfl), by decide⟩
  · rintro ⟨(ha | hd) | hc, hdigit⟩
    · exact .inl (.inl ha)
    · exact absurd hd hdigit
    · exact hc.imp_left .inr

theorem not_isWordChar_of_isBlank {c : Char} (h : Text.isBlank c) : ¬IsWordChar c := fun hc => by
  rw [isBlank_of_isIdentChar (isIdentChar_iff.2 hc)] at h
  cases h

theorem isDotName_iff {x : String} : isDotName x ↔ IsIdentifier x := by
  constructor
  · intro h
    obtain ⟨c, rest, hx, hstart, hall⟩ := exists_cons_of_isDotName h
    refine ⟨?_, fun d hd => isIdentChar_iff.1 (hall d (hx ▸ hd)), fun d hd => ?_⟩
    · rintro rfl
      cases hx
    · rw [hx] at hd
      cases hd
      exact (isIdentStart_iff.1 hstart).2
  · rintro ⟨hne, hall, hhead⟩
    rw [isDotName]
    split
    · rename_i hx
      exact absurd (String.toList_eq_nil_iff.1 hx) hne
    · rename_i c rest hx
      rw [hx] at hall hhead
      rw [Bool.and_eq_true, List.all_eq_true]
      exact ⟨isIdentStart_iff.2 ⟨hall c List.mem_cons_self, hhead c rfl⟩,
        fun d hd => isIdentChar_iff.2 (hall d (List.mem_cons_of_mem _ hd))⟩

/-! ## Ends of words -/

section Ends

variable {b k : List Char} {d : Char}

theorem not_isWordChar_of_head? (hb : IsBlank b) (hd : ¬IsWordChar d) :
    ∀ c ∈ (b ++ d :: k).head?, ¬IsWordChar c := by
  intro c hc
  cases b with
  | nil =>
    cases hc
    exact hd
  | cons e b =>
    cases hc
    exact not_isWordChar_of_isBlank (hb _ List.mem_cons_self)

theorem not_isWordChar_of_getLast? (hb : IsBlank b) (hd : ¬IsWordChar d) :
    ∀ c ∈ (k ++ d :: b).getLast?, ¬IsWordChar c := by
  intro c hc
  rw [List.getLast?_append_cons] at hc
  rcases List.mem_cons.1 (List.mem_of_getLast? hc) with rfl | hmem
  · exact hd
  · exact not_isWordChar_of_isBlank (hb c hmem)

end Ends

/-! ## Sources with a header -/

/-- The source has the header of a function of the parameter `x`, whose body is the parameter followed
by the tail. -/
structure IsHeader (source x tail : String) : Prop where
  isIdentifier : IsIdentifier x
  tail_head : ∀ c ∈ tail.toList.head?, c = '.' ∨ c = '['
  source_eq : ∃ before param between inner, IsBlank before ∧ WritesParam x.toList param ∧
    IsBlank between ∧ IsBlank inner ∧ source.toList =
      before ++ (param ++ (between ++ '=' :: '>' :: (inner ++ (x.toList ++ tail.toList))))

variable {source x tail : String}

theorem isTail_iff {cs : List Char} : isTail cs ↔ ∀ c ∈ cs.head?, c = '.' ∨ c = '[' := by
  cases cs <;> simp [isTail]

theorem isHeader_iff_extendsParam : IsHeader source x tail ↔ ExtendsParam source x tail :=
  ⟨fun h => ⟨isDotName_iff.2 h.isIdentifier, isTail_iff.2 h.tail_head, h.source_eq⟩,
    fun h => ⟨isDotName_iff.1 h.isDotName, isTail_iff.1 h.isTail, h.source_eq⟩⟩

/-- Both parameters are whole words. -/
theorem IsHeader.exists_runs (h : IsHeader source x tail) : ∃ before middle : List Char,
    source.toList = before ++ (x.toList ++ (middle ++ (x.toList ++ tail.toList))) ∧
      IsRun before (middle ++ (x.toList ++ tail.toList)) ∧
      IsRun (before ++ (x.toList ++ middle)) tail.toList := by
  obtain ⟨before, param, between, inner, hbefore, hparam, hbetween, hinner, hsource⟩ := h.source_eq
  have htail : ∀ c ∈ tail.toList.head?, ¬IsWordChar c := by
    intro c hc
    rcases h.tail_head c hc with rfl | rfl <;> simp [IsWordChar]
  have hequals : ¬IsWordChar '=' := by simp [IsWordChar]
  have hgreater : ¬IsWordChar '>' := by simp [IsWordChar]
  cases hparam with
  | bare =>
    have hblank : ∀ c ∈ before.getLast?, ¬IsWordChar c := fun c hc =>
      not_isWordChar_of_isBlank (hbefore c (List.mem_of_getLast? hc))
    refine ⟨before, between ++ '=' :: '>' :: inner, ?_, ⟨hblank, ?_⟩, ?_, htail⟩
    · rw [hsource]
      simp only [List.append_assoc, List.cons_append]
    · rw [List.append_assoc]
      exact not_isWordChar_of_head? hbetween hequals
    · have hleft := not_isWordChar_of_getLast? (k := before ++ (x.toList ++ (between ++ ['='])))
        hinner hgreater
      simpa only [List.append_assoc, List.cons_append, List.nil_append] using hleft
  | @parens l r hl hr =>
    have hopen : ¬IsWordChar '(' := by simp [IsWordChar]
    have hclose : ¬IsWordChar ')' := by simp [IsWordChar]
    refine ⟨before ++ '(' :: l, r ++ ')' :: (between ++ '=' :: '>' :: inner), ?_,
      ⟨not_isWordChar_of_getLast? hl hopen, ?_⟩, ?_, htail⟩
    · rw [hsource]
      simp only [List.append_assoc, List.cons_append, List.nil_append]
    · rw [List.append_assoc]
      exact not_isWordChar_of_head? hr hclose
    · have hleft := not_isWordChar_of_getLast?
        (k := before ++ '(' :: (l ++ (x.toList ++ (r ++ ')' :: (between ++ ['='])))))
        hinner hgreater
      simpa only [List.append_assoc, List.cons_append, List.nil_append] using hleft

/-- A source has one parameter and one tail. -/
theorem IsHeader.unique {x' tail' : String} (h : IsHeader source x tail)
    (h' : IsHeader source x' tail') : x' = x ∧ tail' = tail := by
  rw [isHeader_iff_extendsParam] at h h'
  obtain ⟨_, _, -, -, hx⟩ := splitParam?_of_extendsParam h
  obtain ⟨_, _, -, -, hx'⟩ := splitParam?_of_extendsParam h'
  have htail := stripHeader?_eq_some_iff.2 ⟨x, h⟩
  have htail' := stripHeader?_eq_some_iff.2 ⟨x', h'⟩
  rw [hx, Option.some.injEq, Prod.mk.injEq] at hx'
  rw [htail, Option.some.injEq] at htail'
  exact ⟨String.toList_injective hx'.1.symm, htail'.symm⟩

/-- **The grammar of headers.** The header is taken off a source exactly when the source has one, and
what is left is the tail. The tail is at the end of the source, the parameters before it are whole
words, and no other reading of the source has another parameter or another tail. -/
theorem header_grammar (source tail : String) :
    (stripHeader? source = some tail ↔ ∃ x, IsHeader source x tail) ∧
    ∀ x, IsHeader source x tail →
      tail.toList <:+ source.toList ∧
      (∃ before middle : List Char,
        source.toList = before ++ (x.toList ++ (middle ++ (x.toList ++ tail.toList))) ∧
        IsRun before (middle ++ (x.toList ++ tail.toList)) ∧
        IsRun (before ++ (x.toList ++ middle)) tail.toList) ∧
      ∀ x' tail', IsHeader source x' tail' → x' = x ∧ tail' = tail := by
  refine ⟨?_, fun x h => ⟨?_, h.exists_runs, fun x' tail' h' => h.unique h'⟩⟩
  · simp only [stripHeader?_eq_some_iff, isHeader_iff_extendsParam]
  · obtain ⟨before, middle, hsource, -⟩ := h.exists_runs
    refine ⟨before ++ (x.toList ++ (middle ++ x.toList)), ?_⟩
    rw [hsource]
    simp only [List.append_assoc]

/-- White space wherever it may stand. -/
theorem header_grammar_spaced :
    IsHeader " ( s )  =>  s.trim()" "s" ".trim()" ∧
      stripHeader? " ( s )  =>  s.trim()" = some ".trim()" := by
  have hword : IsIdentifier "s" := isDotName_iff.1 rfl
  have hspaces : IsBlank [' ', ' '] := List.forall_mem_cons.2 ⟨rfl, isBlank_space⟩
  have hdot : ∀ c ∈ ".trim()".toList.head?, c = '.' ∨ c = '[' := by simp
  have h : IsHeader " ( s )  =>  s.trim()" "s" ".trim()" :=
    ⟨hword, hdot, [' '], _, [' ', ' '], [' ', ' '], isBlank_space,
      .parens isBlank_space isBlank_space, hspaces, hspaces, rfl⟩
  exact ⟨h, (header_grammar _ _).1.2 ⟨"s", h⟩⟩

end Criteria
