import Criteria.Proofs.Render.Operands
import Criteria.Render.RegexLiteral

/-!
# The pieces of a pattern

A pattern is a sequence of characters, each by itself or behind a backslash. Escaping it puts these
pieces into a standard form, in which no slash stands by itself and line ends are escape sequences, and
changes nothing else.

* `Piece`, `pieces?` — the pieces of a pattern, unless its last backslash has nothing behind it.
* `Piece.standard` — a piece as it can stand between slashes.
* `escapeBody_append` — escaping writes the standard form of the pieces.
* `escapeRegex_between_slashes` — where the literal ends, what its pieces are, and escaping twice.
-/

set_option autoImplicit false

namespace Criteria.Render

/-! ## Pieces -/

/-- A character of a pattern. -/
inductive Piece where
  /-- A character that no backslash precedes. -/
  | plain (c : Char)
  /-- A character with the backslash before it. -/
  | escaped (c : Char)
  deriving DecidableEq

/-- The pieces of a pattern; none when its last backslash has nothing behind it. -/
def pieces? : List Char → Option (List Piece)
  | [] => some []
  | ['\\'] => none
  | '\\' :: c :: rest => (pieces? rest).map (.escaped c :: ·)
  | c :: rest => (pieces? rest).map (.plain c :: ·)

/-- Whether the pattern ends in an even number of backslashes, none of which is left without a
character behind it. -/
def EndsPaired (cs : List Char) : Prop := Even (cs.reverse.takeWhile (· == '\\')).length

instance (cs : List Char) : Decidable (EndsPaired cs) := inferInstanceAs (Decidable (Even _))

/-- The line ends, with the escape sequences that stand for them. -/
def lineEndings : List (Char × List Piece) :=
  [('\n', [.escaped 'n']), ('\r', [.escaped 'r']),
    ('\u2028', .escaped 'u' :: "2028".toList.map .plain),
    ('\u2029', .escaped 'u' :: "2029".toList.map .plain)]

namespace Piece

/-- The characters of a piece. -/
def text : Piece → List Char
  | plain c => [c]
  | escaped c => ['\\', c]

/-- The piece as it can stand between slashes: a slash behind a backslash, a line end as an escape
sequence, everything else as it is. -/
def standard : Piece → List Piece
  | plain c => (lineEndings.lookup c).getD [if c = '/' then escaped c else plain c]
  | escaped c => (lineEndings.lookup c).getD [escaped c]

end Piece

/-- The characters of some pieces. -/
def written (ps : List Piece) : List Char := ps.flatMap Piece.text

variable {cs : List Char} {ps : List Piece}

theorem pieces?_plain {c : Char} (hc : c ≠ '\\') (rest : List Char) :
    pieces? (c :: rest) = (pieces? rest).map (.plain c :: ·) := by
  rw [pieces?.eq_def]
  split <;> simp_all

/-- A character that is no lone backslash and no backslash with something behind it. -/
theorem ne_backslash {c : Char} {rest : List Char} (hlone : c = '\\' → rest = [] → False)
    (hpair : ∀ d rest', c = '\\' → rest = d :: rest' → False) : c ≠ '\\' := by
  intro hc
  cases rest with
  | nil => exact hlone hc rfl
  | cons d rest => exact hpair d rest hc rfl

/-- A pattern has pieces, or its last backslash has nothing behind it. -/
theorem pieces?_cases (cs : List Char) :
    (∃ ps, pieces? cs = some ps) ∨ ∃ ds ps, cs = ds ++ ['\\'] ∧ pieces? ds = some ps := by
  fun_induction pieces? cs with
  | case1 => exact .inl ⟨[], rfl⟩
  | case2 => exact .inr ⟨[], [], rfl, rfl⟩
  | case3 c rest ih =>
    rcases ih with ⟨ps, hps⟩ | ⟨ds, ps, rfl, hps⟩
    · exact .inl ⟨.escaped c :: ps, by rw [hps, Option.map_some]⟩
    · refine .inr ⟨'\\' :: c :: ds, .escaped c :: ps, rfl, ?_⟩
      rw [pieces?, hps, Option.map_some]
  | case4 c rest hlone hpair ih =>
    have hc := ne_backslash hlone hpair
    rcases ih with ⟨ps, hps⟩ | ⟨ds, ps, rfl, hps⟩
    · exact .inl ⟨.plain c :: ps, by rw [hps, Option.map_some]⟩
    · refine .inr ⟨c :: ds, .plain c :: ps, rfl, ?_⟩
      rw [pieces?_plain hc, hps, Option.map_some]

/-- The pieces of a pattern behind another one. -/
theorem pieces?_append (h : pieces? cs = some ps) (k : List Char) :
    pieces? (cs ++ k) = (pieces? k).map (ps ++ ·) := by
  fun_induction pieces? cs generalizing ps with
  | case1 =>
    cases h
    simp
  | case2 => cases h
  | case3 c rest ih =>
    obtain ⟨qs, hqs, rfl⟩ := Option.map_eq_some_iff.1 h
    rw [List.cons_append, List.cons_append, pieces?, ih hqs, Option.map_map]
    rfl
  | case4 c rest hlone hpair ih =>
    obtain ⟨qs, hqs, rfl⟩ := Option.map_eq_some_iff.1 h
    have hc := ne_backslash hlone hpair
    rw [List.cons_append, pieces?_plain hc, ih hqs, Option.map_map]
    rfl

/-- No piece is a backslash without a character behind it. -/
theorem backslash_notMem (h : pieces? cs = some ps) : .plain '\\' ∉ ps := by
  fun_induction pieces? cs generalizing ps with
  | case1 =>
    cases h
    exact List.not_mem_nil
  | case2 => cases h
  | case3 c rest ih =>
    obtain ⟨qs, hqs, rfl⟩ := Option.map_eq_some_iff.1 h
    simp [ih hqs]
  | case4 c rest hlone hpair ih =>
    obtain ⟨qs, hqs, rfl⟩ := Option.map_eq_some_iff.1 h
    have hc := ne_backslash hlone hpair
    simp [Ne.symm hc, ih hqs]

/-! ## The number of backslashes at the end -/

/-- A character before a pattern counts only if there is nothing but backslashes behind it. -/
theorem length_trailing_cons (c : Char) (rest : List Char) :
    (((c :: rest).reverse.takeWhile (· == '\\')).length =
      (rest.reverse.takeWhile (· == '\\')).length + if c = '\\' ∧ ∀ d ∈ rest, d = '\\' then 1 else 0) := by
  rw [List.reverse_cons, List.takeWhile_append]
  by_cases hrest : ∀ d ∈ rest, d = '\\'
  · have hall : rest.reverse.takeWhile (· == '\\') = rest.reverse :=
      List.takeWhile_eq_self_iff.2 fun d hd => by simp [hrest d (List.mem_reverse.1 hd)]
    rw [hall, if_pos rfl]
    by_cases hc : c = '\\' <;> simp [hc, eq_true hrest]
  · have hsome : ¬ (rest.reverse.takeWhile (· == '\\')).length = rest.reverse.length := by
      intro hlength
      have hall := (List.takeWhile_prefix _).eq_of_length hlength
      exact hrest fun d hd => by
        simpa using List.takeWhile_eq_self_iff.1 hall d (List.mem_reverse.2 hd)
    rw [if_neg hsome, if_neg fun h => hrest h.2, Nat.add_zero]

/-- A pattern has pieces exactly when it ends in an even number of backslashes. -/
theorem isSome_pieces?_iff (cs : List Char) : (pieces? cs).isSome ↔ EndsPaired cs := by
  unfold EndsPaired
  fun_induction pieces? cs with
  | case1 => simp
  | case2 => simp
  | case3 c rest ih =>
    rw [Option.isSome_map, ih, length_trailing_cons, length_trailing_cons]
    -- both backslashes count, or neither of the two characters does
    by_cases hrest : c = '\\' ∧ ∀ d ∈ rest, d = '\\'
    · rw [if_pos hrest, if_pos ⟨rfl, List.forall_mem_cons.2 hrest⟩, Nat.add_assoc]
      exact (Nat.even_add.trans (iff_true_right even_two)).symm
    · rw [if_neg hrest, if_neg fun h => hrest (List.forall_mem_cons.1 h.2)]
      rfl
  | case4 c rest hlone hpair ih =>
    have hc := ne_backslash hlone hpair
    rw [Option.isSome_map, ih, length_trailing_cons, if_neg fun h => hc h.1, Nat.add_zero]

/-! ## The standard form -/

/-- The piece can stand between slashes. -/
def Piece.IsStandard : Piece → Prop
  | plain c => c ≠ '\\' ∧ c ≠ '/' ∧ lineEndings.lookup c = none
  | escaped c => lineEndings.lookup c = none

namespace Piece

instance : DecidablePred IsStandard
  | plain c => inferInstanceAs (Decidable (c ≠ '\\' ∧ c ≠ '/' ∧ lineEndings.lookup c = none))
  | escaped c => inferInstanceAs (Decidable (lineEndings.lookup c = none))

theorem isStandard_of_lineEnding {c : Char} {qs : List Piece} (h : lineEndings.lookup c = some qs) :
    ∀ q ∈ qs, q.IsStandard := by
  obtain ⟨before, after, heq, -⟩ := List.lookup_eq_some_iff.1 h
  have hall : ∀ e ∈ lineEndings, ∀ q ∈ e.2, q.IsStandard := by decide
  exact hall (c, qs) (by simp [heq])

/-- A piece becomes pieces that can stand between slashes. -/
theorem isStandard_standard {p : Piece} (hp : p ≠ .plain '\\') : ∀ q ∈ p.standard, q.IsStandard := by
  cases p with
  | plain c =>
    have hc : c ≠ '\\' := fun h => hp (h ▸ rfl)
    cases hlookup : lineEndings.lookup c with
    | some qs =>
      rw [standard, hlookup, Option.getD_some]
      exact isStandard_of_lineEnding hlookup
    | none =>
      simp only [standard, hlookup, Option.getD_none, List.forall_mem_singleton]
      split
      · exact hlookup
      · rename_i hslash
        exact ⟨hc, hslash, hlookup⟩
  | escaped c =>
    cases hlookup : lineEndings.lookup c with
    | some qs =>
      rw [standard, hlookup, Option.getD_some]
      exact isStandard_of_lineEnding hlookup
    | none =>
      simp only [standard, hlookup, Option.getD_none, List.forall_mem_singleton]
      exact hlookup

/-- A piece that can stand between slashes stays as it is. -/
theorem IsStandard.standard {p : Piece} (h : p.IsStandard) : p.standard = [p] := by
  cases p with
  | plain c =>
    obtain ⟨-, hslash, hlookup⟩ := h
    rw [Piece.standard, hlookup, Option.getD_none, if_neg hslash]
  | escaped c =>
    have hlookup : lineEndings.lookup c = none := h
    rw [Piece.standard, hlookup, Option.getD_none]

end Piece

theorem flatMap_standard (h : ∀ p ∈ ps, p.IsStandard) : ps.flatMap Piece.standard = ps := by
  induction ps with
  | nil => rfl
  | cons p ps ih =>
    obtain ⟨hp, hps⟩ := List.forall_mem_cons.1 h
    rw [List.flatMap_cons, hp.standard, ih hps, List.singleton_append]

/-- The standard form of a pattern can stand between slashes. -/
theorem isStandard_flatMap (h : .plain '\\' ∉ ps) : ∀ q ∈ ps.flatMap Piece.standard, q.IsStandard := by
  intro q hq
  obtain ⟨p, hp, hqp⟩ := List.mem_flatMap.1 hq
  exact Piece.isStandard_standard (fun heq => h (heq ▸ hp)) q hqp

/-! ## Pieces between slashes -/

section Standard

variable (h : ∀ p ∈ ps, p.IsStandard)
include h

/-- The pieces are read back. -/
theorem pieces?_written_append (k : List Char) :
    pieces? (written ps ++ k) = (pieces? k).map (ps ++ ·) := by
  induction ps with
  | nil => simp [written]
  | cons p ps ih =>
    obtain ⟨hp, hps⟩ := List.forall_mem_cons.1 h
    have hrest : written (p :: ps) ++ k = p.text ++ (written ps ++ k) := by simp [written]
    rw [hrest]
    cases p with
    | plain c =>
      rw [Piece.text, List.singleton_append, pieces?_plain hp.1, ih hps, Option.map_map]
      rfl
    | escaped c =>
      rw [Piece.text, List.cons_append, List.singleton_append, pieces?, ih hps, Option.map_map]
      rfl

/-- No slash ends them but the one behind them. -/
theorem quotedBody_written (k : List Char) :
    Grammar.quotedBody '/' false (written ps ++ k) =
      (Grammar.quotedBody '/' false k).map (Prod.map (written ps ++ ·) id) := by
  induction ps with
  | nil =>
    rw [written, List.flatMap_nil, List.nil_append]
    cases Grammar.quotedBody '/' false k <;> rfl
  | cons p ps ih =>
    obtain ⟨hp, hps⟩ := List.forall_mem_cons.1 h
    have hrest : written (p :: ps) ++ k = p.text ++ (written ps ++ k) := by simp [written]
    rw [hrest]
    cases p with
    | plain c =>
      have hplain : ∀ d ∈ [c], d ≠ '/' ∧ d ≠ '\\' := List.forall_mem_singleton.2 ⟨hp.2.1, hp.1⟩
      rw [Piece.text, Grammar.quotedBody_plain hplain, ih hps, Option.map_map]
      rfl
    | escaped c =>
      rw [Piece.text, List.cons_append, List.singleton_append,
        Grammar.quotedBody_escaped (by decide), ih hps, Option.map_map]
      rfl

/-- They have no line end. -/
theorem lookup_of_mem_written {c : Char} (hc : c ∈ written ps) : lineEndings.lookup c = none := by
  obtain ⟨p, hp, hcp⟩ := List.mem_flatMap.1 hc
  cases p with
  | plain d =>
    rw [List.mem_singleton.1 hcp]
    exact (h _ hp).2.2
  | escaped d =>
    rcases List.mem_pair.1 hcp with rfl | rfl
    · rfl
    · exact h _ hp

end Standard

/-! ## Escaping -/

/-- The escapes of the line ends are their escape sequences. -/
theorem lineEscape?_eq (c : Char) : lineEscape? c = (lineEndings.lookup c).map written := by
  by_cases hn : c = '\n'
  · subst hn
    rfl
  by_cases hr : c = '\r'
  · subst hr
    rfl
  by_cases hl : c = '\u2028'
  · subst hl
    rfl
  by_cases hp : c = '\u2029'
  · subst hp
    rfl
  simp [lineEscape?, lineEndings, List.lookup_cons, beq_false_of_ne, hn, hr, hl, hp]

theorem escapePlain_eq (c : Char) : escapePlain c = written (Piece.plain c).standard := by
  by_cases hslash : c = '/'
  · subst hslash
    rfl
  · rw [escapePlain, if_neg hslash, lineEscape?_eq, Piece.standard, if_neg hslash]
    cases lineEndings.lookup c <;> rfl

theorem escapeAfterBackslash_eq (c : Char) :
    escapeAfterBackslash c = written (Piece.escaped c).standard := by
  rw [escapeAfterBackslash, lineEscape?_eq, Piece.standard]
  cases lineEndings.lookup c <;> rfl

theorem escapeBody_plain {c : Char} (hc : c ≠ '\\') (rest : List Char) :
    escapeBody (c :: rest) = escapePlain c ++ escapeBody rest := by
  rw [escapeBody.eq_def]
  split <;> simp_all

/-- Escaping writes the standard form of the pieces. -/
theorem escapeBody_append (h : pieces? cs = some ps) (k : List Char) :
    escapeBody (cs ++ k) = written (ps.flatMap Piece.standard) ++ escapeBody k := by
  fun_induction pieces? cs generalizing ps with
  | case1 =>
    cases h
    rfl
  | case2 => cases h
  | case3 c rest ih =>
    obtain ⟨qs, hqs, rfl⟩ := Option.map_eq_some_iff.1 h
    rw [List.cons_append, List.cons_append, escapeBody, escapeAfterBackslash_eq, ih hqs]
    simp only [written, List.flatMap_cons, List.flatMap_append, List.append_assoc]
  | case4 c rest hlone hpair ih =>
    obtain ⟨qs, hqs, rfl⟩ := Option.map_eq_some_iff.1 h
    have hc := ne_backslash hlone hpair
    rw [List.cons_append, escapeBody_plain hc, escapePlain_eq, ih hqs]
    simp only [written, List.flatMap_cons, List.flatMap_append, List.append_assoc]

/-- The pieces of an escaped pattern are the standard form of those of the pattern; a last backslash
without a character behind it stays. -/
theorem exists_standard (cs : List Char) : ∃ qs, (∀ q ∈ qs, q.IsStandard) ∧
    ((pieces? cs).map (·.flatMap Piece.standard) = some qs ∧ escapeBody cs = written qs ∨
      pieces? cs = none ∧ escapeBody cs = written qs ++ ['\\']) := by
  rcases pieces?_cases cs with ⟨ps, hps⟩ | ⟨ds, ps, rfl, hps⟩
  · have hbody := escapeBody_append hps []
    rw [escapeBody, List.append_nil, List.append_nil] at hbody
    exact ⟨_, isStandard_flatMap (backslash_notMem hps), .inl ⟨by rw [hps, Option.map_some], hbody⟩⟩
  · have hnone := pieces?_append hps ['\\']
    exact ⟨_, isStandard_flatMap (backslash_notMem hps), .inr ⟨hnone, escapeBody_append hps _⟩⟩

theorem escapeBody_escapeBody (cs : List Char) : escapeBody (escapeBody cs) = escapeBody cs := by
  obtain ⟨qs, hqs, ⟨-, hbody⟩ | ⟨-, hbody⟩⟩ := exists_standard cs
  · have hread := pieces?_written_append hqs []
    rw [List.append_nil, pieces?, Option.map_some, List.append_nil] at hread
    have htwice := escapeBody_append hread []
    rwa [List.append_nil, flatMap_standard hqs, escapeBody, List.append_nil, ← hbody] at htwice
  · have hread := pieces?_written_append hqs []
    rw [List.append_nil, pieces?, Option.map_some, List.append_nil] at hread
    rw [hbody, escapeBody_append hread, flatMap_standard hqs]
    rfl

theorem written_standard_ne_nil (p : Piece) : written p.standard ≠ [] := by
  have hendings : ∀ e ∈ lineEndings, written e.2 ≠ [] := by decide
  have hlookup : ∀ {c : Char} {qs : List Piece}, lineEndings.lookup c = some qs → written qs ≠ [] := by
    intro c qs h
    obtain ⟨before, after, heq, -⟩ := List.lookup_eq_some_iff.1 h
    exact hendings (c, qs) (by simp [heq])
  cases p with
  | plain c =>
    rw [Piece.standard]
    cases h : lineEndings.lookup c with
    | some qs => exact hlookup h
    | none =>
      rw [Option.getD_none]
      split <;> exact List.cons_ne_nil _ _
  | escaped c =>
    rw [Piece.standard]
    cases h : lineEndings.lookup c with
    | some qs => exact hlookup h
    | none => exact List.cons_ne_nil _ _

theorem escapeBody_ne_nil (h : cs ≠ []) : escapeBody cs ≠ [] := by
  rw [escapeBody.eq_def]
  split
  · exact absurd rfl h
  · rw [escapeAfterBackslash_eq]
    exact List.append_ne_nil_of_left_ne_nil (written_standard_ne_nil _) _
  · rw [escapePlain_eq]
    exact List.append_ne_nil_of_left_ne_nil (written_standard_ne_nil _) _

/-! ## Patterns -/

/-- A pattern as it is spelled: the empty one is an empty group. -/
def spelled (source : String) : String := if source = "" then "(?:)" else source

theorem spelled_ne_nil (source : String) : (spelled source).toList ≠ [] := by
  rw [spelled]
  split
  · exact List.cons_ne_nil _ _
  · rename_i h
    exact fun hnil => h (String.toList_eq_nil_iff.1 hnil)

theorem endsPaired_spelled (source : String) :
    EndsPaired (spelled source).toList ↔ EndsPaired source.toList := by
  rw [spelled]
  split
  · rename_i h
    rw [h]
    exact iff_of_true (by decide) (by decide)
  · rfl

theorem toList_escapeRegex (source : String) :
    (escapeRegex source).toList = escapeBody (spelled source).toList := by
  rw [escapeRegex, spelled]
  by_cases h : source = ""
  · subst h
    rfl
  · rw [if_neg h, if_neg (by simpa using h), String.toList_ofList]

/-- **Patterns between slashes.** Whatever the pattern, what stands between the slashes is not empty,
has no line end, and is not changed by escaping it again. The slash behind it is the first one that no
backslash precedes, and so ends the literal, exactly when the pattern does not end in a backslash
without a character behind it. The pieces of such a pattern stay, except that slashes are escaped and
line ends are escape sequences, and the empty pattern is an empty group. -/
theorem escapeRegex_between_slashes (source : String) :
    escapeRegex source ≠ "" ∧
    (∀ c ∈ (escapeRegex source).toList, c ∉ ['\n', '\r', '\u2028', '\u2029']) ∧
    escapeRegex (escapeRegex source) = escapeRegex source ∧
    (EndsPaired source.toList ↔ ∀ rest, Grammar.quotedBody '/' false
      ((escapeRegex source).toList ++ '/' :: rest) = some ((escapeRegex source).toList, rest)) ∧
    (EndsPaired source.toList → ∃ ps qs, pieces? (spelled source).toList = some ps ∧
      pieces? (escapeRegex source).toList = some qs ∧
      ps.flatMap Piece.standard = qs ∧ qs.flatMap Piece.standard = qs) := by
  have hout := toList_escapeRegex source
  have hne : escapeRegex source ≠ "" := fun h =>
    escapeBody_ne_nil (spelled_ne_nil source) (by rw [← hout, h]; rfl)
  have htwice : escapeRegex (escapeRegex source) = escapeRegex source := by
    rw [← String.toList_inj, toList_escapeRegex, spelled, if_neg hne, hout, escapeBody_escapeBody]
  obtain ⟨qs, hqs, hcases⟩ := exists_standard (spelled source).toList
  have hends : ∀ c, lineEndings.lookup c = none → c ∉ ['\n', '\r', '\u2028', '\u2029'] := by
    intro c h
    simpa [lineEndings] using List.lookup_eq_none_iff.1 h
  rw [← endsPaired_spelled, ← isSome_pieces?_iff]
  rcases hcases with ⟨hpieces, hbody⟩ | ⟨hpieces, hbody⟩
  · obtain ⟨ps, hps, hstandard⟩ := Option.map_eq_some_iff.1 hpieces
    have hread := pieces?_written_append hqs []
    rw [List.append_nil, pieces?, Option.map_some, List.append_nil] at hread
    refine ⟨hne, fun c hc => ?_, htwice, ?_, fun _ => ?_⟩
    · rw [hout, hbody] at hc
      exact hends c (lookup_of_mem_written hqs hc)
    · rw [hps, hout, hbody]
      refine iff_of_true rfl fun rest => ?_
      rw [quotedBody_written hqs, Grammar.quotedBody]
      simp
    · rw [hps, hout, hbody]
      exact ⟨ps, qs, rfl, hread, hstandard, flatMap_standard hqs⟩
  · refine ⟨hne, fun c hc => ?_, htwice, ?_, fun h => ?_⟩
    · rw [hout, hbody, List.mem_append, List.mem_singleton] at hc
      rcases hc with hc | rfl
      · exact hends c (lookup_of_mem_written hqs hc)
      · decide
    · rw [hpieces, hout, hbody]
      refine iff_of_false Bool.false_ne_true fun hscan => ?_
      -- the last backslash takes the slash that should end the literal
      have hnone := hscan []
      rw [List.append_assoc, List.singleton_append, quotedBody_written hqs,
        Grammar.quotedBody_escaped (by decide)] at hnone
      cases hnone
    · rw [hpieces] at h
      cases h

/-- A slash in a class, an escaped backslash before a slash, and an escaped line end. -/
theorem escapeRegex_between_slashes_class :
    let source := "[/]\\\\/\\\n"
    EndsPaired source.toList ∧ escapeRegex source = "[\\/]\\\\\\/\\n" ∧
      (∀ rest, Grammar.quotedBody '/' false ((escapeRegex source).toList ++ '/' :: rest) =
        some ((escapeRegex source).toList, rest)) ∧
      '\n' ∉ (escapeRegex source).toList ∧
      ∃ qs, pieces? (escapeRegex source).toList = some qs ∧
        [.plain '[', .escaped '/', .plain ']', .escaped '\\', .escaped '/', .escaped 'n'] = qs := by
  intro source
  have hpaired : EndsPaired source.toList := by decide
  obtain ⟨-, hends, -, hscan, hpieces⟩ := escapeRegex_between_slashes source
  refine ⟨hpaired, by decide, hscan.1 hpaired, fun h => hends '\n' h (by decide), ?_⟩
  obtain ⟨ps, qs, hps, hqs, hstandard, -⟩ := hpieces hpaired
  have hread : pieces? (spelled source).toList = some [.plain '[', .plain '/', .plain ']',
    .escaped '\\', .plain '/', .escaped '\n'] := by decide
  rw [hread] at hps
  cases hps
  exact ⟨qs, hqs, hstandard⟩

end Criteria.Render
