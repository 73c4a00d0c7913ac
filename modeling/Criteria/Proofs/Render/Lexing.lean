import Criteria.Proofs.Render.Grammar
import Criteria.Proofs.Render.Names
import Criteria.Proofs.Text.Blank
import Criteria.Proofs.Text.Spelling
import Criteria.Render.Source

/-!
# Reading the pieces of generated source

* `Printed` — a text is read as some tokens, wherever generated source goes on after it.

One lemma for each way in which generated source is put together.
-/

set_option autoImplicit false

namespace Criteria.Grammar

/-! ## Words and numerals -/

/-- What may follow an expression in generated source. -/
def Ends : List Char → Prop
  | [] => True
  | c :: _ => c = ' ' ∨ c = ')' ∨ c = ','

/-- A word that ends where the rest starts. -/
def EndsWord (k : List Char) : Prop := ∀ c ∈ k.head?, Render.isIdentChar c = false

theorem Ends.endsWord {k : List Char} (h : Ends k) : EndsWord k := by
  cases k with
  | nil => exact nofun
  | cons c k =>
    intro d hd
    cases hd
    rcases h with rfl | rfl | rfl <;> decide

theorem Ends.head_isDigit {k : List Char} (h : Ends k) : ∀ c ∈ k.head?, c.isDigit = false := by
  cases k with
  | nil => exact nofun
  | cons c k =>
    intro d hd
    cases hd
    rcases h with rfl | rfl | rfl <;> decide

theorem toNat_of_isDigit {c : Char} (h : c.isDigit) : 48 ≤ c.toNat ∧ c.toNat ≤ 57 := by
  simp only [Char.isDigit, Bool.and_eq_true, decide_eq_true_eq, ge_iff_le,
    UInt32.le_iff_toNat_le] at h
  exact h

theorem toNat_of_isAlpha {c : Char} (h : c.isAlpha) :
    65 ≤ c.toNat ∧ c.toNat ≤ 90 ∨ 97 ≤ c.toNat ∧ c.toNat ≤ 122 := by
  delta Char.isAlpha Char.isUpper Char.isLower at h
  simp only [Bool.or_eq_true, Bool.and_eq_true, decide_eq_true_eq, ge_iff_le,
    UInt32.le_iff_toNat_le] at h
  exact h

theorem isBlank_of_isIdentStart {c : Char} (h : Render.isIdentStart c) : Text.isBlank c = false := by
  simp only [Render.isIdentStart, Bool.or_eq_true, beq_iff_eq] at h
  rcases h with (h | rfl) | rfl
  · have hc := toNat_of_isAlpha h
    exact Text.isBlank_of_toNat (by omega)
  · decide
  · decide

theorem isIdentStart_of_isDigit {c : Char} (h : c.isDigit) : Render.isIdentStart c = false := by
  have hc := toNat_of_isDigit h
  have halpha : c.isAlpha = false := by
    by_contra ha
    have hc' := toNat_of_isAlpha (by simpa using ha)
    omega
  have hother : c ≠ '_' ∧ c ≠ '$' := by
    refine ⟨?_, ?_⟩ <;> rintro rfl <;> exact absurd h (by decide)
  simp [Render.isIdentStart, halpha, hother]

theorem isIdentChar_of_isIdentStart {c : Char} (h : Render.isIdentStart c) :
    Render.isIdentChar c := by
  simp only [Render.isIdentStart, Render.isIdentChar, Char.isAlphanum, Bool.or_eq_true] at h ⊢
  rcases h with (h | h) | h
  · exact .inl (.inl (.inl h))
  · exact .inl (.inr h)
  · exact .inr h

/-- The characters of a word. -/
theorem exists_cons_of_isDotName {word : String} (h : Render.isDotName word) :
    ∃ c rest, word.toList = c :: rest ∧ Render.isIdentStart c ∧
      ∀ d ∈ c :: rest, Render.isIdentChar d := by
  unfold Render.isDotName at h
  split at h
  · cases h
  · rename_i c rest hword
    rw [Bool.and_eq_true, List.all_eq_true] at h
    refine ⟨c, rest, hword, h.1, fun d hd => ?_⟩
    rcases List.mem_cons.mp hd with rfl | hd
    · exact isIdentChar_of_isIdentStart h.1
    · exact h.2 d hd

theorem read_word {word : String} (h : Render.isDotName word) {k : List Char} (hk : EndsWord k) :
    Token.read (word.toList ++ k) = some (wordToken word, k) := by
  obtain ⟨c, rest, hword, hstart, hall⟩ := exists_cons_of_isDotName h
  have hspan := Text.span_append hall hk
  rw [hword, List.cons_append, Token.read, Text.trimLeft_cons (isBlank_of_isIdentStart hstart)]
  simp only [hstart, if_true]
  rw [← List.cons_append, hspan.1, hspan.2, ← hword, String.ofList_toList]

theorem read_numeral (n : Nat) {k : List Char} (hk : Ends k) :
    Token.read ((toString n).toList ++ k) = some (.number n, k) := by
  rw [ParamNames.toList_toString]
  have hne : Nat.toDigits 10 n ≠ [] := by simp
  cases hdigits : Nat.toDigits 10 n with
  | nil => exact absurd hdigits hne
  | cons c rest =>
    have hall : ∀ d ∈ c :: rest, d.isDigit := fun d hd =>
      Nat.isDigit_of_mem_toDigits (by decide) (by decide) (hdigits ▸ hd)
    have hc := hall c (List.mem_cons_self ..)
    have hspan := Text.span_append hall hk.head_isDigit
    rw [List.cons_append, Token.read, Text.trimLeft_cons (Text.isBlank_of_isDigit hc)]
    simp only [isIdentStart_of_isDigit hc, hc, if_true]
    rw [← List.cons_append, hspan.1, hspan.2, ← hdigits]
    simp

/-! ## Quoted text -/

theorem readQuoted_plain {c : Char} (hquote : c ≠ '"') (hslash : c ≠ '\\') (rest : List Char) :
    readQuoted (c :: rest) = (readQuoted rest).map (Prod.map (c :: ·) id) := by
  rw [readQuoted.eq_def]
  split <;> simp_all

/-- A spelling is read as the character that it spells. -/
theorem readQuoted_append {part : List Char} {c : Char} (h : Text.Spells part c)
    (rest : List Char) :
    readQuoted (part ++ rest) = (readQuoted rest).map (Prod.map (c :: ·) id) := by
  cases h with
  | plain hquote hslash _ => exact readQuoted_plain hquote hslash rest
  | letter hletter =>
    rcases Text.escapeLetter_of_unescape? hletter with rfl | rfl | rfl | rfl | rfl <;>
      cases hletter <;> rfl
  | @numbered ds _ hlength hds =>
    match ds, hlength with
    | [a, b, d, e], _ =>
      simp only [List.cons_append, List.nil_append]
      rw [readQuoted, hds]
      simp only [Char.ofNat_toNat]

theorem readQuoted_quoteBody (cs k : List Char) :
    readQuoted (Text.quoteBody cs ++ '"' :: k) = some (cs, k) := by
  induction cs with
  | nil => rfl
  | cons c cs ih =>
    rw [Text.quoteBody, List.append_assoc, readQuoted_append (Text.spells_quoteChar c), ih]
    rfl

theorem toList_quote (s : String) :
    (Text.quote s).toList = '"' :: (Text.quoteBody s.toList ++ ['"']) := by
  simp [Text.quote]

theorem toList_quote_append (s : String) (k : List Char) :
    (Text.quote s).toList ++ k = '"' :: (Text.quoteBody s.toList ++ '"' :: k) := by
  simp [toList_quote]

theorem read_quote (s : String) (k : List Char) :
    Token.read ((Text.quote s).toList ++ k) = some (.text s, k) := by
  have hread : ∀ cs, Token.read ('"' :: cs) =
      (readQuoted cs).map fun found => (.text (String.ofList found.1), found.2) := fun _ => rfl
  rw [toList_quote_append, hread, readQuoted_quoteBody]
  simp only [Option.map_some, String.ofList_toList]

/-! ## Symbols -/

theorem read_space (cs : List Char) : Token.read (' ' :: cs) = Token.read cs := rfl

theorem read_infixOp (op : InfixOp) (k : List Char) :
    Token.read (op.symbol.toList ++ ' ' :: k) = some (.symbol op.symbol, ' ' :: k) := by
  cases op <;> rfl

theorem read_bang {c : Char} (h : c ≠ '=') (k : List Char) :
    Token.read ('!' :: c :: k) = some (.symbol "!", c :: k) := by
  have hread : Token.read ('!' :: c :: k) = readPunctuator punctuators ('!' :: c :: k) := rfl
  rw [hread]
  simp [punctuators, readPunctuator, stripStart?, Ne.symm h]

theorem read_dot {c : Char} (h : c ≠ '.') (k : List Char) :
    Token.read ('.' :: c :: k) = some (.symbol ".", c :: k) := by
  have hread : Token.read ('.' :: c :: k) = readPunctuator punctuators ('.' :: c :: k) := rfl
  rw [hread]
  simp [punctuators, readPunctuator, stripStart?, Ne.symm h]

theorem read_minus {c : Char} (h : c.isDigit) (k : List Char) :
    Token.read ('-' :: c :: k) = some (.symbol "-", c :: k) := by
  have hread : Token.read ('-' :: c :: k) = readPunctuator punctuators ('-' :: c :: k) := rfl
  have hne : '-' ≠ c ∧ '=' ≠ c := by
    refine ⟨?_, ?_⟩ <;> rintro rfl <;> exact absurd h (by decide)
  rw [hread]
  simp [punctuators, readPunctuator, stripStart?, hne]

/-! ## Printed texts -/

/-- The text is read as these tokens wherever it stands in generated source. It does not start with
an equals sign, which would go on with an exclamation mark before it. -/
structure Printed (text : String) (ts : List Token) : Prop where
  head : ∃ c, text.toList.head? = some c ∧ c ≠ '='
  reads : ∀ k, Ends k → Reads (text.toList ++ k) ts k

theorem Printed.exists_cons {text : String} {ts : List Token} (h : Printed text ts) :
    ∃ c rest, text.toList = c :: rest ∧ c ≠ '=' := by
  obtain ⟨c, hhead, hc⟩ := h.head
  obtain ⟨rest, htext⟩ := List.head?_eq_some_iff.mp hhead
  exact ⟨c, rest, htext, hc⟩

/-- Blanks before a text do not matter. -/
theorem Printed.reads_space {text : String} {ts : List Token} (h : Printed text ts) (k : List Char)
    (hk : Ends k) : Reads (' ' :: (text.toList ++ k)) ts k := by
  obtain ⟨c, rest, htext, -⟩ := h.exists_cons
  have hreads := h.reads k hk
  generalize hcs : text.toList ++ k = cs at hreads ⊢
  cases hreads with
  | nil =>
    have hlen := congrArg List.length hcs
    rw [htext, List.length_append, List.length_cons] at hlen
    omega
  | cons ht hrest => exact .cons ht hrest

namespace Printed

variable {l r text : String} {ts us : List Token}

theorem word {word : String} (h : Render.isDotName word) : Printed word [wordToken word] := by
  refine ⟨?_, fun k hk => .one (read_word h hk.endsWord)⟩
  obtain ⟨c, rest, hword, hstart, -⟩ := exists_cons_of_isDotName h
  refine ⟨c, by rw [hword]; rfl, ?_⟩
  rintro rfl
  exact absurd hstart (by decide)

theorem numeral (n : Nat) : Printed (toString n) [.number n] := by
  refine ⟨?_, fun k hk => .one (read_numeral n hk)⟩
  rw [ParamNames.toList_toString]
  have hne : Nat.toDigits 10 n ≠ [] := by simp
  obtain ⟨c, rest, hdigits⟩ := List.exists_cons_of_ne_nil hne
  have hc : c.isDigit := Nat.isDigit_of_mem_toDigits (n := n) (b := 10) (by decide) (by decide)
    (hdigits ▸ List.mem_cons_self ..)
  refine ⟨c, by rw [hdigits]; rfl, ?_⟩
  rintro rfl
  exact absurd hc (by decide)

theorem quote (s : String) : Printed (Text.quote s) [.text s] :=
  ⟨⟨'"', by simp [Text.quote], by decide⟩, fun k _ => .one (read_quote s k)⟩

theorem parens (h : Printed text ts) :
    Printed ("(" ++ text ++ ")") (.symbol "(" :: (ts ++ [.symbol ")"])) := by
  refine ⟨⟨'(', by simp [String.toList_append], by decide⟩, fun k _ => ?_⟩
  have hreads := h.reads (')' :: k) (.inr (.inl rfl))
  have hclose : Reads (')' :: k) [.symbol ")"] k := .one rfl
  have hinner := hreads.append hclose
  simp only [String.toList_append, List.append_assoc]
  exact .cons rfl hinner

theorem bang (h : Printed text ts) :
    Printed ("!" ++ text) (.symbol PrefixOp.not.symbol :: ts) := by
  refine ⟨⟨'!', by simp [String.toList_append], by decide⟩, fun k hk => ?_⟩
  obtain ⟨c, rest, htext, hc⟩ := h.exists_cons
  have hreads := h.reads k hk
  rw [htext] at hreads
  rw [String.toList_append, htext]
  exact .cons (read_bang hc _) hreads

theorem tilde (h : Printed text ts) :
    Printed ("~" ++ text) (.symbol PrefixOp.bitNot.symbol :: ts) := by
  refine ⟨⟨'~', by simp [String.toList_append], by decide⟩, fun k hk => ?_⟩
  rw [String.toList_append]
  exact .cons rfl (h.reads k hk)

theorem minus (n : Nat) :
    Printed ("-" ++ toString n) [.symbol PrefixOp.minus.symbol, .number n] := by
  refine ⟨⟨'-', by simp [String.toList_append], by decide⟩, fun k hk => ?_⟩
  have hreads := (numeral n).reads k hk
  have hne : Nat.toDigits 10 n ≠ [] := by simp
  obtain ⟨c, rest, hdigits⟩ := List.exists_cons_of_ne_nil hne
  have hc : c.isDigit := Nat.isDigit_of_mem_toDigits (n := n) (b := 10) (by decide) (by decide)
    (hdigits ▸ List.mem_cons_self ..)
  rw [ParamNames.toList_toString, hdigits] at hreads
  rw [String.toList_append, ParamNames.toList_toString, hdigits]
  exact .cons (read_minus hc _) hreads

theorem typeOf (h : Printed text ts) :
    Printed ("typeof " ++ text) (.symbol PrefixOp.typeOf.symbol :: ts) := by
  refine ⟨⟨'t', by simp [String.toList_append], by decide⟩, fun k hk => ?_⟩
  have hends : EndsWord (' ' :: (text.toList ++ k)) := by
    intro c hc
    cases hc
    decide
  have hdot : Render.isDotName "typeof" := rfl
  have hword := read_word hdot hends
  have htext : ("typeof " ++ text).toList ++ k = "typeof".toList ++ ' ' :: (text.toList ++ k) := by
    simp [String.toList_append]
  rw [htext]
  exact .cons hword (h.reads_space k hk)

theorem between (op : InfixOp) (hl : Printed l ts) (hr : Printed r us) :
    Printed (l ++ " " ++ op.symbol ++ " " ++ r) (ts ++ .symbol op.symbol :: us) := by
  obtain ⟨c, hhead, hc⟩ := hl.head
  refine ⟨⟨c, by simp [String.toList_append, hhead], hc⟩, fun k hk => ?_⟩
  have hsymbol := read_infixOp op (r.toList ++ k)
  have hleft := hl.reads (' ' :: (op.symbol.toList ++ ' ' :: (r.toList ++ k))) (.inl rfl)
  have htext : (l ++ " " ++ op.symbol ++ " " ++ r).toList ++ k =
      l.toList ++ ' ' :: (op.symbol.toList ++ ' ' :: (r.toList ++ k)) := by
    simp [String.toList_append]
  rw [htext]
  exact hleft.append (.cons ((read_space _).trans hsymbol) (hr.reads_space k hk))

theorem comma (hl : Printed l ts) (hr : Printed r us) :
    Printed (l ++ ", " ++ r) (ts ++ .symbol "," :: us) := by
  obtain ⟨c, hhead, hc⟩ := hl.head
  refine ⟨⟨c, by simp [String.toList_append, hhead], hc⟩, fun k hk => ?_⟩
  have hleft := hl.reads (',' :: ' ' :: (r.toList ++ k)) (.inr (.inr rfl))
  have htext : (l ++ ", " ++ r).toList ++ k = l.toList ++ ',' :: ' ' :: (r.toList ++ k) := by
    simp [String.toList_append]
  rw [htext]
  exact hleft.append (.cons rfl (hr.reads_space k hk))

/-- A call of a function of the object `Math`. -/
theorem mathCall {field : String} (hfield : Render.isDotName field) (hop : field ≠ "typeof")
    (h : Printed text ts) :
    Printed ("Math." ++ field ++ "(" ++ text ++ ")")
      ([.name "Math", .symbol ".", .name field] ++ .symbol "(" :: (ts ++ [.symbol ")"])) := by
  refine ⟨⟨'M', by simp [String.toList_append], by decide⟩, fun k _ => ?_⟩
  let args := '(' :: (text.toList ++ ')' :: k)
  have hobject : Token.read ("Math".toList ++ '.' :: (field.toList ++ args)) =
      some (.name "Math", '.' :: (field.toList ++ args)) :=
    read_word rfl (by intro c hc; cases hc; decide)
  have hdot : Token.read ('.' :: (field.toList ++ args)) =
      some (.symbol ".", field.toList ++ args) := by
    obtain ⟨c, rest, hword, hstart, -⟩ := exists_cons_of_isDotName hfield
    rw [hword]
    refine read_dot ?_ _
    rintro rfl
    exact absurd hstart (by decide)
  have hfunction := read_word hfield (k := args) (by intro c hc; cases hc; decide)
  rw [wordToken, if_neg hop] at hfunction
  have hargs := (h.reads (')' :: k) (.inr (.inl rfl))).append (.one rfl)
  have htext : ("Math." ++ field ++ "(" ++ text ++ ")").toList ++ k =
      "Math".toList ++ '.' :: (field.toList ++ args) := by
    simp [String.toList_append, args]
  rw [htext]
  exact .cons hobject (.cons hdot (.cons hfunction (.cons rfl hargs)))

end Printed

end Criteria.Grammar
