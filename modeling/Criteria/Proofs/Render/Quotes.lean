import Criteria.Proofs.Render.Literals
import Criteria.Proofs.Store.Literals

/-!
# Texts in quotes

A quoted text ends at the first quotation mark that belongs to no escape, and that is its last
character, so what stands behind it is read as if it stood alone. The same holds of the literals of
values: the texts in quotes in a literal are the texts of the value, at every depth.

* `Quotes` — the texts that stand in quotes in a text.
* `Quoting` — a text with some texts in quotes, that ends outside of quotes.
* `QuoteFree` — texts without quotation marks.
* `Datum.quoted`, `Datum.functionTexts` — the texts of a value that its literal has in quotes, and
  those of its functions, which it has as they are.

Principal results:

* `exists_spellings_quote` — a quoted text is made of spellings in one way, and is read as the text.
* `quoting_quote`, `Quoting.append`, `Quoting.intercalate` — how texts with quotes are put together.
* `Datum.quoting_literal` — the texts in quotes in a literal.
-/

set_option autoImplicit false

namespace Criteria

namespace Grammar

/-! ## Finding quotes -/

/-- The texts in quotes in a text, from left to right. All of them are closed. -/
inductive Quotes : List Char → List String → Prop where
  | nil : Quotes [] []
  | skip {c : Char} {cs : List Char} {ts : List String} (hc : c ≠ '"') (h : Quotes cs ts) :
      Quotes (c :: cs) ts
  | quoted {cs body rest : List Char} {ts : List String} (hbody : readQuoted cs = some (body, rest))
      (h : Quotes rest ts) : Quotes ('"' :: cs) (String.ofList body :: ts)

theorem quotes_skip_iff {c : Char} (hc : c ≠ '"') {cs : List Char} {ts : List String} :
    Quotes (c :: cs) ts ↔ Quotes cs ts := by
  constructor
  · intro h
    cases h with
    | skip _ h => exact h
    | quoted => exact absurd rfl hc
  · exact .skip hc

/-- What has no quotation mark has nothing in quotes. -/
theorem quotes_append_iff {cs : List Char} (h : '"' ∉ cs) (k : List Char) (us : List String) :
    Quotes (cs ++ k) us ↔ Quotes k us := by
  induction cs with
  | nil => rfl
  | cons c cs ih =>
    simp only [List.mem_cons, not_or] at h
    rw [List.cons_append, quotes_skip_iff (Ne.symm h.1), ih h.2]

/-- The text has these texts in quotes, and whatever stands behind it is outside of quotes. -/
def Quoting (text : String) (ts : List String) : Prop :=
  ∀ (k : List Char) (us : List String),
    Quotes (text.toList ++ k) us ↔ ∃ vs, us = ts ++ vs ∧ Quotes k vs

theorem quoting_plain {text : String} (h : '"' ∉ text.toList) : Quoting text [] := by
  intro k us
  simp only [List.nil_append, exists_eq_left']
  exact quotes_append_iff h k us

theorem quoting_quote (s : String) : Quoting (Text.quote s) [s] := by
  intro k us
  have hread := readQuoted_quoteBody s.toList k
  rw [toList_quote_append]
  constructor
  · intro h
    cases h with
    | skip hc _ => exact absurd rfl hc
    | quoted hbody hrest =>
      rw [hread] at hbody
      cases hbody
      exact ⟨_, by rw [String.ofList_toList]; rfl, hrest⟩
  · rintro ⟨vs, rfl, hvs⟩
    have hquoted := Quotes.quoted hread hvs
    rwa [String.ofList_toList] at hquoted

namespace Quoting

variable {text text' : String} {ts ts' : List String}

theorem append (h : Quoting text ts) (h' : Quoting text' ts') :
    Quoting (text ++ text') (ts ++ ts') := by
  intro k us
  rw [String.toList_append, List.append_assoc, h]
  constructor
  · rintro ⟨vs, rfl, hvs⟩
    obtain ⟨ws, rfl, hws⟩ := (h' k vs).1 hvs
    exact ⟨ws, by rw [List.append_assoc], hws⟩
  · rintro ⟨ws, rfl, hws⟩
    exact ⟨ts' ++ ws, by rw [List.append_assoc], (h' k _).2 ⟨ws, rfl, hws⟩⟩

theorem append_plain (h : Quoting text ts) (h' : '"' ∉ text'.toList) :
    Quoting (text ++ text') ts := by
  have hboth := h.append (quoting_plain h')
  rwa [List.append_nil] at hboth

theorem plain_append (h : '"' ∉ text.toList) (h' : Quoting text' ts') :
    Quoting (text ++ text') ts' := (quoting_plain h).append h'

/-- A text between two others without quotes. -/
theorem between {before after : String} (hbefore : '"' ∉ before.toList) (h : Quoting text ts)
    (hafter : '"' ∉ after.toList) : Quoting (before ++ text ++ after) ts :=
  (plain_append hbefore h).append_plain hafter

/-- A start without quotes can be left out. -/
theorem of_append {before : List Char} (h : Quoting text ts) (hbefore : '"' ∉ before)
    (htext : text.toList = before ++ text'.toList) : Quoting text' ts := by
  intro k us
  rw [← h k us, htext, List.append_assoc, quotes_append_iff hbefore]

theorem intercalate {sep : String} (hsep : '"' ∉ sep.toList) {texts : List String}
    {tss : List (List String)} (h : List.Forall₂ Quoting texts tss) :
    Quoting (String.intercalate sep texts) tss.flatten := by
  induction h with
  | nil => exact quoting_plain (by simp)
  | @cons text ts texts tss hfirst hrest ih =>
    cases hrest with
    | nil =>
      rw [String.intercalate_singleton, List.flatten_singleton]
      exact hfirst
    | cons hsecond hothers =>
      rw [String.intercalate_cons_cons, List.flatten_cons]
      exact (hfirst.append_plain hsep).append ih

end Quoting

/-! ## Texts without quotes -/

/-- None of the texts has a quotation mark. -/
def QuoteFree (texts : List String) : Prop := ∀ text ∈ texts, '"' ∉ text.toList

namespace QuoteFree

variable {texts texts' : List String}

theorem append (h : QuoteFree (texts ++ texts')) : QuoteFree texts ∧ QuoteFree texts' :=
  List.forall_mem_append.1 h

theorem cons {text : String} (h : QuoteFree (text :: texts)) :
    '"' ∉ text.toList ∧ QuoteFree texts := List.forall_mem_cons.1 h

theorem headD (h : QuoteFree texts) : '"' ∉ (texts.headD "").toList := by
  cases texts with
  | nil => decide
  | cons text rest => exact h.cons.1

theorem drop (h : QuoteFree texts) (n : Nat) : QuoteFree (texts.drop n) :=
  fun text htext => h text (List.mem_of_mem_drop htext)

theorem take (h : QuoteFree texts) (n : Nat) : QuoteFree (texts.take n) :=
  fun text htext => h text (List.mem_of_mem_take htext)

theorem quoting (h : QuoteFree texts) : List.Forall₂ Quoting texts (texts.map fun _ => []) := by
  rw [List.forall₂_map_right_iff, List.forall₂_same]
  exact fun text htext => quoting_plain (h text htext)

theorem intercalate {sep : String} (h : QuoteFree texts) (hsep : '"' ∉ sep.toList) :
    Quoting (String.intercalate sep texts) [] := by
  have hlist := Quoting.intercalate hsep h.quoting
  have hnone : (texts.map fun _ => ([] : List String)).flatten = [] := by simp
  rwa [hnone] at hlist

end QuoteFree

instance (texts : List String) : Decidable (QuoteFree texts) :=
  inferInstanceAs (Decidable (∀ text ∈ texts, '"' ∉ text.toList))

/-! ## Quoted texts -/

/-- What stands between the quotes is made of spellings of the characters in one way, and is read. -/
theorem exists_spellings_quote (s : String) : ∃ parts : List (List Char),
    (Text.quote s).toList = '"' :: (parts.flatten ++ ['"']) ∧
    List.Forall₂ Text.Spells parts s.toList ∧
    (∀ c ∈ parts.flatten, Text.isControl c = false) ∧
    (∀ (others : List (List Char)) (cs : List Char),
      List.Forall₂ Text.Spells others cs ∧ others.flatten = parts.flatten ↔
        others = parts ∧ cs = s.toList) ∧
    Text.unquoteBody? parts.flatten = some s.toList := by
  have hparts := Text.spells_map_quoteChar s.toList
  refine ⟨s.toList.map Text.quoteChar, ?_, hparts, ?_, fun others cs => ⟨?_, ?_⟩, ?_⟩
  · rw [← Text.quoteBody_eq_flatten, toList_quote]
  · intro c hc
    obtain ⟨part, hpart, hcpart⟩ := List.mem_flatten.1 hc
    obtain ⟨d, -, rfl⟩ := List.mem_map.1 hpart
    exact (Text.spells_quoteChar d).isControl_eq_false c hcpart
  · rintro ⟨hothers, hflat⟩
    exact Text.spellings_unique hothers hparts hflat
  · rintro ⟨rfl, rfl⟩
    exact ⟨hparts, rfl⟩
  · exact Text.unquoteBody?_eq_some_iff.2 ⟨_, rfl, hparts⟩

/-- A quoted text is told from what stands behind it. -/
theorem quote_append_inj (s t : String) (k k' : List Char) :
    (Text.quote s).toList ++ k = (Text.quote t).toList ++ k' ↔ s = t ∧ k = k' := by
  constructor
  · intro h
    have htold : Text.TellsApart (fun _ => True) (Text.quote s) (Text.quote t) (s = t) :=
      Text.tellsApart_quote s t
    exact htold k k' trivial trivial h
  · rintro ⟨rfl, rfl⟩
    rfl

/-- A quoted text is one lexeme, and what stands behind it is read as if it stood alone. -/
theorem lexes_quote_append_iff (s : String) (k : List Char) (ls : List Lexeme) :
    Lexes ((Text.quote s).toList ++ k) ls ↔
      ∃ ms, ls = .leaf (.quoted (Text.quoteBody s.toList)) :: ms ∧ Lexes k ms := by
  have hnext := Lexeme.next_quote s k
  constructor
  · intro h
    generalize (Text.quote s).toList ++ k = cs at h hnext
    cases h with
    | nil => cases hnext
    | cons hread hrest =>
      rw [hnext] at hread
      cases hread
      exact ⟨_, rfl, hrest⟩
  · rintro ⟨ms, rfl, hms⟩
    exact .cons hnext hms

end Grammar

open Grammar

/-! ## Literals -/

namespace Datum

mutual

/-- The texts that the literal has in quotes, from left to right: the strings, the descriptions of
symbols, and the keys that are no names. -/
def quoted : Datum → List String
  | str s => [s]
  | symbol _ description => [description]
  | array _ items => (itemsQuoted items).flatten
  | object _ entries => (entriesQuoted entries).flatten
  | _ => []

def itemsQuoted : List Datum → List (List String)
  | [] => []
  | d :: rest => d.quoted :: itemsQuoted rest

def entriesQuoted : List (String × Datum) → List (List String)
  | [] => []
  | (key, d) :: rest => ((if isBareKey key then [] else [key]) ++ d.quoted) :: entriesQuoted rest

end

/-- The texts that the functions in the datum are shown by. -/
def functionTexts (d : Datum) : List String := d.functions.map functionLiteral

theorem ne_of_isDigit {c : Char} (h : c.isDigit) : '"' ≠ c := by
  rintro rfl
  cases h

theorem notMem_numeral {cs : List Char} (h : Number.IsNumeral cs) : '"' ∉ cs := by
  obtain ⟨c, whole, hc, hwhole, hcs⟩ := h
  have hfirst : '"' ∉ c :: whole := by
    simp only [List.mem_cons, not_or]
    exact ⟨ne_of_isDigit hc, fun hmem => ne_of_isDigit (hwhole _ hmem) rfl⟩
  rcases hcs with rfl | ⟨d, fraction, hd, hfraction, rfl⟩
  · exact hfirst
  · simp only [List.mem_append, List.mem_cons, not_or] at hfirst ⊢
    exact ⟨hfirst, by decide, ne_of_isDigit hd, fun hmem => ne_of_isDigit (hfraction _ hmem) rfl⟩

theorem notMem_toString (n : Nat) : '"' ∉ (toString n).toList := by
  rw [ParamNames.toList_toString]
  exact notMem_numeral (Number.isNumeral_toDigits n)

theorem quoting_int (n : Int64) : Quoting (literal (.int n)) [] := by
  have hliteral : literal (.int n) = toString n.toInt := rfl
  rw [hliteral]
  cases n.toInt with
  | ofNat m => exact quoting_plain (notMem_toString m)
  | negSucc m =>
    have htext : toString (Int.negSucc m) = "-" ++ toString (m + 1) := rfl
    rw [htext]
    exact (quoting_plain (by decide)).append (quoting_plain (notMem_toString (m + 1)))

theorem quoting_float (x : Float) : Quoting (literal (.float x)) [] := by
  have hliteral : literal (.float x) = Number.format x := rfl
  obtain ⟨text, htext, hcases⟩ := Number.format_eq x
  have hplain : '"' ∉ text.toList := by
    rcases hcases with rfl | rfl | hnumeral
    · decide
    · decide
    · exact notMem_numeral hnumeral
  rw [hliteral, htext]
  split
  · exact (quoting_plain (by decide)).append (quoting_plain hplain)
  · exact quoting_plain hplain

theorem quoting_bytes (data : List UInt8) : Quoting (literal (.bytes data)) [] := by
  have hdigits : QuoteFree (data.map fun b => toString b.toNat) :=
    List.forall_mem_map.2 fun b _ => notMem_toString b.toNat
  exact (hdigits.intercalate (by decide)).between (by decide) (by decide)

/-- The key of an entry is in quotes unless it is a name. -/
theorem quoting_key (key : String) :
    Quoting (keyLiteral key) (if isBareKey key then [] else [key]) := by
  rw [keyLiteral]
  split
  · rename_i hkey
    refine quoting_plain fun hmem => ?_
    exact absurd ((Store.isKeyChar_of_isBareKey hkey).2 _ hmem) (by decide)
  · exact quoting_quote key

mutual

/-- The texts in quotes in a literal are the texts of the datum. -/
theorem quoting_literal : ∀ {d : Datum}, QuoteFree d.functionTexts → Quoting d.literal d.quoted
  | undefined, _ | null, _ | bool true, _ | bool false, _ => quoting_plain (by decide)
  | int n, _ => quoting_int n
  | float x, _ => quoting_float x
  | str s, _ => quoting_quote s
  | symbol ref description, _ => (quoting_quote description).between (by decide) (by decide)
  | bytes data, _ => quoting_bytes data
  | array ref items, h =>
    (Quoting.intercalate (by decide) (quoting_itemLiterals h)).between (by decide) (by decide)
  | object ref [], _ => by
    have hliteral : literal (.object ref []) = "\x7b\x7d" := rfl
    rw [hliteral]
    exact quoting_plain (by decide)
  | object ref (entry :: entries), h =>
    (Quoting.intercalate (by decide) (quoting_entryLiterals h)).between (by decide) (by decide)
  | function f, h => quoting_plain (h _ List.mem_cons_self)

theorem quoting_itemLiterals : ∀ {items : List Datum},
    QuoteFree ((itemFunctions items).map functionLiteral) →
      List.Forall₂ Quoting (itemLiterals items) (itemsQuoted items)
  | [], _ => .nil
  | _ :: _, h => by
    rw [itemFunctions, List.map_append] at h
    exact .cons (quoting_literal h.append.1) (quoting_itemLiterals h.append.2)

theorem quoting_entryLiterals : ∀ {entries : List (String × Datum)},
    QuoteFree ((entryFunctions entries).map functionLiteral) →
      List.Forall₂ Quoting (entryLiterals entries) (entriesQuoted entries)
  | [], _ => .nil
  | (key, _) :: _, h => by
    rw [entryFunctions, List.map_append] at h
    exact .cons (((quoting_key key).append_plain (by decide)).append (quoting_literal h.append.1))
      (quoting_entryLiterals h.append.2)

end

end Datum

end Criteria
