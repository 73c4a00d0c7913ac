import Criteria.Proofs.Render.Formula
import Criteria.Proofs.Render.Unambiguous

/-!
# Splicing a filter

A property filter with source text is spliced onto the property when its source has the form of a
function of one parameter whose body starts with the parameter, and goes on with nothing, a dot or a
bracket. Only the first character of what goes on is looked at, so the form does not say that the body is
made of accesses, nor that the parameter is used once.

* `ExtendsParam` — the form of a filter that is spliced, and its tail.
* `ReadsAs` — the text is an expression.
* `Access` — how a property of an argument is written.

Principal results:

* `stripHeader?_eq_some_iff` — a filter is spliced exactly when it is of this form.
* `ReadsAs.splice` — a spliced text is the body with the access in place of the parameter at its start.
* `splice_meaning` — when a spliced text has the value of the application, and when it may stand beside
  an operator.
-/

set_option autoImplicit false

namespace Criteria

open Grammar Naming ParamNames

/-! ## The form of a filter that is spliced -/

/-- White space, or nothing. -/
def IsBlank (cs : List Char) : Prop := ∀ c ∈ cs, Text.isBlank c

theorem isBlank_nil : IsBlank [] := List.forall_mem_nil _

theorem isBlank_space : IsBlank [' '] := List.forall_mem_singleton.2 rfl

/-- The parameter of a function as it is written, bare or in parentheses. -/
inductive WritesParam (x : List Char) : List Char → Prop where
  | bare : WritesParam x x
  | parens {l r : List Char} (hl : IsBlank l) (hr : IsBlank r) :
      WritesParam x ('(' :: (l ++ (x ++ (r ++ [')']))))

/-- The source is a function of one parameter. Its body starts with the parameter, and goes on with the
tail: nothing, or something that starts with a dot or a bracket. -/
structure ExtendsParam (source x tail : String) : Prop where
  isDotName : Render.isDotName x
  isTail : Render.isTail tail.toList
  source_eq : ∃ before param between inner, IsBlank before ∧ WritesParam x.toList param ∧
    IsBlank between ∧ IsBlank inner ∧ source.toList =
      before ++ (param ++ (between ++ '=' :: '>' :: (inner ++ (x.toList ++ tail.toList))))

theorem isBlank_of_isIdentChar {c : Char} (h : Render.isIdentChar c) : Text.isBlank c = false := by
  by_cases hdigit : c.isDigit
  · exact Text.isBlank_of_isDigit hdigit
  · refine isBlank_of_isIdentStart ?_
    simpa [Render.isIdentStart, Render.isIdentChar, Char.isAlphanum, hdigit] using h

theorem trimLeft_append {b : List Char} (hb : IsBlank b) (cs : List Char) :
    Text.trimLeft (b ++ cs) = Text.trimLeft cs :=
  List.dropWhile_append_of_pos hb

theorem exists_blank_append (cs : List Char) : ∃ b, IsBlank b ∧ cs = b ++ Text.trimLeft cs :=
  ⟨cs.takeWhile Text.isBlank, fun _ hc => List.all_eq_true.1 List.all_takeWhile _ hc,
    List.takeWhile_append_dropWhile.symm⟩

/-- A word that ends before white space or another character of its own. -/
theorem endsWord_blank_append {b k : List Char} (hb : IsBlank b) (hk : EndsWord k) :
    EndsWord (b ++ k) := by
  cases b with
  | nil => exact hk
  | cons c b =>
    intro d hd
    cases hd
    rw [← Bool.not_eq_true]
    intro hc
    have hblank := hb _ List.mem_cons_self
    rw [isBlank_of_isIdentChar hc] at hblank
    cases hblank

theorem endsWord_of_isTail {k : List Char} (hk : Render.isTail k) : EndsWord k := by
  cases k with
  | nil => exact nofun
  | cons c k =>
    rw [Render.isTail, Bool.or_eq_true, beq_iff_eq, beq_iff_eq] at hk
    intro d hd
    cases hd
    rcases hk with rfl | rfl <;> decide

namespace Render

theorem after?_eq_some_iff : ∀ {expected cs rest : List Char},
    after? expected cs = some rest ↔ cs = expected ++ rest
  | [], cs, rest => by rw [after?, Option.some.injEq, List.nil_append]
  | _ :: _, [], _ => by simp [after?]
  | e :: expected, c :: cs, rest => by
    rw [after?, List.cons_append, List.cons.injEq]
    split
    · rename_i h
      rw [after?_eq_some_iff, h]
      simp
    · rename_i h
      simp [Ne.symm h]

/-- The word that is split off: it ends where the rest starts. -/
theorem splitIdent?_eq_some_iff {cs rest : List Char} {x : String} :
    splitIdent? cs = some (x.toList, rest) ↔ cs = x.toList ++ rest ∧ isDotName x ∧ EndsWord rest := by
  constructor
  · intro h
    cases cs with
    | nil => cases h
    | cons c cs =>
      rw [splitIdent?] at h
      split at h
      · rename_i hstart
        rw [Option.some.injEq, Prod.mk.injEq] at h
        obtain ⟨hx, rfl⟩ := h
        refine ⟨?_, ?_, ?_⟩
        · rw [← hx, List.takeWhile_append_dropWhile]
        · rw [List.takeWhile_cons_of_pos (isIdentChar_of_isIdentStart hstart)] at hx
          rw [isDotName, ← hx]
          simp [hstart]
        · intro d hd
          have hstop := List.head?_dropWhile_not isIdentChar (c :: cs)
          rw [Option.mem_def.1 hd] at hstop
          simpa using hstop
      · cases h
  · rintro ⟨rfl, hx, hrest⟩
    obtain ⟨c, others, hword, hstart, hall⟩ := exists_cons_of_isDotName hx
    have hspan := Text.span_append hall hrest
    rw [hword, List.cons_append, splitIdent?, if_pos hstart, ← List.cons_append, hspan.1, hspan.2]

/-- The text does not start with white space. -/
theorem trimLeft_word {x : String} (hx : isDotName x) (k : List Char) :
    Text.trimLeft (x.toList ++ k) = x.toList ++ k := by
  obtain ⟨c, rest, hword, hstart, -⟩ := exists_cons_of_isDotName hx
  rw [hword, List.cons_append, Text.trimLeft_cons (isBlank_of_isIdentStart hstart)]

/-- The parameter that is split off is one that is written so. -/
theorem exists_of_splitParam? {cs rest : List Char} {x : List Char}
    (h : splitParam? cs = some (x, rest)) : isDotName (String.ofList x) ∧
      ∃ before param, IsBlank before ∧ WritesParam x param ∧ cs = before ++ (param ++ rest) := by
  obtain ⟨before, hbefore, hcs⟩ := exists_blank_append cs
  rw [splitParam?] at h
  split at h
  · rename_i inner hinner
    split at h
    · rename_i param after hsplit
      obtain ⟨l, hl, hleft⟩ := exists_blank_append inner
      obtain ⟨r, hr, hright⟩ := exists_blank_append after
      rw [Option.map_eq_some_iff] at h
      obtain ⟨rest', hclose, h⟩ := h
      cases h
      rw [← String.toList_ofList (l := x), splitIdent?_eq_some_iff, String.toList_ofList] at hsplit
      rw [after?_eq_some_iff] at hclose
      refine ⟨hsplit.2.1, before, _, hbefore, .parens hl hr, ?_⟩
      rw [hcs, hinner, hleft, hsplit.1, hright, hclose]
      simp
    · cases h
  · rw [← String.toList_ofList (l := x), splitIdent?_eq_some_iff, String.toList_ofList] at h
    exact ⟨h.2.1, before, x, hbefore, .bare, by rw [← h.1, ← hcs]⟩

/-- A parameter that is written so is split off. -/
theorem splitParam?_append {before param rest : List Char} {x : String} (hbefore : IsBlank before)
    (hparam : WritesParam x.toList param) (hx : isDotName x) (hrest : EndsWord rest) :
    splitParam? (before ++ (param ++ rest)) = some (x.toList, rest) := by
  rw [splitParam?, trimLeft_append hbefore]
  cases hparam with
  | bare =>
    have hword := splitIdent?_eq_some_iff.2 ⟨rfl, hx, hrest⟩
    obtain ⟨c, others, hc, hstart, -⟩ := exists_cons_of_isDotName hx
    rw [trimLeft_word hx]
    split
    · rename_i inner hinner
      rw [hc, List.cons_append, List.cons.injEq] at hinner
      rw [hinner.1] at hstart
      exact absurd hstart (by decide)
    · exact hword
  | @parens l r hl hr =>
    have hclose : EndsWord (r ++ ')' :: rest) :=
      endsWord_blank_append hr (by intro c hc; cases hc; decide)
    have hword := splitIdent?_eq_some_iff.2 ⟨rfl, hx, hclose⟩
    have htext : '(' :: (l ++ (x.toList ++ (r ++ [')']))) ++ rest =
        '(' :: (l ++ (x.toList ++ (r ++ ')' :: rest))) := by
      simp
    rw [htext, Text.trimLeft_cons (by decide)]
    simp only [trimLeft_append hl, trimLeft_word hx, hword, trimLeft_append hr]
    rfl

/-- The parameter is split off, and what is left starts with the arrow. -/
theorem splitParam?_of_extendsParam {source x tail : String} (h : ExtendsParam source x tail) :
    ∃ between inner, IsBlank between ∧ IsBlank inner ∧ splitParam? source.toList =
      some (x.toList, between ++ '=' :: '>' :: (inner ++ (x.toList ++ tail.toList))) := by
  obtain ⟨before, param, between, inner, hbefore, hwrites, hbetween, hinner, hsource⟩ := h.source_eq
  have harrow : EndsWord ('=' :: '>' :: (inner ++ (x.toList ++ tail.toList))) := by
    intro c hc
    cases hc
    decide
  refine ⟨between, inner, hbetween, hinner, ?_⟩
  rw [hsource, splitParam?_append hbefore hwrites h.isDotName (endsWord_blank_append hbetween harrow)]

/-- **The form of a filter that is spliced.** -/
theorem stripHeader?_eq_some_iff {source tail : String} :
    stripHeader? source = some tail ↔ ∃ x, ExtendsParam source x tail := by
  rw [stripHeader?, Option.map_eq_some_iff]
  constructor
  · rintro ⟨cs, h, rfl⟩
    rw [tailOfArrow?] at h
    split at h
    · cases h
    rename_i x rest hparam
    split at h
    · cases h
    rename_i body harrow
    split at h
    · rename_i tail htail
      split at h
      · rename_i hend
        cases h
        obtain ⟨hx, before, param, hbefore, hwrites, hsource⟩ := exists_of_splitParam? hparam
        obtain ⟨between, hbetween, hrest⟩ := exists_blank_append rest
        obtain ⟨inner, hinner, hbody⟩ := exists_blank_append body
        rw [after?_eq_some_iff] at harrow htail
        refine ⟨String.ofList x, hx, by rwa [String.toList_ofList],
          before, param, between, inner, hbefore, ?_, hbetween, hinner, ?_⟩
        · rwa [String.toList_ofList]
        · rw [String.toList_ofList, String.toList_ofList, hsource, hrest, harrow, hbody, htail]
          rfl
      · cases h
    · cases h
  · rintro ⟨x, h⟩
    obtain ⟨between, inner, hbetween, hinner, hparam⟩ := splitParam?_of_extendsParam h
    refine ⟨tail.toList, ?_, String.ofList_toList⟩
    have hbody : after? x.toList (x.toList ++ tail.toList) = some tail.toList :=
      after?_eq_some_iff.2 rfl
    have hsplit : after? ['=', '>'] ('=' :: '>' :: (inner ++ (x.toList ++ tail.toList))) =
        some (inner ++ (x.toList ++ tail.toList)) := after?_eq_some_iff.2 rfl
    have hequals : Text.isBlank '=' = false := by decide
    rw [tailOfArrow?, hparam]
    simp only [trimLeft_append hbetween, Text.trimLeft_cons hequals, hsplit, trimLeft_append hinner,
      trimLeft_word h.isDotName, hbody, h.isTail, if_true]

theorem spliceOrCall_of_extendsParam {source x tail : String} (h : ExtendsParam source x tail)
    (access : String) : spliceOrCall source access = access ++ tail := by
  rw [spliceOrCall, stripHeader?_eq_some_iff.2 ⟨x, h⟩]

theorem spliceOrCall_of_not_extendsParam {source : String}
    (h : ∀ x tail, ¬ExtendsParam source x tail) (access : String) :
    spliceOrCall source access = "(" ++ source ++ ")(" ++ access ++ ")" := by
  have hnone : stripHeader? source = none := by
    rw [Option.eq_none_iff_forall_ne_some]
    intro tail htail
    obtain ⟨x, hx⟩ := stripHeader?_eq_some_iff.1 htail
    exact h x tail hx
  rw [spliceOrCall, hnone]

end Render

/-! ## How the texts are read -/

namespace Grammar

/-- The text is an expression of this form, with blanks between the tokens. -/
def ReadsAs (text : String) (e : Phrase) : Prop :=
  ∃ rest, Reads text.toList e.tokens rest ∧ Text.trimLeft rest = []

/-- A text is read in one way. -/
theorem ReadsAs.unique {text : String} {e e' : Phrase} (h : ReadsAs text e) (h' : ReadsAs text e') :
    e = e' := by
  obtain ⟨rest, hreads, hrest⟩ := h
  obtain ⟨rest', hreads', hrest'⟩ := h'
  exact Phrase.tokens_injective (hreads.unique hrest hreads' hrest')

theorem ReadsAs.iff_eq {text : String} {e e' : Phrase} (h : ReadsAs text e) :
    ReadsAs text e' ↔ e' = e :=
  ⟨fun h' => h'.unique h, fun heq => heq ▸ h⟩

theorem Token.read_append_blank {b : List Char} (hb : IsBlank b) (cs : List Char) :
    Token.read (b ++ cs) = Token.read cs := by
  unfold Token.read
  rw [trimLeft_append hb]

/-- Blanks before the first token do not matter. -/
theorem Reads.blank_append {b cs rest : List Char} {ts : List Token} (hb : IsBlank b)
    (hts : ts ≠ []) (h : Reads cs ts rest) : Reads (b ++ cs) ts rest := by
  cases h with
  | nil => exact absurd rfl hts
  | cons ht hrest => exact .cons ((Token.read_append_blank hb cs).trans ht) hrest

/-- The first token of a tail is a dot, dots or a bracket. -/
theorem Token.read_of_isTail {tail k : List Char} {t : Token} (htail : Render.isTail tail)
    (h : Token.read tail = some (t, k)) : t ∈ [Token.symbol ".", .symbol "...", .symbol "["] := by
  cases tail with
  | nil => cases h
  | cons c cs =>
    rw [Render.isTail, Bool.or_eq_true, beq_iff_eq, beq_iff_eq] at htail
    rcases htail with rfl | rfl
    · have hread : Token.read ('.' :: cs) = readPunctuator punctuators ('.' :: cs) := rfl
      have hdots : readPunctuator punctuators ('.' :: cs) =
          if ['.', '.'].isPrefixOf cs then some (.symbol "...", cs.drop 2)
          else some (.symbol ".", cs) := by
        by_cases hdots : ['.', '.'] <+: cs <;>
          simp [punctuators, readPunctuator, stripStart?, hdots]
      rw [hread, hdots] at h
      split at h <;> cases h <;> simp
    · have hread : Token.read ('[' :: cs) = some (.symbol "[", cs) := rfl
      rw [hread] at h
      cases h
      simp

/-- What is read from a tail does not go on as a function, and starts with no operand. -/
theorem Reads.of_isTail {tail rest : List Char} {ts : List Token} (h : Reads tail ts rest)
    (htail : Render.isTail tail) :
    ts.head? ≠ some (.symbol "=>") ∧ ∀ t us, ts = t :: us → t.startsOperand = false := by
  cases h with
  | nil => exact ⟨nofun, nofun⟩
  | cons ht hrest =>
    have hstops : ∀ t ∈ [Token.symbol ".", .symbol "...", .symbol "["],
        t ≠ .symbol "=>" ∧ t.startsOperand = false := by decide
    obtain ⟨harrow, hoperand⟩ := hstops _ (Token.read_of_isTail htail ht)
    refine ⟨fun h => harrow (Option.some.inj h), fun t us h => ?_⟩
    rw [List.cons.injEq] at h
    rw [← h.1, hoperand]

/-- A parameter is read as it is written. -/
theorem reads_param {x : String} {param k : List Char} (h : WritesParam x.toList param)
    (hx : Render.isDotName x) (hop : x ≠ "typeof") (hk : EndsWord k) :
    ∃ params : Params, params.names = [x] ∧ Reads (param ++ k) params.tokens k := by
  have hword : ∀ {k}, EndsWord k → Token.read (x.toList ++ k) = some (.name x, k) := by
    intro k hk
    rw [read_word hx hk, wordToken, if_neg hop]
  cases h with
  | bare => exact ⟨.bare x, rfl, .one (hword hk)⟩
  | @parens l r hl hr =>
    have hclose : EndsWord (r ++ ')' :: k) :=
      endsWord_blank_append hr (by intro c hc; cases hc; decide)
    have hright : Reads (r ++ ')' :: k) [.symbol ")"] k :=
      Reads.blank_append hr (List.cons_ne_nil _ _) (.one rfl)
    have hleft : Reads (l ++ (x.toList ++ (r ++ ')' :: k))) [.name x, .symbol ")"] k :=
      Reads.blank_append hl (List.cons_ne_nil _ _) (.cons (hword hclose) hright)
    have htext : '(' :: (l ++ (x.toList ++ (r ++ [')']))) ++ k =
        '(' :: (l ++ (x.toList ++ (r ++ ')' :: k))) := by
      simp
    rw [htext]
    exact ⟨.listed [x], rfl, .cons rfl hleft⟩

/-- The source of a filter that is spliced is read as a function, if its body is read as an
expression. -/
theorem ReadsAs.source {source x tail : String} (h : ExtendsParam source x tail) (hop : x ≠ "typeof")
    {body : Phrase} (hbody : ReadsAs (x ++ tail) body) :
    ∃ params : Params, params.names = [x] ∧ ReadsAs source (.arrow params body) := by
  obtain ⟨rest, hreads, hrest⟩ := hbody
  obtain ⟨before, param, between, inner, hbefore, hwrites, hbetween, hinner, hsource⟩ := h.source_eq
  rw [String.toList_append] at hreads
  have harrow : Reads ('=' :: '>' :: (inner ++ (x.toList ++ tail.toList)))
      (.symbol "=>" :: body.tokens) rest :=
    .cons rfl (hreads.blank_append hinner body.tokens_ne_nil)
  have hends : EndsWord (between ++ '=' :: '>' :: (inner ++ (x.toList ++ tail.toList))) :=
    endsWord_blank_append hbetween (by intro c hc; cases hc; decide)
  obtain ⟨params, hnames, hparams⟩ := reads_param hwrites h.isDotName hop hends
  refine ⟨params, hnames, rest, ?_, hrest⟩
  rw [hsource, Phrase.tokens]
  exact (hparams.append (harrow.blank_append hbetween (List.cons_ne_nil _ _))).blank_append hbefore
    (List.append_ne_nil_of_left_ne_nil params.tokens_ne_nil _)

/-- The body of a filter that is spliced, if it is an expression: a chain that starts with the
parameter. The tail is what follows the parameter. -/
theorem ReadsAs.body {source x tail : String} (h : ExtendsParam source x tail) {body : Phrase}
    (hbody : ReadsAs (x ++ tail) body) : x ≠ "typeof" ∧ ∃ c : Chain, body = .chain c ∧
      c.head? = some x ∧ ∃ ts rest, (∀ b, (c.onHead b).tokens = b.tokens ++ ts) ∧
        Reads tail.toList ts rest ∧ Text.trimLeft rest = [] := by
  obtain ⟨rest, hreads, hrest⟩ := hbody
  have hread := read_word h.isDotName (endsWord_of_isTail h.isTail)
  rw [String.toList_append] at hreads
  generalize hall : body.tokens = all at hreads
  cases hreads with
  | nil => exact absurd hall body.tokens_ne_nil
  | @cons _ _ _ t ts ht hts =>
    rw [hread] at ht
    cases ht
    obtain ⟨harrow, hoperand⟩ := hts.of_isTail h.isTail
    -- The word `typeof` is an operator, and no operand follows it in a tail.
    have hop : x ≠ "typeof" := by
      rintro rfl
      obtain ⟨t, us, rfl, hstart⟩ := Phrase.startsOperand_of_prefixed .typeOf hall
      rw [hoperand t us rfl] at hstart
      cases hstart
    rw [wordToken, if_neg hop] at hall
    obtain ⟨c, hc, hhead, honHead⟩ := Phrase.eq_chain_of_name hall harrow
    exact ⟨hop, c, hc, hhead, ts, rest, honHead, hts, hrest⟩

end Grammar

/-! ## Accesses -/

/-- How a property of an argument is read: by its name or by a key. -/
inductive Access where
  | named (object name : String)
  | keyed (object key : String)

namespace Access

def text : Access → String
  | named object name => Render.memberAccess object name
  | keyed object key => object ++ "[" ++ key ++ "]"

/-- The words that stand in the access for arguments. -/
def params : Access → List String
  | named object _ => [object]
  | keyed object key => [object, key]

def atom : Access → Atom
  | named object name =>
    if Render.isDotName name then .member (.name object) name
    else .index (.name object) (.chain (.last (.atom (.text name))))
  | keyed object key => .index (.name object) (.chain (.last (.atom (.name key))))

theorem counting_atom_ne_zero (a : Access) : a.atom.eval counting (fun _ => 0) ≠ 0 := by
  cases a with
  | named object name =>
    rw [atom]
    split
    · rw [Atom.eval_counting_member]
      exact Nat.succ_ne_zero _
    · rw [Atom.eval_counting_index]
      exact Nat.succ_ne_zero _
  | keyed object key =>
    rw [atom, Atom.eval_counting_index]
    exact Nat.succ_ne_zero _

/-- A word is read as a name. -/
theorem read_name {word : String} (h : isName word) {k : List Char} (hk : EndsWord k) :
    Token.read (word.toList ++ k) = some (.name word, k) := by
  rw [isName, Bool.and_eq_true] at h
  have hword := read_word h.1 hk
  rwa [wordToken, if_neg] at hword
  rintro rfl
  exact absurd h.2 (by decide)

/-- A dot and a name after it. -/
theorem reads_dotName {name : String} (h : Render.isDotName name) {k : List Char} (hk : EndsWord k) :
    Reads ('.' :: (name.toList ++ k)) [.symbol ".", wordToken name] k := by
  have hdot : Token.read ('.' :: (name.toList ++ k)) = some (.symbol ".", name.toList ++ k) := by
    obtain ⟨c, rest, hword, hstart, -⟩ := exists_cons_of_isDotName h
    rw [hword]
    refine read_dot ?_ _
    rintro rfl
    exact absurd hstart (by decide)
  exact .cons hdot (.one (read_word h hk))

theorem reads_bracket {object : String} (h : isName object) {cs k : List Char} {ts : List Token}
    (hkey : Reads (cs ++ ']' :: k) ts (']' :: k)) :
    Reads (object.toList ++ '[' :: (cs ++ ']' :: k))
      (.name object :: .symbol "[" :: (ts ++ [.symbol "]"])) k := by
  have hobject := read_name h (k := '[' :: (cs ++ ']' :: k)) (by intro c hc; cases hc; decide)
  exact .cons hobject (.cons rfl (hkey.append (.one rfl)))

/-- An access is read as an atom, wherever no word goes on after it. -/
theorem reads (a : Access) (ha : ∀ word ∈ a.params, isName word) {k : List Char}
    (hk : EndsWord k) : Reads (a.text.toList ++ k) a.atom.tokens k := by
  cases a with
  | named object name =>
    have hobject : isName object := ha object (by simp [params])
    rw [text, atom, Render.memberAccess]
    split
    · rename_i hname
      have hread := read_name hobject (k := '.' :: (name.toList ++ k))
        (by intro c hc; cases hc; decide)
      have htext : (object ++ "." ++ name).toList ++ k =
          object.toList ++ '.' :: (name.toList ++ k) := by
        simp [String.toList_append]
      rw [htext, Atom.tokens, Atom.tokens]
      exact .cons hread (reads_dotName hname hk)
    · have htext : (object ++ "[" ++ Text.quote name ++ "]").toList ++ k =
          object.toList ++ '[' :: ((Text.quote name).toList ++ ']' :: k) := by
        simp [String.toList_append]
      rw [htext, Atom.tokens, Atom.tokens, Phrase.tokens, Chain.tokens, Factor.tokens, Atom.tokens]
      exact reads_bracket hobject (.one (read_quote name (']' :: k)))
  | keyed object key =>
    have hobject : isName object := ha object (by simp [params])
    have hkey : isName key := ha key (by simp [params])
    have htext : (object ++ "[" ++ key ++ "]").toList ++ k =
        object.toList ++ '[' :: (key.toList ++ ']' :: k) := by
      simp [String.toList_append]
    rw [text, htext, atom, Atom.tokens, Atom.tokens, Phrase.tokens, Chain.tokens, Factor.tokens,
      Atom.tokens]
    exact reads_bracket hobject (.one (read_name hkey (by intro c hc; cases hc; decide)))

end Access

/-- A filter that is spliced onto an access, if its body is an expression: the text is read as the body
with the access in place of the parameter that it starts with. -/
theorem Grammar.ReadsAs.splice {source x tail : String} (h : ExtendsParam source x tail) {c : Chain}
    (hbody : ReadsAs (x ++ tail) (.chain c)) {a : Access} (ha : ∀ word ∈ a.params, isName word) :
    ReadsAs (a.text ++ tail) (.chain (c.onHead a.atom)) := by
  obtain ⟨-, c', hc, -, ts, rest, honHead, hts, hrest⟩ := hbody.body h
  cases hc
  refine ⟨rest, ?_, hrest⟩
  rw [String.toList_append, Phrase.tokens, honHead]
  exact (a.reads ha (endsWord_of_isTail h.isTail)).append hts

/-! ## The property of an argument, with a filter -/

namespace Render

variable {s : Store} {ns ns' : ParamNames}

theorem isName_next {hint word : String} (hhint : hint ∈ hints) (hns : ns.Valid)
    (hwords : ∀ word ∈ ns.names.toList, isName word) (h : (Naming.next hint).run ns = .ok word ns') :
    isName word ∧ ns'.Valid ∧ ∀ word ∈ ns'.names.toList, isName word := by
  have hadv := (takes_next hhint).ok hns h
  have hwords' : ∀ word ∈ ns'.names.toList, isName word := by
    intro word hword
    rcases hadv.made word hword with hold | hmade
    · exact hwords word hold
    · exact isName_of_isMade hmade
  have hget := (wellFormed_next hns.wellFormed h).2.2.2
  rw [← Array.getElem?_toList] at hget
  exact ⟨hwords' word (List.mem_of_getElem? hget), hadv.valid, hwords'⟩

/-- The property of an argument is an access to a name of the list. -/
theorem exists_of_access {name : Option String} {access : String} (hns : ns.Valid)
    (hwords : ∀ word ∈ ns.names.toList, isName word)
    (h : (Render.access name).run ns = .ok access ns') :
    ∃ a : Access, access = a.text ∧ ∀ word ∈ a.params, isName word := by
  obtain ⟨object, ns₁, hobject, h⟩ := ok_of_bind h
  obtain ⟨hname, hns₁, hwords₁⟩ := isName_next (by decide) hns hwords hobject
  cases name with
  | some name =>
    cases h
    exact ⟨.named object name, rfl, List.forall_mem_singleton.2 hname⟩
  | none =>
    obtain ⟨key, ns₂, hkey, h⟩ := ok_of_bind h
    cases h
    have hkeyName := (isName_next (by decide) hns₁ hwords₁ hkey).1
    refine ⟨.keyed object key, rfl, List.forall_mem_cons.2 ⟨hname, List.forall_mem_singleton.2 hkeyName⟩⟩

/-- A property that is piped through a function with source. -/
theorem run_property_function {name : Option String} {f : Function} {source text : String}
    (hsource : f.source = some source)
    (h : (predicate s (.property name (some (.literal (.function f))))).run ns = .ok text ns') :
    ∃ access, (Render.access name).run ns = .ok access ns' ∧ text = spliceOrCall source access := by
  rw [predicate_property] at h
  obtain ⟨access, ns₁, haccess, h⟩ := ok_of_bind h
  rw [filtered, hsource] at h
  cases h
  exact ⟨access, haccess, rfl⟩

/-- A property is written without parentheses beside every operator, whatever its filter. -/
theorem needsParens_property (name : Option String) (filter : Option Operand)
    {operator : Precedence} (hop : operator ≠ .memberAccess) (position : Position) :
    needsParens operator (.nested (.property name filter)) position = .ok false := by
  cases operator <;> cases position <;> first | rfl | exact absurd rfl hop

end Render

/-- With one parameter, a function binds its name. -/
theorem Grammar.bindParams_singleton {V : Type} (env : String → V) (x : String) (args : Nat → V) :
    bindParams env [x] args = Function.update env x (args 0) := by
  funext y
  by_cases hy : y = x
  · rw [hy, Function.update_self, bindParams, if_pos (List.mem_singleton_self x),
      List.idxOf_cons_self]
  · rw [Function.update_of_ne hy, bindParams, if_neg (mt List.mem_singleton.1 hy)]

/-- **What splicing a filter comes to.** A property whose filter is a function with source text is
written as an access, with the filter spliced onto it or called on it, and stands without parentheses
beside every operator. The filter is spliced exactly when its source is of the form `ExtendsParam`. If
its body is an expression, then

* the source is the function of the parameter with this body, and nothing else;
* the body is a chain that starts with the parameter, and the text is this chain with the access in place
  of the parameter at its start, and nothing else;
* whatever the parts of expressions mean, the text has the value of the function on the access exactly
  when the parameter is used only there;
* beside an operator the text is read as the chain that the operator joins, and nothing else; this is what
  is meant, beside every operator, exactly when the chain has no operator of its own. -/
theorem splice_meaning (s : Store) (name : Option String) (f : Function) (source : String)
    (hsource : f.source = some source) (ns : ParamNames) (hns : ns.Valid)
    (hwords : ∀ word ∈ ns.names.toList, isName word) (text : String) (ns' : ParamNames)
    (hrun : (Render.predicate s (.property name (some (.literal (.function f))))).run ns =
      .ok text ns') :
    (∀ (operator : Precedence) (position : Position), operator ≠ .memberAccess →
      needsParens operator (.nested (.property name (some (.literal (.function f))))) position =
        .ok false) ∧
    ∃ a : Access, (Render.access name).run ns = .ok a.text ns' ∧
      ((∀ x tail, ¬ExtendsParam source x tail) → text = "(" ++ source ++ ")(" ++ a.text ++ ")") ∧
      ∀ x tail, ExtendsParam source x tail → text = a.text ++ tail ∧
        ∀ body, ReadsAs (x ++ tail) body → ∃ (params : Params) (c : Chain), params.names = [x] ∧
          (∀ e, ReadsAs source e ↔ e = .arrow params body) ∧ body = .chain c ∧ c.head? = some x ∧
          (∀ e, ReadsAs text e ↔ e = .chain (c.onHead a.atom)) ∧
          ((∀ (V : Type) (I : Interpretation V) (env : String → V),
            (c.onHead a.atom).eval I env =
              body.eval I (bindParams env params.names fun _ => a.atom.eval I env)) ↔
            c.uses x = 1) ∧
          (∀ (p : Parent) (e : Phrase), e.tokens = p.around (c.onHead a.atom).tokens ↔
            e = .chain (p.put (c.onHead a.atom))) ∧
          ((c.onHead a.atom).StandsAlone ↔ c.operators = []) := by
  obtain ⟨access, haccess, rfl⟩ := Render.run_property_function hsource hrun
  obtain ⟨a, rfl, ha⟩ := Render.exists_of_access hns hwords haccess
  refine ⟨fun operator position hop => Render.needsParens_property _ _ hop position, a, haccess,
    fun h => Render.spliceOrCall_of_not_extendsParam h a.text, ?_⟩
  intro x tail h
  refine ⟨Render.spliceOrCall_of_extendsParam h a.text, fun body hbody => ?_⟩
  obtain ⟨hop, c, rfl, hhead, -⟩ := hbody.body h
  obtain ⟨params, hnames, hfunction⟩ := hbody.source h hop
  refine ⟨params, c, hnames, fun e => hfunction.iff_eq, rfl, hhead, fun e => ?_, ?_, fun p e => ?_, ?_⟩
  · rw [Render.spliceOrCall_of_extendsParam h]
    exact (hbody.splice h ha).iff_eq
  · rw [← c.eval_onHead_iff a.atom hhead a.counting_atom_ne_zero, hnames]
    simp only [bindParams_singleton]
    rfl
  · exact p.tokens_eq_around_iff _
  · rw [Chain.standsAlone_iff, Chain.operators_onHead]

/-- A filter that takes the first of a list: its tail is an access in brackets. -/
theorem splice_meaning_index :
    let f : Function := ⟨"f", 1, ⟨0⟩, none, some "(v) => v.b[0]"⟩
    let c : Chain := .last (.atom
      (.index (.member (.name "v") "b") (.chain (.last (.atom (.number 0))))))
    let ns : ParamNames := ofNames ["a"]
    let ns' : ParamNames := { ns with position := 1 }
    f.source = some "(v) => v.b[0]" ∧ ns.Valid ∧ (∀ word ∈ ns.names.toList, isName word) ∧
      (Render.predicate {} (.property (some "n") (some (.literal (.function f))))).run ns =
        .ok "a.n.b[0]" ns' ∧
      ∃ a : Access, a.text = "a.n" ∧
        (∀ e, ReadsAs "a.n.b[0]" e ↔ e = .chain (c.onHead a.atom)) ∧
        (c.onHead a.atom).StandsAlone ∧
        ∀ (V : Type) (I : Interpretation V) (env : String → V), (c.onHead a.atom).eval I env =
          c.eval I (bindParams env ["v"] fun _ => a.atom.eval I env) := by
  intro f c ns ns'
  have hns : ns.Valid := valid_ofNames (by decide)
  have hwords : ∀ word ∈ ns.names.toList, isName word := by decide
  have hrun : (Render.predicate {} (.property (some "n") (some (.literal (.function f))))).run ns =
      .ok "a.n.b[0]" ns' := by rfl
  have hextends : ExtendsParam "(v) => v.b[0]" "v" ".b[0]" := by
    exact ⟨rfl, rfl, [], "(v)".toList, [' '], [' '], isBlank_nil, .parens isBlank_nil isBlank_nil,
      isBlank_space, isBlank_space, rfl⟩
  have hbody : ReadsAs ("v" ++ ".b[0]") (.chain c) :=
    ⟨[], .cons rfl (.cons rfl (.cons rfl (.cons rfl (.cons rfl (.cons rfl (.nil _)))))), rfl⟩
  obtain ⟨-, a, haccess, -, hspliced⟩ :=
    splice_meaning {} (some "n") f _ rfl ns hns hwords _ _ hrun
  have htext : a.text = "a.n" := by
    have hfirst : (Render.access (some "n")).run ns = .ok "a.n" ns' := by rfl
    exact (EStateM.Result.ok.inj (haccess.symm.trans hfirst)).1
  obtain ⟨-, hmeaning⟩ := hspliced "v" ".b[0]" hextends
  obtain ⟨params, c', hnames, -, hc, -, hreads, hvalue, -, halone⟩ := hmeaning _ hbody
  cases hc
  rw [hnames] at hvalue
  exact ⟨rfl, hns, hwords, hrun, a, htext, hreads, halone.2 rfl, hvalue.2 rfl⟩

/-- A filter that uses its parameter twice, with an operator between: the second use is left as it is,
and nothing holds the sum together beside a product. -/
theorem splice_captures :
    let t : Predicate :=
      .property (some "n") (some (.literal (.function ⟨"f", 1, ⟨0⟩, none, some "x => x.a + x"⟩)))
    let x : Factor := .atom (.name "x")
    let c : Chain :=
      .infixed (.atom (.member (.name "x") "a")) ⟨.symbol "+", by decide⟩ (.last x)
    let a : Access := .named "a" "n"
    Render.stripHeader? "x => x.a + x" = some ".a + x" ∧
      t.toSource {} = .ok ⟨["a"], "a.n.a + x", .memberAccess⟩ ∧
      (Predicate.binary .mul (.nested t) .unset).toSource {} =
        .ok ⟨["a", "b"], "a.n.a + x * b", .multiplicative⟩ ∧
      ReadsAs ("x" ++ ".a + x") (.chain c) ∧ ReadsAs "a.n.a + x" (.chain (c.onHead a.atom)) ∧
      ReadsAs "a.n.a + x * b"
        (.chain ((c.onHead a.atom).snoc ⟨.symbol "*", by decide⟩ (.atom (.name "b")))) ∧
      c.uses "x" = 2 ∧ ¬(c.onHead a.atom).StandsAlone ∧
      (c.onHead a.atom).eval counting (fun _ => 0) ≠
        c.eval counting (bindParams (fun _ => 0) ["x"] fun _ => a.atom.eval counting fun _ => 0) := by
  intro t x c a
  have hbody : ReadsAs ("x" ++ ".a + x") (.chain c) :=
    ⟨[], .cons rfl (.cons rfl (.cons rfl (.cons rfl (.cons rfl (.nil _))))), rfl⟩
  have hspliced : ReadsAs "a.n.a + x" (.chain (c.onHead a.atom)) :=
    ⟨[], .cons rfl (.cons rfl (.cons rfl (.cons rfl (.cons rfl (.cons rfl (.cons rfl (.nil _))))))),
      rfl⟩
  have hproduct : ReadsAs "a.n.a + x * b"
      (.chain ((c.onHead a.atom).snoc ⟨.symbol "*", by decide⟩ (.atom (.name "b")))) :=
    ⟨[], .cons rfl (.cons rfl (.cons rfl (.cons rfl (.cons rfl (.cons rfl (.cons rfl (.cons rfl
      (.cons rfl (.nil _))))))))), rfl⟩
  refine ⟨rfl, by rfl, by rfl, hbody, hspliced, hproduct, rfl, ?_, by decide⟩
  rw [Chain.standsAlone_iff]
  exact List.cons_ne_nil _ _

end Criteria
