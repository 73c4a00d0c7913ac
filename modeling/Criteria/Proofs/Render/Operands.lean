import Criteria.Proofs.Number
import Criteria.Proofs.Render.Lexing
import Criteria.Proofs.Render.Nodes
import Criteria.Value.Datum

/-!
# Operands

The usual grammar of expressions, over the nodes of a text. An access, an index or a call takes what
stands before it as far as that is an operand, and no operator.

* `IsOperand`, `IsChain`, `IsExpression` — the grammar.
* `IsOperand.mark_eq` — outside of brackets an operand has no operator.
* `IndexOf`, `IndexOf.unique` — a text is an index of an operand, and its base is told by the text.
* `Lexes.word`, `Lexes.numeral`, `Lexes.quote` — texts of one lexeme.
* `Written.append`, `Written.separate`, … — the nodes of texts that are put together.
-/

set_option autoImplicit false

namespace Criteria.Grammar

/-! ## Expressions -/

/-- The words that are no names. -/
def reservedWords : List String :=
  ["await", "break", "case", "catch", "class", "const", "continue", "debugger", "default", "delete",
    "do", "else", "enum", "export", "extends", "finally", "for", "function", "if", "import", "in",
    "instanceof", "let", "new", "return", "static", "super", "switch", "throw", "try", "typeof", "var",
    "void", "while", "with", "yield"]

/-- The operators that stand before an operand. -/
def prefixOperators : List Leaf :=
  ["!", "~", "-", "+"].map .mark ++ ["typeof", "void", "delete", "await"].map .word

/-- The operators that stand between two operands. -/
def infixOperators : List Leaf :=
  ["||", "&&", "??", "|", "^", "&", "==", "!=", "===", "!==", "<", ">", "<=", ">=", "<<", ">>", ">>>",
    "+", "-", "*", "/", "%", "**"].map .mark ++ ["in", "instanceof"].map .word

/-- Nodes with commas between them. -/
def separate : List (List Node) → List Node
  | [] => []
  | [e] => e
  | e :: e' :: rest => e ++ .leaf (.mark ",") :: separate (e' :: rest)

/-- A leaf that can be the key of an entry. -/
def Leaf.isKey : Leaf → Bool
  | .mark _ => false
  | _ => true

/-- An entry of an object: a key and a value. -/
def entryNodes (e : Leaf × List Node) : List Node := .leaf e.1 :: .leaf (.mark ":") :: e.2

/-- The parameters of a function in parentheses. -/
def paramNodes (xs : List String) : Node := .group .paren (separate (xs.map fun x => [.leaf (.word x)]))

/-- The parameters of an arrow function. -/
inductive IsParams : Node → Prop where
  | bare {x : String} (h : x ∉ reservedWords) : IsParams (.leaf (.word x))
  | listed (xs : List String) : IsParams (paramNodes xs)

mutual

/-- The nodes are an operand: what binds tightest, with the accesses, indices and calls behind it. What
stands in the braces of a function is not looked into. -/
inductive IsOperand : List Node → Prop where
  | name {w : String} (h : w ∉ reservedWords) : IsOperand [.leaf (.word w)]
  | number (digits : String) : IsOperand [.leaf (.number digits)]
  | quoted (body : List Char) : IsOperand [.leaf (.quoted body)]
  | parens {ns : List Node} (h : IsExpression ns) : IsOperand [.group .paren ns]
  | list {es : List (List Node)} (h : ∀ e ∈ es, IsExpression e) : IsOperand [.group .square (separate es)]
  | record {es : List (Leaf × List Node)} (hkeys : ∀ e ∈ es, e.1.isKey)
      (h : ∀ e ∈ es, IsExpression e.2) : IsOperand [.group .curly (separate (es.map entryNodes))]
  | function (name : Option String) (params : List String) (body : List Node) :
      IsOperand (.leaf (.word "function") :: name.toList.map (fun w => .leaf (.word w)) ++
        [paramNodes params, .group .curly body])
  | create {callee : String} {es : List (List Node)} (hcallee : callee ∉ reservedWords)
      (h : ∀ e ∈ es, IsExpression e) :
      IsOperand [.leaf (.word "new"), .leaf (.word callee), .group .paren (separate es)]
  | access {ns : List Node} (h : IsOperand ns) (field : String) :
      IsOperand (ns ++ [.leaf (.mark "."), .leaf (.word field)])
  | index {ns ks : List Node} (h : IsOperand ns) (hkey : IsExpression ks) :
      IsOperand (ns ++ [.group .square ks])
  | call {ns : List Node} {es : List (List Node)} (h : IsOperand ns) (hargs : ∀ e ∈ es, IsExpression e) :
      IsOperand (ns ++ [.group .paren (separate es)])

/-- The nodes are operands with operators before and between them. -/
inductive IsChain : List Node → Prop where
  | operand {ns : List Node} (h : IsOperand ns) : IsChain ns
  | prefixed {op : Leaf} {ns : List Node} (hop : op ∈ prefixOperators) (h : IsChain ns) :
      IsChain (.leaf op :: ns)
  | infixed {op : Leaf} {ls rs : List Node} (hl : IsChain ls) (hop : op ∈ infixOperators)
      (hr : IsChain rs) : IsChain (ls ++ .leaf op :: rs)

/-- The nodes are an expression. -/
inductive IsExpression : List Node → Prop where
  | chain {ns : List Node} (h : IsChain ns) : IsExpression ns
  | conditional {cs ts es : List Node} (hc : IsChain cs) (ht : IsExpression ts) (he : IsExpression es) :
      IsExpression (cs ++ .leaf (.mark "?") :: (ts ++ .leaf (.mark ":") :: es))
  /-- Braces behind the arrow are no object. -/
  | arrow {p : Node} {body : List Node} (hp : IsParams p) (h : IsExpression body)
      (hbody : ∀ inner rest, body ≠ .group .curly inner :: rest) :
      IsExpression (p :: .leaf (.mark "=>") :: body)
  | block {p : Node} (hp : IsParams p) (body : List Node) :
      IsExpression [p, .leaf (.mark "=>"), .group .curly body]

end

theorem IsOperand.isExpression {ns : List Node} (h : IsOperand ns) : IsExpression ns :=
  .chain (.operand h)

/-- Outside of brackets an operand has no operator and no arrow. -/
theorem IsOperand.mark_eq {s : String} : ∀ {ns : List Node}, IsOperand ns → .leaf (.mark s) ∈ ns →
    s = "."
  | _, .name _, h | _, .number _, h | _, .quoted _, h | _, .parens _, h | _, .list _, h
  | _, .record _ _, h | _, .create _ _, h => by simp at h
  | _, .function _ _ _, h => by simp [paramNodes] at h
  | _, .access hns field, h => by
    rcases List.mem_append.1 h with h | h
    · exact hns.mark_eq h
    · simpa using h
  | _, .index hns _, h | _, .call hns _, h => by
    rcases List.mem_append.1 h with h | h
    · exact hns.mark_eq h
    · simp at h

/-- The text is an index expression: an operand with a name in brackets behind it. -/
structure IndexOf (text : String) (base : List Node) (key : String) : Prop where
  written : Written text (base ++ [.group .square [.leaf (.word key)]])
  base : IsOperand base
  key : key ∉ reservedWords

/-- The base of an index expression is told by the text. -/
theorem IndexOf.unique {text key : String} {base base' : List Node} (h : IndexOf text base key)
    (h' : Written text (base' ++ [.group .square [.leaf (.word key)]])) : base = base' :=
  List.append_cancel_right (h.written.unique h')

/-! ## Texts of lexemes -/

section Lexemes

variable {cs k : List Char} {ls ms : List Lexeme} {c : Char}

namespace Lexes

theorem one {l : Lexeme} (h : Lexeme.next cs = some (some l, [])) : Lexes cs [l] := .cons h .nil

theorem blank (h : Lexes cs ls) : Lexes (' ' :: cs) ls := .cons (l := none) rfl h

theorem comma (h : Lexes cs ls) : Lexes (',' :: ' ' :: cs) (.leaf (.mark ",") :: ls) :=
  .cons (l := some _) rfl h.blank

theorem colon (h : Lexes cs ls) : Lexes (':' :: ' ' :: cs) (.leaf (.mark ":") :: ls) :=
  .cons (l := some _) rfl h.blank

theorem minus (hminus : c ≠ '-') (hequal : c ≠ '=') (h : Lexes (c :: cs) ls) :
    Lexes ('-' :: c :: cs) (.leaf (.mark "-") :: ls) := by
  have hmark : mark? ('-' :: c :: cs) = some ("-", c :: cs) := by
    simp [mark?, punctuators, stripStart?, Ne.symm hminus, Ne.symm hequal]
  refine .cons (l := some (.leaf (.mark "-"))) ?_ h
  show (mark? ('-' :: c :: cs)).map _ = _
  rw [hmark]
  rfl

theorem dot (hdot : c ≠ '.') (h : Lexes (c :: cs) ls) :
    Lexes ('.' :: c :: cs) (.leaf (.mark ".") :: ls) := by
  have hmark : mark? ('.' :: c :: cs) = some (".", c :: cs) := by
    simp [mark?, punctuators, stripStart?, Ne.symm hdot]
  refine .cons (l := some (.leaf (.mark "."))) ?_ h
  show (mark? ('.' :: c :: cs)).map _ = _
  rw [hmark]
  rfl

end Lexes

/-! Words and numerals -/

/-- A run of characters of a class goes to the end of a text of the class. -/
theorem span_eq_self {f : Char → Bool} (h : ∀ d ∈ cs, f d) :
    cs.takeWhile f = cs ∧ cs.dropWhile f = [] := by
  have hspan := Text.span_append h (k := []) nofun
  rwa [List.append_nil] at hspan

theorem Lexes.word {w : String} (h : Datum.isBareKey w) : Lexes w.toList [.leaf (.word w)] := by
  unfold Datum.isBareKey at h
  split at h
  · cases h
  · rename_i c rest hw
    rw [Bool.and_eq_true, List.all_eq_true] at h
    have hstart : isWordStart c = true := h.1
    have hspan := span_eq_self (f := isWordChar) h.2
    refine .one ?_
    rw [hw, Lexeme.next, if_pos hstart, hspan.1, hspan.2, ← hw, String.ofList_toList]

theorem isWordChar_of_isDigit (h : c.isDigit) : isWordChar c := by
  have hc := toNat_of_isDigit h
  have hascii : c.toNat < 0x80 := by omega
  simp [isWordChar, Unicode.isAlphanumeric, hascii, Char.isAlphanum, h]

theorem isWordStart_of_isDigit (h : c.isDigit) : isWordStart c = false := by
  have hc := toNat_of_isDigit h
  have hascii : c.toNat < 0x80 := by omega
  have hstart : isWordStart c = Render.isIdentStart c := by
    simp [isWordStart, Render.isIdentStart, Unicode.isAlphabetic, hascii]
  rw [hstart, isIdentStart_of_isDigit h]

/-- A number goes on up to the end of its fraction. -/
theorem Lexes.numeral (h : Number.IsNumeral cs) :
    Lexes cs [.leaf (.number (String.ofList cs))] := by
  obtain ⟨c, whole, hc, hwhole, hcs⟩ := h
  have hstart : ¬ isWordStart c := by simp [isWordStart_of_isDigit hc]
  have hself := span_eq_self (f := isWordChar) fun d hd => isWordChar_of_isDigit (hwhole d hd)
  refine .one ?_
  rcases hcs with rfl | ⟨d, fraction, hd, hfraction, rfl⟩
  · rw [Lexeme.next, if_neg hstart, if_pos hc, hself.1, hself.2]
    simp [splitFraction]
  · have hend := span_eq_self (f := isWordChar) fun e he => isWordChar_of_isDigit (hfraction e he)
    have hpoint : ∀ e ∈ ('.' :: d :: fraction).head?, isWordChar e = false := by
      rintro e he
      cases he
      rfl
    have hspan := span_append_of_head hpoint whole
    rw [List.cons_append, Lexeme.next, if_neg hstart, if_pos hc, hspan.1, hspan.2, hself.1, hself.2,
      List.nil_append, splitFraction, if_pos ⟨rfl, hd⟩, hend.1, hend.2]
    rfl

/-! Quoted texts -/

/-- Plain characters are passed over. -/
theorem quotedBody_plain {quote : Char} (h : ∀ d ∈ cs, d ≠ quote ∧ d ≠ '\\') (rest : List Char) :
    quotedBody quote false (cs ++ rest) =
      (quotedBody quote false rest).map (Prod.map (cs ++ ·) id) := by
  induction cs with
  | nil =>
    rw [List.nil_append]
    cases quotedBody quote false rest <;> rfl
  | cons d cs ih =>
    have hd := h d List.mem_cons_self
    have hquote : ¬(!false && d == quote) = true := by simp [hd.1]
    have hslash : (!false && d == '\\') = false := by simp [hd.2]
    rw [List.cons_append, quotedBody, if_neg hquote, hslash,
      ih fun e he => h e (List.mem_cons_of_mem d he), Option.map_map]
    rfl

/-- A character behind a backslash is passed over. -/
theorem quotedBody_escaped {quote : Char} (hquote : quote ≠ '\\') (d : Char) (rest : List Char) :
    quotedBody quote false ('\\' :: d :: rest) =
      (quotedBody quote false rest).map (Prod.map ('\\' :: d :: ·) id) := by
  have hslash : ('\\' == quote) = false := beq_false_of_ne hquote.symm
  simp only [quotedBody, hslash, Bool.not_false, Bool.not_true, Bool.true_and, Bool.false_and,
    beq_self_eq_true, Option.map_map, Bool.false_eq_true, if_false]
  rfl

/-- A spelling does not end the quotes. -/
theorem quotedBody_append_spelling {part : List Char} {c : Char} (h : Text.Spells part c)
    (rest : List Char) : quotedBody '"' false (part ++ rest) =
      (quotedBody '"' false rest).map (Prod.map (part ++ ·) id) := by
  cases h with
  | plain hquote hslash _ =>
    exact quotedBody_plain (List.forall_mem_singleton.2 ⟨hquote, hslash⟩) rest
  | letter => exact quotedBody_escaped (by decide) _ rest
  | @numbered ds _ hlength hds =>
    have hdigits := (Text.hex?_isSome_iff.1 (Option.isSome_of_eq_some hds)).2
    have hplain : ∀ d ∈ ds, d ≠ '"' ∧ d ≠ '\\' := fun d hd =>
      (Text.plain_of_isHexDigit (hdigits d hd)).imp_right And.left
    rw [List.cons_append, List.cons_append, quotedBody_escaped (by decide), quotedBody_plain hplain,
      Option.map_map]
    rfl

theorem quotedBody_quoteBody (cs k : List Char) :
    quotedBody '"' false (Text.quoteBody cs ++ '"' :: k) = some (Text.quoteBody cs, k) := by
  induction cs with
  | nil => rfl
  | cons c cs ih =>
    rw [Text.quoteBody, List.append_assoc, quotedBody_append_spelling (Text.spells_quoteChar c), ih]
    rfl

/-- A quoted text is one lexeme, whatever stands behind it. -/
theorem Lexeme.next_quote (s : String) (k : List Char) :
    Lexeme.next ((Text.quote s).toList ++ k) =
      some (some (.leaf (.quoted (Text.quoteBody s.toList))), k) := by
  have hnext : ∀ cs, Lexeme.next ('"' :: cs) =
      (quotedBody '"' false cs).map fun found => (some (.leaf (.quoted found.1)), found.2) :=
    fun _ => rfl
  rw [toList_quote_append, hnext, quotedBody_quoteBody]
  rfl

theorem Lexes.quote (s : String) :
    Lexes (Text.quote s).toList [.leaf (.quoted (Text.quoteBody s.toList))] := by
  have hnext := Lexeme.next_quote s []
  rw [List.append_nil] at hnext
  exact .one hnext

/-! Brackets -/

def Bracket.opens : Bracket → Char
  | .paren => '('
  | .square => '['
  | .curly => '\x7b'

def Bracket.closes : Bracket → Char
  | .paren => ')'
  | .square => ']'
  | .curly => '\x7d'

theorem Lexes.group (b : Bracket) (h : Lexes cs ls) (hk : Lexes k ms) :
    Lexes (b.opens :: (cs ++ b.closes :: k)) (.opening b :: (ls ++ .closing b :: ms)) := by
  have hopen : Lexeme.next (b.opens :: (cs ++ b.closes :: k)) =
      some (some (.opening b), cs ++ b.closes :: k) := by cases b <;> rfl
  have hclose : Lexeme.next (b.closes :: k) = some (some (.closing b), k) := by cases b <;> rfl
  have hseparated : Separated (b.closes :: k) := by
    intro d hd
    cases hd
    cases b <;> rfl
  exact .cons hopen (h.append hseparated (.cons hclose hk))

end Lexemes

/-! ## Texts of nodes -/

namespace Written

variable {text rest : String} {ns ms : List Node} {c : Char} {cs : List Char}

theorem empty : Written "" [] := Lexes.nil

theorem leaf {x : Leaf} (h : Lexes text.toList [.leaf x]) : Written text [.leaf x] := h

/-- A text in brackets, and what goes on behind it. -/
theorem group {whole : String} (b : Bracket) (h : Written text ns) (hrest : Written rest ms)
    (hwhole : whole.toList = b.opens :: (text.toList ++ b.closes :: rest.toList)) :
    Written whole (.group b ns :: ms) := by
  have hgroup := Lexes.group b h hrest
  rw [Written, hwhole, Node.allLexemes, Node.lexemes, List.cons_append, List.append_assoc,
    List.singleton_append]
  exact hgroup

theorem parens (h : Written text ns) (hrest : Written rest ms) :
    Written ("(" ++ text ++ ")" ++ rest) (.group .paren ns :: ms) :=
  h.group .paren hrest (by simp [String.toList_append, Bracket.opens, Bracket.closes])

theorem squares (h : Written text ns) (hrest : Written rest ms) :
    Written ("[" ++ text ++ "]" ++ rest) (.group .square ns :: ms) :=
  h.group .square hrest (by simp [String.toList_append, Bracket.opens, Bracket.closes])

/-- A text behind another one starts with a separator. -/
theorem append (h : Written text ns) (hhead : rest.toList.head? = some c) (hc : isSeparator c)
    (h' : Written rest ms) : Written (text ++ rest) (ns ++ ms) := by
  have hseparated : Separated rest.toList := by
    intro d hd
    rw [hhead] at hd
    cases hd
    exact hc
  rw [Written, String.toList_append, Node.allLexemes_append]
  exact Lexes.append h hseparated h'

/-- Blanks within braces do not matter. -/
theorem braces (h : Written text ns) : Written ("\x7b " ++ text ++ " \x7d") [.group .curly ns] := by
  have hspace : Written " " [] := Lexes.blank .nil
  have hpadded : Written (" " ++ text ++ " ") ns := by
    have htext : Written (" " ++ text) ns := by
      rw [Written, String.toList_append]
      exact Lexes.blank h
    rw [← List.append_nil ns]
    exact htext.append (c := ' ') rfl rfl hspace
  exact hpadded.group .curly empty (by simp [String.toList_append, Bracket.opens, Bracket.closes])

/-- A minus sign before a word or a number. -/
theorem minus {x : Leaf} (h : Written text [.leaf x])
    (htext : text.toList = c :: cs) (hminus : c ≠ '-') (hequal : c ≠ '=') :
    Written ("-" ++ text) [.leaf (.mark "-"), .leaf x] := by
  rw [Written, htext] at h
  rw [Written, String.toList_append, htext]
  exact Lexes.minus hminus hequal h

/-- Texts with commas between them. -/
theorem separate {texts : List String} {es : List (List Node)} (h : List.Forall₂ Written texts es) :
    Written (String.intercalate ", " texts) (separate es) := by
  induction h with
  | nil => exact Lexes.nil
  | @cons text e texts es htext hrest ih =>
    cases hrest with
    | nil =>
      rw [String.intercalate_singleton]
      exact htext
    | @cons text' e' texts es htext' hrest =>
      have hcomma : Written (", " ++ String.intercalate ", " (text' :: texts))
          (.leaf (.mark ",") :: Grammar.separate (e' :: es)) := by
        rw [Written, String.toList_append]
        exact Lexes.comma ih
      rw [String.intercalate_cons_cons, String.append_assoc]
      exact htext.append (c := ',') (by simp [String.toList_append]) rfl hcomma

/-- A key and a value. -/
theorem entry {key : String} {x : Leaf} (hkey : Lexes key.toList [.leaf x]) (h : Written text ns) :
    Written (key ++ ": " ++ text) (entryNodes (x, ns)) := by
  have hvalue : Written (": " ++ text) (.leaf (.mark ":") :: ns) := by
    rw [Written, String.toList_append]
    exact Lexes.colon h
  rw [String.append_assoc]
  exact (leaf hkey).append (c := ':') (by simp [String.toList_append]) rfl hvalue

end Written

end Criteria.Grammar
