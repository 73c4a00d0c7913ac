import Criteria.Proofs.Render.Grammar
import Criteria.Text.Quoted
import Criteria.Unicode.Identifier

/-!
# The brackets of a text

A text in source syntax is cut into lexemes, and the lexemes are grouped by their brackets. What a
text is made of is then a list of nodes: words, numbers, quoted texts, punctuators, and pairs of
brackets with the nodes between them.

* `Lexeme.next` — the lexeme at the start of a text.
* `Lexes` — the lexemes of a text.
* `Node`, `Written` — the nodes of a text.
* `Lexes.append` — a text goes on behind another one that ends where a separator starts.
* `Written.unique` — a text has its nodes in one way only.
-/

set_option autoImplicit false

namespace Criteria.Grammar

/-! ## Lexemes -/

/-- A piece of a text that is no bracket. A quoted text is kept as it is written, escapes and all. -/
inductive Leaf where
  | word (w : String)
  | number (digits : String)
  | quoted (body : List Char)
  | mark (s : String)
  deriving DecidableEq

inductive Bracket where
  | paren | square | curly
  deriving DecidableEq

inductive Lexeme where
  | leaf (x : Leaf)
  | opening (b : Bracket)
  | closing (b : Bracket)
  deriving DecidableEq

/-- The bracket that a character is. -/
def bracket? : Char → Option Lexeme
  | '(' => some (.opening .paren)
  | ')' => some (.closing .paren)
  | '[' => some (.opening .square)
  | ']' => some (.closing .square)
  | '\x7b' => some (.opening .curly)
  | '\x7d' => some (.closing .curly)
  | _ => none

/-- Whether a word may start with a character. -/
def isWordStart (c : Char) : Bool := Unicode.isAlphabetic c || c == '_' || c == '$'

/-- Whether a word may go on with a character. -/
def isWordChar (c : Char) : Bool := Unicode.isAlphanumeric c || c == '_' || c == '$'

/-- The characters up to the quotation mark that ends a text, from after the one that starts it. A
character behind a backslash does not end it. -/
def quotedBody (quote : Char) : Bool → List Char → Option (List Char × List Char)
  | _, [] => none
  | escaped, c :: rest =>
    if !escaped && c == quote then some ([], rest)
    else (quotedBody quote (!escaped && c == '\\') rest).map (Prod.map (c :: ·) id)

/-- The fraction behind the digits of a number, if there is one. -/
def splitFraction : List Char → List Char × List Char
  | c :: d :: rest =>
    if c = '.' ∧ d.isDigit then (c :: d :: rest.takeWhile isWordChar, rest.dropWhile isWordChar)
    else ([], c :: d :: rest)
  | cs => ([], cs)

/-- The longest punctuator at the start of a text. -/
def mark? (cs : List Char) : Option (String × List Char) :=
  punctuators.findSome? fun s => (stripStart? s.toList cs).map (s, ·)

/-- The lexeme at the start of a text, none for a blank, and what follows it. -/
def Lexeme.next : List Char → Option (Option Lexeme × List Char)
  | [] => none
  | c :: rest =>
    if isWordStart c then
      some (some (.leaf (.word (String.ofList (c :: rest.takeWhile isWordChar)))),
        rest.dropWhile isWordChar)
    else if c.isDigit then
      let (fraction, rest') := splitFraction (rest.dropWhile isWordChar)
      some (some (.leaf (.number (String.ofList (c :: rest.takeWhile isWordChar ++ fraction)))), rest')
    else if Text.isBlank c then some (none, rest)
    else if c = '"' ∨ c = '\'' then
      (quotedBody c false rest).map fun (body, rest) => (some (.leaf (.quoted body)), rest)
    else
      match bracket? c with
      | some b => some (some b, rest)
      | none => (mark? (c :: rest)).map fun (s, rest) => (some (.leaf (.mark s)), rest)

/-- The lexemes of a text, with blanks anywhere between them. -/
inductive Lexes : List Char → List Lexeme → Prop where
  | nil : Lexes [] []
  | cons {cs rest : List Char} {l : Option Lexeme} {ls : List Lexeme}
      (h : Lexeme.next cs = some (l, rest)) (hrest : Lexes rest ls) : Lexes cs (l.toList ++ ls)

theorem Lexes.unique {cs : List Char} {ls ms : List Lexeme} (h : Lexes cs ls) (h' : Lexes cs ms) :
    ls = ms := by
  induction h generalizing ms with
  | nil =>
    cases h' with
    | nil => rfl
    | cons hnext _ => cases hnext
  | cons hnext _ ih =>
    cases h' with
    | nil => cases hnext
    | cons hnext' hrest' =>
      rw [hnext] at hnext'
      cases hnext'
      rw [ih hrest']

/-! ## One text behind another -/

/-- Whether a character ends every lexeme before it. -/
def isSeparator (c : Char) : Bool := c == ' ' || c == ',' || c == ':' || (bracket? c).isSome

/-- The text is empty or starts with a separator. -/
def Separated (k : List Char) : Prop := ∀ c ∈ k.head?, isSeparator c

theorem isSeparator_iff {c : Char} :
    isSeparator c = true ↔ c ∈ [' ', ',', ':', '(', ')', '[', ']', '\x7b', '\x7d'] := by
  constructor
  · intro h
    simp only [isSeparator, Bool.or_eq_true, beq_iff_eq] at h
    rcases h with ((rfl | rfl) | rfl) | h
    · decide
    · decide
    · decide
    · unfold bracket? at h
      split at h <;> first | decide | cases h
  · intro h
    simp only [List.mem_cons, List.not_mem_nil, or_false] at h
    rcases h with rfl | rfl | rfl | rfl | rfl | rfl | rfl | rfl | rfl <;> rfl

/-- A separator goes on with no word, no number, no fraction and no punctuator. -/
theorem separator_spec {c : Char} (h : isSeparator c) :
    isWordChar c = false ∧ c ≠ '.' ∧ c.isDigit = false ∧
      ∀ s ∈ punctuators, c ∉ s.toList.tail := by
  rw [isSeparator_iff] at h
  simp only [List.mem_cons, List.not_mem_nil, or_false] at h
  rcases h with rfl | rfl | rfl | rfl | rfl | rfl | rfl | rfl | rfl <;>
    exact ⟨rfl, by decide, rfl, by decide⟩

variable {k cs rest : List Char}

/-- A run of characters ends at the latest where a character does not belong to it. -/
theorem span_append_of_head {f : Char → Bool} (hk : ∀ c ∈ k.head?, f c = false) (cs : List Char) :
    (cs ++ k).takeWhile f = cs.takeWhile f ∧ (cs ++ k).dropWhile f = cs.dropWhile f ++ k := by
  induction cs with
  | nil =>
    cases k with
    | nil => exact ⟨rfl, rfl⟩
    | cons c k => simp [hk c rfl]
  | cons c cs ih =>
    rw [List.cons_append, List.takeWhile_cons, List.takeWhile_cons, List.dropWhile_cons,
      List.dropWhile_cons]
    split
    · rw [ih.1, ih.2]
      exact ⟨rfl, rfl⟩
    · exact ⟨rfl, rfl⟩

theorem splitFraction_append (hk : Separated k) (cs : List Char) :
    splitFraction (cs ++ k) = ((splitFraction cs).1, (splitFraction cs).2 ++ k) := by
  match cs, k with
  | [], [] | [_], [] | [], [_] => rfl
  | [], c :: d :: k =>
    have hc : ¬(c = '.' ∧ d.isDigit) := fun h => (separator_spec (hk c rfl)).2.1 h.1
    rw [List.nil_append, splitFraction, if_neg hc]
    rfl
  | [c], d :: k =>
    have hd : ¬(c = '.' ∧ d.isDigit) := by simp [(separator_spec (hk d rfl)).2.2.1]
    rw [List.singleton_append, splitFraction, if_neg hd]
    rfl
  | c :: d :: rest, k =>
    have hspan := span_append_of_head (f := isWordChar)
      (fun c hc => (separator_spec (hk c hc)).1) rest
    rw [List.cons_append, List.cons_append, splitFraction, splitFraction, hspan.1, hspan.2]
    split <;> rfl

theorem quotedBody_append {quote : Char} {escaped : Bool} {body : List Char}
    (h : quotedBody quote escaped cs = some (body, rest)) (k : List Char) :
    quotedBody quote escaped (cs ++ k) = some (body, rest ++ k) := by
  induction cs generalizing escaped body with
  | nil => cases h
  | cons c cs ih =>
    rw [quotedBody] at h
    rw [List.cons_append, quotedBody]
    split at h
    · rename_i hc
      cases h
      rw [if_pos hc]
    · rename_i hc
      obtain ⟨⟨body', rest'⟩, hbody, heq⟩ := Option.map_eq_some_iff.1 h
      cases heq
      rw [if_neg hc, ih hbody]
      rfl

/-- What may follow does not go on with a punctuator. -/
theorem stripStart?_append {start : List Char} (hstart : ∀ c ∈ k.head?, c ∉ start.tail) (c : Char)
    (cs : List Char) : stripStart? start (c :: cs ++ k) = (stripStart? start (c :: cs)).map (· ++ k) := by
  rw [stripStart?, stripStart?]
  by_cases hbegins : start <+: c :: cs
  · rw [if_pos (List.isPrefixOf_iff_prefix.2 (hbegins.trans (List.prefix_append _ k))),
      if_pos (List.isPrefixOf_iff_prefix.2 hbegins), List.drop_append_of_le_length hbegins.length_le]
    rfl
  · rw [if_neg fun h => hbegins (List.isPrefixOf_iff_prefix.1 h), if_neg]
    · rfl
    · intro h
      rcases List.prefix_or_prefix_of_prefix (List.isPrefixOf_iff_prefix.1 h)
        (List.prefix_append (c :: cs) k) with hshort | ⟨t, rfl⟩
      · exact hbegins hshort
      · obtain ⟨t', ht'⟩ := List.isPrefixOf_iff_prefix.1 h
        rw [List.append_assoc] at ht'
        have hkt := List.append_cancel_left ht'
        cases t with
        | nil => exact hbegins (by simp)
        | cons d t => exact hstart d (by rw [← hkt]; rfl) (by simp)

theorem mark?_append (hk : Separated k) (c : Char) (cs : List Char) :
    mark? (c :: cs ++ k) = (mark? (c :: cs)).map fun (s, rest) => (s, rest ++ k) := by
  have hseparated : ∀ s ∈ punctuators, ∀ d ∈ k.head?, d ∉ s.toList.tail :=
    fun s hs d hd => (separator_spec (hk d hd)).2.2.2 s hs
  rw [mark?, mark?]
  generalize punctuators = marks at hseparated
  induction marks with
  | nil => rfl
  | cons s marks ih =>
    rw [List.findSome?_cons, List.findSome?_cons,
      stripStart?_append (hseparated s List.mem_cons_self)]
    cases stripStart? s.toList (c :: cs) with
    | some rest => rfl
    | none => exact ih fun t ht => hseparated t (List.mem_cons_of_mem s ht)

theorem Lexeme.next_append (hk : Separated k) {l : Option Lexeme} (h : next cs = some (l, rest)) :
    next (cs ++ k) = some (l, rest ++ k) := by
  cases cs with
  | nil => cases h
  | cons c cs =>
    have hspan := span_append_of_head (f := isWordChar)
      (fun c hc => (separator_spec (hk c hc)).1) cs
    rw [next] at h
    rw [List.cons_append, next, hspan.1, hspan.2]
    split at h
    · rename_i hword
      cases h
      rw [if_pos hword]
    rename_i hword
    rw [if_neg hword]
    split at h
    · rename_i hdigit
      cases h
      rw [if_pos hdigit, splitFraction_append hk]
      rfl
    rename_i hdigit
    rw [if_neg hdigit]
    split at h
    · rename_i hblank
      cases h
      rw [if_pos hblank]
    rename_i hblank
    rw [if_neg hblank]
    split at h
    · rename_i hquote
      obtain ⟨⟨body, rest'⟩, hbody, heq⟩ := Option.map_eq_some_iff.1 h
      cases heq
      rw [if_pos hquote, quotedBody_append hbody]
      rfl
    rename_i hquote
    rw [if_neg hquote]
    split at h
    · cases h
      rfl
    · obtain ⟨⟨s, rest'⟩, hmark, heq⟩ := Option.map_eq_some_iff.1 h
      cases heq
      rw [← List.cons_append, mark?_append hk, hmark]
      rfl

/-- A text goes on behind another one. -/
theorem Lexes.append {ls ms : List Lexeme} (h : Lexes cs ls) (hk : Separated k) (h' : Lexes k ms) :
    Lexes (cs ++ k) (ls ++ ms) := by
  induction h with
  | nil => exact h'
  | cons hnext _ ih =>
    rw [List.append_assoc]
    exact .cons (Lexeme.next_append hk hnext) ih

/-! ## Nodes -/

/-- A piece of a text, or a pair of brackets with what is between them. -/
inductive Node where
  | leaf (x : Leaf)
  | group (b : Bracket) (inner : List Node)

mutual

def Node.lexemes : Node → List Lexeme
  | .leaf x => [.leaf x]
  | .group b inner => .opening b :: (Node.allLexemes inner ++ [.closing b])

def Node.allLexemes : List Node → List Lexeme
  | [] => []
  | n :: rest => n.lexemes ++ Node.allLexemes rest

end

/-- The text consists of these nodes. -/
def Written (text : String) (ns : List Node) : Prop := Lexes text.toList (Node.allLexemes ns)

theorem Node.allLexemes_append (ns ms : List Node) :
    allLexemes (ns ++ ms) = allLexemes ns ++ allLexemes ms := by
  induction ns with
  | nil => rfl
  | cons n ns ih => rw [List.cons_append, allLexemes, ih, allLexemes, List.append_assoc]

/-- What follows the nodes of a group is nothing, or a closing bracket. -/
def EndsGroup : List Lexeme → Prop
  | [] => True
  | l :: _ => ∃ b, l = .closing b

theorem endsGroup_nil : EndsGroup [] := trivial

theorem endsGroup_cons (b : Bracket) (ls : List Lexeme) : EndsGroup (.closing b :: ls) := ⟨b, rfl⟩

theorem Node.not_endsGroup (n : Node) (ns : List Node) (ls : List Lexeme) :
    ¬ EndsGroup (allLexemes (n :: ns) ++ ls) := by
  cases n <;> exact fun ⟨b, hb⟩ => nomatch hb

mutual

/-- Nodes are told by their lexemes, wherever a group ends. -/
theorem Node.allLexemes_unique : ∀ (ns ms : List Node) {ls ls' : List Lexeme},
    EndsGroup ls → EndsGroup ls' → allLexemes ns ++ ls = allLexemes ms ++ ls' → ns = ms ∧ ls = ls'
  | [], [], _, _, _, _, h => ⟨rfl, h⟩
  -- the other list goes on with a node, but what follows a group starts with no node
  | [], m :: ms, ls, ls', hls, _, h => by
    have hls' : ls = allLexemes (m :: ms) ++ ls' := h
    exact absurd (hls' ▸ hls) (Node.not_endsGroup m ms ls')
  | n :: ns, [], ls, ls', _, hls', h => by
    have hls : allLexemes (n :: ns) ++ ls = ls' := h
    exact absurd (hls ▸ hls') (Node.not_endsGroup n ns ls)
  | n :: ns, m :: ms, _, _, hls, hls', h => by
    rw [allLexemes, allLexemes, List.append_assoc, List.append_assoc] at h
    obtain ⟨rfl, hrest⟩ := Node.lexemes_unique n m h
    obtain ⟨rfl, rfl⟩ := Node.allLexemes_unique ns ms hls hls' hrest
    exact ⟨rfl, rfl⟩

/-- The first node is told by its lexemes. -/
theorem Node.lexemes_unique : ∀ (n m : Node) {ls ls' : List Lexeme},
    n.lexemes ++ ls = m.lexemes ++ ls' → n = m ∧ ls = ls'
  | .leaf x, .leaf y, _, _, h => by
    cases h
    exact ⟨rfl, rfl⟩
  | .leaf x, .group b inner, _, _, h => by cases h
  | .group b inner, .leaf x, _, _, h => by cases h
  | .group b inner, .group b' inner', ls, ls', h => by
    rw [lexemes, lexemes, List.cons_append, List.cons_append, List.append_assoc,
      List.append_assoc] at h
    obtain ⟨hb, hinner⟩ := List.cons.inj h
    cases hb
    obtain ⟨rfl, hrest⟩ :=
      Node.allLexemes_unique inner inner' (endsGroup_cons b ls) (endsGroup_cons b ls') hinner
    exact ⟨rfl, (List.cons.inj hrest).2⟩

end

/-- A text has its nodes in one way only. -/
theorem Written.unique {text : String} {ns ms : List Node} (h : Written text ns)
    (h' : Written text ms) : ns = ms := by
  have hlexemes : Node.allLexemes ns ++ [] = Node.allLexemes ms ++ [] := by rw [Lexes.unique h h']
  exact (Node.allLexemes_unique ns ms endsGroup_nil endsGroup_nil hlexemes).1

end Criteria.Grammar
