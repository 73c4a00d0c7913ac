import Criteria.Proofs.Number
import Criteria.Proofs.Render.Body
import Criteria.Proofs.Render.Splice

/-!
# Paths

A property filter that is a tree is written as a function of its own, and this function is spliced onto
the property when its body is its parameter with accesses behind it. Without function values only paths
have such a body: properties with a name, one in another, and a test of the start of a text at the end.
Every other body either is in parentheses or starts with a character that is no letter of a parameter.

* `Predicate.isFunctionless` — no function is written anywhere in a tree.
* `PathStep`, `Predicate.path?` — the accesses that a tree puts behind its only argument.
* `StartsApart` — a text that does not start like the parameter `a`.

Principal results:

* `body_of_path?` — the body of a path is its argument with the accesses behind it.
* `startsApart_body` — what is no path starts with something else.
* `stripHeader?_eq` — a filter is spliced exactly when it is a path.
* `splice_substitutes` — what is spliced is the body of the filter with the access as its argument.
-/

set_option autoImplicit false

namespace Criteria

open Grammar Naming ParamNames Render

variable {s : Store}

/-! ## Trees without functions -/

def Value.isFunction : Value → Bool
  | .function _ => true
  | _ => false

mutual

/-- No function is written in the operand. -/
def Operand.isFunctionless : Operand → Bool
  | .unset => true
  | .nested p => p.isFunctionless
  | .literal v => !v.isFunction

/-- No function is written in the tree, filters included. -/
def Predicate.isFunctionless : Predicate → Bool
  | .unary _ x => x.isFunctionless
  | .binary _ left right => left.isFunctionless && right.isFunctionless
  | .boolean _ xs => Operand.allFunctionless xs
  | .compare _ stored => !stored.isFunction
  | .property _ (some x) => x.isFunctionless
  | .member target => !target.isFunction
  | .shift _ x => x.isFunctionless
  | .function .. => false
  | _ => true

/-- No function is written in the operands. -/
def Operand.allFunctionless : List Operand → Bool
  | [] => true
  | x :: rest => x.isFunctionless && Operand.allFunctionless rest

end

/-! ## Paths -/

/-- An access behind an expression. -/
inductive PathStep where
  | member (name : String)
  /-- The call that tests the start of a text. -/
  | startsWith (start : String)
  deriving DecidableEq, Repr

namespace PathStep

def text : PathStep → String
  | member name => memberAccess "" name
  | startsWith start => ".startsWith(" ++ Text.quote start ++ ")"

/-- The texts of some accesses, one after another. -/
def textAll (steps : List PathStep) : String := (steps.map text).foldr (· ++ ·) ""

/-- How the access is read. -/
def suffixes : PathStep → List Suffix
  | member name =>
    if isDotName name then [.member name] else [.index (.chain (.last (.atom (.text name))))]
  | startsWith start => [.member "startsWith", .call [.chain (.last (.atom (.text start)))]]

/-- The name with the accesses behind it. -/
def chainAll (x : String) (steps : List PathStep) : Chain :=
  .last (.atom ((Atom.name x).extendAll (steps.flatMap suffixes)))

end PathStep

mutual

/-- The accesses of an operand; an unset one is the argument itself. -/
def Operand.path? : Operand → Option (List PathStep)
  | .unset => some []
  | .nested p => p.path?
  | .literal _ => none

/-- The accesses that a tree puts behind its argument, if it does nothing else. -/
def Predicate.path? : Predicate → Option (List PathStep)
  | .string start => some [.startsWith (String.ofList (Text.Utf8.decodeLossy start))]
  | .property (some name) (some (.nested p)) => p.path?.map (.member name :: ·)
  | .property (some name) _ => some [.member name]
  | .shift 0 x => x.path?
  | _ => none

end

/-! ## The text of a path -/

theorem memberAccess_eq (object name : String) :
    memberAccess object name = object ++ (PathStep.member name).text := by
  rw [PathStep.text, memberAccess, memberAccess]
  split <;> simp [String.append_assoc]

namespace PathStep

theorem isTail_textAll (steps : List PathStep) : isTail (textAll steps).toList := by
  cases steps with
  | nil => rfl
  | cons step rest =>
    cases step with
    | member name =>
      rw [textAll, List.map_cons, List.foldr_cons, text, memberAccess]
      split <;> simp [String.toList_append, isTail]
    | startsWith start => simp [textAll, text, String.toList_append, isTail]

end PathStep

/-- The source of a path, with the parameter `a`. -/
theorem extendsParam_path (steps : List PathStep) :
    ExtendsParam ("(a) => " ++ ("a" ++ PathStep.textAll steps)) "a" (PathStep.textAll steps) where
  isDotName := by decide
  isTail := PathStep.isTail_textAll steps
  source_eq := ⟨[], ['(', 'a', ')'], [' '], [' '], isBlank_nil, .parens isBlank_nil isBlank_nil,
    isBlank_space, isBlank_space, by simp [String.toList_append]⟩

theorem text_path (steps : List PathStep) :
    (Source.mk (letterNames 1) ("a" ++ PathStep.textAll steps) .memberAccess).text =
      "(a) => " ++ ("a" ++ PathStep.textAll steps) := by
  have hheader : "(" ++ String.intercalate ", " (letterNames 1) ++ ") => " = "(a) => " := by decide
  rw [Source.text, hheader]
  rfl

mutual

theorem Operand.body_of_path? : ∀ {x : Operand} {steps : List PathStep}, x.isFunctionless →
    x.path? = some steps → x.slots = 1 ∧ x.precedence = .ok .memberAccess ∧
      ∀ names, x.body s names = names.headD "" ++ PathStep.textAll steps
  | .unset, _, _, h => by
    cases h
    exact ⟨rfl, rfl, fun names => (String.append_empty).symm⟩
  | .nested p, _, hpure, h => by
    rw [Operand.isFunctionless] at hpure
    exact Predicate.body_of_path? hpure h

/-- The body of a path is its argument with the accesses behind it. -/
theorem Predicate.body_of_path? : ∀ {p : Predicate} {steps : List PathStep}, p.isFunctionless →
    p.path? = some steps → p.slots = 1 ∧ p.precedence = .ok .memberAccess ∧
      ∀ names, p.body s names = names.headD "" ++ PathStep.textAll steps
  | .string start, _, _, h => by
    cases h
    refine ⟨rfl, rfl, fun names => ?_⟩
    simp [Predicate.body, PathStep.textAll, PathStep.text, String.append_assoc]
  | .property (some name) none, _, _, h | .property (some name) (some .unset), _, _, h => by
    cases h
    exact ⟨rfl, rfl, fun names => (memberAccess_eq _ _).trans (by simp [PathStep.textAll])⟩
  | .property (some name) (some (.literal v)), _, hpure, h => by
    cases h
    refine ⟨rfl, rfl, fun names => ?_⟩
    cases v with
    | function f => cases hpure
    | _ => exact (memberAccess_eq _ _).trans (by simp [PathStep.textAll])
  | .property (some name) (some (.nested p)), _, hpure, h => by
    rw [Predicate.isFunctionless, Operand.isFunctionless] at hpure
    rw [Predicate.path?, Option.map_eq_some_iff] at h
    obtain ⟨steps, hsteps, rfl⟩ := h
    obtain ⟨hslots, hprecedence, hbody⟩ := Predicate.body_of_path? hpure hsteps
    refine ⟨rfl, rfl, fun names => ?_⟩
    have houtermost : p.outermost = .memberAccess := by rw [Predicate.outermost, hprecedence]
    have hname : (letterNames 1).headD "" = "a" := by decide
    rw [Predicate.body, hslots, hbody, hname, houtermost, text_path,
      spliceOrCall_of_extendsParam (extendsParam_path steps), accessText, memberAccess_eq,
      PathStep.textAll, PathStep.textAll, List.map_cons, List.foldr_cons, String.append_assoc]
  | .shift 0 x, _, hpure, h => by
    rw [Predicate.isFunctionless] at hpure
    obtain ⟨hslots, hprecedence, hbody⟩ := Operand.body_of_path? hpure h
    refine ⟨?_, hprecedence, hbody⟩
    rw [Predicate.slots, Nat.zero_add, hslots]

end

/-! ## Texts that start apart -/

/-- The text starts with a character that is neither white space nor the letter of a parameter. -/
def StartsApart (text : String) : Prop :=
  ∃ c cs, text.toList = c :: cs ∧ c ≠ 'a' ∧ Text.isBlank c = false

namespace StartsApart

theorem of_toList {text : String} {c : Char} {cs : List Char} (h : text.toList = c :: cs)
    (hc : (c ≠ 'a' ∧ Text.isBlank c = false) := by decide) : StartsApart text := ⟨c, cs, h, hc⟩

theorem append {l : String} (h : StartsApart l) (r : String) : StartsApart (l ++ r) := by
  obtain ⟨c, cs, hcs, hc⟩ := h
  exact ⟨c, cs ++ r.toList, by rw [String.toList_append, hcs, List.cons_append], hc⟩

theorem ofDigits {cs : List Char} (h : ∃ c rest, cs = c :: rest ∧ c.isDigit) :
    StartsApart (String.ofList cs) := by
  obtain ⟨c, rest, rfl, hc⟩ := h
  refine ⟨c, rest, String.toList_ofList, ?_, Text.isBlank_of_isDigit hc⟩
  rintro rfl
  exact absurd hc (by decide)

end StartsApart

namespace Number

theorem exists_digit_positional (n : Nat) (k : Int) :
    ∃ c rest, positional n k = c :: rest ∧ c.isDigit := by
  obtain ⟨c, rest, hdigits, hc⟩ := exists_digit n
  rw [positional, hdigits]
  split
  · exact ⟨c, _, rfl, hc⟩
  · dsimp only
    split
    · exact ⟨'0', _, rfl, by decide⟩
    · rename_i hplaces
      obtain ⟨places, hlength⟩ : ∃ m, (c :: rest).length - (-k).toNat = m + 1 :=
        Nat.exists_eq_add_one_of_ne_zero (by omega)
      rw [hlength]
      exact ⟨c, _, rfl, hc⟩

/-- A number starts with a digit, a sign or one of two words. -/
theorem startsApart_format (x : Float) : StartsApart (format x) := by
  have hmagnitude : ∀ m e, StartsApart (String.ofList (formatMagnitude m e)) := by
    intro m e
    refine .ofDigits ?_
    rw [formatMagnitude]
    split
    · exact exists_digit _
    · exact exists_digit_positional _ _
  rw [format]
  split
  · exact .of_toList rfl
  · exact .of_toList rfl
  · exact .of_toList rfl
  · split
    · exact .of_toList rfl
    · split
      · exact .append (.of_toList rfl) _
      · exact hmagnitude _ _

end Number

theorem startsApart_int (n : Int) : StartsApart (toString n) := by
  cases n with
  | ofNat n =>
    have hdigits : toString (Int.ofNat n) = String.ofList (Nat.toDigits 10 n) := by
      rw [← toList_toString, String.ofList_toList]
      rfl
    rw [hdigits]
    exact .ofDigits (Number.exists_digit n)
  | negSucc n => exact .append (l := "-") (.of_toList rfl) (toString (n + 1))

theorem startsApart_quote (text : String) : StartsApart (Text.quote text) :=
  .of_toList String.toList_ofList

/-- What is no function is written with a start that no parameter has. -/
theorem Datum.startsApart_literal : ∀ {d : Datum}, (∀ f, d ≠ .function f) → StartsApart d.literal
  | .undefined, _ | .null, _ | .bool true, _ | .bool false, _ => .of_toList rfl
  | .int n, _ => startsApart_int _
  | .float x, _ => Number.startsApart_format x
  | .str text, _ => startsApart_quote text
  | .symbol _ _, _ => .append (.append (.of_toList rfl) _) _
  | .bytes _, _ => .append (.append (.of_toList rfl) _) _
  | .array _ _, _ => .append (.append (.of_toList rfl) _) _
  | .object _ [], _ => show StartsApart "\x7b\x7d" from .of_toList rfl
  | .object _ (_ :: _), _ => .append (.append (.of_toList rfl) _) _
  | .function f, h => absurd rfl (h f)

theorem Store.startsApart_literal (s : Store) {v : Value} (h : v.isFunction = false) :
    StartsApart (s.literal v) := by
  refine Datum.startsApart_literal fun f hf => ?_
  rw [Store.datum] at hf
  generalize s.size = depth at hf
  cases v with
  | function f => cases h
  | _ => cases depth <;> cases hf

/-! ## Filters that are called -/

/-- A header with one parameter has to be followed by this parameter. -/
theorem stripHeader?_eq_none {n : Nat} {body : String} (h : n = 1 → StartsApart body) :
    stripHeader? ("(" ++ String.intercalate ", " (letterNames n) ++ ") => " ++ body) = none := by
  match n with
  | 0 =>
    -- No name stands between the parentheses.
    have htext : ("(" ++ String.intercalate ", " (letterNames 0) ++ ") => " ++ body).toList =
        '(' :: ')' :: (" => ".toList ++ body.toList) := by
      simp [String.toList_append, letterNames]
    rw [stripHeader?, htext]
    rfl
  | 1 =>
    -- The header is taken off, and the body is no use of the parameter.
    obtain ⟨c, cs, hcs, hc, hblank⟩ := h rfl
    have htext : ("(" ++ String.intercalate ", " (letterNames 1) ++ ") => " ++ body).toList =
        "(a) => ".toList ++ c :: cs := by
      rw [String.toList_append, hcs]
      rfl
    have hparam : splitParam? ("(a) => ".toList ++ c :: cs) =
        some (['a'], " => ".toList ++ c :: cs) := rfl
    have harrow : after? ['=', '>'] (Text.trimLeft (" => ".toList ++ c :: cs)) =
        some ([' '] ++ c :: cs) := rfl
    have hbody : after? ['a'] (Text.trimLeft ([' '] ++ c :: cs)) = none := by
      rw [trimLeft_append isBlank_space, Text.trimLeft_cons hblank, after?, if_neg (Ne.symm hc)]
    rw [stripHeader?, htext, tailOfArrow?, hparam]
    simp only [harrow, hbody]
    rfl
  | n + 2 =>
    -- A comma stands behind the first name, where the parenthesis has to close.
    obtain ⟨name, names, hnames⟩ : ∃ name names, letterNames (n + 2) = "a" :: name :: names := by
      rw [letterNames, List.range_succ_eq_map, List.range_succ_eq_map]
      exact ⟨_, _, rfl⟩
    have htext : ("(" ++ String.intercalate ", " (letterNames (n + 2)) ++ ") => " ++ body).toList =
        '(' :: 'a' :: ',' :: ' ' ::
          ((String.intercalate ", " (name :: names)).toList ++ (") => ".toList ++ body.toList)) := by
      rw [hnames, String.intercalate_cons_cons]
      simp [String.toList_append]
    rw [stripHeader?, htext]
    rfl

/-- The source of a tree with another number of parameters, or with a body that starts apart. -/
theorem Predicate.stripHeader?_arrow {p : Predicate}
    (h : p.slots = 1 → ¬p.outermost < .unary → StartsApart (p.body s (letterNames p.slots))) :
    stripHeader? (p.arrow s).text = none := by
  refine stripHeader?_eq_none fun hslots => ?_
  by_cases hloose : p.outermost < .unary
  · have hparens : (p.arrow s).precedence < .unary := hloose
    rw [if_pos hparens]
    exact .append (.append (.of_toList rfl) _) _
  · have hparens : ¬(p.arrow s).precedence < .unary := hloose
    rw [if_neg hparens]
    exact h hslots hloose

theorem BinaryOp.precedence_lt_unary {op : BinaryOp} (h : op ≠ .atan2) : op.precedence < .unary := by
  cases op <;> first | decide | exact absurd rfl h

theorem BooleanOp.precedence_lt_unary (op : BooleanOp) : op.precedence < .unary := by
  cases op <;> decide

theorem CompareOp.precedence_lt_unary (op : CompareOp) : op.precedence < .unary := by
  cases op <;> decide

/-- What is no path starts with something else than its argument, if it takes one argument at most and
has no operator between operands. -/
theorem Predicate.startsApart_body : ∀ {p : Predicate}, p.isComplete → p.isFunctionless →
    p.path? = none → p.slots ≤ 1 → ¬p.outermost < .unary → ∀ names, StartsApart (p.body s names)
  | .type mask, _, _, _, _, htight, names => by
    rw [Predicate.outermost, Predicate.precedence] at htight
    rw [Predicate.body, typeTests]
    cases hnames : mask.names with
    | nil =>
      have hfalse : StartsApart "false" := .of_toList rfl
      exact hfalse
    | cons name rest =>
      rw [hnames] at htight
      cases rest with
      | nil => exact absurd (show Precedence.equality < .unary by decide) htight
      | cons => exact absurd (show Precedence.logicalOr < .unary by decide) htight
  | .charset .., _, _, _, _, _, names =>
    .append (.append (.append (.append (.of_toList rfl) _) _) _) _
  | .string _, _, _, hpath, _, _, _ => by cases hpath
  | .unary op x, _, _, _, _, _, names => by
    cases op with
    | sqrt => exact .append (.append (.of_toList rfl) _) _
    | _ => exact .append (.of_toList rfl) _
  | .binary op left right, _, _, _, _, htight, names => by
    by_cases hop : op = .atan2
    · subst hop
      exact .append (.append (.append (.append (.of_toList rfl) _) _) _) _
    · exact absurd (BinaryOp.precedence_lt_unary hop) htight
  | .boolean op xs, _, _, _, _, htight, _ => absurd op.precedence_lt_unary htight
  | .regex .., _, _, _, _, _, names =>
    .append (.append (.append (.append (.append (.append (.of_toList rfl) _) _) _) _) _) _
  | .compare op _, _, _, _, _, htight, _ => absurd op.precedence_lt_unary htight
  | .property none _, _, _, _, hslots, _, _ => absurd (show 2 ≤ 1 from hslots) (by decide)
  | .property (some name) none, _, _, hpath, _, _, _ => by cases hpath
  | .property (some name) (some .unset), _, _, hpath, _, _, _ => by cases hpath
  | .property (some name) (some (.literal _)), _, _, hpath, _, _, _ => by cases hpath
  | .property (some name) (some (.nested p)), hp, hpure, hpath, _, _, names => by
    rw [Predicate.isComplete, Operand.isComplete] at hp
    rw [Predicate.isFunctionless, Operand.isFunctionless] at hpure
    rw [Predicate.path?, Option.map_eq_none_iff] at hpath
    have hcalled : stripHeader? (p.arrow s).text = none :=
      stripHeader?_arrow fun hslots htight =>
        startsApart_body hp hpure hpath (Nat.le_of_eq hslots) htight _
    have hbody : (Predicate.property (some name) (some (.nested p))).body s names =
        "(" ++ (p.arrow s).text ++ ")(" ++ accessText (some name) names ++ ")" := by
      rw [Predicate.body, spliceOrCall, ← Predicate.arrow, hcalled]
    rw [hbody]
    exact .append (.append (.append (.append (.of_toList rfl) _) _) _) _
  | .member target, _, hpure, _, _, _, names => by
    rw [Predicate.isFunctionless, Bool.not_eq_true'] at hpure
    have hliteral := s.startsApart_literal hpure
    cases target with
    | object => exact .append (.append (.append (.append (.of_toList rfl) _) _) _) _
    | function => cases hpure
    | _ => exact .append (.append (.append hliteral _) _) _
  | .shift count .unset, _, _, hpath, hslots, _, _ => by
    cases count with
    | zero => cases hpath
    | succ count => rw [Predicate.slots, Operand.slots] at hslots; omega
  | .shift count (.literal v), _, hpure, _, _, _, names => by
    rw [Predicate.isFunctionless, Operand.isFunctionless, Bool.not_eq_true'] at hpure
    have hliteral := s.startsApart_literal hpure
    cases v with
    | function f => cases hpure
    | _ => exact hliteral
  | .shift count (.nested p), hp, hpure, hpath, hslots, htight, names => by
    rw [Predicate.isComplete, Operand.isComplete] at hp
    rw [Predicate.isFunctionless, Operand.isFunctionless] at hpure
    rw [Predicate.slots, Operand.slots] at hslots
    have hinner : p.path? = none := by
      cases count with
      | zero => exact hpath
      | succ count =>
        rw [Option.eq_none_iff_forall_ne_some]
        intro steps hsteps
        have := (body_of_path? (s := s) hpure hsteps).1
        omega
    exact startsApart_body hp hpure hinner (by omega) htight _

/-- A filter without functions is spliced exactly when it is a path, and what is spliced are its
accesses. -/
theorem Predicate.stripHeader?_eq {p : Predicate} (hp : p.isComplete) (hpure : p.isFunctionless) :
    stripHeader? (p.arrow s).text = p.path?.map PathStep.textAll := by
  cases hpath : p.path? with
  | none =>
    exact stripHeader?_arrow fun hslots htight =>
      startsApart_body hp hpure hpath (Nat.le_of_eq hslots) htight _
  | some steps =>
    obtain ⟨hslots, hprecedence, hbody⟩ := body_of_path? (s := s) hpure hpath
    have harrow : p.arrow s = ⟨letterNames 1, "a" ++ PathStep.textAll steps, .memberAccess⟩ := by
      rw [arrow, outermost, hprecedence, hbody, hslots]
      rfl
    rw [harrow, text_path]
    exact stripHeader?_eq_some_iff.2 ⟨"a", extendsParam_path steps⟩

/-- A chain of one operand has the body of a path, but in parentheses. -/
example : (Predicate.boolean .and [.unset]).body {} ["a"] = "a" ∧
    stripHeader? ((Predicate.boolean .and [.unset]).arrow {}).text = none := ⟨rfl, rfl⟩

/-! ## How a path is read -/

namespace PathStep

theorem reads (step : PathStep) {k : List Char} (hk : EndsWord k) :
    Reads (step.text.toList ++ k) (Suffix.allTokens step.suffixes) k := by
  cases step with
  | member name =>
    rw [text, suffixes, memberAccess]
    split
    · rename_i hname
      have htext : ("" ++ "." ++ name).toList ++ k = '.' :: (name.toList ++ k) := by
        simp [String.toList_append]
      rw [htext]
      exact Access.reads_dotName hname hk
    · have htext : ("" ++ "[" ++ Text.quote name ++ "]").toList ++ k =
          '[' :: ((Text.quote name).toList ++ ']' :: k) := by
        simp [String.toList_append]
      rw [htext]
      exact .cons rfl (.cons (read_quote name _) (.one rfl))
  | startsWith start =>
    have htext : (".startsWith(" ++ Text.quote start ++ ")").toList ++ k =
        '.' :: ("startsWith".toList ++ '(' :: ((Text.quote start).toList ++ ')' :: k)) := by
      simp [String.toList_append]
    have hmember : Reads
        ('.' :: ("startsWith".toList ++ '(' :: ((Text.quote start).toList ++ ')' :: k)))
        [.symbol ".", wordToken "startsWith"] ('(' :: ((Text.quote start).toList ++ ')' :: k)) :=
      Access.reads_dotName (by decide) (by intro c hc; cases hc; decide)
    rw [text, htext]
    exact hmember.append (.cons rfl (.cons (read_quote start _) (.one rfl)))

theorem readsAll : ∀ steps : List PathStep,
    Reads (textAll steps).toList (Suffix.allTokens (steps.flatMap suffixes)) []
  | [] => .nil []
  | step :: rest => by
    have hrest := readsAll rest
    have hstep := step.reads (endsWord_of_isTail (isTail_textAll rest))
    rw [textAll, List.map_cons, List.foldr_cons, String.toList_append, List.flatMap_cons,
      Suffix.allTokens, List.flatMap_append]
    exact hstep.append hrest

/-- A name with accesses behind it is read as a chain of one operand. -/
theorem readsAs {x : String} (hx : isName x) (steps : List PathStep) :
    ReadsAs (x ++ textAll steps) (.chain (chainAll x steps)) := by
  refine ⟨[], ?_, rfl⟩
  have hname := Access.read_name hx (endsWord_of_isTail (isTail_textAll steps))
  rw [String.toList_append, Phrase.tokens, chainAll, Chain.tokens, Factor.tokens,
    Atom.tokens_extendAll, Atom.tokens]
  exact .cons hname (readsAll steps)

/-- No name occurs in the accesses. -/
theorem uses_suffixes (step : PathStep) (a : Atom) (y : String) :
    (a.extendAll step.suffixes).uses y = a.uses y := by
  cases step with
  | member name =>
    rw [suffixes]
    split <;> rfl
  | startsWith start => rfl

theorem head?_suffixes (step : PathStep) (a : Atom) :
    (a.extendAll step.suffixes).head? = a.head? := by
  cases step with
  | member name =>
    rw [suffixes]
    split <;> rfl
  | startsWith start => rfl

theorem extendAll_flatMap (a : Atom) (step : PathStep) (rest : List PathStep) :
    a.extendAll ((step :: rest).flatMap suffixes) =
      (a.extendAll step.suffixes).extendAll (rest.flatMap suffixes) := by
  rw [List.flatMap_cons, Atom.extendAll, List.foldl_append]
  rfl

/-- The name at the start is the only one. -/
theorem uses_chainAll (x y : String) (steps : List PathStep) :
    (chainAll x steps).uses y = if x = y then 1 else 0 := by
  have hatom : ∀ (steps : List PathStep) (a : Atom),
      (a.extendAll (steps.flatMap suffixes)).uses y = a.uses y := by
    intro steps
    induction steps with
    | nil => exact fun a => rfl
    | cons step rest ih => exact fun a => by rw [extendAll_flatMap, ih, uses_suffixes]
  exact hatom steps (.name x)

theorem head?_chainAll (x : String) (steps : List PathStep) :
    (chainAll x steps).head? = some x := by
  have hatom : ∀ (steps : List PathStep) (a : Atom),
      (a.extendAll (steps.flatMap suffixes)).head? = a.head? := by
    intro steps
    induction steps with
    | nil => exact fun a => rfl
    | cons step rest ih => exact fun a => by rw [extendAll_flatMap, ih, head?_suffixes]
  exact hatom steps (.name x)

end PathStep

/-! ## The property with its filter -/

/-- A property that is piped through a tree. -/
theorem run_property_nested {name : Option String} {p : Predicate} (hp : p.isComplete)
    {ns ns' : ParamNames} {text : String}
    (h : (predicate s (.property name (some (.nested p)))).run ns = .ok text ns') :
    ∃ access, (Render.access name).run ns = .ok access ns' ∧ p.toSource s = .ok (p.arrow s) ∧
      text = spliceOrCall (p.arrow s).text access := by
  rw [predicate_property] at h
  obtain ⟨access, ns₁, haccess, h⟩ := ok_of_bind h
  rw [filtered] at h
  split at h
  · rename_i src hsrc
    have harrow := Predicate.toSource_eq_arrow hp hsrc
    subst harrow
    cases h
    exact ⟨access, haccess, hsrc, rfl⟩
  · cases h

/-- **A filter is spliced by substitution.** A property with a tree without functions as its filter is
written in one of two ways.

* When the filter is no path, its source is called on the access.
* When it is a path, it takes one argument and its body is the parameter with a tail of accesses, in
  which no name occurs. The tail is put behind the access, and this is the body with the access in place
  of the parameter: it is read so, and whatever the parts of expressions mean, it has the value of the
  body where the parameter has the value of the access. -/
theorem splice_substitutes (s : Store) (name : Option String) (p : Predicate) (hp : p.isComplete)
    (hpure : p.isFunctionless) (ns : ParamNames) (text : String) (ns' : ParamNames)
    (hrun : (Render.predicate s (.property name (some (.nested p)))).run ns = .ok text ns') :
    ∃ access src, (Render.access name).run ns = .ok access ns' ∧ p.toSource s = .ok src ∧
      (p.path? = none → text = "(" ++ src.text ++ ")(" ++ access ++ ")") ∧
      ∀ steps, p.path? = some steps →
        let tail := PathStep.textAll steps
        let c := PathStep.chainAll "a" steps
        p.argCount = .ok 1 ∧ src.params = ["a"] ∧ src.body = "a" ++ tail ∧ text = access ++ tail ∧
          src.body = p.body s ["a"] ∧ text = p.body s [access] ∧
          (∀ e, ReadsAs src.body e ↔ e = .chain c) ∧ (∀ y, c.uses y = if "a" = y then 1 else 0) ∧
          (ns.Valid → (∀ word ∈ ns.names.toList, isName word) → ∃ a : Access, access = a.text ∧
            (∀ e, ReadsAs text e ↔ e = .chain (c.onHead a.atom)) ∧
            ∀ (V : Type) (I : Interpretation V) (env : String → V), (c.onHead a.atom).eval I env =
              c.eval I (bindParams env src.params fun _ => a.atom.eval I env)) := by
  obtain ⟨access, haccess, hsrc, rfl⟩ := run_property_nested hp hrun
  have hheader := Predicate.stripHeader?_eq (s := s) hp hpure
  refine ⟨access, p.arrow s, haccess, hsrc, fun hpath => ?_, fun steps hpath => ?_⟩
  · rw [spliceOrCall, hheader, hpath]
    rfl
  · intro tail c
    obtain ⟨hslots, -, hbody⟩ := Predicate.body_of_path? (s := s) hpure hpath
    have hparams : (p.arrow s).params = ["a"] := by
      rw [Predicate.arrow, hslots]
      rfl
    have hsource : (p.arrow s).body = "a" ++ tail := by
      rw [Predicate.arrow, hslots, hbody]
      rfl
    have hspliced : spliceOrCall (p.arrow s).text access = access ++ tail := by
      rw [spliceOrCall, hheader, hpath]
      rfl
    have hreads : ReadsAs ("a" ++ tail) (.chain c) := PathStep.readsAs (by decide) steps
    have huses : ∀ y, c.uses y = if "a" = y then 1 else 0 := fun y => PathStep.uses_chainAll "a" y steps
    refine ⟨?_, hparams, hsource, hspliced, hsource.trans (hbody ["a"]).symm,
      hspliced.trans (hbody [access]).symm, fun e => ?_, huses, fun hns hwords => ?_⟩
    · rw [Predicate.argCount_eq hp, hslots]
      rfl
    · rw [hsource]
      exact hreads.iff_eq
    · obtain ⟨a, rfl, ha⟩ := exists_of_access hns hwords haccess
      refine ⟨a, rfl, fun e => ?_, fun V I env => ?_⟩
      · rw [hspliced]
        exact (ReadsAs.splice (extendsParam_path steps) hreads ha).iff_eq
      · rw [hparams, bindParams_singleton]
        exact c.eval_onHead I a.atom (PathStep.head?_chainAll "a" steps) (huses "a")

/-- A filter of a filter, with a name in quotes and one that is an operator in it. -/
theorem splice_substitutes_nested :
    let p : Predicate := .property (some "b (a)") (some (.nested (.property (some "typeof")
      (some (.nested (.shift 0 (.nested (.string [0x61]))))))))
    let steps : List PathStep := [.member "b (a)", .member "typeof", .startsWith "a"]
    let text := "v.n[\"b (a)\"].typeof.startsWith(\"a\")"
    let ns : ParamNames := ofNames ["v"]
    p.isComplete ∧ p.isFunctionless ∧ p.path? = some steps ∧
      (Render.predicate {} (.property (some "n") (some (.nested p)))).run ns =
        .ok text { ns with position := 1 } ∧
      ∃ src, p.toSource {} = .ok src ∧ src.body = p.body {} ["a"] ∧ text = p.body {} ["v.n"] ∧
        ∃ a : Access, a.text = "v.n" ∧
          ∀ e, ReadsAs text e ↔ e = .chain ((PathStep.chainAll "a" steps).onHead a.atom) := by
  intro p steps text ns
  have hns : ns.Valid := valid_ofNames (by decide)
  have hwords : ∀ word ∈ ns.names.toList, isName word := by decide
  have hpath : p.path? = some steps := by rfl
  have hrun : (Render.predicate {} (.property (some "n") (some (.nested (.property (some "b (a)")
      (some (.nested (.property (some "typeof")
        (some (.nested (.shift 0 (.nested (.string [0x61]))))))))))))).run (ofNames ["v"]) =
      .ok "v.n[\"b (a)\"].typeof.startsWith(\"a\")" { ofNames ["v"] with position := 1 } := by rfl
  obtain ⟨access, src, haccess, hsrc, -, hspliced⟩ :=
    splice_substitutes {} (some "n") p rfl rfl ns text _ hrun
  have hfirst : (Render.access (some "n")).run ns = .ok "v.n" { ns with position := 1 } := by rfl
  cases haccess.symm.trans hfirst
  obtain ⟨-, -, -, -, hbody, htext, -, -, hreads⟩ := hspliced steps hpath
  obtain ⟨a, ha, hreads, -⟩ := hreads hns hwords
  exact ⟨rfl, rfl, hpath, hrun, src, hsrc, hbody, htext, a, ha.symm, hreads⟩

end Criteria
