import Criteria.Proofs.Render.Grammar

/-!
# Tokens are an expression in one way

A parser by recursive descent, one function for all levels. Its calls go down to some depth, beyond
which it gives nothing, and `parse_of_derives` shows that on whatever the grammar derives there is a
depth at which it ends, with the expression and the rest. So the grammar derives one expression at
most:

* `Derives.unique` — from the tokens at a level.
* `Parses.unique` — from a text.
-/

set_option autoImplicit false

namespace Criteria.Grammar

/-! ## Parser -/

/-- The operator that a token is before an operand. -/
def prefixOp? (t : Token) : Option PrefixOp := PrefixOp.all.find? fun op => t = .symbol op.symbol

/-- The operator that a token is between operands. -/
def infixOp? (t : Token) : Option InfixOp := InfixOp.all.find? fun op => t = .symbol op.symbol

/-- Whether the tokens start with an operator before an operand. -/
def startsPrefixed : List Token → Bool
  | [] => false
  | t :: _ => (prefixOp? t).isSome

/-- What was read before a closing parenthesis, and the tokens after it. -/
def closed {α : Type} (found : α × List Token) : Option (α × List Token) :=
  match found.2 with
  | [] => none
  | t :: rest => if t = .symbol ")" then some (found.1, rest) else none

mutual

/-- An expression at a level, as long as possible, and the tokens after it. -/
def parse : Nat → Precedence → List Token → Option (Expr × List Token)
  | 0, _, _ => none
  | n + 1, p, ts =>
    if p = .memberAccess then
      (parseAtom n ts).bind fun found => parseSuffixes n found.1 found.2
    else if p = .unary then
      match ts with
      | [] => none
      | t :: rest =>
        match prefixOp? t with
        | some op => (parse n .unary rest).map (Prod.map (.prefixed op) id)
        | none => parse n .memberAccess (t :: rest)
    else if p = .exponentiation then
      (parse n .unary ts).bind fun found => parsePower n (startsPrefixed ts) found.1 found.2
    else (parse n p.next ts).bind fun found => parseOperators n p found.1 found.2

/-- The power of an operand, unless it starts with an operator. -/
def parsePower : Nat → Bool → Expr → List Token → Option (Expr × List Token)
  | 0, _, _, _ => none
  | _ + 1, _, e, [] => some (e, [])
  | n + 1, isPrefixed, e, t :: rest =>
    if t = .symbol InfixOp.pow.symbol ∧ isPrefixed = false then
      (parse n .exponentiation rest).map (Prod.map (.infixed .pow e) id)
    else some (e, t :: rest)

/-- The operators of a level after an operand, each with the operand after it. -/
def parseOperators : Nat → Precedence → Expr → List Token → Option (Expr × List Token)
  | 0, _, _, _ => none
  | _ + 1, _, e, [] => some (e, [])
  | n + 1, p, e, t :: rest =>
    match infixOp? t with
    | some op =>
      if op.precedence = p then
        (parse n p.next rest).bind fun found => parseOperators n p (.infixed op e found.1) found.2
      else some (e, t :: rest)
    | none => some (e, t :: rest)

/-- A name, a literal or an expression in parentheses. -/
def parseAtom : Nat → List Token → Option (Expr × List Token)
  | 0, _ => none
  | _ + 1, [] => none
  | _ + 1, .name x :: rest => some (.name x, rest)
  | _ + 1, .number k :: rest => some (.number k, rest)
  | _ + 1, .text s :: rest => some (.text s, rest)
  | n + 1, .symbol s :: rest => if s = "(" then (parse n .logicalOr rest).bind closed else none

/-- The members and calls after an expression. -/
def parseSuffixes : Nat → Expr → List Token → Option (Expr × List Token)
  | 0, _, _ => none
  | _ + 1, e, [] => some (e, [])
  | n + 1, e, t :: rest =>
    if t = .symbol "." then
      match rest with
      | .name field :: rest => parseSuffixes n (.member e field) rest
      | _ => none
    else if t = .symbol "(" then
      ((parseArgs n rest).bind closed).bind fun found =>
        parseSuffixes n (.call e found.1) found.2
    else some (e, t :: rest)

/-- Expressions with commas between them. -/
def parseArgs : Nat → List Token → Option (List Expr × List Token)
  | 0, _ => none
  | n + 1, ts => (parse n .logicalOr ts).bind fun found => parseOthers n found.1 found.2

/-- The expressions after one, each after a comma. -/
def parseOthers : Nat → Expr → List Token → Option (List Expr × List Token)
  | 0, _, _ => none
  | _ + 1, e, [] => some ([e], [])
  | n + 1, e, t :: rest =>
    if t = .symbol "," then (parseArgs n rest).map (Prod.map (e :: ·) id)
    else some ([e], t :: rest)

end

/-! ## Depth -/

/-- What `g` gives at some depth, which can be made as great as one likes, `f` gives a fixed number
of calls deeper. -/
def Reaches {α : Type} (f g : Nat → Option α) : Prop := ∃ d, ∀ n, ∃ k, n ≤ k ∧ f (n + d) = g k

namespace Reaches

variable {α β : Type} {f g h : Nat → Option α}

theorem step (hstep : ∀ n, f (n + 1) = g n) : Reaches f g :=
  ⟨1, fun n => ⟨n, Nat.le_refl n, hstep n⟩⟩

theorem trans (hfg : Reaches f g) (hgh : Reaches g h) : Reaches f h := by
  obtain ⟨d, hd⟩ := hfg
  obtain ⟨d', hd'⟩ := hgh
  refine ⟨d' + d, fun n => ?_⟩
  obtain ⟨k, hk, hf⟩ := hd (n + d')
  obtain ⟨k', hk', hg⟩ := hd' (k - d')
  rw [Nat.sub_add_cancel (Nat.le_of_add_left_le hk)] at hg
  exact ⟨k', by omega, by rw [← Nat.add_assoc, hf, hg]⟩

theorem comp (hfg : Reaches f g) (c : Option α → Option β) :
    Reaches (fun n => c (f n)) fun n => c (g n) := by
  obtain ⟨d, hd⟩ := hfg
  refine ⟨d, fun n => ?_⟩
  obtain ⟨k, hk, hf⟩ := hd n
  exact ⟨k, hk, congrArg c hf⟩

/-- What follows an end that is reached. -/
theorem bind {a : α} (hf : Reaches f fun _ => some a) (c : Nat → α → Option β) :
    Reaches (fun n => (f n).bind (c n)) fun n => c n a := by
  obtain ⟨d, hd⟩ := hf
  refine ⟨d, fun n => ?_⟩
  obtain ⟨k, -, hf⟩ := hd n
  exact ⟨n + d, Nat.le_add_right n d, congrArg (Option.bind · (c (n + d))) hf⟩

/-- Two ends that are reached are one. -/
theorem unique {a b : α} (ha : Reaches f fun _ => some a) (hb : Reaches f fun _ => some b) :
    a = b := by
  obtain ⟨d, hd⟩ := ha
  obtain ⟨d', hd'⟩ := hb
  obtain ⟨_, -, hfa⟩ := hd d'
  obtain ⟨_, -, hfb⟩ := hd' d
  rw [Nat.add_comm] at hfb
  exact Option.some.inj (hfa.symm.trans hfb)

end Reaches

/-! ## Where an expression ends -/

/-- The level at which a token goes on with an expression before it. -/
def continuation? (t : Token) : Option Precedence :=
  if t = .symbol "." ∨ t = .symbol "(" then some .memberAccess
  else (infixOp? t).map InfixOp.precedence

/-- No token goes on with an expression of the level. -/
def Stops (p : Precedence) : List Token → Prop
  | [] => True
  | t :: _ => ∀ q, continuation? t = some q → q.strength < p.strength

theorem Stops.mono {p q : Precedence} {ts : List Token} (h : Stops p ts)
    (hpq : p.strength ≤ q.strength) : Stops q ts := by
  cases ts with
  | nil => trivial
  | cons t ts => exact fun r hr => Nat.lt_of_lt_of_le (h r hr) hpq

/-- What the parser makes of the tokens after an expression of the level. -/
def resume (p : Precedence) (e : Expr) (ts : List Token) (n : Nat) : Option (Expr × List Token) :=
  if p = .memberAccess then parseSuffixes n e ts
  else if p = .unary ∨ p = .exponentiation then some (e, ts)
  else parseOperators n p e ts

/-- What may stand after an expression of the level that is to be resumed. -/
def Follows (p : Precedence) (ts : List Token) : Prop :=
  if p = .memberAccess then True
  else if p = .exponentiation then Stops .exponentiation ts
  else Stops p.next ts

theorem infixOp?_symbol (op : InfixOp) : infixOp? (.symbol op.symbol) = some op := by
  cases op <;> decide

theorem prefixOp?_symbol (op : PrefixOp) : prefixOp? (.symbol op.symbol) = some op := by
  cases op <;> decide

theorem continuation?_infixOp (op : InfixOp) :
    continuation? (.symbol op.symbol) = some op.precedence := by
  cases op <;> decide

theorem eq_of_infixOp? {t : Token} {op : InfixOp} (h : infixOp? t = some op) :
    t = .symbol op.symbol := by
  simpa using List.find?_some h

theorem parseSuffixes_of_stops {ts : List Token} (h : Stops .memberAccess ts) (e : Expr) (n : Nat) :
    parseSuffixes (n + 1) e ts = some (e, ts) := by
  cases ts with
  | nil => rw [parseSuffixes]
  | cons t ts =>
    have hstop : ¬(t = .symbol "." ∨ t = .symbol "(") := by
      intro ht
      exact absurd (h .memberAccess (if_pos ht)) (Nat.lt_irrefl _)
    rw [not_or] at hstop
    unfold parseSuffixes
    rw [if_neg hstop.1, if_neg hstop.2]

theorem parseOperators_of_stops {p : Precedence} {ts : List Token} (h : Stops p ts) (e : Expr)
    (n : Nat) : parseOperators (n + 1) p e ts = some (e, ts) := by
  cases ts with
  | nil => rw [parseOperators]
  | cons t ts =>
    rw [parseOperators]
    cases hop : infixOp? t with
    | none => rfl
    | some op =>
      rw [eq_of_infixOp? hop] at h
      have hlt := h _ (continuation?_infixOp op)
      have hne : op.precedence ≠ p := fun hp => absurd (hp ▸ hlt) (Nat.lt_irrefl _)
      simp only [if_neg hne]

theorem Stops.resume {p : Precedence} {ts : List Token} (h : Stops p ts) (e : Expr) :
    Reaches (resume p e ts) fun _ => some (e, ts) := by
  refine .step fun n => ?_
  unfold Grammar.resume
  split
  · rename_i hp
    exact parseSuffixes_of_stops (hp ▸ h) e n
  split
  · rfl
  · exact parseOperators_of_stops h e n

theorem Stops.follows {p : Precedence} {ts : List Token} (h : Stops p ts) : Follows p ts := by
  unfold Follows
  split
  · trivial
  split
  · rename_i hp; rwa [← hp]
  · refine h.mono ?_
    cases p <;> decide

/-- What closes a list of arguments or a pair of parentheses ends every expression. -/
theorem stops_of_none {t : Token} (h : continuation? t = none) (p : Precedence) (ts : List Token) :
    Stops p (t :: ts) := by
  intro q hq
  rw [h] at hq
  cases hq

/-! ## The parser follows the grammar -/

/-- The tokens start with one that is no operator before an operand. -/
def StartsPlain (ts : List Token) : Prop := ∃ t us, ts = t :: us ∧ prefixOp? t = none

theorem StartsPlain.append {ts : List Token} (h : StartsPlain ts) (rest : List Token) :
    StartsPlain (ts ++ rest) := by
  obtain ⟨t, us, rfl, ht⟩ := h
  exact ⟨t, us ++ rest, rfl, ht⟩

/-- No expression of the last level starts with an operator. -/
theorem Derives.startsPlain : ∀ {p : Precedence} {ts : List Token} {e : Expr}, Derives p ts e →
    p = .memberAccess → StartsPlain ts
  | _, _, _, .name x, _ => ⟨_, _, rfl, rfl⟩
  | _, _, _, .number n, _ => ⟨_, _, rfl, rfl⟩
  | _, _, _, .text s, _ => ⟨_, _, rfl, rfl⟩
  | _, _, _, .parens h, _ => ⟨_, _, rfl, by decide⟩
  | _, _, _, .member field h, hp => (h.startsPlain hp).append _
  | _, _, _, .call h hargs, hp => (h.startsPlain hp).append _
  | _, _, _, .infixed op hop hl hr, hp => by cases op <;> cases hp
  | _, _, _, .tighter h, hp => h.startsPlain (by rw [hp]; rfl)

theorem parse_memberAccess (n : Nat) (ts : List Token) :
    parse (n + 1) .memberAccess ts =
      (parseAtom n ts).bind fun found => parseSuffixes n found.1 found.2 := by
  conv => lhs; unfold parse
  exact if_pos rfl

theorem parse_unary {ts : List Token} (h : StartsPlain ts) (n : Nat) :
    parse (n + 1) .unary ts = parse n .memberAccess ts := by
  obtain ⟨t, us, rfl, ht⟩ := h
  conv => lhs; unfold parse
  rw [if_neg (by decide), if_pos rfl]
  simp only [ht]

theorem parse_prefixed (op : PrefixOp) (n : Nat) (ts : List Token) :
    parse (n + 1) .unary (.symbol op.symbol :: ts) =
      (parse n .unary ts).map (Prod.map (.prefixed op) id) := by
  conv => lhs; unfold parse
  rw [if_neg (by decide), if_pos rfl]
  simp only [prefixOp?_symbol]

theorem parse_exponentiation (n : Nat) (ts : List Token) :
    parse (n + 1) .exponentiation ts =
      (parse n .unary ts).bind fun found => parsePower n (startsPrefixed ts) found.1 found.2 := by
  conv => lhs; unfold parse
  rw [if_neg (by decide), if_neg (by decide), if_pos rfl]

theorem parsePower_of_stops {ts : List Token} (h : Stops .exponentiation ts) (isPrefixed : Bool)
    (e : Expr) (n : Nat) : parsePower (n + 1) isPrefixed e ts = some (e, ts) := by
  cases ts with
  | nil => rfl
  | cons t ts =>
    refine if_neg ?_
    rintro ⟨rfl, -⟩
    exact absurd (h _ (continuation?_infixOp .pow)) (Nat.lt_irrefl _)

theorem parsePower_symbol (e : Expr) (n : Nat) (ts : List Token) :
    parsePower (n + 1) false e (.symbol InfixOp.pow.symbol :: ts) =
      (parse n .exponentiation ts).map (Prod.map (.infixed .pow e) id) := by
  rw [parsePower, if_pos ⟨rfl, rfl⟩]

theorem StartsPlain.startsPrefixed {ts : List Token} (h : StartsPlain ts) :
    startsPrefixed ts = false := by
  obtain ⟨t, us, rfl, ht⟩ := h
  rw [Grammar.startsPrefixed, ht, Option.isSome_none]

section Operators

variable {p : Precedence} (hp : p.strength < Precedence.exponentiation.strength)
include hp

theorem parse_operators (n : Nat) (ts : List Token) :
    parse (n + 1) p ts =
      (parse n p.next ts).bind fun found => parseOperators n p found.1 found.2 := by
  have hne : ∀ q, Precedence.exponentiation.strength ≤ q.strength → p ≠ q := by
    intro q hq hpq
    rw [hpq] at hp
    omega
  conv => lhs; unfold parse
  rw [if_neg (hne _ (by decide)), if_neg (hne _ (by decide)), if_neg (hne _ (by decide))]

theorem resume_operators (e : Expr) (ts : List Token) :
    resume p e ts = fun n => parseOperators n p e ts := by
  cases p <;> first | rfl | exact absurd hp (by decide)

theorem follows_operators (ts : List Token) : Follows p ts ↔ Stops p.next ts := by
  cases p <;> first | exact Iff.rfl | exact absurd hp (by decide)

end Operators

/-- After an atom come its members and calls. -/
theorem reaches_atom {ts rest : List Token} {e : Expr}
    (h : Reaches (fun n => parseAtom n ts) fun _ => some (e, rest)) :
    Reaches (fun n => parse n .memberAccess ts) (resume .memberAccess e rest) :=
  (Reaches.step fun n => parse_memberAccess n ts).trans
    (h.bind fun n found => parseSuffixes n found.1 found.2)

mutual

/-- On what the grammar derives, the parser is led to the end and resumes there. -/
theorem parse_of_derives : ∀ {p : Precedence} {ts : List Token} {e : Expr}, Derives p ts e →
    ∀ rest, Follows p rest → Reaches (fun n => parse n p (ts ++ rest)) (resume p e rest)
  | _, _, _, .name x, rest, _ => reaches_atom (.step fun _ => rfl)
  | _, _, _, .number k, rest, _ => reaches_atom (.step fun _ => rfl)
  | _, _, _, .text s, rest, _ => reaches_atom (.step fun _ => rfl)
  | _, _, _, .parens h, rest, _ => by
    have hclose : Stops .logicalOr (.symbol ")" :: rest) := stops_of_none (by decide) _ _
    have h := (parse_of_derives h _ hclose.follows).trans (hclose.resume _)
    rw [List.cons_append, List.append_assoc, List.singleton_append]
    exact reaches_atom ((Reaches.step fun _ => rfl).trans (h.bind fun _ => closed))
  | _, _, _, .member field h, rest, _ => by
    have h := parse_of_derives h (.symbol "." :: .name field :: rest) trivial
    rw [List.append_assoc]
    exact h.trans (.step fun _ => rfl)
  | _, _, _, .call (e := callee) h hargs, rest, _ => by
    have hclosed := (parseArgs_of_derives hargs rest).bind fun _ => closed
    have hcall := hclosed.bind fun n found => parseSuffixes n (.call callee found.1) found.2
    rw [List.append_assoc, List.cons_append, List.append_assoc, List.singleton_append]
    exact (parse_of_derives h _ trivial).trans ((Reaches.step fun _ => rfl).trans hcall)
  | _, _, _, .prefixed op h, rest, hrest => by
    have h := parse_of_derives h rest hrest
    exact (Reaches.step fun n => parse_prefixed op n _).trans
      (h.comp (Option.map (Prod.map (Expr.prefixed op) id)))
  | _, _, _, @Derives.power ts us l _ hl hr, rest, hrest => by
    have hstop : Stops .memberAccess (.symbol InfixOp.pow.symbol :: (us ++ rest)) := by
      intro q hq
      rw [continuation?_infixOp] at hq
      cases hq
      decide
    have hplain := (hl.startsPlain rfl).append (.symbol InfixOp.pow.symbol :: (us ++ rest))
    have hl := (parse_of_derives hl _ hstop.follows).trans (hstop.resume l)
    have hoperand : Reaches
        (fun n => parse n .unary (ts ++ .symbol InfixOp.pow.symbol :: (us ++ rest)))
        fun _ => some (l, .symbol InfixOp.pow.symbol :: (us ++ rest)) :=
      (Reaches.step fun n => parse_unary hplain n).trans hl
    have hr := (parse_of_derives hr rest hrest).comp
      (Option.map (Prod.map (Expr.infixed .pow l) id))
    rw [List.append_assoc, List.cons_append]
    refine (Reaches.step fun n => parse_exponentiation n _).trans ?_
    rw [hplain.startsPrefixed]
    exact (hoperand.bind fun n found => parsePower n false found.1 found.2).trans
      ((Reaches.step fun n => parsePower_symbol l n _).trans hr)
  | _, _, _, @Derives.infixed ts us l _ op hop hl hr, rest, hrest => by
    have hp : op.precedence.strength < Precedence.exponentiation.strength := by
      cases op <;> first | decide | exact absurd rfl hop
    have hstop : Stops op.precedence.next rest := (follows_operators hp rest).mp hrest
    have hfollow : Follows op.precedence (.symbol op.symbol :: (us ++ rest)) := by
      rw [follows_operators hp]
      intro q hq
      rw [continuation?_infixOp] at hq
      cases hq
      rw [strength_next (Nat.lt_of_lt_of_le hp (by decide))]
      exact Nat.lt_succ_self _
    have hl := parse_of_derives hl _ hfollow
    have hr := (parse_of_derives hr rest hstop.follows).trans (hstop.resume _)
    rw [resume_operators hp] at hl ⊢
    rw [List.append_assoc, List.cons_append]
    refine hl.trans ((Reaches.step fun n => ?_).trans
      (hr.bind fun n found => parseOperators n op.precedence (.infixed op l found.1) found.2))
    rw [parseOperators, infixOp?_symbol]
    exact if_pos rfl
  | p, ts, e, .tighter h, rest, hrest => by
    have ih := parse_of_derives h
    cases p with
    | memberAccess => exact ih rest hrest
    | unary =>
      have hstop : Stops .memberAccess rest := hrest
      have hplain := (h.startsPlain rfl).append rest
      exact (Reaches.step fun n => parse_unary hplain n).trans
        ((ih rest trivial).trans (hstop.resume e))
    | exponentiation =>
      have hstop : Stops .exponentiation rest := hrest
      have hnext : Stops .memberAccess rest := hstop.mono (by decide)
      exact (Reaches.step fun n => parse_exponentiation n _).trans
        (((ih rest hnext).bind fun n found => parsePower n _ found.1 found.2).trans
          (.step fun n => parsePower_of_stops hstop _ e n))
    | _ =>
      have hstop := (follows_operators (by decide) rest).mp hrest
      have h := (ih rest hstop.follows).trans (hstop.resume e)
      rw [resume_operators (by decide)]
      exact (Reaches.step fun n => parse_operators (by decide) n _).trans
        (h.bind fun n found => parseOperators n _ found.1 found.2)

theorem parseArgs_of_derives : ∀ {ts : List Token} {es : List Expr}, DerivesArgs ts es →
    ∀ rest, Reaches (fun n => parseArgs n (ts ++ .symbol ")" :: rest))
      fun _ => some (es, .symbol ")" :: rest)
  | _, _, .last h, rest => by
    have hclose : Stops .logicalOr (.symbol ")" :: rest) := stops_of_none (by decide) _ _
    have h := (parse_of_derives h _ hclose.follows).trans (hclose.resume _)
    exact (Reaches.step fun _ => rfl).trans
      ((h.bind fun n found => parseOthers n found.1 found.2).trans (.step fun _ => rfl))
  | _, _, @DerivesArgs.cons _ us e _ h hrest, rest => by
    have hcomma : Stops .logicalOr (.symbol "," :: (us ++ .symbol ")" :: rest)) :=
      stops_of_none (by decide) _ _
    have h := (parse_of_derives h _ hcomma.follows).trans (hcomma.resume _)
    have hrest := (parseArgs_of_derives hrest rest).comp (Option.map (Prod.map (e :: ·) id))
    rw [List.append_assoc, List.cons_append]
    exact (Reaches.step fun _ => rfl).trans
      ((h.bind fun n found => parseOthers n found.1 found.2).trans
        ((Reaches.step fun _ => rfl).trans hrest))

end

/-- Tokens are one expression of a level at most. -/
theorem Derives.unique {p : Precedence} {ts : List Token} {e e' : Expr} (h : Derives p ts e)
    (h' : Derives p ts e') : e = e' := by
  have hend : Stops p [] := trivial
  have hparse := (parse_of_derives h [] hend.follows).trans (hend.resume e)
  have hparse' := (parse_of_derives h' [] hend.follows).trans (hend.resume e')
  exact congrArg Prod.fst (hparse.unique hparse')

/-- A text is one expression at most. -/
theorem Parses.unique {text : String} {e e' : Expr} (h : Parses text e) (h' : Parses text e') :
    e = e' := by
  obtain ⟨ts, rest, hts, hrest, he⟩ := h
  obtain ⟨us, rest', hus, hrest', he'⟩ := h'
  cases hts.unique hrest hus hrest'
  exact he.unique he'

end Criteria.Grammar
