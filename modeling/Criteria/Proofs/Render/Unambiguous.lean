import Criteria.Proofs.Render.Phrase

/-!
# Expressions that a caller writes are read in one way

The tokens of an expression, and what stands behind it, tell the expression. An atom is written from the
left, so it is taken apart into its first part and the accesses and calls that follow. A function and a
chain may start alike; the first token that tells them apart is the arrow.

* `Closes`, `EndsOperand`, `GoesOn` — what may stand behind an expression, behind an operand, and
  within a chain behind the first part of an atom.
* `Base`, `Suffix`, `Atom.extendAll` — the parts of an atom.

Principal results:

* `Phrase.unique` — expressions with the same tokens, up to what stands behind them, are the same.
* `Phrase.tokens_injective` — the tokens of an expression tell it.
* `Parent.tokens_eq_around_iff` — what a chain without parentheses beside an operator is read as.
-/

set_option autoImplicit false

namespace Criteria.Grammar

/-! ## What may follow -/

/-- The tokens that end an expression within another one. -/
def closingTokens : List Token := [.symbol ")", .symbol "]", .symbol ","]

/-- The tokens that an access or a call starts with. -/
def suffixTokens : List Token := [.symbol ".", .symbol "[", .symbol "("]

/-- What may stand behind an expression. -/
def Closes (k : List Token) : Prop := ∀ t ∈ k.head?, t ∈ closingTokens

/-- What may stand behind an operand. -/
def EndsOperand (k : List Token) : Prop := ∀ t ∈ k.head?, t ∈ closingTokens ++ operatorTokens

/-- How a chain may go on behind the first part of an atom. -/
def GoesOn (k : List Token) : Prop := ∀ t ∈ k.head?, t ∈ suffixTokens ++ operatorTokens

theorem suffix_notMem : ∀ t ∈ suffixTokens, t ∉ closingTokens ++ operatorTokens := by decide

theorem operator_notMem : ∀ t ∈ operatorTokens, t ∉ closingTokens := by decide

theorem arrow_notMem : Token.symbol "=>" ∉ closingTokens ++ (suffixTokens ++ operatorTokens) := by
  decide

theorem Closes.endsOperand {k : List Token} (h : Closes k) : EndsOperand k :=
  fun t ht => List.mem_append_left _ (h t ht)

theorem closes_nil : Closes [] := nofun

theorem closes_cons {t : Token} (h : t ∈ closingTokens) (k : List Token) : Closes (t :: k) :=
  fun _ ht => Option.some.inj ht ▸ h

theorem endsOperand_operator (op : Operator) (k : List Token) : EndsOperand (op.1 :: k) :=
  fun _ ht => Option.some.inj ht ▸ List.mem_append_right _ op.2

theorem goesOn_nil : GoesOn [] := nofun

theorem goesOn_operator (op : Operator) (k : List Token) : GoesOn (op.1 :: k) :=
  fun _ ht => Option.some.inj ht ▸ List.mem_append_right _ op.2

theorem GoesOn.append {k us : List Token} (h : GoesOn k) (hus : GoesOn us) : GoesOn (k ++ us) := by
  cases k with
  | nil => exact hus
  | cons => exact h

/-- No arrow follows within a chain or behind it. -/
theorem GoesOn.ne_arrow {ts k us : List Token} (h : GoesOn ts) (hk : Closes k) :
    ts ++ k ≠ .symbol "=>" :: us := by
  intro heq
  refine arrow_notMem ?_
  cases ts with
  | nil => exact List.mem_append_left _ (hk _ (congrArg List.head? heq))
  | cons t ts => exact List.mem_append_right _ (h _ (congrArg List.head? heq))

/-! ## The parts of an atom -/

/-- The first part of an atom. -/
inductive Base where
  | name (x : String)
  | number (n : Nat)
  | text (s : String)
  | parens (e : Phrase)

/-- An access or a call that follows. -/
inductive Suffix where
  | member (field : String)
  | index (key : Phrase)
  | call (args : List Phrase)

def Base.atom : Base → Atom
  | name x => .name x
  | number n => .number n
  | text s => .text s
  | parens e => .parens e

namespace Suffix

def tokens : Suffix → List Token
  | member field => [.symbol ".", wordToken field]
  | index key => .symbol "[" :: (key.tokens ++ [.symbol "]"])
  | call args => .symbol "(" :: (Phrase.allTokens args ++ [.symbol ")"])

def allTokens (ss : List Suffix) : List Token := ss.flatMap tokens

@[simp] theorem allTokens_nil : allTokens [] = [] := rfl

@[simp] theorem allTokens_cons (s : Suffix) (ss : List Suffix) :
    allTokens (s :: ss) = s.tokens ++ allTokens ss := List.flatMap_cons

theorem exists_cons (s : Suffix) : ∃ t rest, s.tokens = t :: rest ∧ t ∈ suffixTokens := by
  cases s <;> exact ⟨_, _, rfl, by decide⟩

theorem goesOn (ss : List Suffix) : GoesOn (allTokens ss) := by
  cases ss with
  | nil => exact goesOn_nil
  | cons s ss =>
    obtain ⟨t, rest, htokens, ht⟩ := s.exists_cons
    rw [allTokens_cons, htokens]
    exact fun _ h => Option.some.inj h ▸ List.mem_append_left _ ht

/-- No access or call starts behind an operand. -/
theorem eq_nil_of_endsOperand {ss : List Suffix} {k : List Token}
    (h : EndsOperand (allTokens ss ++ k)) : ss = [] := by
  cases ss with
  | nil => rfl
  | cons s ss =>
    obtain ⟨t, rest, htokens, ht⟩ := s.exists_cons
    rw [allTokens_cons, htokens] at h
    exact absurd (h t rfl) (suffix_notMem t ht)

/-- Where a token of theirs stands, there is a first one. -/
theorem exists_of_cons {ss : List Suffix} {k us : List Token} {t : Token} (ht : t ∈ suffixTokens)
    (hk : EndsOperand k) (h : t :: us = allTokens ss ++ k) :
    ∃ s ss', ss = s :: ss' ∧ t :: us = s.tokens ++ (allTokens ss' ++ k) := by
  cases ss with
  | nil =>
    rw [allTokens_nil, List.nil_append] at h
    exact absurd (hk t (h ▸ rfl)) (suffix_notMem t ht)
  | cons s ss => exact ⟨s, ss, rfl, by rw [h, allTokens_cons, List.append_assoc]⟩

end Suffix

namespace Atom

def extend : Atom → Suffix → Atom
  | a, .member field => .member a field
  | a, .index key => .index a key
  | a, .call args => .call a args

/-- The atom with accesses and calls behind it. -/
def extendAll (a : Atom) (ss : List Suffix) : Atom := ss.foldl extend a

theorem extendAll_concat (a : Atom) (ss : List Suffix) (s : Suffix) :
    a.extendAll (ss ++ [s]) = (a.extendAll ss).extend s := List.foldl_concat _ _ _ _

theorem tokens_extend (a : Atom) (s : Suffix) : (a.extend s).tokens = a.tokens ++ s.tokens := by
  cases s <;> rw [extend, tokens, Suffix.tokens]

theorem tokens_extendAll (a : Atom) (ss : List Suffix) :
    (a.extendAll ss).tokens = a.tokens ++ Suffix.allTokens ss := by
  induction ss generalizing a with
  | nil => rw [extendAll, List.foldl_nil, Suffix.allTokens_nil, List.append_nil]
  | cons s ss ih =>
    have hstep : a.extendAll (s :: ss) = (a.extend s).extendAll ss := rfl
    rw [hstep, ih, tokens_extend, Suffix.allTokens_cons, List.append_assoc]

theorem exists_base : ∀ a : Atom, ∃ (b : Base) (ss : List Suffix), a = b.atom.extendAll ss
  | name x => ⟨.name x, [], rfl⟩
  | number n => ⟨.number n, [], rfl⟩
  | text s => ⟨.text s, [], rfl⟩
  | parens e => ⟨.parens e, [], rfl⟩
  | member object field => by
    obtain ⟨b, ss, hobject⟩ := object.exists_base
    exact ⟨b, ss ++ [Suffix.member field], by rw [extendAll_concat, ← hobject, extend]⟩
  | index object key => by
    obtain ⟨b, ss, hobject⟩ := object.exists_base
    exact ⟨b, ss ++ [Suffix.index key], by rw [extendAll_concat, ← hobject, extend]⟩
  | call callee args => by
    obtain ⟨b, ss, hcallee⟩ := callee.exists_base
    exact ⟨b, ss ++ [Suffix.call args], by rw [extendAll_concat, ← hcallee, extend]⟩

end Atom

/-! ## The start of a chain -/

/-- A chain starts with an operator, or with the first part of an atom. -/
theorem Chain.exists_start (c : Chain) :
    (∃ (op : PrefixOp) (ts : List Token), c.tokens = .symbol op.symbol :: ts) ∨
      ∃ (b : Base) (ts : List Token), c.tokens = b.atom.tokens ++ ts ∧ GoesOn ts := by
  have hfactor : ∀ (f : Factor) (us : List Token), GoesOn us →
      (∃ (op : PrefixOp) (ts : List Token), f.tokens ++ us = .symbol op.symbol :: ts) ∨
        ∃ (b : Base) (ts : List Token), f.tokens ++ us = b.atom.tokens ++ ts ∧ GoesOn ts := by
    intro f us hus
    cases f with
    | prefixed op f => exact .inl ⟨op, f.tokens ++ us, by rw [Factor.tokens, List.cons_append]⟩
    | atom a =>
      obtain ⟨b, ss, rfl⟩ := a.exists_base
      refine .inr ⟨b, Suffix.allTokens ss ++ us, ?_, (Suffix.goesOn ss).append hus⟩
      rw [Factor.tokens, Atom.tokens_extendAll, List.append_assoc]
  cases c with
  | last f => simpa only [tokens, List.append_nil] using hfactor f [] goesOn_nil
  | infixed f op rest => simpa only [tokens] using hfactor f _ (goesOn_operator op rest.tokens)

/-- What follows a name at the start of a chain. -/
theorem Chain.goesOn_of_name {c : Chain} {x : String} {ts : List Token}
    (h : c.tokens = .name x :: ts) : GoesOn ts := by
  rcases c.exists_start with ⟨op, us, hstart⟩ | ⟨b, us, hstart, hus⟩
  · rw [hstart] at h
    cases h
  · rw [h] at hstart
    cases b <;> rw [Base.atom, Atom.tokens] at hstart <;> cases hstart
    exact hus

/-- What follows parentheses at the start of a chain. -/
theorem Chain.exists_of_parens {c : Chain} {us : List Token} (h : c.tokens = .symbol "(" :: us) :
    ∃ (e : Phrase) (ts : List Token), us = e.tokens ++ .symbol ")" :: ts ∧ GoesOn ts := by
  rcases c.exists_start with ⟨op, ts, hstart⟩ | ⟨b, ts, hstart, hts⟩
  · rw [h, List.cons.injEq] at hstart
    cases op <;> exact absurd hstart.1 (by decide)
  · rw [h] at hstart
    cases b with
    | parens e =>
      rw [Base.atom, Atom.tokens, List.cons_append, List.cons.injEq] at hstart
      exact ⟨e, ts, by rw [hstart.2, List.append_assoc, List.singleton_append], hts⟩
    | name | number | text =>
      rw [Base.atom, Atom.tokens] at hstart
      cases hstart

/-- What follows a name at the start of an expression. -/
theorem Phrase.follows_name {e : Phrase} {x : String} {t : Token} {ts : List Token}
    (h : e.tokens = .name x :: t :: ts) : t ∉ closingTokens := by
  cases e with
  | arrow params body =>
    rw [tokens] at h
    cases params with
    | bare y =>
      cases h
      decide
    | listed ys => cases h
  | chain c =>
    intro hclosing
    rw [tokens] at h
    rcases List.mem_append.1 (c.goesOn_of_name h t rfl) with hsuffix | hoperator
    · exact suffix_notMem t hsuffix (List.mem_append_left _ hclosing)
    · exact operator_notMem t hoperator hclosing

/-! ## Functions -/

namespace Params

/-- Names with commas between them. -/
def list (xs : List String) : List Token := (xs.map Token.name).intersperse (.symbol ",")

theorem list_cons_cons (x y : String) (xs : List String) :
    list (x :: y :: xs) = .name x :: .symbol "," :: list (y :: xs) := rfl

theorem list_unique {r r' : List Token} : ∀ {xs ys : List String},
    list xs ++ .symbol ")" :: r = list ys ++ .symbol ")" :: r' → xs = ys ∧ r = r'
  | [], [], h => ⟨rfl, (List.cons.inj h).2⟩
  | [], [_], h | [], _ :: _ :: _, h | [_], [], h | _ :: _ :: _, [], h => by cases h
  | [x], [y], h => by
    obtain ⟨hname, hrest⟩ := List.cons.inj h
    exact ⟨by rw [Token.name.inj hname], (List.cons.inj hrest).2⟩
  | [_], _ :: _ :: _, h | _ :: _ :: _, [_], h =>
    absurd (List.cons.inj (List.cons.inj h).2).1 (by decide)
  | x :: x' :: xs, y :: y' :: ys, h => by
    obtain ⟨hname, hrest⟩ := List.cons.inj h
    have hmore : list (x' :: xs) ++ .symbol ")" :: r = list (y' :: ys) ++ .symbol ")" :: r' :=
      (List.cons.inj hrest).2
    obtain ⟨htail, hr⟩ := list_unique hmore
    exact ⟨by rw [Token.name.inj hname, htail], hr⟩

theorem unique {params params' : Params} {r r' : List Token}
    (h : params.tokens ++ .symbol "=>" :: r = params'.tokens ++ .symbol "=>" :: r') :
    params = params' ∧ r = r' := by
  cases params with
  | bare x =>
    cases params' with
    | bare y =>
      cases h
      exact ⟨rfl, rfl⟩
    | listed ys => cases h
  | listed xs =>
    cases params' with
    | bare y => cases h
    | listed ys =>
      have hlist : list xs ++ .symbol ")" :: (.symbol "=>" :: r) =
          list ys ++ .symbol ")" :: (.symbol "=>" :: r') := by
        simpa [tokens, list] using h
      obtain ⟨rfl, hr⟩ := list_unique hlist
      exact ⟨rfl, (List.cons.inj hr).2⟩

end Params

/-- An expression starts as an operand does. -/
theorem Phrase.exists_cons (e : Phrase) : ∃ t rest, e.tokens = t :: rest ∧ t.startsOperand := by
  cases e with
  | arrow params body => cases params <;> exact ⟨_, _, by rw [tokens, Params.tokens]; rfl, rfl⟩
  | chain c =>
    obtain ⟨t, rest, htokens, hstart, -⟩ := c.startsWith.start
    exact ⟨t, rest, by rw [tokens, htokens], hstart⟩

/-- No expression is written by a token that ends one. -/
theorem Phrase.tokens_append_ne {e : Phrase} {k us : List Token} {t : Token}
    (ht : t ∈ closingTokens) : e.tokens ++ k ≠ t :: us := by
  obtain ⟨t', rest, htokens, hstart⟩ := e.exists_cons
  intro h
  rw [htokens, List.cons_append, List.cons.injEq] at h
  rw [h.1] at hstart
  exact absurd hstart ((by decide : ∀ t ∈ closingTokens, ¬t.startsOperand) t ht)

/-- A name before a token that ends an expression is the whole expression. -/
theorem Phrase.eq_of_name {e : Phrase} {x : String} {t : Token} {k us : List Token}
    (ht : t ∈ closingTokens) (h : e.tokens ++ k = .name x :: t :: us) : k = t :: us := by
  obtain ⟨t', rest, htokens, -⟩ := e.exists_cons
  rw [htokens, List.cons_append, List.cons.injEq] at h
  obtain ⟨rfl, hrest⟩ := h
  cases rest with
  | nil => exact hrest
  | cons u rest =>
    rw [List.cons_append, List.cons.injEq] at hrest
    rw [hrest.1] at htokens
    exact absurd ht (e.follows_name htokens)

/-- Names in parentheses may be read as an expression, and what follows them is the same. -/
theorem Phrase.eq_of_list {e : Phrase} {ts r : List Token} {xs : List String}
    (h : e.tokens ++ .symbol ")" :: ts = Params.list xs ++ .symbol ")" :: r) : ts = r := by
  cases xs with
  | nil => exact absurd h (e.tokens_append_ne (by decide))
  | cons x xs =>
    cases xs with
    | nil => exact (List.cons.inj (e.eq_of_name (by decide) h)).2
    | cons y xs =>
      rw [Params.list_cons_cons] at h
      exact absurd (List.cons.inj (e.eq_of_name (by decide) h)).1 (by decide)

/-- A function is not a chain. -/
theorem Params.tokens_ne_chain (params : Params) (c : Chain) {r k : List Token} (hk : Closes k) :
    params.tokens ++ .symbol "=>" :: r ≠ c.tokens ++ k := by
  intro h
  obtain ⟨t, us, htokens, -⟩ := c.startsWith.start
  rw [htokens] at h
  cases params with
  | bare x =>
    obtain ⟨rfl, hrest⟩ := List.cons.inj h
    exact (c.goesOn_of_name htokens).ne_arrow hk hrest.symm
  | listed xs =>
    rw [tokens, List.cons_append, List.cons_append, List.cons.injEq] at h
    obtain ⟨rfl, hrest⟩ := h
    obtain ⟨e, ts, rfl, hts⟩ := c.exists_of_parens htokens
    have hlist : e.tokens ++ .symbol ")" :: (ts ++ k) =
        list xs ++ .symbol ")" :: (.symbol "=>" :: r) := by
      simpa [list] using hrest.symm
    exact hts.ne_arrow hk (e.eq_of_list hlist)

/-! ## Arguments -/

/-- The rest of a list of arguments, with the parenthesis at its end. -/
def Phrase.closeList : List Phrase → List Token → List Token
  | [], k => .symbol ")" :: k
  | e :: es, k => .symbol "," :: (e.tokens ++ closeList es k)

theorem Phrase.closes_closeList (es : List Phrase) (k : List Token) : Closes (closeList es k) := by
  cases es <;> exact closes_cons (by decide) _

theorem Phrase.allTokens_append (k : List Token) : ∀ (e : Phrase) (es : List Phrase),
    allTokens (e :: es) ++ .symbol ")" :: k = e.tokens ++ closeList es k
  | e, [] => by rw [allTokens, closeList]
  | e, e' :: es => by
    rw [allTokens, List.append_assoc, List.cons_append, allTokens_append k e' es, closeList]

/-- Arguments with the parenthesis at their end are the rest of a list, but for the first comma. -/
theorem Phrase.closeList_eq {es es' : List Phrase} {k k' : List Token}
    (h : allTokens es ++ .symbol ")" :: k = allTokens es' ++ .symbol ")" :: k') :
    closeList es k = closeList es' k' := by
  cases es with
  | nil =>
    cases es' with
    | nil => exact h
    | cons e' es' =>
      rw [allTokens_append] at h
      exact absurd h.symm (e'.tokens_append_ne (by decide))
  | cons e es =>
    rw [allTokens_append] at h
    cases es' with
    | nil => exact absurd h (e.tokens_append_ne (by decide))
    | cons e' es' => rw [closeList, closeList, h, allTokens_append]

/-! ## One expression for the tokens -/

theorem Atom.tokens_append_ne (op : PrefixOp) (a : Atom) {k ts : List Token} :
    a.tokens ++ k ≠ .symbol op.symbol :: ts := by
  obtain ⟨t, rest, htokens, -⟩ := a.startsWith.start
  intro h
  rw [htokens, List.cons_append, List.cons.injEq] at h
  exact a.tokens_ne_prefixed op rest (htokens.trans (by rw [h.1]))

theorem PrefixOp.symbol_injective {op op' : PrefixOp} (h : op.symbol = op'.symbol) : op = op' := by
  revert h
  cases op <;> cases op' <;> decide

theorem wordToken_injective {x y : String} (h : wordToken x = wordToken y) : x = y := by
  unfold wordToken at h
  split at h <;> split at h
  · exact Token.symbol.inj h
  · cases h
  · cases h
  · exact Token.name.inj h

mutual

/-- **Expressions are read in one way.** Two expressions with the same tokens, up to what stands behind
them, are the same. -/
theorem Phrase.unique : ∀ (e : Phrase) {e' : Phrase} {k k' : List Token}, Closes k → Closes k' →
    e.tokens ++ k = e'.tokens ++ k' → e = e' ∧ k = k'
  | .arrow params body, .arrow params' body', k, k', hk, hk', h => by
    rw [Phrase.tokens, Phrase.tokens, List.append_assoc, List.append_assoc] at h
    obtain ⟨rfl, hrest⟩ := Params.unique h
    obtain ⟨rfl, rfl⟩ := body.unique hk hk' hrest
    exact ⟨rfl, rfl⟩
  | .arrow params body, .chain c, k, k', _, hk', h => by
    rw [Phrase.tokens, Phrase.tokens, List.append_assoc] at h
    exact absurd h (params.tokens_ne_chain c hk')
  | .chain c, .arrow params body, k, k', hk, _, h => by
    rw [Phrase.tokens, Phrase.tokens, List.append_assoc] at h
    exact absurd h.symm (params.tokens_ne_chain c hk)
  | .chain c, .chain c', k, k', hk, hk', h => by
    rw [Phrase.tokens, Phrase.tokens] at h
    obtain ⟨rfl, rfl⟩ := c.unique hk hk' h
    exact ⟨rfl, rfl⟩

theorem Chain.unique : ∀ (c : Chain) {c' : Chain} {k k' : List Token}, Closes k → Closes k' →
    c.tokens ++ k = c'.tokens ++ k' → c = c' ∧ k = k'
  | .last f, .last f', k, k', hk, hk', h => by
    rw [Chain.tokens, Chain.tokens] at h
    obtain ⟨rfl, rfl⟩ := f.unique hk.endsOperand hk'.endsOperand h
    exact ⟨rfl, rfl⟩
  | .last f, .infixed f' op' rest', k, k', hk, hk', h => by
    rw [Chain.tokens, Chain.tokens, List.append_assoc] at h
    obtain ⟨-, rfl⟩ := f.unique hk.endsOperand (endsOperand_operator op' _) h
    exact absurd (hk _ rfl) (operator_notMem _ op'.2)
  | .infixed f op rest, .last f', k, k', hk, hk', h => by
    rw [Chain.tokens, Chain.tokens, List.append_assoc] at h
    obtain ⟨-, rfl⟩ := f.unique (endsOperand_operator op _) hk'.endsOperand h
    exact absurd (hk' _ rfl) (operator_notMem _ op.2)
  | .infixed f op rest, .infixed f' op' rest', k, k', hk, hk', h => by
    rw [Chain.tokens, Chain.tokens, List.append_assoc, List.append_assoc] at h
    obtain ⟨rfl, hrest⟩ := f.unique (endsOperand_operator op _) (endsOperand_operator op' _) h
    obtain ⟨hop, hrest⟩ := List.cons.inj hrest
    obtain ⟨rfl, rfl⟩ := rest.unique hk hk' hrest
    exact ⟨by rw [Subtype.ext hop], rfl⟩

theorem Factor.unique : ∀ (f : Factor) {f' : Factor} {k k' : List Token}, EndsOperand k →
    EndsOperand k' → f.tokens ++ k = f'.tokens ++ k' → f = f' ∧ k = k'
  | .prefixed op f, .prefixed op' f', k, k', hk, hk', h => by
    rw [Factor.tokens, Factor.tokens] at h
    obtain ⟨hop, hrest⟩ := List.cons.inj h
    obtain ⟨rfl, rfl⟩ := f.unique hk hk' hrest
    exact ⟨by rw [PrefixOp.symbol_injective (Token.symbol.inj hop)], rfl⟩
  | .prefixed op f, .atom a', k, k', _, _, h => by
    rw [Factor.tokens, Factor.tokens] at h
    exact absurd h.symm (a'.tokens_append_ne op)
  | .atom a, .prefixed op f', k, k', _, _, h => by
    rw [Factor.tokens, Factor.tokens] at h
    exact absurd h (a.tokens_append_ne op)
  | .atom a, .atom a', k, k', hk, hk', h => by
    rw [Factor.tokens, Factor.tokens] at h
    obtain ⟨ss, rfl, rfl⟩ := a.unique hk' h
    rw [Suffix.eq_nil_of_endsOperand hk]
    exact ⟨rfl, rfl⟩

/-- Two atoms start alike. The tokens behind the first are what the second has more. -/
theorem Atom.unique : ∀ (a : Atom) {a' : Atom} {k k' : List Token}, EndsOperand k' →
    a.tokens ++ k = a'.tokens ++ k' →
    ∃ ss : List Suffix, a' = a.extendAll ss ∧ k = Suffix.allTokens ss ++ k'
  | .name x, a', k, k', _, h => by
    obtain ⟨b, ss, rfl⟩ := a'.exists_base
    rw [Atom.tokens_extendAll, List.append_assoc] at h
    cases b <;> rw [Base.atom, Atom.tokens, Atom.tokens] at h <;> cases h
    exact ⟨ss, rfl, rfl⟩
  | .number n, a', k, k', _, h => by
    obtain ⟨b, ss, rfl⟩ := a'.exists_base
    rw [Atom.tokens_extendAll, List.append_assoc] at h
    cases b <;> rw [Base.atom, Atom.tokens, Atom.tokens] at h <;> cases h
    exact ⟨ss, rfl, rfl⟩
  | .text s, a', k, k', _, h => by
    obtain ⟨b, ss, rfl⟩ := a'.exists_base
    rw [Atom.tokens_extendAll, List.append_assoc] at h
    cases b <;> rw [Base.atom, Atom.tokens, Atom.tokens] at h <;> cases h
    exact ⟨ss, rfl, rfl⟩
  | .parens e, a', k, k', _, h => by
    obtain ⟨b, ss, rfl⟩ := a'.exists_base
    rw [Atom.tokens_extendAll, List.append_assoc] at h
    cases b with
    | parens e' =>
      rw [Base.atom, Atom.tokens, Atom.tokens, List.cons_append, List.cons_append, List.append_assoc,
        List.append_assoc] at h
      obtain ⟨rfl, hrest⟩ :=
        e.unique (closes_cons (by decide) _) (closes_cons (by decide) _) (List.cons.inj h).2
      exact ⟨ss, rfl, (List.cons.inj hrest).2⟩
    | name | number | text =>
      rw [Base.atom, Atom.tokens, Atom.tokens] at h
      cases h
  | .member object field, a', k, k', hk', h => by
    rw [Atom.tokens, List.append_assoc, List.cons_append, List.singleton_append] at h
    obtain ⟨ss, rfl, hmore⟩ := object.unique hk' h
    obtain ⟨s, ss, rfl, hfirst⟩ := Suffix.exists_of_cons (by decide) hk' hmore
    cases s with
    | member field' =>
      obtain ⟨hfield, hrest⟩ := List.cons.inj (List.cons.inj hfirst).2
      rw [wordToken_injective hfield]
      exact ⟨ss, rfl, hrest⟩
    | index | call => exact absurd (List.cons.inj hfirst).1 (by decide)
  | .index object key, a', k, k', hk', h => by
    rw [Atom.tokens, List.append_assoc, List.cons_append, List.append_assoc,
      List.singleton_append] at h
    obtain ⟨ss, rfl, hmore⟩ := object.unique hk' h
    obtain ⟨s, ss, rfl, hfirst⟩ := Suffix.exists_of_cons (by decide) hk' hmore
    cases s with
    | index key' =>
      rw [Suffix.tokens, List.cons_append, List.append_assoc, List.singleton_append] at hfirst
      obtain ⟨rfl, hrest⟩ :=
        key.unique (closes_cons (by decide) _) (closes_cons (by decide) _) (List.cons.inj hfirst).2
      exact ⟨ss, rfl, (List.cons.inj hrest).2⟩
    | member | call => exact absurd (List.cons.inj hfirst).1 (by decide)
  | .call callee args, a', k, k', hk', h => by
    rw [Atom.tokens, List.append_assoc, List.cons_append, List.append_assoc,
      List.singleton_append] at h
    obtain ⟨ss, rfl, hmore⟩ := callee.unique hk' h
    obtain ⟨s, ss, rfl, hfirst⟩ := Suffix.exists_of_cons (by decide) hk' hmore
    cases s with
    | call args' =>
      rw [Suffix.tokens, List.cons_append, List.append_assoc, List.singleton_append] at hfirst
      obtain ⟨rfl, hrest⟩ := Phrase.closeList_unique args (Phrase.closeList_eq (List.cons.inj hfirst).2)
      exact ⟨ss, rfl, hrest⟩
    | member | index => exact absurd (List.cons.inj hfirst).1 (by decide)

theorem Phrase.closeList_unique : ∀ (es : List Phrase) {es' : List Phrase} {k k' : List Token},
    Phrase.closeList es k = Phrase.closeList es' k' → es = es' ∧ k = k'
  | [], [], _, _, h => ⟨rfl, (List.cons.inj h).2⟩
  | [], _ :: _, _, _, h | _ :: _, [], _, _, h => absurd (List.cons.inj h).1 (by decide)
  | e :: es, e' :: es', k, k', h => by
    rw [Phrase.closeList, Phrase.closeList] at h
    obtain ⟨rfl, hrest⟩ :=
      e.unique (Phrase.closes_closeList es k) (Phrase.closes_closeList es' k') (List.cons.inj h).2
    obtain ⟨rfl, rfl⟩ := Phrase.closeList_unique es hrest
    exact ⟨rfl, rfl⟩

end

/-- **The tokens of an expression tell it.** -/
theorem Phrase.tokens_injective {e e' : Phrase} (h : e.tokens = e'.tokens) : e = e' :=
  (e.unique closes_nil closes_nil (congrArg (· ++ []) h)).1

/-- What is written beside an operator is read in one way: the operator joins the chain. -/
theorem Parent.tokens_eq_around_iff (p : Parent) (c : Chain) {e : Phrase} :
    e.tokens = p.around c.tokens ↔ e = .chain (p.put c) := by
  have hput : (Phrase.chain (p.put c)).tokens = p.around c.tokens := by
    rw [Phrase.tokens, tokens_put]
  constructor
  · exact fun h => Phrase.tokens_injective (h.trans hput.symm)
  · rintro rfl
    exact hput

end Criteria.Grammar
