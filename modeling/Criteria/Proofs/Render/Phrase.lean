import Criteria.Proofs.Render.Grammar
import Mathlib

/-!
# Expressions that a caller writes

The source of a function is written by the caller and is not restricted to what generated source is
made of: there are functions in it, indexing, calls of any number of arguments and many operators. An
expression is kept here as it is written, a chain of operands with the operators between them. How the
operators group is left to the interpretation.

* `Phrase`, `Chain`, `Factor`, `Atom` — expressions, and `tokens`, how they are written.
* `Interpretation`, `eval` — the value of an expression for any meaning of its parts.
* `uses` — how often a name occurs free.
* `head?`, `onHead` — the name that an expression starts with, and another atom in its place.
* `Parent` — an operator beside a chain that is written without parentheses.

Principal results:

* `Chain.eval_onHead_iff` — an atom in place of the first name has the effect of a binding when the
  name is used only there.
* `Chain.standsAlone_iff` — a chain may stand beside any operator when it has none of its own.
-/

set_option autoImplicit false

namespace Criteria.Grammar

/-! ## Expressions -/

/-- The tokens that stand between two operands. -/
def operatorTokens : List Token :=
  ["||", "&&", "??", "|", "^", "&", "==", "!=", "===", "!==", "<", ">", "<=", ">=", "<<", ">>", ">>>",
    "+", "-", "*", "/", "%", "**", "?", ":"].map .symbol ++ [.name "in", .name "instanceof"]

/-- An operator between two operands. The two signs of a condition are taken for operators. -/
abbrev Operator := { t : Token // t ∈ operatorTokens }

/-- The parameters of a function. -/
inductive Params where
  | bare (x : String)
  | listed (xs : List String)

namespace Params

def names : Params → List String
  | bare x => [x]
  | listed xs => xs

def tokens : Params → List Token
  | bare x => [.name x]
  | listed xs => .symbol "(" :: ((xs.map .name).intersperse (.symbol ",") ++ [.symbol ")"])

end Params

mutual

/-- An expression. -/
inductive Phrase where
  | arrow (params : Params) (body : Phrase)
  | chain (c : Chain)

/-- Operands with operators between them, as they are written. -/
inductive Chain where
  | last (x : Factor)
  | infixed (x : Factor) (op : Operator) (rest : Chain)

/-- An operand with the operators before it. -/
inductive Factor where
  | prefixed (op : PrefixOp) (x : Factor)
  | atom (a : Atom)

/-- What binds tightest: a name, a literal, parentheses, or one of these with accesses and calls. -/
inductive Atom where
  | name (x : String)
  | number (n : Nat)
  | text (s : String)
  | parens (e : Phrase)
  | member (object : Atom) (field : String)
  | index (object : Atom) (key : Phrase)
  | call (callee : Atom) (args : List Phrase)

end

mutual

def Phrase.tokens : Phrase → List Token
  | .arrow params body => params.tokens ++ .symbol "=>" :: body.tokens
  | .chain c => c.tokens

def Chain.tokens : Chain → List Token
  | .last x => x.tokens
  | .infixed x op rest => x.tokens ++ op.1 :: rest.tokens

def Factor.tokens : Factor → List Token
  | .prefixed op x => .symbol op.symbol :: x.tokens
  | .atom a => a.tokens

def Atom.tokens : Atom → List Token
  | .name x => [.name x]
  | .number n => [.number n]
  | .text s => [.text s]
  | .parens e => .symbol "(" :: (e.tokens ++ [.symbol ")"])
  | .member object field => object.tokens ++ [.symbol ".", wordToken field]
  | .index object key => object.tokens ++ .symbol "[" :: (key.tokens ++ [.symbol "]"])
  | .call callee args => callee.tokens ++ .symbol "(" :: (Phrase.allTokens args ++ [.symbol ")"])

/-- Expressions with commas between them. -/
def Phrase.allTokens : List Phrase → List Token
  | [] => []
  | [e] => e.tokens
  | e :: e' :: rest => e.tokens ++ .symbol "," :: Phrase.allTokens (e' :: rest)

end

/-- The operators of a chain, outside parentheses and brackets. -/
def Chain.operators : Chain → List Operator
  | .last _ => []
  | .infixed _ op rest => op :: rest.operators

/-! ## Values -/

/-- A meaning of the parts of expressions. -/
structure Interpretation (V : Type) where
  number : Nat → V
  text : String → V
  member : V → String → V
  index : V → V → V
  call : V → List V → V
  prefixed : PrefixOp → V → V
  /-- The value of operands with operators between them, however these group. -/
  chain : List Operator → List V → V
  /-- A function of some parameters, from what it does with its arguments. -/
  lambda : Nat → ((Nat → V) → V) → V

variable {V : Type}

/-- The value of a chain of operands; one operand alone is its own value. -/
def Interpretation.resolve (I : Interpretation V) : List Operator → List V → V
  | [], [v] => v
  | ops, vs => I.chain ops vs

theorem Interpretation.resolve_of_ne_nil (I : Interpretation V) {ops : List Operator} (h : ops ≠ [])
    (vs : List V) : I.resolve ops vs = I.chain ops vs := by
  unfold resolve
  split
  · exact absurd rfl h
  · rfl

/-- The names with the parameters of a function bound to its arguments. -/
def bindParams (env : String → V) (xs : List String) (args : Nat → V) : String → V :=
  fun y => if y ∈ xs then args (xs.idxOf y) else env y

mutual

def Phrase.eval (I : Interpretation V) : Phrase → (String → V) → V
  | .arrow params body, env =>
    I.lambda params.names.length fun args => body.eval I (bindParams env params.names args)
  | .chain c, env => I.resolve c.operators (c.values I env)

/-- The values of the operands of a chain. -/
def Chain.values (I : Interpretation V) : Chain → (String → V) → List V
  | .last x, env => [x.eval I env]
  | .infixed x _ rest, env => x.eval I env :: rest.values I env

def Factor.eval (I : Interpretation V) : Factor → (String → V) → V
  | .prefixed op x, env => I.prefixed op (x.eval I env)
  | .atom a, env => a.eval I env

def Atom.eval (I : Interpretation V) : Atom → (String → V) → V
  | .name x, env => env x
  | .number n, _ => I.number n
  | .text s, _ => I.text s
  | .parens e, env => e.eval I env
  | .member object field, env => I.member (object.eval I env) field
  | .index object key, env => I.index (object.eval I env) (key.eval I env)
  | .call callee args, env => I.call (callee.eval I env) (Phrase.allValues I args env)

def Phrase.allValues (I : Interpretation V) : List Phrase → (String → V) → List V
  | [], _ => []
  | e :: rest, env => e.eval I env :: Phrase.allValues I rest env

end

def Chain.eval (I : Interpretation V) (c : Chain) (env : String → V) : V :=
  I.resolve c.operators (c.values I env)

mutual

/-- How often a name occurs free. -/
def Phrase.uses (x : String) : Phrase → Nat
  | .arrow params body => if x ∈ params.names then 0 else body.uses x
  | .chain c => c.uses x

def Chain.uses (x : String) : Chain → Nat
  | .last f => f.uses x
  | .infixed f _ rest => f.uses x + rest.uses x

def Factor.uses (x : String) : Factor → Nat
  | .prefixed _ f => f.uses x
  | .atom a => a.uses x

def Atom.uses (x : String) : Atom → Nat
  | .name y => if y = x then 1 else 0
  | .number _ => 0
  | .text _ => 0
  | .parens e => e.uses x
  | .member object _ => object.uses x
  | .index object key => object.uses x + key.uses x
  | .call callee args => callee.uses x + Phrase.allUses x args

def Phrase.allUses (x : String) : List Phrase → Nat
  | [] => 0
  | e :: rest => e.uses x + Phrase.allUses x rest

end

/-! ## Free names -/

section Binding

variable {env : String → V} {xs : List String} {x : String} {args : Nat → V}

theorem bindParams_update_of_mem (h : x ∈ xs) (v : V) :
    bindParams (Function.update env x v) xs args = bindParams env xs args := by
  funext y
  unfold bindParams
  split
  · rfl
  · rename_i hy
    exact Function.update_of_ne (ne_of_mem_of_not_mem h hy).symm v env

theorem bindParams_update_of_notMem (h : x ∉ xs) (v : V) :
    bindParams (Function.update env x v) xs args =
      Function.update (bindParams env xs args) x v := by
  funext y
  by_cases hy : y = x
  · rw [hy, Function.update_self, bindParams, if_neg h, Function.update_self]
  · rw [Function.update_of_ne hy, bindParams, bindParams, Function.update_of_ne hy]

theorem bindParams_of_notMem (h : x ∉ xs) : bindParams env xs args x = env x := if_neg h

end Binding

section Free

variable (I : Interpretation V) {x : String} {v : V}

mutual

/-- A name that does not occur free has no effect on the value. -/
theorem Phrase.eval_update : ∀ (e : Phrase) {env : String → V}, e.uses x = 0 →
    e.eval I (Function.update env x v) = e.eval I env
  | .arrow params body, env, h => by
    rw [Phrase.uses] at h
    rw [Phrase.eval, Phrase.eval]
    refine congrArg _ (funext fun args => ?_)
    split at h
    · rename_i hmem
      rw [bindParams_update_of_mem hmem]
    · rename_i hmem
      rw [bindParams_update_of_notMem hmem, body.eval_update h]
  | .chain c, env, h => by
    rw [Phrase.uses] at h
    rw [Phrase.eval, Phrase.eval, c.values_update h]

theorem Chain.values_update : ∀ (c : Chain) {env : String → V}, c.uses x = 0 →
    c.values I (Function.update env x v) = c.values I env
  | .last f, env, h => by
    rw [Chain.uses] at h
    rw [Chain.values, Chain.values, f.eval_update h]
  | .infixed f _ rest, env, h => by
    rw [Chain.uses, Nat.add_eq_zero_iff] at h
    rw [Chain.values, Chain.values, f.eval_update h.1, rest.values_update h.2]

theorem Factor.eval_update : ∀ (f : Factor) {env : String → V}, f.uses x = 0 →
    f.eval I (Function.update env x v) = f.eval I env
  | .prefixed _ f, env, h => by
    rw [Factor.uses] at h
    rw [Factor.eval, Factor.eval, f.eval_update h]
  | .atom a, env, h => by
    rw [Factor.uses] at h
    rw [Factor.eval, Factor.eval, a.eval_update h]

theorem Atom.eval_update : ∀ (a : Atom) {env : String → V}, a.uses x = 0 →
    a.eval I (Function.update env x v) = a.eval I env
  | .name y, env, h => by
    have hy : y ≠ x := by
      rintro rfl
      rw [Atom.uses, if_pos rfl] at h
      exact absurd h Nat.one_ne_zero
    rw [Atom.eval, Atom.eval, Function.update_of_ne hy]
  | .number _, _, _ => rfl
  | .text _, _, _ => rfl
  | .parens e, env, h => by
    rw [Atom.uses] at h
    rw [Atom.eval, Atom.eval, e.eval_update h]
  | .member object _, env, h => by
    rw [Atom.uses] at h
    rw [Atom.eval, Atom.eval, object.eval_update h]
  | .index object key, env, h => by
    rw [Atom.uses, Nat.add_eq_zero_iff] at h
    rw [Atom.eval, Atom.eval, object.eval_update h.1, key.eval_update h.2]
  | .call callee args, env, h => by
    rw [Atom.uses, Nat.add_eq_zero_iff] at h
    rw [Atom.eval, Atom.eval, callee.eval_update h.1, Phrase.allValues_update args h.2]

theorem Phrase.allValues_update : ∀ (es : List Phrase) {env : String → V}, Phrase.allUses x es = 0 →
    Phrase.allValues I es (Function.update env x v) = Phrase.allValues I es env
  | [], _, _ => rfl
  | e :: rest, env, h => by
    rw [Phrase.allUses, Nat.add_eq_zero_iff] at h
    rw [Phrase.allValues, Phrase.allValues, e.eval_update h.1, Phrase.allValues_update rest h.2]

end

end Free

/-! ## Counting -/

/-- An interpretation that adds up names and accesses. -/
def counting : Interpretation ℕ where
  number _ := 0
  text _ := 0
  member v _ := v + 1
  index v k := v + k + 1
  call v args := v + args.sum
  prefixed _ v := v
  chain _ vs := vs.sum
  lambda _ f := f fun _ => 0

theorem resolve_counting (ops : List Operator) (vs : List ℕ) : counting.resolve ops vs = vs.sum := by
  unfold Interpretation.resolve
  split
  · exact (List.sum_singleton).symm
  · rfl

theorem Chain.eval_counting (c : Chain) (env : String → ℕ) :
    c.eval counting env = (c.values counting env).sum := resolve_counting _ _

theorem Atom.eval_counting_member (object : Atom) (field : String) (env : String → ℕ) :
    (Atom.member object field).eval counting env = object.eval counting env + 1 := by
  rw [Atom.eval]
  rfl

theorem Atom.eval_counting_index (object : Atom) (key : Phrase) (env : String → ℕ) :
    (Atom.index object key).eval counting env =
      object.eval counting env + key.eval counting env + 1 := by
  rw [Atom.eval]
  rfl

theorem Atom.eval_counting_call (callee : Atom) (args : List Phrase) (env : String → ℕ) :
    (Atom.call callee args).eval counting env =
      callee.eval counting env + (Phrase.allValues counting args env).sum := by
  rw [Atom.eval]
  rfl

section Counting

variable {x : String} {d : ℕ}

mutual

/-- Every free occurrence of a name counts once. -/
theorem Phrase.eval_counting_update : ∀ (e : Phrase) (env : String → ℕ),
    e.eval counting (Function.update env x (env x + d)) = e.eval counting env + d * e.uses x
  | .arrow params body, env => by
    have heval : ∀ env, (Phrase.arrow params body).eval counting env =
        body.eval counting (bindParams env params.names fun _ => 0) := fun _ => by
      rw [Phrase.eval]
      rfl
    rw [heval, heval, Phrase.uses]
    split
    · rename_i hmem
      rw [bindParams_update_of_mem hmem, Nat.mul_zero, Nat.add_zero]
    · rename_i hmem
      have hsame : bindParams env params.names (fun _ => 0) x = env x := bindParams_of_notMem hmem
      rw [bindParams_update_of_notMem hmem, ← hsame, body.eval_counting_update]
  | .chain c, env => by
    rw [Phrase.eval, Phrase.eval, resolve_counting, resolve_counting, c.sum_counting_update,
      Phrase.uses]

theorem Chain.sum_counting_update : ∀ (c : Chain) (env : String → ℕ),
    (c.values counting (Function.update env x (env x + d))).sum =
      (c.values counting env).sum + d * c.uses x
  | .last f, env => by
    rw [Chain.values, Chain.values, List.sum_singleton, List.sum_singleton, f.eval_counting_update,
      Chain.uses]
  | .infixed f _ rest, env => by
    rw [Chain.values, Chain.values, List.sum_cons, List.sum_cons, f.eval_counting_update,
      rest.sum_counting_update, Chain.uses, Nat.mul_add, Nat.add_add_add_comm]

theorem Factor.eval_counting_update : ∀ (f : Factor) (env : String → ℕ),
    f.eval counting (Function.update env x (env x + d)) = f.eval counting env + d * f.uses x
  | .prefixed op f, env => by
    have heval : ∀ env, (Factor.prefixed op f).eval counting env = f.eval counting env := fun _ => by
      rw [Factor.eval]
      rfl
    rw [heval, heval, f.eval_counting_update, Factor.uses]
  | .atom a, env => by
    rw [Factor.eval, Factor.eval, a.eval_counting_update, Factor.uses]

theorem Atom.eval_counting_update : ∀ (a : Atom) (env : String → ℕ),
    a.eval counting (Function.update env x (env x + d)) = a.eval counting env + d * a.uses x
  | .name y, env => by
    rw [Atom.eval, Atom.eval, Atom.uses]
    split
    · rename_i hy
      rw [hy, Function.update_self, Nat.mul_one]
    · rename_i hy
      rw [Function.update_of_ne hy, Nat.mul_zero, Nat.add_zero]
  | .number _, _ => rfl
  | .text _, _ => rfl
  | .parens e, env => by
    rw [Atom.eval, Atom.eval, e.eval_counting_update, Atom.uses]
  | .member object field, env => by
    rw [Atom.eval_counting_member, Atom.eval_counting_member, object.eval_counting_update, Atom.uses]
    omega
  | .index object key, env => by
    rw [Atom.eval_counting_index, Atom.eval_counting_index, object.eval_counting_update,
      key.eval_counting_update, Atom.uses, Nat.mul_add]
    omega
  | .call callee args, env => by
    rw [Atom.eval_counting_call, Atom.eval_counting_call, callee.eval_counting_update,
      Phrase.sum_counting_update args, Atom.uses, Nat.mul_add, Nat.add_add_add_comm]

theorem Phrase.sum_counting_update : ∀ (es : List Phrase) (env : String → ℕ),
    (Phrase.allValues counting es (Function.update env x (env x + d))).sum =
      (Phrase.allValues counting es env).sum + d * Phrase.allUses x es
  | [], _ => rfl
  | e :: rest, env => by
    rw [Phrase.allValues, Phrase.allValues, List.sum_cons, List.sum_cons, e.eval_counting_update,
      Phrase.sum_counting_update rest, Phrase.allUses, Nat.mul_add, Nat.add_add_add_comm]

end

end Counting

/-! ## The name at the start -/

/-- The name that an atom starts with. -/
def Atom.head? : Atom → Option String
  | .name x => some x
  | .number _ => none
  | .text _ => none
  | .parens _ => none
  | .member object _ => object.head?
  | .index object _ => object.head?
  | .call callee _ => callee.head?

def Factor.head? : Factor → Option String
  | .prefixed .. => none
  | .atom a => a.head?

/-- The name that a chain starts with. -/
def Chain.head? : Chain → Option String
  | .last f => f.head?
  | .infixed f .. => f.head?

/-- The atom with another one in place of the name that it starts with. -/
def Atom.onHead : Atom → Atom → Atom
  | .name _, b => b
  | .number n, _ => .number n
  | .text s, _ => .text s
  | .parens e, _ => .parens e
  | .member object field, b => .member (object.onHead b) field
  | .index object key, b => .index (object.onHead b) key
  | .call callee args, b => .call (callee.onHead b) args

def Factor.onHead : Factor → Atom → Factor
  | .prefixed op f, _ => .prefixed op f
  | .atom a, b => .atom (a.onHead b)

/-- The chain with an atom in place of the name that it starts with. -/
def Chain.onHead : Chain → Atom → Chain
  | .last f, b => .last (f.onHead b)
  | .infixed f op rest, b => .infixed (f.onHead b) op rest

theorem Chain.operators_onHead (c : Chain) (b : Atom) : (c.onHead b).operators = c.operators := by
  cases c <;> rfl

section Head

variable {x : String}

theorem Atom.one_le_uses : ∀ {a : Atom}, a.head? = some x → 1 ≤ a.uses x
  | .name y, h => by
    rw [Atom.head?, Option.some.injEq] at h
    exact Nat.le_of_eq (if_pos h).symm
  | .number _, h | .text _, h | .parens _, h => nomatch h
  | .member object _, h => by
    rw [Atom.uses]
    exact object.one_le_uses h
  | .index object _, h => by
    rw [Atom.uses]
    exact Nat.le_add_right_of_le (object.one_le_uses h)
  | .call callee _, h => by
    rw [Atom.uses]
    exact Nat.le_add_right_of_le (callee.one_le_uses h)

theorem Factor.one_le_uses : ∀ {f : Factor}, f.head? = some x → 1 ≤ f.uses x
  | .prefixed .., h => nomatch h
  | .atom _, h => by
    rw [Factor.uses]
    exact Atom.one_le_uses h

theorem Chain.one_le_uses : ∀ {c : Chain}, c.head? = some x → 1 ≤ c.uses x
  | .last _, h => by
    rw [Chain.uses]
    exact Factor.one_le_uses h
  | .infixed .., h => by
    rw [Chain.uses]
    exact Nat.le_add_right_of_le (Factor.one_le_uses h)

/-! ### A binding of the name -/

variable (I : Interpretation V) (b : Atom) {env : String → V}

theorem Atom.eval_onHead : ∀ {a : Atom}, a.head? = some x → a.uses x = 1 →
    (a.onHead b).eval I env = a.eval I (Function.update env x (b.eval I env))
  | .name y, h, _ => by
    rw [Atom.head?, Option.some.injEq] at h
    rw [Atom.onHead, h, Atom.eval.eq_1, Function.update_self]
  | .number _, h, _ | .text _, h, _ | .parens _, h, _ => nomatch h
  | .member object _, h, huses => by
    rw [Atom.head?] at h
    rw [Atom.uses] at huses
    rw [Atom.onHead, Atom.eval, Atom.eval, Atom.eval_onHead h huses]
  | .index object key, h, huses => by
    rw [Atom.head?] at h
    rw [Atom.uses] at huses
    have hone : 1 ≤ object.uses x := object.one_le_uses h
    rw [Atom.onHead, Atom.eval, Atom.eval, Atom.eval_onHead h (by omega),
      key.eval_update I (by omega)]
  | .call callee args, h, huses => by
    rw [Atom.head?] at h
    rw [Atom.uses] at huses
    have hone : 1 ≤ callee.uses x := callee.one_le_uses h
    rw [Atom.onHead, Atom.eval, Atom.eval, Atom.eval_onHead h (by omega),
      Phrase.allValues_update I args (by omega)]

theorem Factor.eval_onHead : ∀ {f : Factor}, f.head? = some x → f.uses x = 1 →
    (f.onHead b).eval I env = f.eval I (Function.update env x (b.eval I env))
  | .prefixed .., h, _ => nomatch h
  | .atom a, h, huses => by
    rw [Factor.uses] at huses
    rw [Factor.onHead, Factor.eval, Factor.eval, Atom.eval_onHead I b h huses]

/-- A name that a chain starts with and that occurs nowhere else: an atom in its place has the effect of
a binding. -/
theorem Chain.eval_onHead {c : Chain} (h : c.head? = some x) (huses : c.uses x = 1) :
    (c.onHead b).eval I env = c.eval I (Function.update env x (b.eval I env)) := by
  have hvalues : (c.onHead b).values I env =
      c.values I (Function.update env x (b.eval I env)) := by
    cases c with
    | last f =>
      rw [Chain.uses] at huses
      rw [Chain.onHead, Chain.values, Chain.values, Factor.eval_onHead I b h huses]
    | infixed f op rest =>
      rw [Chain.uses] at huses
      have hone : 1 ≤ f.uses x := Factor.one_le_uses h
      rw [Chain.onHead, Chain.values, Chain.values, Factor.eval_onHead I b h (by omega),
        rest.values_update I (by omega)]
  rw [Chain.eval, Chain.eval, hvalues, c.operators_onHead]

/-! ### Counting at the start -/

section Counting

variable (env : String → ℕ)

/-- An atom in place of the first name counts instead of it. -/
theorem Atom.counting_onHead : ∀ {a : Atom}, a.head? = some x →
    (a.onHead b).eval counting env + env x = a.eval counting env + b.eval counting env
  | .name y, h => by
    rw [Atom.head?, Option.some.injEq] at h
    rw [Atom.onHead, h, Atom.eval.eq_1, Nat.add_comm]
  | .number _, h | .text _, h | .parens _, h => nomatch h
  | .member object field, h => by
    rw [Atom.head?] at h
    have hobject := Atom.counting_onHead h
    rw [Atom.onHead, Atom.eval_counting_member, Atom.eval_counting_member]
    omega
  | .index object key, h => by
    rw [Atom.head?] at h
    have hobject := Atom.counting_onHead h
    rw [Atom.onHead, Atom.eval_counting_index, Atom.eval_counting_index]
    omega
  | .call callee args, h => by
    rw [Atom.head?] at h
    have hcallee := Atom.counting_onHead h
    rw [Atom.onHead, Atom.eval_counting_call, Atom.eval_counting_call]
    omega

theorem Factor.counting_onHead : ∀ {f : Factor}, f.head? = some x →
    (f.onHead b).eval counting env + env x = f.eval counting env + b.eval counting env
  | .prefixed .., h => nomatch h
  | .atom a, h => by
    rw [Factor.onHead, Factor.eval, Factor.eval, Atom.counting_onHead b env h]

theorem Chain.counting_onHead {c : Chain} (h : c.head? = some x) :
    (c.onHead b).eval counting env + env x = c.eval counting env + b.eval counting env := by
  rw [Chain.eval_counting, Chain.eval_counting]
  cases c with
  | last f =>
    have hf := Factor.counting_onHead b env h
    rw [Chain.onHead, Chain.values, Chain.values, List.sum_singleton, List.sum_singleton, hf]
  | infixed f op rest =>
    have hf := Factor.counting_onHead b env h
    rw [Chain.onHead, Chain.values, Chain.values, List.sum_cons, List.sum_cons]
    omega

end Counting

/-- **An atom in place of the first name.** It has the effect of a binding of the name, whatever the
parts of expressions mean, exactly when the name occurs free nowhere else. The atom is one that has a
count of its own. -/
theorem Chain.eval_onHead_iff {c : Chain} (h : c.head? = some x)
    (hb : b.eval counting (fun _ => 0) ≠ 0) :
    (∀ (V : Type) (I : Interpretation V) (env : String → V),
      (c.onHead b).eval I env = c.eval I (Function.update env x (b.eval I env))) ↔ c.uses x = 1 := by
  constructor
  · intro hsame
    have hcount := hsame ℕ counting fun _ => 0
    have honce : (c.onHead b).eval counting (fun _ => 0) + 0 =
        c.eval counting (fun _ => 0) + b.eval counting fun _ => 0 := Chain.counting_onHead b _ h
    have hall := c.sum_counting_update (x := x) (d := b.eval counting fun _ => 0) fun _ => 0
    rw [Nat.zero_add, ← Chain.eval_counting, ← Chain.eval_counting, ← hcount] at hall
    rw [Nat.add_zero] at honce
    have hmul : (b.eval counting fun _ => 0) * c.uses x = (b.eval counting fun _ => 0) * 1 := by
      omega
    exact Nat.eq_of_mul_eq_mul_left (Nat.pos_of_ne_zero hb) hmul
  · intro huses V I env
    exact c.eval_onHead I b h huses

end Head

/-! ## Tokens at the start -/

/-- Whether an operand can start with the token. -/
def Token.startsOperand : Token → Bool
  | .name _ => true
  | .number _ => true
  | .text _ => true
  | .symbol s => s = "(" || PrefixOp.all.any fun op => op.symbol = s

/-- The tokens start as an operand does, with the name `head?` if there is one. With an atom in place of
this name they are `onHead`. -/
structure StartsWith (ts : List Token) (head? : Option String) (onHead : Atom → List Token) :
    Prop where
  start : ∃ t rest, ts = t :: rest ∧ t.startsOperand ∧ (∀ x, t = .name x ↔ head? = some x) ∧
    (head?.isSome → ∀ b, onHead b = b.tokens ++ rest)

namespace StartsWith

variable {ts : List Token} {head? : Option String} {onHead onHead' : Atom → List Token}

/-- More tokens may follow. -/
theorem append (h : StartsWith ts head? onHead) (us : List Token)
    (honHead : ∀ b, onHead' b = onHead b ++ us) : StartsWith (ts ++ us) head? onHead' := by
  obtain ⟨t, rest, rfl, hstart, hname, hsame⟩ := h.start
  refine ⟨t, rest ++ us, rfl, hstart, hname, fun hsome b => ?_⟩
  rw [honHead, hsame hsome, List.append_assoc]

/-- A start that is no name. -/
theorem ofToken {t : Token} (ht : t.startsOperand) (hname : ∀ x, t ≠ .name x) (rest : List Token) :
    StartsWith (t :: rest) none onHead :=
  ⟨t, rest, rfl, ht, fun x => ⟨fun h => absurd h (hname x), nofun⟩, nofun⟩

end StartsWith

theorem Atom.startsWith : ∀ a : Atom, StartsWith a.tokens a.head? fun b => (a.onHead b).tokens
  | .name x => by
    refine ⟨.name x, [], by rw [tokens], rfl, fun y => ?_, fun _ b => ?_⟩
    · rw [head?, Option.some.injEq, Token.name.injEq]
    · rw [onHead, List.append_nil]
  | .number n => by
    rw [tokens]
    exact .ofToken rfl (fun _ h => by cases h) []
  | .text s => by
    rw [tokens]
    exact .ofToken rfl (fun _ h => by cases h) []
  | .parens e => by
    rw [tokens]
    exact .ofToken rfl (fun _ h => by cases h) _
  | .member object field => by
    rw [tokens, head?]
    exact object.startsWith.append _ fun b => by rw [onHead, tokens]
  | .index object key => by
    rw [tokens, head?]
    exact object.startsWith.append _ fun b => by rw [onHead, tokens]
  | .call callee args => by
    rw [tokens, head?]
    exact callee.startsWith.append _ fun b => by rw [onHead, tokens]

theorem PrefixOp.startsOperand (op : PrefixOp) : (Token.symbol op.symbol).startsOperand := by
  cases op <;> rfl

theorem Factor.startsWith : ∀ f : Factor, StartsWith f.tokens f.head? fun b => (f.onHead b).tokens
  | .prefixed op f => by
    rw [tokens]
    exact .ofToken op.startsOperand (fun _ h => by cases h) _
  | .atom a => by
    rw [tokens, head?]
    exact a.startsWith

theorem Chain.startsWith : ∀ c : Chain, StartsWith c.tokens c.head? fun b => (c.onHead b).tokens
  | .last f => by
    rw [tokens, head?]
    exact f.startsWith
  | .infixed f op rest => by
    rw [tokens, head?]
    exact f.startsWith.append _ fun b => by rw [onHead, tokens]

theorem Params.tokens_ne_nil (params : Params) : params.tokens ≠ [] := by
  cases params <;> exact List.cons_ne_nil _ _

theorem Phrase.tokens_ne_nil (e : Phrase) : e.tokens ≠ [] := by
  cases e with
  | arrow params body =>
    rw [tokens]
    exact List.append_ne_nil_of_left_ne_nil params.tokens_ne_nil _
  | chain c =>
    obtain ⟨t, rest, htokens, -⟩ := c.startsWith.start
    rw [tokens, htokens]
    exact List.cons_ne_nil _ _

/-- Tokens that start with a name, and do not go on as a function, are a chain that starts with it. -/
theorem Phrase.eq_chain_of_name {e : Phrase} {x : String} {ts : List Token}
    (h : e.tokens = .name x :: ts) (hts : ts.head? ≠ some (.symbol "=>")) :
    ∃ c : Chain, e = .chain c ∧ c.head? = some x ∧ ∀ b, (c.onHead b).tokens = b.tokens ++ ts := by
  cases e with
  | arrow params body =>
    rw [tokens] at h
    cases params with
    | bare y =>
      rw [Params.tokens, List.singleton_append, List.cons.injEq] at h
      exact absurd (congrArg List.head? h.2).symm hts
    | listed xs => cases h
  | chain c =>
    rw [tokens] at h
    obtain ⟨t, rest, htokens, -, hname, hsame⟩ := c.startsWith.start
    rw [h, List.cons.injEq] at htokens
    obtain ⟨rfl, rfl⟩ := htokens
    have hhead := (hname x).1 rfl
    exact ⟨c, rfl, hhead, hsame (Option.isSome_of_eq_some hhead)⟩

/-- No atom starts with an operator. -/
theorem Atom.tokens_ne_prefixed (op : PrefixOp) : ∀ (a : Atom) (ts : List Token),
    a.tokens ≠ .symbol op.symbol :: ts
  | .name _, ts, h | .number _, ts, h | .text _, ts, h => by
    rw [tokens] at h
    cases h
  | .parens e, ts, h => by
    rw [tokens, List.cons.injEq] at h
    cases op <;> exact absurd h.1 (by decide)
  | .member object _, ts, h | .index object _, ts, h | .call object _, ts, h => by
    obtain ⟨t, rest, htokens, -⟩ := object.startsWith.start
    rw [tokens, htokens, List.cons_append, List.cons.injEq] at h
    exact object.tokens_ne_prefixed op rest (htokens.trans (by rw [h.1]))

/-- An operand follows an operator before it. -/
theorem Phrase.startsOperand_of_prefixed {e : Phrase} (op : PrefixOp) {ts : List Token}
    (h : e.tokens = .symbol op.symbol :: ts) : ∃ t rest, ts = t :: rest ∧ t.startsOperand := by
  have hfactor : ∀ (f : Factor) (us : List Token), f.tokens ++ us = .symbol op.symbol :: ts →
      ∃ t rest, ts = t :: rest ∧ t.startsOperand := by
    intro f us h
    cases f with
    | prefixed op' f =>
      obtain ⟨t, rest, htokens, hstart, -⟩ := f.startsWith.start
      rw [Factor.tokens, htokens, List.cons_append, List.cons.injEq] at h
      exact ⟨t, rest ++ us, h.2.symm, hstart⟩
    | atom a =>
      obtain ⟨t, rest, htokens, -⟩ := a.startsWith.start
      rw [Factor.tokens, htokens, List.cons_append, List.cons.injEq] at h
      exact absurd (htokens.trans (by rw [h.1])) (a.tokens_ne_prefixed op rest)
  cases e with
  | arrow params body =>
    cases params with
    | bare y => cases h
    | listed xs =>
      rw [tokens, Params.tokens, List.cons_append, List.cons.injEq] at h
      cases op <;> exact absurd h.1 (by decide)
  | chain c =>
    cases c with
    | last f =>
      rw [tokens, Chain.tokens] at h
      exact hfactor f [] (by rw [List.append_nil, h])
    | infixed f op' rest =>
      rw [tokens, Chain.tokens] at h
      exact hfactor f _ h

/-! ## Operators beside a chain -/

/-- An operator with its other operand, if it has one. -/
inductive Parent where
  | prefixed (op : PrefixOp)
  /-- The chain stands left of the operator. -/
  | left (op : Operator) (other : Factor)
  /-- The chain stands right of the operator. -/
  | right (other : Factor) (op : Operator)

namespace Chain

/-- The chain with one more operand at its end. -/
def snoc : Chain → Operator → Factor → Chain
  | last f, op, g => infixed f op (last g)
  | infixed f op' rest, op, g => infixed f op' (rest.snoc op g)

/-- The chain with an operator before its first operand. -/
def prefixed (op : PrefixOp) : Chain → Chain
  | last f => last (.prefixed op f)
  | infixed f op' rest => infixed (.prefixed op f) op' rest

theorem tokens_snoc : ∀ (c : Chain) (op : Operator) (g : Factor),
    (c.snoc op g).tokens = c.tokens ++ op.1 :: g.tokens
  | last _, _, _ => rfl
  | infixed f op' rest, op, g => by
    rw [snoc, tokens, tokens, rest.tokens_snoc, List.append_assoc, List.cons_append]

theorem operators_snoc : ∀ (c : Chain) (op : Operator) (g : Factor),
    (c.snoc op g).operators = c.operators ++ [op]
  | last _, _, _ => rfl
  | infixed f op' rest, op, g => by
    rw [snoc, operators, operators, rest.operators_snoc, List.cons_append]

end Chain

namespace Parent

/-- What is written: the tokens of an operand beside the operator, without parentheses. -/
def around : Parent → List Token → List Token
  | prefixed op, ts => .symbol op.symbol :: ts
  | left op other, ts => ts ++ op.1 :: other.tokens
  | right other op, ts => other.tokens ++ op.1 :: ts

/-- What is read when a chain is written beside the operator. -/
def put : Parent → Chain → Chain
  | prefixed op, c => c.prefixed op
  | left op other, c => c.snoc op other
  | right other op, c => .infixed other op c

/-- What is meant: the operator on the value of an operand. -/
def apply (I : Interpretation V) (env : String → V) : Parent → V → V
  | prefixed op, v => I.prefixed op v
  | left op other, v => I.chain [op] [v, other.eval I env]
  | right other op, v => I.chain [op] [other.eval I env, v]

theorem tokens_put (p : Parent) (c : Chain) : (p.put c).tokens = p.around c.tokens := by
  cases p with
  | prefixed op =>
    cases c <;> simp only [put, around, Chain.prefixed, Chain.tokens, Factor.tokens, List.cons_append]
  | left op other => exact c.tokens_snoc op other
  | right other op => rw [put, around, Chain.tokens]

end Parent

/-- The chain may stand as an operand without parentheses: beside every operator it is read as what is
meant. -/
def Chain.StandsAlone (c : Chain) : Prop :=
  ∀ (V : Type) (I : Interpretation V) (env : String → V) (p : Parent),
    (p.put c).eval I env = p.apply I env (c.eval I env)

/-- An interpretation that counts operators. -/
def lengths : Interpretation ℕ where
  number _ := 0
  text _ := 0
  member _ _ := 0
  index _ _ := 0
  call _ _ := 0
  prefixed _ _ := 0
  chain ops _ := ops.length
  lambda _ _ := 0

/-- **Standing without parentheses.** A chain may stand as an operand of every operator exactly when it
has no operator outside parentheses and brackets. -/
theorem Chain.standsAlone_iff (c : Chain) : c.StandsAlone ↔ c.operators = [] := by
  constructor
  · intro h
    -- Left of a sum the operators of the chain count together with the sum.
    have hsum := h ℕ lengths (fun _ => 0) (.left ⟨.symbol "+", by decide⟩ (.atom (.number 0)))
    rw [Parent.put, Chain.eval, operators_snoc, lengths.resolve_of_ne_nil (by simp)] at hsum
    have hlength : (c.operators ++ [_]).length = 1 := hsum
    rw [List.length_append, List.length_singleton] at hlength
    exact List.eq_nil_of_length_eq_zero (Nat.succ.inj hlength)
  · intro h V I env p
    cases c with
    | last f =>
      cases p <;> simp only [Parent.put, Parent.apply, prefixed, snoc, Chain.eval, operators, values,
        Interpretation.resolve, Factor.eval]
    | infixed f op rest => cases h

end Criteria.Grammar
