import Criteria.Error

/-!
# The argument cursor

A position in an argument list, shared by all nodes of one evaluation. What happens when more
arguments are asked for than are left is the cursor's policy: fail, or supply `undefined`. Either
way the arguments that are left are taken first.

Several arguments are taken into a buffer, which has to fit into the address space. Padding can ask for
more than that. The memory for a buffer that fits is taken to be granted.
-/

set_option autoImplicit false

namespace Criteria

/-- What to do when arguments run out. -/
inductive UnderflowPolicy where
  | fail
  /-- Supply `undefined` for each missing argument. -/
  | padUndefined
  deriving DecidableEq, Repr

/-- An argument list with a position in it. -/
structure Cursor where
  args : List Value
  position : Nat := 0
  policy : UnderflowPolicy

namespace Cursor

/-- A cursor at the first of some arguments. -/
def start (args : List Value) (policy : UnderflowPolicy) : Cursor := { args, policy }

/-- How many arguments are left. -/
def remaining (c : Cursor) : Nat := c.args.length - c.position

/-- The arguments that are left. -/
def rest (c : Cursor) : List Value := c.args.drop c.position

/-- The next argument, which stays where it is. -/
def peek (c : Cursor) : Option Value := c.args[c.position]?

/-- The cursor `n` arguments further. -/
def advance (c : Cursor) (n : Nat) : Cursor := { c with position := c.position + n }

/-- The policy's answer to a request for `requested` arguments when only `available` were left. -/
def underflow (c : Cursor) (requested available : Nat) : Except EvalError Unit :=
  match c.policy with
  | .fail => .error (.argumentUnderflow requested available)
  | .padUndefined => .ok ()

/-- How many values the largest buffer holds. The capacity of a buffer is a power of two, a value has
72 bytes, and all of them together have fewer than 2 ^ 63: there are 2 ^ 56. -/
def bufferCapacity : Nat := 0x100000000000000

/-- A buffer of `n` values: those given, then `undefined`. -/
def buffer (n : Nat) (vs : List Value) : Except Failure (List Value) :=
  if bufferCapacity < n then .error (.fault .capacityOverflow)
  else .ok (vs ++ List.replicate (n - vs.length) .undefined)

/-- Takes the next `n` arguments; the cursor moves past all that are left of them even when the
request fails. -/
def take (c : Cursor) (n : Nat) : Except Failure (List Value) × Cursor :=
  let taken := c.rest.take n
  let c' := c.advance taken.length
  if taken.length < n then
    match c.underflow n taken.length with
    | .ok _ => (buffer n taken, c')
    | .error e => (.error (.error e), c')
  else (buffer n taken, c')

/-- Skips `n` arguments. -/
def skip (c : Cursor) (n : Nat) : Except EvalError Unit × Cursor :=
  let available := min n c.remaining
  let c' := c.advance available
  if available < n then (c.underflow n available, c') else (.ok (), c')

/-- Takes the next argument. -/
def shift (c : Cursor) : Except EvalError Value × Cursor :=
  match c.peek with
  | some v => (.ok v, c.advance 1)
  | none =>
    match c.underflow 1 0 with
    | .ok _ => (.ok .undefined, c)
    | .error e => (.error e, c)

end Cursor

end Criteria
