import Criteria.Cursor
import Criteria.Eval.Captures
import Criteria.Eval.Kernel
import Criteria.Eval.World
import Criteria.Predicate.Query
import Criteria.Value.Conversion
import Criteria.Value.Property

/-!
# Evaluation

A predicate tree is evaluated against an argument list. One cursor runs through the whole tree, so
sibling operands take arguments from left to right; only a property filter has a cursor of its own.

| Operand slot     | Result                                             |
|------------------|----------------------------------------------------|
| unset            | the next argument                                  |
| nested predicate | its value, on the same cursor                      |
| literal function | its result on the arguments left, which stay there |
| other literal    | the literal                                        |

* `Interpreter.eval` — the value of a tree, on a cursor.
* `Interpreter.value` — the value of an operand slot, on a cursor.
* `Interpreter.call` — a predicate or a function applied to an argument list.
-/

set_option autoImplicit false

namespace Criteria

/-- How evaluation is configured. -/
structure Config where
  underflow : UnderflowPolicy := .fail
  /-- How many capture groups of a match are exported. -/
  maxCaptures : Nat := 255
  deriving DecidableEq, Repr

/-- A configuration and the behaviour of host callables. -/
structure Interpreter where
  config : Config := {}
  host : Host

/-- The cursor of an evaluation, and the world it acts on. -/
structure Machine where
  cursor : Cursor
  world : World

/-- Evaluation steps. What was consumed and changed before a failure stays so. -/
abbrev Eval := EStateM Failure Machine

namespace Eval

/-- A step of the cursor, whose failures are failures of the evaluation. -/
def onCursor {ε α : Type} (fail : ε → Failure) (f : Cursor → Except ε α × Cursor) : Eval α := fun m =>
  match f m.cursor with
  | (.ok a, cursor) => .ok a { m with cursor }
  | (.error e, cursor) => .error (fail e) { m with cursor }

/-- An action on the world. -/
def onWorld {α : Type} (x : Action α) : Eval α := fun m =>
  match x m.world with
  | .ok a world => .ok a { m with world }
  | .error e world => .error e { m with world }

/-- A step with a cursor of its own. -/
def withCursor {α : Type} (cursor : Cursor) (x : Eval α) : Eval α := fun m =>
  match x { m with cursor } with
  | .ok a m' => .ok a { m with world := m'.world }
  | .error e m' => .error e { m with world := m'.world }

/-- Takes the next argument. -/
def shift : Eval Value := onCursor .error Cursor.shift

/-- Skips `n` arguments. -/
def skip (n : Nat) : Eval Unit := onCursor .error (·.skip n)

/-- Takes the next `n` arguments into a buffer. -/
def take (n : Nat) : Eval (List Value) := onCursor id (·.take n)

/-- Takes the next argument as a text. -/
def shiftText : Eval String := do
  let v ← shift
  onWorld (Action.read fun s => s.text v)

end Eval

namespace Interpreter

open Eval

/-- Calls a host callable. -/
def invoke (i : Interpreter) (f : Function) (receiver : Value) (args : List Value) : Eval Value :=
  onWorld (Action.invoke i.host f receiver args)

/-- Whether the next argument relates to a stored value. -/
def compare (op : CompareOp) (stored : Value) : Eval Value := do
  let v ← shift
  match op with
  | .instanceOf =>
    let related ← onWorld (Action.read fun s => s.instanceOf v stored)
    return .bool (← onWorld (Action.ofExcept related))
  | .prototypeIs =>
    return .bool (Value.sameReference (← onWorld (Action.read fun s => s.prototypeOf v)) stored)
  | .equal => return .bool (← onWorld (Action.read fun s => s.same v stored))

/-- Hands the captures of a match to what follows the input on the cursor: a function is called
with them, an array is filled with them, and anything else is left alone. -/
def exportMatch (i : Interpreter) (input : Value) (spans : Spans) : Eval Unit := do
  match (← get).cursor.peek with
  | some (.function callback) =>
    let _ ← shift
    let captures ← onWorld (Action.change fun s => s.exportCaptures spans i.config.maxCaptures)
    let _ ← i.invoke callback .null [captures, input]
  | some (.array sink) =>
    let _ ← shift
    onWorld (Action.change fun s => ((), s.fillCaptures sink spans i.config.maxCaptures))
  | _ => pure ()

/-- Searches the next argument for a pattern. The pattern is compiled before the argument is
taken. -/
def evalRegex (i : Interpreter) (cell : RegexCell) (source : String) (flags : Regex.Flags) :
    Eval Value := do
  let program ← onWorld (Action.prepare cell source flags)
  let input ← shift
  let bytes ← onWorld (Action.read fun s => s.inputBytes input)
  match program.search bytes flags.sticky with
  | none => return .bool false
  | some spans =>
    i.exportMatch input spans
    return .bool true

/-- Reads the named property of the next argument, or the one that the argument after it names. -/
def readProperty (name : Option String) : Eval Value := do
  let object ← shift
  if object.isObject then
    let key ← match name with
      | some name => pure name
      | none => shiftText
    let found ← onWorld (Action.read fun s => s.getProperty object key)
    onWorld (Action.ofExcept found)
  else onWorld (Action.raise (.notObject object.typeName))

/-- Looks the next argument up as a key of a stored value. -/
def readMember (target : Value) : Eval Value := do
  let key ← shiftText
  if ← onWorld (Action.read fun s => s.hasProperty target key) then
    let found ← onWorld (Action.read fun s => s.getProperty target key)
    onWorld (Action.ofExcept found)
  else return .undefined

mutual

/-- The value of an operand slot. -/
def value (i : Interpreter) : Operand → Eval Value
  | .unset => shift
  | .nested p => i.eval p
  | .literal (.function f) => do
    let m ← get
    i.invoke f .undefined m.cursor.rest
  | .literal v => return v

/-- The value of a tree. -/
def eval (i : Interpreter) : Predicate → Eval Value
  | .unset => onWorld (Action.fault (.unsetNode .eval))
  | .type mask => do
    let v ← shift
    return .bool (v.typeMask.intersects mask)
  | .charset cell set => do
    let v ← shift
    let chars ← onWorld (Action.read fun s => s.inputChars v)
    let members ← onWorld (Action.decode cell set)
    return .bool (chars.all fun c => members.contains c)
  | .string start => do
    let v ← shift
    return .bool (start.isPrefixOf (← onWorld (Action.read fun s => s.inputBytes v)))
  | .unary op x => do
    let v ← i.value x
    onWorld (Action.read fun s => op.apply s v)
  | .binary op left right => do
    let l ← i.value left
    let r ← i.value right
    onWorld (Action.read fun s => op.apply s l r)
  | .boolean .or xs => i.evalUntil true .undefined xs
  | .boolean .and xs => i.evalUntil false .undefined xs
  | .boolean .xor xs => i.evalXor 0 xs
  | .regex cell source flags => i.evalRegex cell source flags
  | .compare op stored => compare op stored
  | .property name filter => do
    let v ← readProperty name
    match filter with
    | some (.nested p) => withCursor (.start [v] i.config.underflow) (i.eval p)
    | some (.literal (.function f)) => i.invoke f .undefined [v]
    | _ => return v
  | .member target => readMember target
  | .shift count x => do
    skip count
    i.value x
  | .function f receiver arity => do
    let args ← take arity
    i.invoke f receiver args

/-- Evaluates operands up to the first one whose truth is `stop`; the value of the last one
evaluated. -/
def evalUntil (i : Interpreter) (stop : Bool) (last : Value) : List Operand → Eval Value
  | [] => return last
  | x :: rest => do
    let v ← i.value x
    if v.isTruthy = stop then return v else i.evalUntil stop v rest

/-- The exclusive or of the operands' integers and `acc`. -/
def evalXor (i : Interpreter) (acc : Int64) : List Operand → Eval Value
  | [] => return .int acc
  | x :: rest => do
    let v ← i.value x
    let n ← onWorld (Action.read fun s => s.int64 v)
    i.evalXor (acc ^^^ n) rest

end

/-- Runs evaluation steps on a new cursor over some arguments. -/
def onArgs {α : Type} (i : Interpreter) (args : List Value) (x : Eval α) : Action α := fun w =>
  match x ⟨.start args i.config.underflow, w⟩ with
  | .ok a m => .ok a m.world
  | .error e m => .error e m.world

/-- Evaluates a predicate on a new cursor. -/
def callPredicate (i : Interpreter) (p : Predicate) (args : List Value) : Action Value :=
  i.onArgs args (i.eval p)

/-- Applies a predicate or a function to arguments; anything else gives `undefined`. -/
def call (i : Interpreter) (target : Operand) (args : List Value) : Action Value :=
  match target with
  | .nested p => i.callPredicate p args
  | .literal (.function f) => Action.invoke i.host f .undefined args
  | _ => return .undefined

end Interpreter

end Criteria
