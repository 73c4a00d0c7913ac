import Criteria.Eval.Interpreter

/-!
# Host callables given by data

A table of behaviours, one for each closure, makes a host. One behaviour evaluates a predicate, which
may hold other callables of the table or be handed some as arguments; how deep such calls nest is
bounded.
-/

set_option autoImplicit false

namespace Criteria

/-- What a host callable does. The first argument is `undefined` when there is none. -/
inductive Behaviour where
  | returnUndefined
  | returnValue (v : Value)
  | returnFirst
  /-- A new array of the arguments. -/
  | returnArgs
  | returnArgCount
  | returnReceiver
  | throwValue (v : Value)
  | throwFirst
  /-- Fails with the text of a value as the message. -/
  | failWith (v : Value)
  /-- Reports the first argument as something that cannot be called. -/
  | rejectFirst
  /-- Appends the arguments to an array. -/
  | pushArgs (v : Value)
  /-- Evaluates a predicate on the arguments. -/
  | evaluate (p : Predicate)

/-- Throws a value. -/
def Action.throwValue (v : Value) : Action Value := do
  raise (.ofThrown v (← read fun s => s.text v))

/-- Runs a behaviour; predicates are evaluated with `host`. -/
def Behaviour.run (host : Host) (receiver : Value) (args : List Value) : Behaviour → Action Value
  | returnUndefined => return .undefined
  | returnValue v => return v
  | returnFirst => return args.headD .undefined
  | returnArgs => do
    let ref ← Action.change fun s => s.newArray args
    return .array ref
  | returnArgCount => return .int (Int64.ofNat args.length)
  | returnReceiver => return receiver
  | throwValue v => Action.throwValue v
  | throwFirst => Action.throwValue (args.headD .undefined)
  | failWith v => do
    Action.raise (.custom (← Action.read fun s => s.text v))
  | rejectFirst => Action.raise (.notCallable (args.headD .undefined).typeName)
  | pushArgs (.array ref) => do
    Action.change fun s => ((), s.setItems ref (s.items ref ++ args))
    return .undefined
  | pushArgs _ => return .undefined
  | evaluate p => ({ host } : Interpreter).callPredicate p args

/-- The host of a table, with predicates nested in calls down to `depth`. -/
def Host.ofTable (table : Array Behaviour) : Nat → Host
  | 0 => fun _ _ _ => return .undefined
  | depth + 1 => fun closure receiver args =>
    match table[closure.index]? with
    | some behaviour => behaviour.run (Host.ofTable table depth) receiver args
    | none => return .undefined

/-- The host of a table. A predicate can hold only callables older than its own, and a callback of a
pattern is handed at most one callable, so nested calls come in at most three runs of ever older
callables. -/
def Host.ofBehaviours (table : Array Behaviour) : Host := Host.ofTable table (3 * table.size + 3)

end Criteria
