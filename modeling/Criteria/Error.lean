import Criteria.Operator
import Criteria.Value.Basic

/-!
# Failures

Two kinds of failure are kept apart. An `EvalError` is an outcome of evaluation that a caller
handles; a `Fault` ends the calling program, as asking an unset node for its kind does, or asking
for a larger buffer than there can be.
-/

set_option autoImplicit false

namespace Criteria

/-! ## Errors -/

/-- What went wrong in an evaluation. -/
inductive EvalErrorKind where
  /-- A value of another type was needed. -/
  | typeMismatch (expected got : String)
  /-- A property of something without properties was read. -/
  | notObject (got : String)
  /-- Something that is not a function was called. -/
  | notCallable (typeName : String)
  /-- More arguments were asked for than were left. -/
  | argumentUnderflow (requested remaining : Nat)
  /-- A pattern did not compile. -/
  | regexCompile (pattern reason : String)
  /-- A host callable threw a value with this text. -/
  | thrown (message : String)
  /-- A failure of a host callable that is described by a message only. -/
  | custom (message : String)
  deriving DecidableEq, Repr

/-- Who has to mend a failure. -/
inductive ErrorCategory where
  /-- The arguments were unsuitable. -/
  | badInput
  /-- The predicate cannot be evaluated. -/
  | malformedPredicate
  /-- A host callable failed. -/
  | host
  deriving DecidableEq, Repr

namespace EvalErrorKind

def category : EvalErrorKind → ErrorCategory
  | typeMismatch .. => .badInput
  | notObject _ => .badInput
  | argumentUnderflow .. => .badInput
  | notCallable _ => .malformedPredicate
  | regexCompile .. => .malformedPredicate
  | thrown _ => .host
  | custom _ => .host

/-- The start of the text of a pattern that did not compile. -/
def regexCompileHeading (pattern : String) : String :=
  "invalid regular expression /" ++ pattern ++ "/: "

/-- The text of a kind. -/
def text : EvalErrorKind → String
  | typeMismatch expected got => "type mismatch: expected " ++ expected ++ ", got " ++ got
  | notObject got => "cannot read properties of " ++ got
  | notCallable typeName => typeName ++ " is not callable"
  | argumentUnderflow requested remaining =>
    "requested " ++ toString requested ++ (if requested = 1 then " argument" else " arguments") ++
      ", only " ++ toString remaining ++ " remaining"
  | regexCompile pattern reason => regexCompileHeading pattern ++ reason
  | thrown message => "uncaught: " ++ message
  | custom message => message

end EvalErrorKind

/-- Why an evaluation failed. A host callable may set the three independently of each other. -/
structure EvalError where
  kind : EvalErrorKind
  message : String
  /-- The value that a host callable threw. -/
  thrown : Option Value := none

namespace EvalError

def category (e : EvalError) : ErrorCategory := e.kind.category

/-- The error of a kind, with the text of the kind as its message. -/
def ofKind (kind : EvalErrorKind) : EvalError := { kind, message := kind.text }

def typeMismatch (expected got : String) : EvalError := ofKind (.typeMismatch expected got)

def notObject (got : String) : EvalError := ofKind (.notObject got)

def notCallable (typeName : String) : EvalError := ofKind (.notCallable typeName)

def argumentUnderflow (requested remaining : Nat) : EvalError :=
  ofKind (.argumentUnderflow requested remaining)

def regexCompile (pattern reason : String) : EvalError := ofKind (.regexCompile pattern reason)

def custom (message : String) : EvalError := ofKind (.custom message)

/-- The error of a value that was thrown, whose text is kept with it. -/
def ofThrown (v : Value) (text : String) : EvalError :=
  { ofKind (.thrown text) with thrown := some v }

end EvalError

/-! ## Faults -/

/-- The operations that no unset node supports. -/
inductive Operation where
  | eval | dump | toSource | kind | precedence | keys | values
  | recursiveArgCount | directArgCount | compileRegex
  deriving DecidableEq, Repr

/-- The name of the operation in the text of a fault. -/
def Operation.name : Operation → String
  | eval => "eval"
  | dump => "dump"
  | toSource => "to_source"
  | kind => "kind()"
  | precedence => "precedence()"
  | keys => "keys()"
  | values => "values()"
  | recursiveArgCount => "recursive_arg_count()"
  | directArgCount => "direct_arg_count()"
  | compileRegex => "compile_regex()"

/-- What ends the calling program. -/
inductive Fault where
  | unsetNode (operation : Operation)
  | notRegex (kind : Kind)
  /-- A buffer was asked for that is larger than the address space. -/
  | capacityOverflow
  deriving DecidableEq, Repr

def Fault.message : Fault → String
  | unsetNode operation => operation.name ++ " called on an unset predicate"
  | notRegex kind => "compile_regex() called on a \x60" ++ kind.name ++ "\x60 predicate"
  | capacityOverflow => "capacity overflow"

/-- Why an action did not finish. -/
inductive Failure where
  | error (e : EvalError)
  | fault (f : Fault)

end Criteria
