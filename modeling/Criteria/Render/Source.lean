import Criteria.Render.Header
import Criteria.Render.Names
import Criteria.Render.Parentheses
import Criteria.Render.RegexLiteral
import Criteria.Text.Utf8
import Criteria.Value.Datum

/-!
# Generated source

A predicate is written as an arrow function whose parameters are the arguments that the tree takes,
in the order in which it takes them:

```text
add(unset, unset)              (a, b) => (a + b)
and(string("ab"), int)         (a, b) => (a.startsWith("ab") && typeof b == "int")
property("x", property("n"))   (a) => a.x.n
```

Nested predicates are written in place, on the same list of names. A property filter is a function of
its own: it is spliced onto the property when its form allows that, and called otherwise.

* `Predicate.toSource` — the source of a tree, on a list of names of its own.
* `Predicate.toSourceOn` — the source of a tree, on a given list, which is advanced.
-/

set_option autoImplicit false

namespace Criteria

/-- An arrow function. -/
structure Source where
  params : List String
  body : String
  /-- The precedence of the outermost operator of the body. -/
  precedence : Precedence
  deriving DecidableEq, Repr

/-- The text of an arrow function; a body with an operator between operands is in parentheses. -/
def Source.text (source : Source) : String :=
  let body :=
    if source.precedence < .unary then "(" ++ source.body ++ ")" else source.body
  "(" ++ String.intercalate ", " source.params ++ ") => " ++ body

namespace Render

/-- How a function is written where it is called. -/
def callee (f : Function) : String :=
  match f.source with
  | some source => "(" ++ source ++ ")"
  | none => if f.name.isEmpty then "anonymous" else f.name

/-- Whether a property name can follow a dot. -/
def isDotName (name : String) : Bool :=
  match name.toList with
  | [] => false
  | c :: rest => isIdentStart c && rest.all isIdentChar

/-- A property of an object. -/
def memberAccess (object name : String) : String :=
  if isDotName name then object ++ "." ++ name else object ++ "[" ++ Text.quote name ++ "]"

/-- The tests that a type node makes of an argument. -/
def typeTests (arg : String) (mask : TypeMask) : String :=
  match mask.names with
  | [] => "false"
  | names => String.intercalate " || " (names.map fun n => "typeof " ++ arg ++ " == " ++ Text.quote n)

/-- A filter with source text, spliced onto what it filters or called on it. -/
def spliceOrCall (source access : String) : String :=
  match stripHeader? source with
  | some tail => access ++ tail
  | none => "(" ++ source ++ ")(" ++ access ++ ")"

/-- The comparison of an argument with a stored value. -/
def comparison (s : Store) (op : CompareOp) (arg : String) (stored : Value) : String :=
  match op with
  | .equal => arg ++ " == " ++ s.literal stored
  | .instanceOf =>
    let ctor := match stored with
      | .function f => callee f
      | v => s.literal v
    arg ++ " instanceof " ++ ctor
  | .prototypeIs => "Object.getPrototypeOf(" ++ arg ++ ") == " ++ s.literal stored

/-- A call of a function with some arguments. -/
def functionCall (s : Store) (f : Function) (receiver : Value) (args : List String) : String :=
  if receiver.isUndefined then callee f ++ "(" ++ String.intercalate ", " args ++ ")"
  else callee f ++ ".call(" ++ String.intercalate ", " (s.literal receiver :: args) ++ ")"

/-- A value indexed by a key. -/
def indexed (s : Store) (target : Value) (key : String) : String :=
  match target with
  | .object _ => "(" ++ s.literal target ++ ")[" ++ key ++ "]"
  | _ => s.literal target ++ "[" ++ key ++ "]"

/-- The value of an empty combinator. -/
def emptyChain : BooleanOp → String
  | .xor => "0"
  | .or => "undefined"
  | .and => "undefined"

/-- Parentheses around an operand that needs them. -/
def wrap (operator : Precedence) (x : Operand) (position : Position) (text : String) :
    Naming String := do
  if ← Naming.ofExcept (needsParens operator x position) then return "(" ++ text ++ ")"
  else return text

/-- The source of a tree whose body is written by `body` on a list of names of its own. -/
def onOwnNames (p : Predicate) (body : Naming String) : Except RenderFailure Source :=
  match p.argCount with
  | .error f => .error (.fault f)
  | .ok count =>
    match ParamNames.seeded count with
    | .error e => .error e
    | .ok names =>
      match body.run names, p.precedence with
      | .ok body names, .ok precedence => .ok { params := names.since 0, body, precedence }
      | .ok _ _, .error f => .error (.fault f)
      | .error e _, _ => .error e

mutual

/-- Writes an operand; an unset one is named after the hint. -/
def operand (s : Store) (hint : String) : Operand → Naming String
  | .unset => Naming.next hint
  | .nested p => predicate s p
  | .literal (.function f) => return callee f ++ "()"
  | .literal v => return s.literal v

/-- Writes a tree. -/
def predicate (s : Store) : Predicate → Naming String
  | .unset => throw (.fault (.unsetNode .toSource))
  | .type mask => return typeTests (← Naming.next "value") mask
  | .charset _ set => do
    let arg ← Naming.next "chars"
    return "[..." ++ arg ++ "].every((ch) => " ++ Text.quote set ++ ".includes(ch))"
  | .string start => do
    let arg ← Naming.next "string"
    let text := String.ofList (Text.Utf8.decodeLossy start)
    return arg ++ ".startsWith(" ++ Text.quote text ++ ")"
  | .unary .sqrt x => return "Math.sqrt(" ++ (← operand s "value" x) ++ ")"
  | .unary op x => do
    let text ← operand s "value" x
    return op.symbol ++ (← wrap .unary x .operand text)
  | .binary .atan2 left right => do
    let l ← operand s "value" left
    let r ← operand s "value" right
    return "Math.atan2(" ++ l ++ ", " ++ r ++ ")"
  | .binary op left right => do
    let l ← wrap op.precedence left .left (← operand s "value" left)
    let r ← wrap op.precedence right .right (← operand s "value" right)
    return l ++ " " ++ op.symbol ++ " " ++ r
  | .boolean op [] => return emptyChain op
  | .boolean op xs => do
    let parts ← chain s op.precedence xs
    return String.intercalate (" " ++ op.symbol ++ " ") parts
  | .regex _ source flags => do
    let arg ← Naming.next "input"
    return "/" ++ escapeRegex source ++ "/" ++ flags.letters ++ ".test(" ++ arg ++ ")"
  | .compare op stored => do
    let arg ← Naming.next (if op = .equal then "value" else "object")
    return comparison s op arg stored
  | .property name filter => do
    let object ← Naming.next "object"
    let access ← match name with
      | some name => pure (memberAccess object name)
      | none => do
        let key ← Naming.next "key"
        pure (object ++ "[" ++ key ++ "]")
    match filter with
    | some (.nested p) =>
      match onOwnNames p (predicate s p) with
      | .ok source => return spliceOrCall source.text access
      | .error e => throw e
    | some (.literal (.function f)) =>
      match f.source with
      | some source => return spliceOrCall source access
      | none => return callee f ++ "(" ++ access ++ ")"
    | _ => return access
  | .member target => return indexed s target (← Naming.next "key")
  | .shift count x => do
    Naming.reserve count
    let _ ← Naming.nextMany "skip" count
    operand s "value" x
  | .function f receiver arity => do
    Naming.reserve arity
    return functionCall s f receiver (← Naming.nextMany "arg" arity)

/-- Writes the operands of a chain. -/
def chain (s : Store) (operator : Precedence) : List Operand → Naming (List String)
  | [] => return []
  | x :: rest => do
    let text ← wrap operator x .chain (← operand s "value" x)
    return text :: (← chain s operator rest)

end

end Render

namespace Predicate

/-- The source of a tree, with one generated name for each argument it takes. -/
def toSource (s : Store) (p : Predicate) : Except RenderFailure Source :=
  Render.onOwnNames p (Render.predicate s p)

/-- The source of a tree on the names of a list, from its position on. -/
def toSourceOn (s : Store) (p : Predicate) : Naming Source := do
  let start := (← get).position
  let body ← Render.predicate s p
  let params := (← get).since start
  return { params, body, precedence := ← Naming.ofExcept p.precedence }

end Predicate

end Criteria
