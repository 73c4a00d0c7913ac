import Criteria.Proofs.Eval.Effects
import Criteria.Render.Dump
import Criteria.Render.Source
import Mathlib.Logic.Function.Basic

/-!
# Sessions

A session is what a calling program does with nodes: it makes them, names them, shares and copies
them, evaluates them, and asks about them. Its host callables are routines, which hold nodes and
make the same requests in the middle of an evaluation.

* `Predicate.bare` — a tree without its cache cells.
* `Request.answer` — the reply to a request, and the world after it.
* `Host.ofCallables` — the host of some routines.
* `Session.run` — some commands, one after another.
* `Session.runAfresh` — the same without caches: every set is decoded and every pattern compiled
  where it is needed.
-/

set_option autoImplicit false

namespace Criteria

/-! ## Trees without cells -/

mutual

/-- The operand without the cells of its nodes. -/
def Operand.bare : Operand → Operand
  | .unset => .unset
  | .nested p => .nested p.bare
  | .literal v => .literal v

/-- The tree without the cells of its nodes: all name the same one. -/
def Predicate.bare : Predicate → Predicate
  | .charset _ set => .charset ⟨0⟩ set
  | .regex _ source flags => .regex ⟨0⟩ source flags
  | .unary op x => .unary op x.bare
  | .binary op left right => .binary op left.bare right.bare
  | .boolean op xs => .boolean op (Operand.allBare xs)
  | .property name (some x) => .property name (some x.bare)
  | .shift count x => .shift count x.bare
  | p => p

/-- The operands without the cells of their nodes. -/
def Operand.allBare : List Operand → List Operand
  | [] => []
  | x :: rest => x.bare :: Operand.allBare rest

end

/-- The world with no cache cells: whatever is prepared in it is prepared anew. -/
def World.uncached (w : World) : World := { w with caches := {} }

@[simp] theorem Caches.decode_empty (cell : CharsetCell) (set : String) :
    ({} : Caches).decode cell set = (set.toList, {}) := by
  simp [decode, decoded?]

@[simp] theorem Caches.prepare_empty (cell : RegexCell) (source : String) (flags : Regex.Flags) :
    ({} : Caches).prepare cell source flags = (Regex.compile source flags, {}) := by
  simp [prepare, prepared?]

/-! ## Requests -/

/-- What some steps come to. -/
def outcome {σ α : Type} (x : EStateM Failure σ α) (s : σ) : Except Failure α :=
  match x.run s with
  | .ok a _ => .ok a
  | .error f _ => .error f

/-- What is given for an operand slot; a node is given by its name. -/
inductive Slot (ν : Type) where
  | unset
  | node (name : ν)
  | literal (v : Value)

def Slot.operand {ν : Type} (nodes : ν → Predicate) : Slot ν → Operand
  | unset => .unset
  | node name => .nested (nodes name)
  | literal v => .literal v

/-- What a node is asked. -/
inductive Query where
  | eval (config : Config) (cursor : Cursor)
  | dump
  | source
  /-- The source on the names of a list. -/
  | sourceOn (names : ParamNames)
  | kind
  | precedence
  | keys
  | values
  | argCount
  | directArgCount
  | compileRegex

/-- What is asked of nodes and functions. -/
inductive Request (ν : Type) where
  | ask (node : ν) (query : Query)
  /-- The value of an operand, on a cursor. -/
  | value (config : Config) (x : Slot ν) (cursor : Cursor)
  /-- A predicate or a function applied to arguments. -/
  | call (config : Config) (target : Slot ν) (args : List Value)
  /-- A function called on a receiver. -/
  | apply (f : Function) (receiver : Value) (args : List Value)

/-- What is answered. -/
inductive Reply where
  | done
  | value (result : Except Failure Value) (cursor : Cursor)
  | returned (result : Except Failure Value)
  | text (result : Except Failure String)
  | source (result : Except RenderFailure Source)
  | sourceOn (result : EStateM.Result RenderFailure ParamNames Source)
  | kind (result : Except Fault Kind)
  | precedence (result : Except Fault Precedence)
  | keys (result : Except Fault (List String))
  /-- The cells of the nodes are not shown. -/
  | values (result : Except Fault (List Operand))
  | count (result : Except Fault Nat)
  | groups (result : Except Failure Nat)
  /-- Whether the cache of a node is filled, when it has one. -/
  | cached (state : Option Bool)

/-- The answer of steps on a cursor: what they come to, and where they leave the cursor. -/
def Reply.onCursor (x : Eval Value) (cursor : Cursor) (w : World) : Reply × World :=
  let m := x.machineAfter ⟨cursor, w⟩
  (.value (outcome x ⟨cursor, w⟩) m.cursor, m.world)

/-- The answer of a node. -/
def Query.answer (host : Host) (p : Predicate) (w : World) : Query → Reply × World
  | eval config cursor => Reply.onCursor (({ config, host } : Interpreter).eval p) cursor w
  | dump => (.text (outcome p.dump w), p.dump.worldAfter w)
  | source => (.source (p.toSource w.store), w)
  | sourceOn names => (.sourceOn ((p.toSourceOn w.store).run names), w)
  | kind => (.kind p.kind, w)
  | precedence => (.precedence p.precedence, w)
  | keys => (.keys p.keys, w)
  | values => (.values (p.values.map Operand.allBare), w)
  | argCount => (.count p.argCount, w)
  | directArgCount => (.count p.directArgCount, w)
  | compileRegex => (.groups (outcome p.compileRegex w), p.compileRegex.worldAfter w)

/-- The answer to a request. -/
def Request.answer {ν : Type} (host : Host) (nodes : ν → Predicate) (w : World) :
    Request ν → Reply × World
  | ask node query => query.answer host (nodes node) w
  | value config x cursor =>
    Reply.onCursor (({ config, host } : Interpreter).value (x.operand nodes)) cursor w
  | call config target args =>
    let y := ({ config, host } : Interpreter).call (target.operand nodes) args
    (.returned (outcome y w), y.worldAfter w)
  | apply f receiver args =>
    let y := Action.invoke host f receiver args
    (.returned (outcome y w), y.worldAfter w)

/-! ## Host callables -/

/-- The program of a host callable. -/
inductive Routine where
  | finish (result : Except Failure Value)
  /-- Changes the store, and goes on with what it was before. -/
  | change (f : Store → Store) (next : Store → Routine)
  /-- Makes a request on the nodes held, and goes on with the reply. -/
  | request (r : Request Nat) (next : Reply → Routine)

/-- Runs a routine that holds some nodes. -/
def Routine.run (host : Host) (held : Nat → Predicate) : Routine → Action Value
  | finish (.ok v) => return v
  | finish (.error f) => throw f
  | change f next => fun w => (next w.store).run host held { w with store := f w.store }
  | request r next => fun w =>
    let (reply, w) := r.answer host held w
    (next reply).run host held w

/-- A host callable: the nodes it holds, and what it does with a receiver and arguments. -/
structure Callable where
  holds : List Predicate
  body : Value → List Value → Routine

/-- The node held at a place. -/
def Callable.held (c : Callable) (k : Nat) : Predicate := c.holds.getD k .unset

/-- The callable on nodes without cells. -/
def Callable.bare (c : Callable) : Callable := { c with holds := c.holds.map Predicate.bare }

/-- The host of some callables, with requests nested in calls down to `depth`. -/
def Host.ofCallables (callables : List Callable) : Nat → Host
  | 0 => fun _ _ _ => return .undefined
  | depth + 1 => fun closure receiver args =>
    match callables[closure.index]? with
    | some c => (c.body receiver args).run (Host.ofCallables callables depth) c.held
    | none => return .undefined

/-! ## Sessions -/

/-- A node to be made, with its operands by the names of nodes. -/
inductive Draft where
  | unset
  | type (mask : TypeMask)
  | charset (set : String)
  | string (start : List UInt8)
  | unary (op : UnaryOp) (x : Slot String)
  | binary (op : BinaryOp) (left right : Slot String)
  | boolean (op : BooleanOp) (xs : List (Slot String))
  | regex (source : String) (flags : Regex.Flags)
  | compare (op : CompareOp) (stored : Value)
  | property (name : Option String) (filter : Option (Slot String))
  | member (target : Value)
  | shift (count : Nat) (x : Slot String)
  | function (f : Function) (receiver : Value) (arity : Nat)

/-- Makes a node, which shares the nodes in its operands. -/
def Draft.make (nodes : String → Predicate) (w : World) : Draft → Predicate × World
  | unset => (.unset, w)
  | type mask => (.type mask, w)
  | charset set => w.newCharset set
  | string start => (.string start, w)
  | unary op x => (.unary op (x.operand nodes), w)
  | binary op left right => (.binary op (left.operand nodes) (right.operand nodes), w)
  | boolean op xs => (.boolean op (xs.map (Slot.operand nodes)), w)
  | regex source flags => w.newRegex source flags
  | compare op stored => (.compare op stored, w)
  | property name filter => (.property name (filter.map (Slot.operand nodes)), w)
  | member target => (.member target, w)
  | shift count x => (.shift count (x.operand nodes), w)
  | function f receiver arity => (.function f receiver arity, w)

/-- The nodes of a calling program by their names, its host callables, and the world. -/
@[ext]
structure Session where
  nodes : String → Predicate := fun _ => .unset
  callables : List Callable := []
  world : World := {}

/-- What a calling program does. -/
inductive Command where
  /-- Makes a node. -/
  | make (name : String) (draft : Draft)
  /-- Names a node of a tree as well, the one at place `k` of the nodes in it. -/
  | share (name of : String) (k : Nat)
  /-- Names a copy of a node. -/
  | clone (name of : String)
  /-- Clears a name; trees that have the node keep it. -/
  | free (name : String)
  /-- Makes a host callable that holds some nodes. -/
  | define (holds : List String) (body : Value → List Value → Routine)
  | change (f : Store → Store)
  | request (r : Request String)
  /-- Asks whether the cache of a node is filled. -/
  | inspect (name : String)

/-- The question that shows the caches. -/
def Command.isInspect : Command → Bool
  | inspect _ => true
  | _ => false

/-- A cache cell. -/
inductive Cell where
  | charset (cell : CharsetCell)
  | pattern (cell : RegexCell)
  deriving DecidableEq

/-- The cell of a node. -/
def Predicate.cell? : Predicate → Option Cell
  | charset cell _ => some (.charset cell)
  | regex cell _ _ => some (.pattern cell)
  | _ => none

/-- Whether a cell is filled. -/
def Caches.isFilled (c : Caches) : Cell → Bool
  | .charset cell => (c.decoded? cell).isSome
  | .pattern cell => (c.prepared? cell).isSome

/-- Whether the cache of a node is filled, when it has one. -/
def World.cached? (w : World) (p : Predicate) : Option Bool := p.cell?.map w.caches.isFilled

namespace Session

/-- The host of the session. -/
def host (s : Session) (depth : Nat) : Host := Host.ofCallables s.callables depth

/-- Gives a name to a node. -/
def bind (s : Session) (name : String) (p : Predicate) : Session :=
  { s with nodes := Function.update s.nodes name p }

/-- The reply to a command, and the session after it. -/
def perform (depth : Nat) (s : Session) : Command → Reply × Session
  | .make name draft =>
    let (p, world) := draft.make s.nodes s.world
    (.done, { s with world }.bind name p)
  | .share name of k => (.done, s.bind name ((s.nodes of).nodes.getD k .unset))
  | .clone name of =>
    let (p, world) := s.world.clone (s.nodes of)
    (.done, { s with world }.bind name p)
  | .free name => (.done, s.bind name .unset)
  | .define holds body =>
    (.done, { s with callables := s.callables ++ [⟨holds.map s.nodes, body⟩] })
  | .change f => (.done, { s with world := { s.world with store := f s.world.store } })
  | .request r =>
    let (reply, world) := r.answer (s.host depth) s.nodes s.world
    (reply, { s with world })
  | .inspect name => (.cached (s.world.cached? (s.nodes name)), s)

/-- The session after some commands. -/
def run (depth : Nat) (s : Session) (commands : List Command) : Session :=
  commands.foldl (fun s command => (s.perform depth command).2) s

/-- The session without caches. -/
def forget (s : Session) : Session where
  nodes name := (s.nodes name).bare
  callables := s.callables.map Callable.bare
  world := s.world.uncached

/-- The session after some commands when there are no caches. -/
def runAfresh (depth : Nat) (s : Session) (commands : List Command) : Session :=
  commands.foldl (fun s command => (s.perform depth command).2.forget) s

end Session

end Criteria
