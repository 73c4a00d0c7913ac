import Criteria.Regex.Flags
import Criteria.Regex.Footprint
import Criteria.Regex.Parser
import Criteria.Regex.Resolve

/-!
# Compiled patterns

A program is a list of instructions, each of which names the ones that may follow it. An expression
is compiled from its end: its code is given where to go on, and returns where it starts.

`compile` reads a pattern, resolves its flags and compiles it.
-/

set_option autoImplicit false

namespace Criteria.Regex

open Unicode (CodeSet)

/-- One step of a match. -/
inductive Inst where
  | accept
  | char (set : CodeSet) (next : Nat)
  | byte (set : CodeSet) (next : Nat)
  | look (l : Look) (next : Nat)
  /-- Tries `first`, then `second`. Choices are numbered. -/
  | split (number first second : Nat)
  /-- Records the position in a slot. -/
  | save (slot : Nat) (next : Nat)

instance : Inhabited Inst := ⟨.accept⟩

/-- The instructions so far, and how many of them are choices. -/
structure Code where
  insts : Array Inst := #[]
  choices : Nat := 0

namespace Code

/-- Appends an instruction and returns its place. -/
def emit (code : Code) (inst : Inst) : Nat × Code :=
  (code.insts.size, { code with insts := code.insts.push inst })

/-- Appends the choice between `first` and `second`. -/
def emitSplit (code : Code) (first second : Nat) : Nat × Code :=
  (code.insts.size,
    { insts := code.insts.push (.split code.choices first second), choices := code.choices + 1 })

/-- Appends the choice between going on with a body and leaving it, in the order of preference. -/
def emitChoice (code : Code) (greedy : Bool) (body leave : Nat) : Nat × Code :=
  if greedy then code.emitSplit body leave else code.emitSplit leave body

/-- Applies a compiler step `count` times, each going on where the one before starts. -/
def repeatedly (step : Nat → Code → Nat × Code) : Nat → Nat → Code → Nat × Code
  | 0, next, code => (next, code)
  | count + 1, next, code =>
    let (start, code) := repeatedly step count next code
    step start code

/-- Up to `count` rounds, each of which may be the last. All of them leave to the same place. -/
def optionally (step : Nat → Code → Nat × Code) (greedy : Bool) (leave : Nat) :
    Nat → Code → Nat × Code
  | 0, code => (leave, code)
  | count + 1, code =>
    let (next, code) := optionally step greedy leave count code
    let (body, code) := step next code
    code.emitChoice greedy body leave

/-- One or more rounds: where the body starts and where the choice after it stands. The choice is
put down before the body, which goes on there, and learns afterwards where the body starts. -/
def atLeastOnce (step : Nat → Code → Nat × Code) (greedy : Bool) (leave : Nat) (code : Code) :
    Nat × Nat × Code :=
  let number := code.choices
  let (loop, code) := code.emitSplit leave leave
  let (body, code) := step loop code
  let choice := if greedy then Inst.split number body leave else Inst.split number leave body
  (body, loop, { code with insts := code.insts.setIfInBounds loop choice })

/-- Any number of rounds. When a round may consume nothing, the first choice is kept apart from the
one after a round, so that an empty round ends the repetition. -/
def anyNumber (step : Nat → Code → Nat × Code) (greedy canBeEmpty : Bool) (leave : Nat)
    (code : Code) : Nat × Code :=
  let (body, loop, code) := atLeastOnce step greedy leave code
  if canBeEmpty then code.emitChoice greedy body leave else (loop, code)

end Code

/-- Compiles an expression that goes on at `next`; returns where it starts. -/
def Expr.emit : Expr → Nat → Code → Nat × Code
  | empty, next, code => (next, code)
  | char set, next, code => code.emit (.char set next)
  | byte set, next, code => code.emit (.byte set next)
  | look l, next, code => code.emit (.look l next)
  | cat a b, next, code =>
    let (middle, code) := b.emit next code
    a.emit middle code
  | alt a b, next, code =>
    let (second, code) := b.emit next code
    let (first, code) := a.emit next code
    code.emitSplit first second
  | capture index sub, next, code =>
    let (close, code) := code.emit (.save (2 * index + 1) next)
    let (body, code) := sub.emit close code
    code.emit (.save (2 * index) body)
  | repetition min (some most) greedy sub, next, code =>
    let (rest, code) := Code.optionally sub.emit greedy next (most - min) code
    Code.repeatedly sub.emit min rest code
  | repetition 0 none greedy sub, next, code =>
    Code.anyNumber sub.emit greedy sub.canBeEmpty next code
  | repetition (min + 1) none greedy sub, next, code =>
    let (body, _, code) := Code.atLeastOnce sub.emit greedy next code
    Code.repeatedly sub.emit min body code

/-- A compiled pattern. -/
structure Program where
  code : Array Inst
  /-- How many of the instructions are choices. -/
  choices : Nat
  /-- The instruction that a match starts at. -/
  start : Nat
  /-- The capture groups of the pattern, the whole match included. -/
  groupCount : Nat
  /-- The groups that a match reports: up to the largest index in use. -/
  slotGroups : Nat
  /-- Whether a match may be empty. -/
  canBeEmpty : Bool
  /-- Whether a match must end between characters when it may be empty. -/
  wholeChars : Bool

instance : Inhabited Program := ⟨⟨#[], 0, 0, 1, 1, false, false⟩⟩

/-- A place where no instruction stands. -/
def Program.dead (p : Program) : Nat := p.code.size

/-- Compiles an expression. -/
def Program.ofExpr (flags : Flags) (e : Expr) : Program :=
  let (accept, code) := Code.emit {} .accept
  let (start, code) := (Expr.capture 0 e).emit accept code
  { code := code.insts
    choices := code.choices
    start
    groupCount := e.captureCount + 1
    slotGroups := e.lastCapture + 1
    canBeEmpty := e.canBeEmpty
    wholeChars := flags.unicode }

/-- The mode that the flags of a pattern set. -/
def Flags.mode (flags : Flags) : Mode :=
  { ignoreCase := flags.ignoreCase, multiline := flags.multiline, dotAll := flags.dotAll }

/-- Reads and compiles a pattern. -/
def compile (source : String) (flags : Flags) : Except PatternError Program := do
  let ast ← parse source
  let (e, _) ← ast.resolve flags.mode
  if e.isTooLarge then throw (.tooLarge sizeLimit)
  return .ofExpr flags e

end Criteria.Regex
