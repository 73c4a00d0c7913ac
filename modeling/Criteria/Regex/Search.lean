import Criteria.Regex.Program
import Criteria.Text.Utf8

/-!
# Searching

A depth-first search through the instructions of a program, in the order of preference. A choice
that failed once at a position fails there again, whatever was captured on the way, so none is tried
twice at a position. This bounds the search and settles repetitions of empty matches.

* `attempt` — the preferred match that starts at a position.
* `search` — the leftmost match.
-/

set_option autoImplicit false

namespace Criteria.Regex

open Text.Utf8 (scan)
open Unicode (CodeSet)

/-! ## Reading the input -/

/-- At most `count` bytes from a position, all before `stop`. -/
def window (input : ByteArray) (stop : Nat) : Nat → Nat → List UInt8
  | 0, _ => []
  | count + 1, i =>
    match input[i]? with
    | some b => if i < stop then b :: window input stop count (i + 1) else []
    | none => []

/-- The character that starts at a position and ends no later than `stop`, and its length in
bytes. -/
def charAt? (input : ByteArray) (stop i : Nat) : Option (Char × Nat) :=
  match window input stop 4 i with
  | [] => none
  | b :: rest =>
    match scan b rest with
    | (some c, after) => some (c, rest.length + 1 - after.length)
    | (none, _) => none

/-- The length in bytes of the character at a position, if it is in a set, and zero otherwise. -/
def charLength (set : CodeSet) (input : ByteArray) (i : Nat) : Nat :=
  match input[i]? with
  | none => 0
  | some b =>
    if b < 0x80 then if set.contains b.toNat then 1 else 0
    else
      match charAt? input input.size i with
      | some (c, length) => if set.contains c.toNat then length else 0
      | none => 0

/-- Whether a byte can only continue a character. -/
def isTail (b : UInt8) : Bool := 0x80 ≤ b && b < 0xc0

/-- The start of the character before a position: back over at most three tail bytes. -/
def charStart (input : ByteArray) (i : Nat) : Nat → Nat
  | 0 => i
  | back + 1 =>
    match input[i]? with
    | some b => if isTail b && 0 < i then charStart input (i - 1) back else i
    | none => i

/-- The character read from the start of the one before a position. -/
def charBefore? (input : ByteArray) (i : Nat) : Option Char :=
  if i = 0 then none else (charAt? input i (charStart input (i - 1) 3)).map Prod.fst

/-- Whether a position does not split a character. -/
def isBoundary (input : ByteArray) (i : Nat) : Bool :=
  match input[i]? with
  | some b => !isTail b
  | none => i = input.size

/-! ## Conditions on a position -/

/-- What stands on one side of a position, as word conditions see it. -/
inductive Side where
  | edge
  | word
  | other
  /-- Bytes that are no character. -/
  | broken
  deriving DecidableEq, Repr

def Side.ofChar : Option Char → Side
  | some c => if Unicode.isWord c then .word else .other
  | none => .broken

def Side.ofByte (b : UInt8) : Side :=
  if CodeSet.contains ⟨AsciiClass.word.ranges⟩ b.toNat then .word else .other

def sideBefore (unicode : Bool) (input : ByteArray) (i : Nat) : Side :=
  if i = 0 then .edge
  else if unicode then .ofChar (charBefore? input i)
  else
    match input[i - 1]? with
    | some b => .ofByte b
    | none => .edge

def sideAfter (unicode : Bool) (input : ByteArray) (i : Nat) : Side :=
  match input[i]? with
  | none => .edge
  | some b => if unicode then .ofChar ((charAt? input input.size i).map Prod.fst) else .ofByte b

/-- Whether a condition holds at a position. Conditions that could hold between the bytes of a
character ask for well-formed characters around it. -/
def Look.holds (l : Look) (input : ByteArray) (i : Nat) : Bool :=
  let before? := if i = 0 then none else input[i - 1]?
  let after? := input[i]?
  match l with
  | .textStart => i = 0
  | .textEnd => i = input.size
  | .lineStart => before?.all (· == 0x0a)
  | .lineEnd => after?.all (· == 0x0a)
  | .lineStartCrlf => before?.all fun b => b == 0x0a || (b == 0x0d && after? != some 0x0a)
  | .lineEndCrlf => after?.all fun b => b == 0x0d || (b == 0x0a && before? != some 0x0d)
  | .word u => (sideBefore u input i = .word) != (sideAfter u input i = .word)
  | .notWord u =>
    let before := sideBefore u input i
    let after := sideAfter u input i
    before != .broken && after != .broken && (before = .word) == (after = .word)
  | .wordStart u => sideBefore u input i != .word && sideAfter u input i = .word
  | .wordEnd u => sideBefore u input i = .word && sideAfter u input i != .word
  | .wordStartHalf u =>
    let before := sideBefore u input i
    before != .broken && before != .word
  | .wordEndHalf u =>
    let after := sideAfter u input i
    after != .broken && after != .word

/-! ## The search -/

/-- The positions recorded so far, two slots a group. -/
abbrev Slots := Array (Option Nat)

/-- A place to go on from, when what is tried before it fails. -/
structure Thread where
  pc : Nat
  position : Nat
  slots : Slots

/-- One mark for each choice at each position. -/
abbrev Visited := ByteArray

/-- No marks, for so many places. -/
def Visited.blank (places : Nat) : Visited :=
  if places = 0 then ByteArray.empty
  else
    let half := blank (places / 2)
    let whole := half ++ half
    if places % 2 = 0 then whole else whole.push 0
termination_by places

/-- Marks a place that is not marked yet. -/
def Visited.mark? (visited : Visited) (i : Nat) : Option Visited :=
  if h : i < visited.size then
    if visited[i] = 0 then some (visited.set i 1 h) else none
  else none

/-- Goes on at an instruction and a position until one thread is accepted. Where it fails, the
latest thread on the stack is tried; a choice that was tried at the same position before fails. -/
def run (p : Program) (input : ByteArray) :
    Nat → Nat → Nat → Slots → List Thread → Visited → Option Slots × Visited
  | 0, _, _, _, _, visited => (none, visited)
  | fuel + 1, pc, position, slots, stack, visited =>
    match p.code[pc]? with
    | some .accept => (some slots, visited)
    | some (.char set next) =>
      let length := charLength set input position
      run p input fuel (if length = 0 then p.dead else next) (position + length) slots stack visited
    | some (.byte set next) =>
      let found := match input[position]? with
        | some b => set.contains b.toNat
        | none => false
      run p input fuel (if found then next else p.dead) (position + 1) slots stack visited
    | some (.look l next) =>
      let holds := l.holds input position
      run p input fuel (if holds then next else p.dead) position slots stack visited
    | some (.save slot next) =>
      run p input fuel next position (slots.setIfInBounds slot (some position)) stack visited
    | some (.split number first second) =>
      match visited.mark? (position * p.choices + number) with
      | some visited =>
        run p input fuel first position slots (⟨second, position, slots⟩ :: stack) visited
      | none => run p input fuel p.dead position slots stack visited
    | none =>
      match stack with
      | [] => (none, visited)
      | t :: stack => run p input fuel t.pc t.position t.slots stack visited

/-- The number of choices at positions. -/
def Program.places (p : Program) (input : ByteArray) : Nat := p.choices * (input.size + 1)

/-- The preferred match from a position, where the marked places are known to fail. A run from one
choice to the next passes no instruction twice and ends in a failure at most, and each place leads
to two runs. -/
def attempt (p : Program) (input : ByteArray) (position : Nat) (visited : Visited) :
    Option Slots × Visited :=
  let slots := Array.replicate (2 * p.slotGroups) none
  run p input ((2 * p.places input + 2) * (p.code.size + 2)) p.start position slots [] visited

/-- The first match at one of `count` positions. -/
def firstMatch (p : Program) (input : ByteArray) : Nat → Nat → Visited → Option Slots
  | 0, _, _ => none
  | count + 1, position, visited =>
    match attempt p input position visited with
    | (some slots, _) => some slots
    | (none, visited) => firstMatch p input count (position + 1) visited

/-- The span of a group. -/
def spanOf (slots : Slots) (group : Nat) : Option (Nat × Nat) :=
  match slots[2 * group]?, slots[2 * group + 1]? with
  | some (some a), some (some b) => some (a, b)
  | _, _ => none

/-- The leftmost match that starts at `start` or later, or just there when `anchored`. -/
def matchFrom (p : Program) (input : ByteArray) (anchored : Bool) (start : Nat) : Option Slots :=
  firstMatch p input (if anchored then 1 else input.size + 1 - start) start
    (Visited.blank (p.places input))

/-- The leftmost match that ends between characters. When one does not, the search is repeated from
one byte further on. -/
def wholeCharMatch (p : Program) (input : ByteArray) (anchored : Bool) :
    Nat → Nat → Option Slots
  | 0, _ => none
  | fuel + 1, start =>
    match matchFrom p input anchored start with
    | none => none
    | some slots =>
      match spanOf slots 0 with
      | some (_, stop) =>
        if isBoundary input stop then some slots
        else if anchored then none
        else wholeCharMatch p input anchored fuel (start + 1)
      | none => none

/-- The spans of the groups of the leftmost match, the whole match first. A sticky search accepts
only a match at the first byte. -/
def Program.search (p : Program) (bytes : List UInt8) (sticky : Bool) :
    Option (List (Option (Nat × Nat))) :=
  let input := ByteArray.mk bytes.toArray
  let found :=
    if p.canBeEmpty && p.wholeChars then wholeCharMatch p input sticky (input.size + 1) 0
    else matchFrom p input sticky 0
  found.map fun slots => (List.range p.slotGroups).map (spanOf slots)

end Criteria.Regex
