import Criteria.Eval.Interpreter
import Criteria.Proofs.Cursor
import Mathlib.Algebra.GroupWithZero.Nat

/-!
# What a tree does with its cursor

The nodes of a tree share one cursor. The events of an evaluation list, in order, every request that
a node makes of this cursor, every search of a pattern node, and every call that leaves the tree: to
a host callable, or to a property filter, which has a cursor of its own.

* `Interpreter.events` — the events of evaluating a tree. They are read off the walk itself: what a
  later operand does is taken at the machine that the earlier ones really leave.
* `Cursor.Run` — the events lead a cursor from one place to another.
* `Explains` — the events account for an outcome: for the place of the cursor, and for an underflow.
-/

set_option autoImplicit false

namespace Criteria

/-- What happens to the cursor that the nodes of a tree share. -/
inductive CursorEvent where
  /-- A node asks for `requested` arguments when `available` are left. -/
  | ask (requested available : Nat)
  /-- A pattern node searches its input; `exported` when the argument after it takes the captures. -/
  | search (exported : Bool)
  /-- A host callable runs, and fails or not. -/
  | call (failure : Option Failure)
  /-- A property filter runs on a cursor of its own, and fails or not. -/
  | filter (failure : Option Failure)

/-- A value that takes the captures of a match which it follows on the cursor. -/
def Value.isSink : Value → Bool
  | .function _ => true
  | .array _ => true
  | _ => false

namespace CursorEvent

/-- No more is asked for than is left. -/
def IsGranted : CursorEvent → Prop
  | ask requested available => requested ≤ available
  | _ => True

/-- The event raises this failure. -/
def Raises (f : Failure) : CursorEvent → Prop
  | ask requested available =>
    available < requested ∧ f = .error (.argumentUnderflow requested available)
  | search _ => False
  | call failure => failure = some f
  | filter failure => failure = some f

def requested : CursorEvent → Nat
  | ask n _ => n
  | _ => 0

def isSearch : CursorEvent → Bool
  | search _ => true
  | _ => false

def isExport : CursorEvent → Bool
  | search exported => exported
  | _ => false

end CursorEvent

/-- The arguments asked for. -/
def requests (es : List CursorEvent) : Nat := (es.map CursorEvent.requested).sum

/-- The searches of pattern nodes. -/
def searches (es : List CursorEvent) : Nat := es.countP CursorEvent.isSearch

/-- The arguments that took captures. -/
def exports (es : List CursorEvent) : Nat := es.countP CursorEvent.isExport

@[simp] theorem requests_nil : requests [] = 0 := rfl

@[simp] theorem requests_cons (e : CursorEvent) (es : List CursorEvent) :
    requests (e :: es) = e.requested + requests es := by
  simp [requests]

@[simp] theorem requests_append (es fs : List CursorEvent) :
    requests (es ++ fs) = requests es + requests fs := by
  simp [requests]

theorem exports_cons (e : CursorEvent) (es : List CursorEvent) :
    exports (e :: es) = exports es + if e.isExport then 1 else 0 := by
  simp [exports, List.countP_cons]

theorem exports_le_searches (es : List CursorEvent) : exports es ≤ searches es :=
  List.countP_mono_left fun e _ h => by cases e <;> simp_all [CursorEvent.isExport, CursorEvent.isSearch]

/-! ## Runs of a cursor -/

namespace Cursor

/-- The events lead from one cursor to another. -/
inductive Run : Cursor → List CursorEvent → Cursor → Prop where
  | done (c : Cursor) : Run c [] c
  | ask {c c' : Cursor} {es : List CursorEvent} (n : Nat) :
      Run (c.advance (min n c.remaining)) es c' → Run c (.ask n c.remaining :: es) c'
  | search {c c' : Cursor} {es : List CursorEvent} : Run c es c' → Run c (.search false :: es) c'
  | exported {c c' : Cursor} {es : List CursorEvent} {v : Value} :
      c.peek = some v → v.isSink → Run (c.advance 1) es c' → Run c (.search true :: es) c'
  | call {c c' : Cursor} {es : List CursorEvent} (failure : Option Failure) :
      Run c es c' → Run c (.call failure :: es) c'
  | filter {c c' : Cursor} {es : List CursorEvent} (failure : Option Failure) :
      Run c es c' → Run c (.filter failure :: es) c'

namespace Run

variable {c c' c'' : Cursor} {es fs : List CursorEvent}

theorem append (h : Run c es c') (h' : Run c' fs c'') : Run c (es ++ fs) c'' := by
  induction h with
  | done => exact h'
  | ask n _ ih => exact .ask n (ih h')
  | search _ ih => exact .search (ih h')
  | exported hp hv _ ih => exact .exported hp hv (ih h')
  | call f _ ih => exact .call f (ih h')
  | filter f _ ih => exact .filter f (ih h')

theorem args_eq (h : Run c es c') : c'.args = c.args := by
  induction h <;> simp_all [advance]

theorem policy_eq (h : Run c es c') : c'.policy = c.policy := by
  induction h <;> simp_all [advance]

/-- The cursor moves by no more than was asked for and exported to. -/
theorem position_le (h : Run c es c') : c'.position ≤ c.position + requests es + exports es := by
  induction h with
  | done => simp [exports]
  | ask n _ ih =>
    simp only [advance, requests_cons, CursorEvent.requested, exports_cons,
      CursorEvent.isExport] at *
    simp only [Bool.false_eq_true, if_false]; omega
  | exported _ _ _ ih =>
    simp only [advance, requests_cons, CursorEvent.requested, exports_cons,
      CursorEvent.isExport] at *
    simp only [if_true]; omega
  | search _ ih | call _ _ ih | filter _ _ ih =>
    simpa [exports_cons, CursorEvent.requested, CursorEvent.isExport] using ih

/-- Captures are exported to arguments that are functions or arrays only. -/
theorem exports_eq_zero (h : Run c es c') (hs : ∀ v ∈ c.args, v.isSink = false) :
    exports es = 0 := by
  induction h with
  | done => rfl
  | exported hp hv _ _ =>
    have := hs _ (List.mem_of_getElem? hp)
    rw [this] at hv; cases hv
  | ask n _ ih => simpa [exports_cons, CursorEvent.isExport] using ih hs
  | search _ ih | call _ _ ih | filter _ _ ih =>
    simpa [exports_cons, CursorEvent.isExport] using ih hs

/-- Without exports, the cursor moves by what was asked for, or to the end. -/
theorem position_eq (h : Run c es c') (hc : c.InRange) (hx : exports es = 0) :
    c'.position = min c.args.length (c.position + requests es) := by
  induction h with
  | done => simp only [InRange, requests_nil] at *; omega
  | exported => simp [exports_cons, CursorEvent.isExport] at hx
  | ask n _ ih =>
    rw [ih (hc.advance (Nat.min_le_right ..))
      (by simpa [exports_cons, CursorEvent.isExport] using hx)]
    simp only [advance, requests_cons, CursorEvent.requested, remaining, InRange] at *; omega
  | search _ ih | call _ _ ih | filter _ _ ih =>
    rw [ih hc (by simpa [exports_cons, CursorEvent.isExport] using hx)]
    simp [CursorEvent.requested]

/-- When every request is granted, no more is asked for than was left. -/
theorem requests_le (h : Run c es c') (hg : ∀ e ∈ es, e.IsGranted) :
    requests es ≤ c.remaining := by
  induction h with
  | done => exact Nat.zero_le _
  | ask n _ ih =>
    obtain ⟨hn, hg⟩ := List.forall_mem_cons.1 hg
    have := ih hg
    simp only [CursorEvent.IsGranted] at hn
    simp only [advance, remaining, requests_cons, CursorEvent.requested] at *; omega
  | exported _ _ _ ih =>
    have := ih (List.forall_mem_cons.1 hg).2
    simp only [advance, remaining, requests_cons, CursorEvent.requested] at *; omega
  | search _ ih | call _ _ ih | filter _ _ ih =>
    simpa [CursorEvent.requested] using ih (List.forall_mem_cons.1 hg).2

/-- Without exports, nothing underflows when as much is left as is asked for altogether. -/
theorem granted (h : Run c es c') (hx : exports es = 0) (hr : requests es ≤ c.remaining) :
    ∀ e ∈ es, e.IsGranted := by
  induction h with
  | done => simp
  | exported => simp [exports_cons, CursorEvent.isExport] at hx
  | ask n _ ih =>
    simp only [requests_cons, CursorEvent.requested] at hr
    have ih := ih (by simpa [exports_cons, CursorEvent.isExport] using hx)
      (by simp only [advance, remaining] at *; omega)
    exact List.forall_mem_cons.2 ⟨by simp only [CursorEvent.IsGranted]; omega, ih⟩
  | search _ ih | call _ _ ih | filter _ _ ih =>
    have ih := ih (by simpa [exports_cons, CursorEvent.isExport] using hx)
      (by simpa [CursorEvent.requested] using hr)
    exact List.forall_mem_cons.2 ⟨trivial, ih⟩

end Run

end Cursor

/-! ## Events of an evaluation -/

namespace Eval

variable {α β : Type}

/-- The machine that a step leaves, be it with a failure or not. -/
def machineAfter (x : Eval α) (m : Machine) : Machine :=
  match x.run m with
  | .ok _ m' => m'
  | .error _ m' => m'

/-- The failure of a step. -/
def failure? (x : Eval α) (m : Machine) : Option Failure :=
  match x.run m with
  | .ok .. => none
  | .error f _ => some f

/-- The events of what follows a step, which are none when the step fails. -/
def followed (x : Eval α) (m : Machine) (events : α → Machine → List CursorEvent) :
    List CursorEvent :=
  match x.run m with
  | .ok a m' => events a m'
  | .error .. => []

end Eval

namespace Interpreter

open Eval

/-- The events of taking one argument. -/
def shiftEvents (m : Machine) : List CursorEvent := [.ask 1 m.cursor.remaining]

/-- The events of calling a host callable. -/
def invokeEvents (i : Interpreter) (f : Function) (receiver : Value) (args : List Value)
    (m : Machine) : List CursorEvent :=
  [.call (failure? (i.invoke f receiver args) m)]

/-- The events of exporting the captures of a match. -/
def exportEvents (i : Interpreter) (input : Value) (spans : Spans) (m : Machine) :
    List CursorEvent :=
  match m.cursor.peek with
  | some (.function _) => [.search true, .call (failure? (i.exportMatch input spans) m)]
  | some (.array _) => [.search true]
  | _ => [.search false]

/-- The events of a pattern node. -/
def regexEvents (i : Interpreter) (cell : RegexCell) (source : String) (flags : Regex.Flags)
    (m : Machine) : List CursorEvent :=
  followed (onWorld (Action.prepare cell source flags)) m fun program m =>
    shiftEvents m ++ followed shift m fun input m =>
      followed (onWorld (Action.read fun s => s.inputBytes input)) m fun bytes m =>
        match program.search bytes flags.sticky with
        | none => [.search false]
        | some spans => i.exportEvents input spans m

/-- The events of reading a property. -/
def readEvents (name : Option String) (m : Machine) : List CursorEvent :=
  shiftEvents m ++ followed shift m fun object m =>
    if object.isObject ∧ name = none then shiftEvents m else []

/-- The events of piping a property through a filter. -/
def filterEvents (i : Interpreter) (filter : Option Operand) (v : Value) (m : Machine) :
    List CursorEvent :=
  match filter with
  | some (.nested p) => [.filter (failure? (withCursor (.start [v] i.config.underflow) (i.eval p)) m)]
  | some (.literal (.function f)) => i.invokeEvents f .undefined [v] m
  | _ => []

mutual

/-- The events of an operand slot. -/
def valueEvents (i : Interpreter) : Operand → Machine → List CursorEvent
  | .unset, m => shiftEvents m
  | .nested p, m => i.events p m
  | .literal (.function f), m => i.invokeEvents f .undefined m.cursor.rest m
  | .literal _, _ => []

/-- The events of a tree. -/
def events (i : Interpreter) : Predicate → Machine → List CursorEvent
  | .unset, _ => []
  | .type _, m => shiftEvents m
  | .charset .., m => shiftEvents m
  | .string _, m => shiftEvents m
  | .compare .., m => shiftEvents m
  | .member _, m => shiftEvents m
  | .unary _ x, m => i.valueEvents x m
  | .binary _ left right, m =>
    i.valueEvents left m ++ followed (i.value left) m fun _ m => i.valueEvents right m
  | .boolean .or xs, m => i.untilEvents true xs m
  | .boolean .and xs, m => i.untilEvents false xs m
  | .boolean .xor xs, m => i.xorEvents xs m
  | .regex cell source flags, m => i.regexEvents cell source flags m
  | .property name filter, m =>
    readEvents name m ++ followed (readProperty name) m (i.filterEvents filter)
  | .shift count x, m =>
    .ask count m.cursor.remaining ::
      followed (Eval.skip count) m fun _ m => i.valueEvents x m
  | .function f receiver arity, m =>
    .ask arity m.cursor.remaining ::
      followed (take arity) m fun args m => i.invokeEvents f receiver args m

/-- The events of operands up to the first one whose truth is `stop`. -/
def untilEvents (i : Interpreter) (stop : Bool) : List Operand → Machine → List CursorEvent
  | [], _ => []
  | x :: rest, m =>
    i.valueEvents x m ++ followed (i.value x) m fun v m =>
      if v.isTruthy = stop then [] else i.untilEvents stop rest m

/-- The events of all of some operands. -/
def xorEvents (i : Interpreter) : List Operand → Machine → List CursorEvent
  | [], _ => []
  | x :: rest, m =>
    i.valueEvents x m ++ followed (i.value x) m fun _ m => i.xorEvents rest m

end

end Interpreter

/-! ## Events explain outcomes -/

/-- The error is a want of arguments. -/
def EvalError.IsUnderflow (e : EvalError) : Prop := ∃ r n, e.kind = .argumentUnderflow r n

/-- The events account for the outcome of a step: they lead the cursor to where it is left, under
the policy that fails a value means that every request was granted, and a failure for want of
arguments is raised by an event. -/
structure Explains {α : Type} (m : Machine) (es : List CursorEvent) (x : Eval α) : Prop where
  run : m.cursor.Run es (x.machineAfter m).cursor
  granted : ∀ {a m'}, x.run m = .ok a m' → m.cursor.policy = .fail → ∀ e ∈ es, e.IsGranted
  raised : ∀ {e m'}, x.run m = .error (.error e) m' → e.IsUnderflow →
    ∃ event ∈ es, event.Raises (.error e)

end Criteria
