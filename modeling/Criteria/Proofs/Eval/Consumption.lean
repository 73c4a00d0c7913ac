import Criteria.Proofs.Eval.Explanation
import Criteria.Proofs.Predicate.Slots

/-!
# How many arguments an evaluation takes

The slots of a tree are counted on its syntax, and its evaluation takes arguments one by one, may
stop early and may fail. The two agree:

* `asks_eval` — an evaluation asks for at most as many arguments as the tree has slots, and for
  exactly as many when it succeeds and no combinator can stop early.
* `argCount_consumption` — what follows for the place of the cursor and for underflows.

An evaluation takes more than it asks for only where a pattern node hands its captures to the
argument after its input, which has to be a function or an array.
-/

set_option autoImplicit false

namespace Criteria

open Eval Interpreter

variable {α β : Type}

/-! ## Trees that cannot stop early -/

mutual

/-- No combinator of the operand stops early. -/
def Operand.isStraight : Operand → Bool
  | .unset => true
  | .nested p => p.isStraight
  | .literal _ => true

/-- No combinator that takes arguments from the cursor of the tree stops early. Filters, which have
a cursor of their own, do not matter. -/
def Predicate.isStraight : Predicate → Bool
  | .unary _ x => x.isStraight
  | .binary _ left right => left.isStraight && right.isStraight
  | .boolean .or _ => false
  | .boolean .and _ => false
  | .boolean .xor xs => Operand.allStraight xs
  | .shift _ x => x.isStraight
  | _ => true

/-- No combinator of the operands stops early. -/
def Operand.allStraight : List Operand → Bool
  | [] => true
  | x :: rest => x.isStraight && Operand.allStraight rest

end

/-! ## Requests -/

/-- The events ask for at most `n` arguments, and for `n` when the step is straight and succeeds. -/
structure Asks {α : Type} (m : Machine) (es : List CursorEvent) (x : Eval α) (n : Nat)
    (straight : Bool) : Prop where
  le : requests es ≤ n
  eq : straight → ∀ {a m'}, x.run m = .ok a m' → requests es = n

namespace Asks

variable {m : Machine} {es : List CursorEvent} {n : Nat} {s : Bool}

theorem const {x : Eval α} (h : requests es = n) : Asks m es x n s :=
  ⟨by omega, fun _ _ _ _ => h⟩

theorem bind {x : Eval α} {f : α → Eval β} {fs : α → Machine → List CursorEvent} {k : Nat}
    {t : Bool} (hx : Asks m es x n s) (hf : ∀ a m', Asks m' (fs a m') (f a) k t) :
    Asks m (es ++ x.followed m fs) (x >>= f) (n + k) (s && t) := by
  obtain ⟨hle, heq⟩ := hx
  unfold followed
  cases h : x.run m with
  | ok a m' =>
    obtain ⟨hle', heq'⟩ := hf a m'
    refine ⟨by simp only [requests_append]; omega, fun hst b m'' hok => ?_⟩
    rw [Bool.and_eq_true] at hst
    rw [run_bind_ok h] at hok
    simp only [requests_append, heq hst.1 h, heq' hst.2 hok]
  | error e m' =>
    refine ⟨by simp only [List.append_nil]; omega, fun _ b m'' hok => ?_⟩
    rw [run_bind_error h] at hok
    cases hok

/-- What follows a step may ask for nothing. -/
theorem bindQuiet {x : Eval α} {f : α → Eval β} (hx : Asks m es x n s) :
    Asks m es (x >>= f) n s := by
  refine ⟨hx.le, fun hs b m' hok => ?_⟩
  cases h : x.run m with
  | ok a m'' => exact hx.eq hs h
  | error e m'' => rw [run_bind_error h] at hok; cases hok

/-- A step may ask for nothing. -/
theorem quietBind {x : Eval α} {f : α → Eval β} {fs : α → Machine → List CursorEvent}
    (hf : ∀ a m', Asks m' (fs a m') (f a) n s) : Asks m (x.followed m fs) (x >>= f) n s := by
  have hx : Asks m [] x 0 true := const rfl
  have h := hx.bind hf
  simpa using h

end Asks

/-! ## Nodes -/

theorem asks_regex (i : Interpreter) (cell : RegexCell) (source : String) (flags : Regex.Flags)
    (m : Machine) :
    Asks m (i.regexEvents cell source flags m) (i.evalRegex cell source flags) 1 true := by
  refine .quietBind fun program m => ?_
  refine (Asks.const (n := 1) (s := true) rfl).bind (k := 0) (t := true) fun input m => ?_
  refine .quietBind fun bytes m => .const ?_
  unfold exportEvents
  split
  · rfl
  · split <;> rfl

theorem asks_readProperty (name : Option String) (m : Machine) :
    Asks m (readEvents name m) (readProperty name) (Predicate.propertyArgCount name) true := by
  cases name with
  | some key =>
    refine (Asks.const (n := 1) (s := true) rfl).bind (k := 0) (t := true) fun object m => .const ?_
    simp
  | none =>
    refine (Asks.const (n := 1) (s := true) rfl).bind (k := 1) (t := true) fun object m => ?_
    by_cases ho : object.isObject
    · simp only [ho, if_true, true_and]
      exact .bindQuiet (.bindQuiet (.const rfl))
    · refine ⟨by simp [ho], fun _ v m' hok => ?_⟩
      simp only [ho] at hok
      cases hok

theorem requests_filterEvents (i : Interpreter) (filter : Option Operand) (v : Value) (m : Machine) :
    requests (i.filterEvents filter v m) = 0 := by
  unfold filterEvents
  split <;> rfl

mutual

theorem asks_value (i : Interpreter) : ∀ (x : Operand) (m : Machine),
    Asks m (i.valueEvents x m) (i.value x) x.slots x.isStraight
  | .unset, m => .const rfl
  | .nested p, m => by
    rw [valueEvents, value, Operand.slots, Operand.isStraight]
    exact asks_eval i p m
  | .literal v, m => by
    cases v <;> exact .const rfl

/-- An evaluation asks for at most as many arguments as the tree has slots, and for as many when
nothing stops it early. -/
theorem asks_eval (i : Interpreter) : ∀ (p : Predicate) (m : Machine),
    Asks m (i.events p m) (i.eval p) p.slots p.isStraight
  | .unset, m => .const rfl
  | .type _, m | .charset .., m | .string _, m | .compare .., m | .member _, m => .const rfl
  | .unary op x, m => by
    rw [events, eval, Predicate.slots, Predicate.isStraight]
    exact (asks_value i x m).bindQuiet
  | .binary op left right, m => by
    rw [events, eval, Predicate.slots, Predicate.isStraight]
    exact (asks_value i left m).bind fun _ m => (asks_value i right m).bindQuiet
  | .boolean .or xs, m => by
    rw [events, eval, Predicate.slots, Predicate.isStraight]
    exact ⟨requests_until_le i true xs m, nofun⟩
  | .boolean .and xs, m => by
    rw [events, eval, Predicate.slots, Predicate.isStraight]
    exact ⟨requests_until_le i false xs m, nofun⟩
  | .boolean .xor xs, m => by
    rw [events, eval, Predicate.slots, Predicate.isStraight]
    exact asks_xor i 0 xs m
  | .regex cell source flags, m => by
    rw [events, eval, Predicate.slots]
    exact asks_regex i cell source flags m
  | .property name filter, m => by
    rw [events, eval, Predicate.slots]
    exact (asks_readProperty name m).bind (k := 0) fun v m =>
      .const (requests_filterEvents i filter v m)
  | .shift count x, m => by
    rw [events, eval, Predicate.slots, Predicate.isStraight]
    have hask : Asks m [.ask count m.cursor.remaining] (Eval.skip count) count true :=
      .const rfl
    simpa using hask.bind fun _ m => asks_value i x m
  | .function f receiver arity, m => by
    rw [events, eval, Predicate.slots]
    have hask : Asks m [.ask arity m.cursor.remaining] (Eval.take arity) arity true :=
      .const rfl
    have hcall : ∀ args m, Asks m (i.invokeEvents f receiver args m) (i.invoke f receiver args)
        0 true := fun args m => .const rfl
    exact hask.bind hcall

theorem requests_until_le (i : Interpreter) (stop : Bool) : ∀ (xs : List Operand) (m : Machine),
    requests (i.untilEvents stop xs m) ≤ Operand.slotSum xs
  | [], _ => Nat.le_refl 0
  | x :: rest, m => by
    rw [untilEvents, Operand.slotSum, requests_append]
    have hx := (asks_value i x m).le
    refine Nat.add_le_add hx ?_
    unfold followed
    cases (i.value x).run m with
    | ok v m' =>
      by_cases hv : v.isTruthy = stop
      · simp [hv]
      · simpa [hv] using requests_until_le i stop rest m'
    | error e m' => exact Nat.zero_le _

theorem asks_xor (i : Interpreter) (acc : Int64) : ∀ (xs : List Operand) (m : Machine),
    Asks m (i.xorEvents xs m) (i.evalXor acc xs) (Operand.slotSum xs) (Operand.allStraight xs)
  | [], _ => .const rfl
  | x :: rest, m => by
    rw [xorEvents, evalXor, Operand.slotSum, Operand.allStraight]
    refine (asks_value i x m).bind fun v m => ?_
    exact ⟨(asks_xor i 0 rest m).le, fun hs b m' hok => (asks_xor i _ rest m).eq hs hok⟩

end

/-! ## The count and the cursor -/

/-- An underflow that no request of the tree's own cursor causes comes from outside. -/
theorem raised_outside {es : List CursorEvent} {f : Failure} (hg : ∀ e ∈ es, e.IsGranted)
    (hr : ∃ e ∈ es, e.Raises f) : .call (some f) ∈ es ∨ .filter (some f) ∈ es := by
  obtain ⟨e, he, hf⟩ := hr
  cases e with
  | ask r n =>
    have := hg _ he
    simp only [CursorEvent.IsGranted, CursorEvent.Raises] at this hf
    omega
  | search x => exact hf.elim
  | call failure => exact .inl (hf ▸ he)
  | filter failure => exact .inr (hf ▸ he)

/-- **The reported count agrees with evaluation.** The count of a complete tree is the number of its
slots, stopped at the largest word. Wherever the cursor stands and whatever its policy, the events of
an evaluation lead the cursor to where it is left, which is past at most one argument for each slot
and each search of a pattern. When no argument is a function or an array:

* it is past at most one argument for each slot;
* a success without combinators that stop early takes one for each slot, or all that are left when
  missing arguments are supplied;
* when as many arguments are left as there are slots, no request underflows, so that only a host
  callable or a property filter can fail for want of arguments. -/
theorem argCount_consumption (i : Interpreter) (t : Predicate) (ht : t.isComplete) :
    t.argCount = .ok (capCount t.slots) ∧
    ∀ m : Machine, m.cursor.InRange →
      let es := i.events t m
      let c := ((i.eval t).machineAfter m).cursor
      m.cursor.Run es c ∧
      c.position ≤ m.cursor.position + t.slots + searches es ∧
      ((∀ v ∈ m.cursor.args, v.isSink = false) →
        c.position ≤ m.cursor.position + t.slots ∧
        (t.isStraight → ∀ v m', (i.eval t).run m = .ok v m' →
          (m.cursor.policy = .fail → m'.cursor.position = m.cursor.position + t.slots) ∧
          (m.cursor.policy = .padUndefined →
            m'.cursor.position = min m.cursor.args.length (m.cursor.position + t.slots))) ∧
        (t.slots ≤ m.cursor.remaining →
          (∀ e ∈ es, e.IsGranted) ∧
          ∀ e m', e.IsUnderflow → (i.eval t).run m = .error (.error e) m' →
            .call (some (.error e)) ∈ es ∨ .filter (some (.error e)) ∈ es)) := by
  refine ⟨Predicate.argCount_eq ht, fun m hm => ?_⟩
  obtain ⟨hrun, hgranted, hraised⟩ := explains_eval i t m
  obtain ⟨hle, heq⟩ := asks_eval i t m
  have hpos := hrun.position_le
  have hsearch := exports_le_searches (i.events t m)
  refine ⟨hrun, by omega, fun hs => ?_⟩
  have hx := hrun.exports_eq_zero hs
  refine ⟨by omega, fun hst v m' hok => ?_, fun hn => ?_⟩
  · have hend := hrun.position_eq hm hx
    rw [machineAfter, hok, heq hst hok] at hend
    refine ⟨fun hp => ?_, fun _ => hend⟩
    have hall := hrun.requests_le (hgranted hok hp)
    rw [heq hst hok, Cursor.remaining] at hall
    have hin : m.cursor.position ≤ m.cursor.args.length := hm
    rw [hend]; omega
  · have hg := hrun.granted hx (by omega)
    exact ⟨hg, fun e m' he herr => raised_outside hg (hraised herr he)⟩

/-- An interpreter without a host to speak of. -/
def Interpreter.idle : Interpreter := { host := fun _ _ _ => return .undefined }

/-- An exclusive or that skips an argument, on three arguments and one to spare. -/
theorem argCount_consumption_shifted_xor :
    let t : Predicate := .boolean .xor [.unset, .nested (.shift 1 .unset)]
    let c : Cursor := .start [.int 5, .null, .int 6, .bool true] .fail
    t.isComplete ∧ c.InRange ∧ (∀ v ∈ c.args, v.isSink = false) ∧ t.isStraight ∧
      t.slots ≤ c.remaining ∧ t.argCount = .ok 3 ∧
      ∃ m', (Interpreter.idle.eval t).run ⟨c, {}⟩ = .ok (.int 3) m' ∧
        m'.cursor.position = c.position + t.slots := by
  have hok : (Interpreter.idle.eval (.boolean .xor [.unset, .nested (.shift 1 .unset)])).run
      ⟨.start [.int 5, .null, .int 6, .bool true] .fail, {}⟩ =
      .ok (.int 3) ⟨⟨[.int 5, .null, .int 6, .bool true], 3, .fail⟩, {}⟩ := by rfl
  have hs : ∀ v ∈ [Value.int 5, .null, .int 6, .bool true], v.isSink = false := by decide
  obtain ⟨hcount, hrun⟩ := argCount_consumption Interpreter.idle
    (.boolean .xor [.unset, .nested (.shift 1 .unset)]) rfl
  obtain ⟨-, hexact, -⟩ := (hrun ⟨.start _ .fail, {}⟩ (Nat.zero_le _)).2.2 hs
  exact ⟨rfl, Nat.zero_le _, hs, rfl, by decide, hcount, _, hok, (hexact rfl _ _ hok).1 rfl⟩

end Criteria
