import Criteria.Proofs.Eval.Consumption
import Criteria.Proofs.Eval.Effects
import Criteria.Proofs.Eval.Members

/-!
# Where failures come from

* `accounts_eval` — the steps of a tree account for the outcome of evaluating it.
* `Cause` — what a step that fails with an error is, and what the error says of it.
* `error_provenance` — an evaluation that fails with an error ends in such a step.

Reading a property can fail in the store, but a property node asks for an object first, and a member
node for a key that the stored value has, so neither gets to see that failure.
-/

set_option autoImplicit false

namespace Criteria

open Eval Interpreter

variable {α : Type}

/-! ## Reading what is there -/

theorem Store.getProperty_of_isObject (s : Store) (key : String) {v : Value} (h : v.isObject) :
    s.getProperty v key = .ok ((s.property? key v).getD .undefined) := by
  cases v with
  | undefined => cases h
  | null => cases h
  | _ => rfl

/-! ## Nodes -/

section Nodes

variable {i : Interpreter} {ns : List Predicate}

theorem accounts_shiftText (m : Machine) : Accounts i ns m [m.doing (.ask 1)] shiftText :=
  (Accounts.shift m).bindQuiet fun _ m => .reading _ m

theorem accounts_compare {op : CompareOp} {stored : Value} (hmem : .compare op stored ∈ ns)
    (m : Machine) : Accounts i ns m (compareSteps op stored m) (Interpreter.compare op stored) := by
  refine (Accounts.shift m).bind fun v m _ => ?_
  cases op with
  | instanceOf =>
    have hrelate : Accounts i ns m [m.doing (.relate v stored)]
        (onWorld (Action.ofExcept (m.world.store.instanceOf v stored))) :=
      .world (.relate v stored) hmem rfl rfl
    exact .read (hrelate.bindQuiet fun _ m => .done _ m)
  | prototypeIs => exact .read (.done _ m)
  | equal => exact .read (.done _ m)

theorem accounts_readProperty {name : Option String} {filter : Option Operand}
    (hmem : .property name filter ∈ ns) (m : Machine) :
    Accounts i ns m (readSteps name m) (readProperty name) := by
  refine (Accounts.shift m).bind fun object m' hobject => ?_
  have hground : (m'.doing (.inspect object)).Grounded ns :=
    ⟨⟨name, filter, hmem⟩, m.cursor, onCursor_ok hobject⟩
  by_cases ho : object.isObject
  -- once the test is passed, the store does not fail to read the property
  · have hpass : ((m'.doing (.inspect object)).act i).run m'.world = .ok () m'.world := by
      simp only [Step.act, Machine.doing, ho, if_true]
      rfl
    have hget : ∀ key m, Accounts i ns m [] (do
        let found ← onWorld (Action.read fun s => s.getProperty object key)
        onWorld (Action.ofExcept found) : Eval Value) := by
      intro key m
      refine .read (.congr (y := pure ((m.world.store.property? key object).getD .undefined)) ?_
        (.done _ m))
      rw [Store.getProperty_of_isObject _ _ ho]
      rfl
    cases name with
    | some key => simpa [ho] using Accounts.passed hground hpass (hget key m')
    | none =>
      simpa [ho] using Accounts.passed hground hpass ((accounts_shiftText m').bindQuiet hget)
  · have hraise : ((m'.doing (.inspect object)).act i).run m'.world =
        (Action.raise (.notObject object.typeName) : Action Value).silent.run m'.world := by
      simp only [Step.act, Machine.doing, ho]
      rfl
    simpa [ho] using Accounts.world _ hground rfl hraise

theorem accounts_readMember (target : Value) (m : Machine) :
    Accounts i ns m [m.doing (.ask 1)] (readMember target) :=
  (accounts_shiftText m).bindQuiet fun key m => .congr (run_lookup target key m) (.done _ m)

/-- A member node does not fail once its key is taken. -/
theorem run_readMember (target : Value) {v : Value} {m : Machine} {d : Cursor}
    (h : m.cursor.shift = (.ok v, d)) :
    (readMember target).run m =
      .ok ((m.world.store.property? (m.world.store.text v) target).getD .undefined)
        ⟨d, m.world⟩ := by
  rw [run_member, h]

theorem accounts_exportMatch (input : Value) (spans : Spans) (m : Machine) :
    Accounts i ns m (i.exportSteps input spans m) (i.exportMatch input spans) := by
  have hx := run_exportMatch i input spans m
  unfold exportSteps
  split
  · rename_i f hp
    simp only [hp] at hx
    have hshift : (i.exportMatch input spans).run m = (do
        let _ ← shift
        let captures ← onWorld (Action.change fun s => s.exportCaptures spans i.config.maxCaptures)
        let _ ← i.invoke f .null [captures, input] : Eval Unit).run m := by
      rw [run_bind_ok (run_shift_of_peek hp)]
      exact hx
    refine .congr hshift ((Accounts.shift m).bind fun _ m _ => ?_)
    refine (Accounts.world (.capture spans) trivial rfl rfl).bind fun captures m _ => ?_
    exact (Accounts.invoke f .null [captures, input] m).bindQuiet fun _ m => .done () m
  · rename_i sink hp
    simp only [hp] at hx
    have hshift : (i.exportMatch input spans).run m = (do
        let _ ← shift
        onWorld (Action.change fun s => ((), s.fillCaptures sink spans i.config.maxCaptures)) :
          Eval Unit).run m := by
      rw [run_bind_ok (run_shift_of_peek hp)]
      exact hx
    refine .congr hshift ((Accounts.shift m).bind fun _ m _ => ?_)
    exact .world (.fill sink spans) trivial rfl rfl
  · rename_i hf ha
    refine .congr (run_exportMatch_of_no_sink i input spans fun v hp => ?_) (.done () m)
    cases v with
    | function f => exact absurd hp (hf f)
    | array sink => exact absurd hp (ha sink)
    | _ => rfl

theorem accounts_evalRegex {cell : RegexCell} {source : String} {flags : Regex.Flags}
    (hmem : .regex cell source flags ∈ ns) (m : Machine) :
    Accounts i ns m (i.regexSteps cell source flags m) (i.evalRegex cell source flags) := by
  refine (Accounts.world (.compile cell source flags) hmem rfl rfl).bind fun program m _ => ?_
  refine (Accounts.shift m).bind fun input m _ => .read ?_
  cases program.search (m.world.store.inputBytes input) flags.sticky with
  | none => exact .done _ m
  | some spans => exact (accounts_exportMatch input spans m).bindQuiet fun _ m => .done _ m

/-! ## Trees -/

mutual

theorem accounts_value (i : Interpreter) : ∀ (x : Operand) (m : Machine), x.nodes ⊆ ns →
    Accounts i ns m (i.valueSteps x m) (i.value x)
  | .unset, m, _ => by
    rw [valueSteps, value]
    exact .shift m
  | .nested p, m, h => by
    rw [valueSteps, value]
    exact accounts_eval i p m h
  | .literal v, m, _ => by
    cases v with
    | function f =>
      rw [valueSteps, value]
      exact .congr (y := i.invoke f .undefined m.cursor.rest) rfl (.invoke ..)
    | _ => exact .done _ m

/-- The steps of a tree account for the outcome of evaluating it. -/
theorem accounts_eval (i : Interpreter) : ∀ (p : Predicate) (m : Machine), p.nodes ⊆ ns →
    Accounts i ns m (i.steps p m) (i.eval p)
  | .unset, m, h => by
    rw [steps, eval]
    exact .world .reject (h List.mem_cons_self) rfl rfl
  | .type mask, m, _ => by
    rw [steps, eval]
    exact (Accounts.shift m).bindQuiet fun _ m => .done _ m
  | .charset cell set, m, h => by
    rw [steps, eval]
    refine (Accounts.shift m).bind fun v m _ => .read ?_
    have hmem : .charset cell set ∈ ns := h List.mem_cons_self
    exact (Accounts.world (.decode cell set) hmem rfl rfl).bindQuiet fun _ m => .done _ m
  | .string start, m, _ => by
    rw [steps, eval]
    exact (Accounts.shift m).bindQuiet fun v m => .read (.done _ m)
  | .compare op stored, m, h => by
    rw [steps, eval]
    exact accounts_compare (h List.mem_cons_self) m
  | .member target, m, _ => by
    rw [steps, eval]
    exact accounts_readMember target m
  | .unary op x, m, h => by
    rw [steps, eval]
    have hx : x.nodes ⊆ ns := (List.cons_subset.1 h).2
    exact (accounts_value i x m hx).bindQuiet fun v m => .reading _ m
  | .binary op left right, m, h => by
    rw [steps, eval]
    obtain ⟨hleft, hright⟩ := List.append_subset.1 (List.cons_subset.1 h).2
    refine (accounts_value i left m hleft).bind fun l m _ => ?_
    exact (accounts_value i right m hright).bindQuiet fun r m => .reading _ m
  | .boolean .or xs, m, h => by
    rw [steps, eval]
    exact accounts_until i true _ xs m (List.cons_subset.1 h).2
  | .boolean .and xs, m, h => by
    rw [steps, eval]
    exact accounts_until i false _ xs m (List.cons_subset.1 h).2
  | .boolean .xor xs, m, h => by
    rw [steps, eval]
    exact accounts_xor i _ xs m (List.cons_subset.1 h).2
  | .regex cell source flags, m, h => by
    rw [steps, eval]
    exact accounts_evalRegex (h List.mem_cons_self) m
  | .property name filter, m, h => by
    rw [steps, eval]
    obtain ⟨hmem, hfilter⟩ := List.cons_subset.1 h
    refine (accounts_readProperty hmem m).bind fun v m _ => ?_
    match filter with
    | none => exact .done v m
    | some .unset => exact .done v m
    | some (.nested p) => exact .filter v hmem (accounts_eval i p _ hfilter)
    | some (.literal u) =>
      cases u with
      | function f => exact .invoke f .undefined [v] m
      | _ => exact .done v m
  | .shift count x, m, h => by
    rw [steps, eval]
    refine (Accounts.skip count m).bind fun _ m _ => ?_
    exact accounts_value i x m (List.cons_subset.1 h).2
  | .function f receiver arity, m, h => by
    rw [steps, eval]
    have hmem : .function f receiver arity ∈ ns := h List.mem_cons_self
    exact (Accounts.take ⟨f, receiver, hmem⟩ m).bind fun args m _ => .invoke f receiver args m

theorem accounts_until (i : Interpreter) (stop : Bool) (last : Value) :
    ∀ (xs : List Operand) (m : Machine), Operand.allNodes xs ⊆ ns →
      Accounts i ns m (i.untilSteps stop xs m) (i.evalUntil stop last xs)
  | [], m, _ => by
    rw [untilSteps, evalUntil]
    exact .done last m
  | x :: rest, m, h => by
    rw [untilSteps, evalUntil]
    obtain ⟨hx, hrest⟩ := List.append_subset.1 h
    refine (accounts_value i x m hx).bind fun v m _ => ?_
    split
    · exact .done v m
    · exact accounts_until i stop v rest m hrest

theorem accounts_xor (i : Interpreter) (acc : Int64) :
    ∀ (xs : List Operand) (m : Machine), Operand.allNodes xs ⊆ ns →
      Accounts i ns m (i.xorSteps xs m) (i.evalXor acc xs)
  | [], m, _ => by
    rw [xorSteps, evalXor]
    exact .done _ m
  | x :: rest, m, h => by
    rw [xorSteps, evalXor]
    obtain ⟨hx, hrest⟩ := List.append_subset.1 h
    refine (accounts_value i x m hx).bind fun v m _ => .read ?_
    exact accounts_xor i _ rest m hrest

end

end Nodes

/-! ## Causes -/

/-- The errors that no step of an evaluation has of its own; a host callable can fail with them. -/
def EvalErrorKind.isForeign : EvalErrorKind → Bool
  | .notCallable _ => true
  | .thrown _ => true
  | .custom _ => true
  | _ => false

/-- The error is of a kind that no step has of its own, or says something else than its kind does. -/
def EvalError.IsForeign (e : EvalError) : Prop := e.kind.isForeign ∨ e ≠ .ofKind e.kind

/-- Why the step `s`, made in the world `w`, fails with an error and leaves the world `w'`. -/
inductive Cause (i : Interpreter) (ns : List Predicate) (w w' : World) (s : Step) :
    EvalError → Prop where
  /-- More was asked for than a cursor had that does not supply missing arguments. It is left at the
  end of its arguments. -/
  | underflow {n : Nat} : s.effect = .ask n → s.cursor.policy = .fail → s.cursor.remaining < n →
      s.left.rest = [] → Cause i ns w w' s (.argumentUnderflow n s.cursor.remaining)
  /-- A property node took a value without properties. -/
  | notObject {v : Value} {name : Option String} {filter : Option Operand} {c : Cursor} :
      s.effect = .inspect v → .property name filter ∈ ns → c.shift = (.ok v, s.cursor) →
      v.isObject = false → Cause i ns w w' s (.notObject v.typeName)
  /-- An instance test has something stored that is not a function. -/
  | notConstructor {v ctor : Value} : s.effect = .relate v ctor →
      .compare .instanceOf ctor ∈ ns → (∀ f, ctor ≠ .function f) →
      Cause i ns w w' s (.typeMismatch "function" ctor.typeName)
  /-- The pattern of a pattern node does not compile. -/
  | pattern {cell : RegexCell} {source : String} {flags : Regex.Flags} {reason : Regex.PatternError} :
      s.effect = .compile cell source flags → .regex cell source flags ∈ ns →
      (w.caches.prepare cell source flags).1 = .error reason →
      Cause i ns w w' s (.regexCompile source reason.message)
  /-- A host callable failed, with this very error. -/
  | host {f : Function} {receiver : Value} {args : List Value} {e : EvalError} :
      s.effect = .call f receiver args →
      i.host f.closure receiver args
        { w with calls := w.calls.push ⟨f, receiver, args, w.store⟩ } = .error (.error e) w' →
      Cause i ns w w' s e

section Causes

variable {i : Interpreter} {ns : List Predicate} {w w' : World} {s : Step} {e : EvalError}

theorem Action.run_silent_error {y : Action α} {f : Failure}
    (h : y.silent.run w = .error f w') : y.run w = .error f w' := by
  rw [Action.silent, EStateM.run_bind] at h
  cases hy : y.run w with
  | ok a w'' => rw [hy] at h; cases h
  | error g w'' => rw [hy] at h; cases h; rfl

theorem Action.run_ofExcept_error {x : Except EvalError α}
    (h : (Action.ofExcept x).run w = .error (.error e) w') : x = .error e := by
  cases x with
  | ok a => cases h
  | error e => cases h; rfl

theorem Store.instanceOf_error {s : Store} {v ctor : Value} (h : s.instanceOf v ctor = .error e) :
    (∀ f, ctor ≠ .function f) ∧ e = .typeMismatch "function" ctor.typeName := by
  unfold Store.instanceOf at h
  split at h
  · split at h <;> cases h
  · rename_i hctor
    cases h
    exact ⟨hctor, rfl⟩

theorem Action.run_prepare_error {cell : RegexCell} {source : String} {flags : Regex.Flags}
    (h : (Action.prepare cell source flags).run w = .error (.error e) w') :
    ∃ reason, (w.caches.prepare cell source flags).1 = .error reason ∧
      e = .regexCompile source reason.message := by
  rw [Action.run_prepare] at h
  cases hp : (w.caches.prepare cell source flags).1 with
  | ok program => rw [hp] at h; cases h
  | error reason => rw [hp] at h; cases h; exact ⟨reason, rfl, rfl⟩

/-- Only some steps can fail, each with errors of its own. -/
theorem cause_of_act (hground : s.Grounded ns) (hfail : (s.act i).run w = .error (.error e) w') :
    Cause i ns w w' s e := by
  obtain ⟨c, effect⟩ := s
  cases effect with
  | ask n =>
    have herror : (c.skip n).1 = .error e := Action.run_ofExcept_error hfail
    obtain ⟨hlt, rfl, hpolicy⟩ := (c.requested_skip n).refused e herror
    exact .underflow rfl hpolicy hlt (Cursor.rest_of_skip_gt hlt)
  | gather n =>
    simp only [Step.act] at hfail
    split at hfail <;> cases hfail
  | inspect v =>
    obtain ⟨⟨name, filter, hmem⟩, d, hshift⟩ := hground
    by_cases ho : v.isObject
    · simp only [Step.act, ho, if_true] at hfail
      cases hfail
    · simp only [Step.act, ho] at hfail
      cases hfail
      exact .notObject rfl hmem hshift (Bool.eq_false_iff.2 ho)
  | relate v ctor =>
    have herror : w.store.instanceOf v ctor = .error e :=
      Action.run_ofExcept_error (Action.run_silent_error hfail)
    obtain ⟨hctor, rfl⟩ := Store.instanceOf_error herror
    exact .notConstructor rfl hground hctor
  | decode cell set => cases hfail
  | compile cell source flags =>
    obtain ⟨reason, hreason, rfl⟩ := Action.run_prepare_error (Action.run_silent_error hfail)
    exact .pattern rfl hground hreason
  | capture spans => cases hfail
  | fill sink spans => cases hfail
  | call f receiver args => exact .host rfl (Action.run_silent_error hfail)
  | reject => cases hfail

/-- Errors that are not an evaluation's own come from a host callable. -/
theorem Cause.isCall (h : Cause i ns w w' s e) (he : e.IsForeign) :
    ∃ f receiver args, s.effect = .call f receiver args := by
  cases h with
  | host heffect _ => exact ⟨_, _, _, heffect⟩
  | underflow | notObject | notConstructor | pattern =>
    rcases he with hkind | hfields
    · cases hkind
    · exact absurd rfl hfields

end Causes

/-- **Provenance of errors.** When an evaluation fails with an error, this is the error of its last
step, and all the steps before were done: no host callable is called and no array filled after it.
The step is made at the cursor of the tree, which the evaluation leaves as the step does, or at that
of a property filter; and it is one of five:

* a request for more arguments than are left, to a cursor that does not supply them and is left at
  the end of its arguments;
* a property node's test of a value it has taken, which has no properties;
* an instance test with something stored that is not a function;
* the compilation of a pattern of the tree, filters included;
* a call of a host callable, which failed with this very error.

So errors of other kinds than the first four are those of a host callable, and so are errors with a
message of their own or a thrown value. A pattern node whose pattern does not compile leaves its
cursor alone, and a member node does not fail once it has its key. The tree may be incomplete: an
unset node is a fault, and not an error. -/
theorem error_provenance (i : Interpreter) (t : Predicate) (m : Machine) :
    (∀ e m', (i.eval t).run m = .error (.error e) m' →
      ∃ before point w, i.steps t m = before ++ [point] ∧
        (replay i before).run m.world = .ok () w ∧
        (point.act i).run w = .error (.error e) m'.world ∧
        point.Placed i t.nodes m.cursor m'.cursor ∧
        Cause i t.nodes w m'.world point e ∧
        (e.IsForeign → ∃ f receiver args, point.effect = .call f receiver args)) ∧
    (∀ cell source flags f w, (Action.prepare cell source flags).run m.world = .error f w →
      (i.eval (.regex cell source flags)).run m = .error f ⟨m.cursor, w⟩) ∧
    (∀ target v d, m.cursor.shift = (.ok v, d) →
      ∃ u, (i.eval (.member target)).run m = .ok u ⟨d, m.world⟩) := by
  refine ⟨fun e m' herr => ?_, fun cell source flags f w hprepare => ?_, fun target v d hkey => ?_⟩
  · obtain ⟨hgrounded, houtcome⟩ := accounts_eval i t m (List.Subset.refl t.nodes)
    rw [herr] at houtcome
    cases houtcome with
    | error before point w hsteps hdone hfail hplaced =>
      have hground : point.Grounded t.nodes := hgrounded point (by rw [hsteps]; simp)
      have hcause := cause_of_act hground hfail
      exact ⟨before, point, w, hsteps, hdone, hfail, hplaced, hcause, hcause.isCall⟩
  · have hcompile : (onWorld (Action.prepare cell source flags)).run m = .error f ⟨m.cursor, w⟩ := by
      simp only [EStateM.run] at hprepare
      simp only [onWorld, EStateM.run, hprepare]
    rw [eval, evalRegex, run_bind_error hcompile]
  · rw [eval]
    exact ⟨_, run_readMember target hkey⟩

/-- A host callable has been called, and a property of `null` is read. -/
theorem error_provenance_null :
    let f : Function := { name := "f", arity := 0, closure := ⟨0⟩ }
    let t : Predicate := .boolean .or [.literal (.function f), .nested (.property (some "k") none)]
    let m : Machine := ⟨.start [.null] .fail, {}⟩
    let m' : Machine := ⟨⟨[.null], 1, .fail⟩, { calls := #[⟨f, .undefined, [.null], {}⟩] }⟩
    (Interpreter.idle.eval t).run m = .error (.error (.notObject "null")) m' ∧
    ∃ before point w, before = [m.doing (.call f .undefined [.null]), m.doing (.ask 1)] ∧
      point = m'.doing (.inspect .null) ∧ Cause Interpreter.idle t.nodes w m'.world point
        (.notObject "null") := by
  intro f t m m'
  have herr : (Interpreter.idle.eval t).run m = .error (.error (.notObject "null")) m' := by rfl
  have hall : Interpreter.idle.steps t m =
      [m.doing (.call f .undefined [.null]), m.doing (.ask 1)] ++ [m'.doing (.inspect .null)] := by
    rfl
  obtain ⟨before, point, w, hsteps, -, -, -, hcause, -⟩ :=
    (error_provenance Interpreter.idle t m).1 _ _ herr
  rw [hall] at hsteps
  obtain ⟨hbefore, hpoint⟩ := List.append_inj' hsteps rfl
  obtain ⟨rfl, -⟩ := List.cons.inj hpoint
  exact ⟨herr, before, _, w, hbefore.symm, rfl, hcause⟩

end Criteria
