import Criteria.Proofs.Eval.Provenance

/-!
# Who has to mend a failure

The category of an error is read off its kind. A kind that is raised for one reason only is told apart
from the others, and so is its reason.

* `Step.Uncompilable`, `Step.Unconstructible` — steps that fail for what is stored in the tree.
* `Step.Unsuited` — a step that fails for its arguments.
* `error_category` — the categories of a failed evaluation and the steps that they stand for. A stored
  value that is no constructor counts as unsuitable input.
-/

set_option autoImplicit false

namespace Criteria

open Eval Interpreter

/-! ## Reasons -/

namespace Step

variable (ns : List Predicate) (s : Step)

/-- The step compiles a pattern of a node among `ns`, and this pattern does not compile. -/
def Uncompilable (w : World) : Prop :=
  ∃ cell source flags reason, s.effect = .compile cell source flags ∧
    .regex cell source flags ∈ ns ∧ (w.caches.prepare cell source flags).1 = .error reason

/-- The step is the instance test of a node among `ns`, which has something else than a function. -/
def Unconstructible : Prop :=
  ∃ v ctor, s.effect = .relate v ctor ∧ .compare .instanceOf ctor ∈ ns ∧ ∀ f, ctor ≠ .function f

/-- The step asks for more arguments than there are, or reads a property of an argument without
properties. -/
def Unsuited : Prop :=
  (∃ n, s.effect = .ask n ∧ s.cursor.policy = .fail ∧ s.cursor.remaining < n) ∨
    ∃ v name filter, s.effect = .inspect v ∧ .property name filter ∈ ns ∧ v.isObject = false

/-- The step calls a host callable. -/
def IsCall : Prop := ∃ f receiver args, s.effect = .call f receiver args

end Step

/-! ## Categories -/

/-- The category of an error whose cause is a step of the evaluation's own. -/
structure Categorised (ns : List Predicate) (w : World) (s : Step) (e : EvalError) : Prop where
  malformed_iff : e.category = .malformedPredicate ↔ s.Uncompilable ns w
  badInput_iff : e.category = .badInput ↔ s.Unsuited ns ∨ s.Unconstructible ns
  not_host : e.category ≠ .host

section Categories

variable {i : Interpreter} {ns : List Predicate} {w w' : World} {s : Step} {e : EvalError}

/-- An error that is bad input, raised by a step that compiles nothing. -/
theorem Categorised.ofBadInput (he : e.category = .badInput)
    (hcompile : ∀ cell source flags, s.effect ≠ .compile cell source flags)
    (hs : s.Unsuited ns ∨ s.Unconstructible ns) : Categorised ns w s e where
  malformed_iff := by
    refine iff_of_false ?_ ?_
    · rw [he]
      decide
    · rintro ⟨cell, source, flags, -, heffect, -, -⟩
      exact hcompile cell source flags heffect
  badInput_iff := iff_of_true he hs
  not_host := by
    rw [he]
    decide

/-- An error that is a malformed predicate, raised by the compilation of a pattern. -/
theorem Categorised.ofMalformed (he : e.category = .malformedPredicate)
    (hs : s.Uncompilable ns w) : Categorised ns w s e where
  malformed_iff := iff_of_true he hs
  badInput_iff := by
    obtain ⟨cell, source, flags, -, heffect, -, -⟩ := hs
    refine iff_of_false ?_ ?_
    · rw [he]
      decide
    · rintro ((⟨n, hask, -, -⟩ | ⟨v, name, filter, hinspect, -, -⟩) | ⟨v, ctor, hrelate, -, -⟩)
      · rw [heffect] at hask; cases hask
      · rw [heffect] at hinspect; cases hinspect
      · rw [heffect] at hrelate; cases hrelate
  not_host := by
    rw [he]
    decide

/-- Unless a host callable failed, the category of the error goes by what its step did. -/
theorem Cause.categorised (h : Cause i ns w w' s e) : s.IsCall ∨ Categorised ns w s e := by
  cases h with
  | underflow heffect hpolicy hlt _ =>
    refine .inr (.ofBadInput rfl (fun _ _ _ h => ?_) (.inl (.inl ⟨_, heffect, hpolicy, hlt⟩)))
    rw [heffect] at h; cases h
  | notObject heffect hmem _ hobject =>
    refine .inr (.ofBadInput rfl (fun _ _ _ h => ?_) (.inl (.inr ⟨_, _, _, heffect, hmem, hobject⟩)))
    rw [heffect] at h; cases h
  | notConstructor heffect hmem hctor =>
    refine .inr (.ofBadInput rfl (fun _ _ _ h => ?_) (.inr ⟨_, _, heffect, hmem, hctor⟩))
    rw [heffect] at h; cases h
  | pattern heffect hmem hreason =>
    exact .inr (.ofMalformed rfl ⟨_, _, _, _, heffect, hmem, hreason⟩)
  | host heffect _ => exact .inl ⟨_, _, _, heffect⟩

end Categories

/-! ## Nodes that fail whatever their arguments -/

section Nodes

variable (i : Interpreter) (m : Machine)

/-- A pattern that does not compile. -/
theorem run_regex_of_error {cell : RegexCell} {source : String} {flags : Regex.Flags}
    {reason : Regex.PatternError} (h : (m.world.caches.prepare cell source flags).1 = .error reason) :
    (i.eval (.regex cell source flags)).run m =
      .error (.error (.regexCompile source reason.message))
        ⟨m.cursor, m.world.prepared cell source flags⟩ := by
  have hprepare : (onWorld (Action.prepare cell source flags)).run m =
      .error (.error (.regexCompile source reason.message))
        ⟨m.cursor, m.world.prepared cell source flags⟩ := by
    rw [run_onWorld, Action.run_prepare, h]
  rw [eval, evalRegex, run_bind_error hprepare]

/-- An instance test with something else than a function. -/
theorem run_instanceOf_of_not_function {ctor : Value} (h : ∀ f, ctor ≠ .function f) {v : Value}
    {d : Cursor} (hshift : m.cursor.shift = (.ok v, d)) :
    (i.eval (.compare .instanceOf ctor)).run m =
      .error (.error (.typeMismatch "function" ctor.typeName)) ⟨d, m.world⟩ := by
  have hrelate : m.world.store.instanceOf v ctor =
      .error (.typeMismatch "function" ctor.typeName) := by
    cases ctor with
    | function f => exact absurd rfl (h f)
    | _ => rfl
  have hrun := run_shift m
  rw [hshift] at hrun
  rw [eval, Interpreter.compare, run_bind_ok hrun]
  show (onWorld (Action.ofExcept (m.world.store.instanceOf v ctor)) >>= _ : Eval Value).run _ = _
  rw [hrelate]
  rfl

end Nodes

/-- **Whose fault an error is.** The last step of an evaluation that fails with an error tells its
category, unless the step calls a host callable. The predicate is malformed exactly when the step
compiles a pattern that does not compile, and the input is bad exactly when the arguments are too few,
or have no properties to read, or when an instance test has something stored that is no function.

The first and the last of these failures occur whatever the arguments are: a node with a pattern that
does not compile fails before it takes an argument, and an instance test without a function fails on
every argument that it gets. Only the first is put down to the predicate. -/
theorem error_category (i : Interpreter) (t : Predicate) (m : Machine) :
    (∀ e m', (i.eval t).run m = .error (.error e) m' →
      ∃ before point w, i.steps t m = before ++ [point] ∧
        (replay i before).run m.world = .ok () w ∧
        (point.act i).run w = .error (.error e) m'.world ∧
        (point.IsCall ∨ Categorised t.nodes w point e)) ∧
    (∀ cell source flags reason, (m.world.caches.prepare cell source flags).1 = .error reason →
      ∃ e m', (i.eval (.regex cell source flags)).run m = .error (.error e) m' ∧
        e.category = .malformedPredicate) ∧
    (∀ ctor : Value, (∀ f, ctor ≠ .function f) → ∀ v d, m.cursor.shift = (.ok v, d) →
      ∃ e m', (i.eval (.compare .instanceOf ctor)).run m = .error (.error e) m' ∧
        e.category = .badInput) := by
  refine ⟨fun e m' herr => ?_, fun cell source flags reason h => ?_, fun ctor h v d hshift => ?_⟩
  · obtain ⟨hgrounded, houtcome⟩ := accounts_eval i t m (List.Subset.refl t.nodes)
    rw [herr] at houtcome
    cases houtcome with
    | error before point w hsteps hdone hfail _ =>
      have hground : point.Grounded t.nodes := hgrounded point (by rw [hsteps]; simp)
      exact ⟨before, point, w, hsteps, hdone, hfail, (cause_of_act hground hfail).categorised⟩
  · exact ⟨_, _, run_regex_of_error i m h, rfl⟩
  · exact ⟨_, _, run_instanceOf_of_not_function i m h hshift, rfl⟩

/-- A property of a number is read, next to a pattern that does not compile and an instance test with a
number. -/
theorem error_category_number :
    let t : Predicate := .property (some "k") none
    let m : Machine := ⟨.start [.int 1] .fail, {}⟩
    (∃ m', (Interpreter.idle.eval t).run m = .error (.error (.notObject "number")) m') ∧
      (∃ point w, point.IsCall ∨ Categorised t.nodes w point (.notObject "number")) ∧
      (∃ reason, (m.world.caches.prepare ⟨0⟩ "(" {}).1 = .error reason) ∧
      (∃ e m', (Interpreter.idle.eval (.regex ⟨0⟩ "(" {})).run m = .error (.error e) m' ∧
        e.category = .malformedPredicate) ∧
      (∀ f, Value.int 5 ≠ .function f) ∧ m.cursor.shift = (.ok (.int 1), ⟨[.int 1], 1, .fail⟩) ∧
      ∃ e m', (Interpreter.idle.eval (.compare .instanceOf (.int 5))).run m = .error (.error e) m' ∧
        e.category = .badInput := by
  intro t m
  obtain ⟨hlast, hpattern, hinstance⟩ := error_category Interpreter.idle t m
  have herr : ∃ m', (Interpreter.idle.eval t).run m =
      .error (.error (.notObject "number")) m' := ⟨_, rfl⟩
  have hreason : ∃ reason, (m.world.caches.prepare ⟨0⟩ "(" {}).1 = .error reason := ⟨_, rfl⟩
  have hshift : m.cursor.shift = (.ok (.int 1), ⟨[.int 1], 1, .fail⟩) := rfl
  have hctor : ∀ f, Value.int 5 ≠ .function f := fun f h => by cases h
  obtain ⟨m', hm'⟩ := herr
  obtain ⟨reason, h⟩ := hreason
  obtain ⟨-, point, w, -, -, -, hcategory⟩ := hlast _ m' hm'
  exact ⟨⟨m', hm'⟩, ⟨point, w, hcategory⟩, ⟨reason, h⟩, hpattern _ _ _ reason h, hctor, hshift,
    hinstance _ hctor _ _ hshift⟩

/-- An instance test with a number: no argument makes it succeed, and yet the input is to blame. -/
theorem constructor_is_bad_input :
    let t : Predicate := .compare .instanceOf (.int 5)
    let e : EvalError := .typeMismatch "function" "number"
    t.isComplete ∧ e.category = .badInput ∧
      ∀ v rest policy w, (Interpreter.idle.eval t).run ⟨.start (v :: rest) policy, w⟩ =
        .error (.error e) ⟨⟨v :: rest, 1, policy⟩, w⟩ := by
  intro t e
  have hctor : ∀ f, Value.int 5 ≠ .function f := fun f h => by cases h
  refine ⟨rfl, rfl, fun v rest policy w => ?_⟩
  exact run_instanceOf_of_not_function _ _ hctor rfl

end Criteria
