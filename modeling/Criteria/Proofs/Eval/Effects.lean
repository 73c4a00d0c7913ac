import Criteria.Proofs.Eval.Explanation

/-!
# What an evaluation does

The steps of an evaluation are, in order, the requests to its cursors, the tests that can fail, and
all that changes the world: caches filled, captures exported, host callables called. A step is noted
with the cursor at which it is made. Those of a property filter are among them.

* `Step.act` — what a step does to the world.
* `Interpreter.steps` — the steps of evaluating a tree, read off the walk like its events.
* `Accounts` — the steps account for an outcome: done one after another they change the world as it
  says, and a failure is the failure of the last one.
* `Accounts.bind` — the steps of two computations in sequence account for the sequence.
-/

set_option autoImplicit false

namespace Criteria

open Eval Interpreter

variable {α β : Type}

/-! ## Runs of simple actions -/

/-- The world with the record of a call. -/
def World.called (w : World) (f : Function) (receiver : Value) (args : List Value) : World :=
  { w with calls := w.calls.push ⟨f, receiver, args, w.store⟩ }

theorem Eval.run_onWorld (y : Action α) (m : Machine) :
    (onWorld y).run m = match y.run m.world with
      | .ok a w => .ok a ⟨m.cursor, w⟩
      | .error f w => .error f ⟨m.cursor, w⟩ := rfl

theorem Eval.run_shift (m : Machine) :
    shift.run m = match m.cursor.shift with
      | (.ok v, c) => .ok v ⟨c, m.world⟩
      | (.error e, c) => .error (.error e) ⟨c, m.world⟩ := by
  simp only [shift, onCursor, EStateM.run]
  cases m.cursor.shift with
  | mk r c => cases r <;> rfl

/-- A request that is granted. -/
theorem Eval.onCursor_ok {f : Cursor → Except EvalError α × Cursor} {a : α} {m m' : Machine}
    (h : (onCursor .error f).run m = .ok a m') : f m.cursor = (.ok a, m'.cursor) := by
  simp only [onCursor, EStateM.run] at h
  cases hf : f m.cursor with
  | mk r d =>
    rw [hf] at h
    cases r with
    | ok b => cases h; rfl
    | error e => cases h

/-! ## Steps -/

/-- What is done in a step. -/
inductive Effect where
  /-- Asks for arguments. -/
  | ask (n : Nat)
  /-- Makes a buffer of the arguments asked for. -/
  | gather (n : Nat)
  /-- Tests that an argument has properties to read. -/
  | inspect (v : Value)
  /-- Tests whether an argument is an instance of a constructor. -/
  | relate (v ctor : Value)
  /-- Decodes a character set. -/
  | decode (cell : CharsetCell) (set : String)
  /-- Compiles a pattern. -/
  | compile (cell : RegexCell) (source : String) (flags : Regex.Flags)
  /-- Makes an array of the captures of a match. -/
  | capture (spans : Spans)
  /-- Fills an array with the captures of a match. -/
  | fill (sink : ArrayRef) (spans : Spans)
  /-- Calls a host callable. -/
  | call (f : Function) (receiver : Value) (args : List Value)
  /-- Comes to an unset node. -/
  | reject

/-- An effect, and the cursor at which it takes place. -/
structure Step where
  cursor : Cursor
  effect : Effect

/-- A step at the cursor of the machine. -/
def Machine.doing (m : Machine) (e : Effect) : Step := ⟨m.cursor, e⟩

/-- An action for what it does to the world only. -/
def Action.silent (y : Action α) : Action Unit := do
  let _ ← y
  return ()

/-- The world that an action leaves, be it with a failure or not. -/
def Action.worldAfter (y : Action α) (w : World) : World :=
  match y.run w with
  | .ok _ w' => w'
  | .error _ w' => w'

theorem Action.worldAfter_silent (y : Action α) (w : World) :
    y.silent.worldAfter w = y.worldAfter w := by
  unfold worldAfter silent
  rw [EStateM.run_bind]
  cases y.run w <;> rfl

namespace Step

/-- The cursor after the step: a request moves it, even one that fails. -/
def left (s : Step) : Cursor :=
  match s.effect with
  | .ask n => (s.cursor.skip n).2
  | _ => s.cursor

/-- What the step does to the world. -/
def act (i : Interpreter) (s : Step) : Action Unit :=
  match s.effect with
  | .ask n => Action.ofExcept (s.cursor.skip n).1
  | .gather n => if Cursor.bufferCapacity < n then Action.fault .capacityOverflow else pure ()
  | .inspect v => if v.isObject then pure () else Action.raise (.notObject v.typeName)
  | .relate v ctor => do
    let related ← Action.read fun s => s.instanceOf v ctor
    (Action.ofExcept related).silent
  | .decode cell set => (Action.decode cell set).silent
  | .compile cell source flags => (Action.prepare cell source flags).silent
  | .capture spans =>
    (Action.change fun s => s.exportCaptures spans i.config.maxCaptures).silent
  | .fill sink spans =>
    Action.change fun s => ((), s.fillCaptures sink spans i.config.maxCaptures)
  | .call f receiver args => (Action.invoke i.host f receiver args).silent
  | .reject => Action.fault (.unsetNode .eval)

/-- The world after the step, be it with a failure or not. -/
def after (i : Interpreter) (s : Step) (w : World) : World :=
  match s.effect with
  | .decode cell set => { w with caches := (w.caches.decode cell set).2 }
  | .compile cell source flags => w.prepared cell source flags
  | .capture spans => { w with store := (w.store.exportCaptures spans i.config.maxCaptures).2 }
  | .fill sink spans => { w with store := w.store.fillCaptures sink spans i.config.maxCaptures }
  | .call f receiver args => (Action.invoke i.host f receiver args).worldAfter w
  | _ => w

theorem worldAfter_act (i : Interpreter) (s : Step) (w : World) :
    (s.act i).worldAfter w = s.after i w := by
  obtain ⟨c, effect⟩ := s
  cases effect with
  | ask n =>
    simp only [act, after, Action.worldAfter]
    cases (c.skip n).1 <;> rfl
  | gather n =>
    by_cases hn : Cursor.bufferCapacity < n
    · simp only [act, after, Action.worldAfter, if_pos hn]
      rfl
    · simp only [act, after, Action.worldAfter, if_neg hn]
      rfl
  | inspect v =>
    simp only [act, after, Action.worldAfter]
    cases v.isObject <;> rfl
  | relate v ctor =>
    have hrun : (Step.act i ⟨c, .relate v ctor⟩).run w =
        (Action.ofExcept (w.store.instanceOf v ctor)).silent.run w := rfl
    rw [Action.worldAfter, hrun]
    cases w.store.instanceOf v ctor <;> rfl
  | compile cell source flags =>
    rw [act, Action.worldAfter_silent, Action.worldAfter, Action.run_prepare]
    cases (w.caches.prepare cell source flags).1 <;> rfl
  | call f receiver args => exact Action.worldAfter_silent _ w
  | _ => rfl

end Step

/-- What some steps do to the world, one after another. -/
def replay (i : Interpreter) (steps : List Step) : Action Unit := steps.forM (Step.act i)

theorem replay_append (i : Interpreter) (before after : List Step) :
    replay i (before ++ after) = (do replay i before; replay i after) :=
  List.forM_append ..

theorem replay_singleton (i : Interpreter) (s : Step) : replay i [s] = s.act i :=
  bind_pure (s.act i)

theorem replay_cons (i : Interpreter) (s : Step) (rest : List Step) :
    replay i (s :: rest) = (do s.act i; replay i rest) := rfl

theorem replay_cons_ok {i : Interpreter} {s : Step} {w w' : World} (rest : List Step)
    (h : (s.act i).run w = .ok () w') :
    (replay i (s :: rest)).run w = (replay i rest).run w' := by
  rw [replay_cons, EStateM.run_bind, h]

theorem replay_append_ok {i : Interpreter} {before : List Step} {w w' : World} (after : List Step)
    (h : (replay i before).run w = .ok () w') :
    (replay i (before ++ after)).run w = (replay i after).run w' := by
  rw [replay_append, EStateM.run_bind, h]

/-- The steps of what follows, which are none when `x` fails. -/
def Eval.thenSteps (x : Eval α) (m : Machine) (steps : α → Machine → List Step) : List Step :=
  match x.run m with
  | .ok a m' => steps a m'
  | .error .. => []

namespace Interpreter

/-- The steps of taking arguments into a buffer. -/
def takeSteps (n : Nat) (m : Machine) : List Step :=
  m.doing (.ask n) :: (Eval.skip n).thenSteps m fun _ m => [m.doing (.gather n)]

/-- The steps of comparing an argument. -/
def compareSteps (op : CompareOp) (stored : Value) (m : Machine) : List Step :=
  m.doing (.ask 1) :: shift.thenSteps m fun v m =>
    match op with
    | .instanceOf => [m.doing (.relate v stored)]
    | _ => []

/-- The steps of exporting the captures of a match. -/
def exportSteps (i : Interpreter) (input : Value) (spans : Spans) (m : Machine) : List Step :=
  match m.cursor.peek with
  | some (.function callback) =>
    m.doing (.ask 1) :: shift.thenSteps m fun _ m =>
      m.doing (.capture spans) ::
        (onWorld (Action.change fun s => s.exportCaptures spans i.config.maxCaptures)).thenSteps m
          fun captures m => [m.doing (.call callback .null [captures, input])]
  | some (.array sink) =>
    m.doing (.ask 1) :: shift.thenSteps m fun _ m => [m.doing (.fill sink spans)]
  | _ => []

/-- The steps of a pattern node. -/
def regexSteps (i : Interpreter) (cell : RegexCell) (source : String) (flags : Regex.Flags)
    (m : Machine) : List Step :=
  m.doing (.compile cell source flags) ::
    (onWorld (Action.prepare cell source flags)).thenSteps m fun program m =>
      m.doing (.ask 1) :: shift.thenSteps m fun input m =>
        match program.search (m.world.store.inputBytes input) flags.sticky with
        | none => []
        | some spans => i.exportSteps input spans m

/-- The steps of reading a property. -/
def readSteps (name : Option String) (m : Machine) : List Step :=
  m.doing (.ask 1) :: shift.thenSteps m fun object m =>
    m.doing (.inspect object) ::
      if object.isObject ∧ name = none then [m.doing (.ask 1)] else []

mutual

/-- The steps of an operand slot. -/
def valueSteps (i : Interpreter) : Operand → Machine → List Step
  | .unset, m => [m.doing (.ask 1)]
  | .nested p, m => i.steps p m
  | .literal (.function f), m => [m.doing (.call f .undefined m.cursor.rest)]
  | .literal _, _ => []

/-- The steps of a tree. -/
def steps (i : Interpreter) : Predicate → Machine → List Step
  | .unset, m => [m.doing .reject]
  | .type _, m => [m.doing (.ask 1)]
  | .charset cell set, m =>
    m.doing (.ask 1) :: shift.thenSteps m fun _ m => [m.doing (.decode cell set)]
  | .string _, m => [m.doing (.ask 1)]
  | .compare op stored, m => compareSteps op stored m
  | .member _, m => [m.doing (.ask 1)]
  | .unary _ x, m => i.valueSteps x m
  | .binary _ left right, m =>
    i.valueSteps left m ++ (i.value left).thenSteps m fun _ m => i.valueSteps right m
  | .boolean .or xs, m => i.untilSteps true xs m
  | .boolean .and xs, m => i.untilSteps false xs m
  | .boolean .xor xs, m => i.xorSteps xs m
  | .regex cell source flags, m => i.regexSteps cell source flags m
  | .property name filter, m =>
    readSteps name m ++ (readProperty name).thenSteps m fun v m =>
      match filter with
      | some (.nested p) => i.steps p ⟨.start [v] i.config.underflow, m.world⟩
      | some (.literal (.function f)) => [m.doing (.call f .undefined [v])]
      | _ => []
  | .shift count x, m =>
    m.doing (.ask count) :: (Eval.skip count).thenSteps m fun _ m => i.valueSteps x m
  | .function f receiver arity, m =>
    takeSteps arity m ++ (take arity).thenSteps m fun args m => [m.doing (.call f receiver args)]

/-- The steps of operands up to the first one whose truth is `stop`. -/
def untilSteps (i : Interpreter) (stop : Bool) : List Operand → Machine → List Step
  | [], _ => []
  | x :: rest, m =>
    i.valueSteps x m ++ (i.value x).thenSteps m fun v m =>
      if v.isTruthy = stop then [] else i.untilSteps stop rest m

/-- The steps of all of some operands. -/
def xorSteps (i : Interpreter) : List Operand → Machine → List Step
  | [], _ => []
  | x :: rest, m =>
    i.valueSteps x m ++ (i.value x).thenSteps m fun _ m => i.xorSteps rest m

end

end Interpreter

/-! ## The nodes behind the steps -/

mutual

/-- The nodes of an operand. -/
def Operand.nodes : Operand → List Predicate
  | .unset => []
  | .nested p => p :: p.inner
  | .literal _ => []

/-- The nodes in the operands of a node and in its filter. -/
def Predicate.inner : Predicate → List Predicate
  | .unary _ x => x.nodes
  | .binary _ left right => left.nodes ++ right.nodes
  | .boolean _ xs => Operand.allNodes xs
  | .property _ (some x) => x.nodes
  | .shift _ x => x.nodes
  | _ => []

/-- The nodes of some operands. -/
def Operand.allNodes : List Operand → List Predicate
  | [] => []
  | x :: rest => x.nodes ++ Operand.allNodes rest

end

/-- All nodes of a tree, those of filters included. -/
def Predicate.nodes (p : Predicate) : List Predicate := p :: p.inner

/-- Positions in the same arguments, under the same policy. -/
structure Cursor.SameList (c d : Cursor) : Prop where
  args : c.args = d.args
  policy : c.policy = d.policy

theorem Cursor.SameList.refl (c : Cursor) : c.SameList c := ⟨rfl, rfl⟩

theorem Cursor.SameList.trans {c d e : Cursor} (h : c.SameList d) (h' : d.SameList e) :
    c.SameList e :=
  ⟨h.args.trans h'.args, h.policy.trans h'.policy⟩

namespace Step

/-- The step is made by a node that is among `ns`. -/
def Grounded (ns : List Predicate) (s : Step) : Prop :=
  match s.effect with
  | .inspect v =>
    (∃ name filter, .property name filter ∈ ns) ∧ ∃ c : Cursor, c.shift = (.ok v, s.cursor)
  | .gather n =>
    (∃ f receiver, .function f receiver n ∈ ns) ∧ ∃ c : Cursor, c.skip n = (.ok (), s.cursor)
  | .relate _ ctor => .compare .instanceOf ctor ∈ ns
  | .decode cell set => .charset cell set ∈ ns
  | .compile cell source flags => .regex cell source flags ∈ ns
  | .reject => .unset ∈ ns
  | _ => True

/-- Where the last step of a failed evaluation is made: at the cursor of the tree, which is left as
the step leaves it, or at the cursor of a property filter. -/
inductive Placed (i : Interpreter) (ns : List Predicate) (own last : Cursor) (s : Step) : Prop where
  | shared : s.cursor.SameList own → last = s.left → Placed i ns own last s
  | filter {name : Option String} {p : Predicate} (v : Value) :
      .property name (some (.nested p)) ∈ ns →
      s.cursor.SameList (.start [v] i.config.underflow) → Placed i ns own last s

end Step

/-! ## Steps account for outcomes -/

/-- What some steps say of an outcome. After a value, they have all been done. After a failure, the
last one failed, and those before it have been done. -/
inductive Account (i : Interpreter) (ns : List Predicate) (m : Machine) (steps : List Step) :
    EStateM.Result Failure Machine α → Prop where
  | ok (a : α) {m' : Machine} : (replay i steps).run m.world = .ok () m'.world →
      m'.cursor.SameList m.cursor → Account i ns m steps (.ok a m')
  | error (before : List Step) (point : Step) (w : World) {f : Failure} {m' : Machine} :
      steps = before ++ [point] → (replay i before).run m.world = .ok () w →
      (point.act i).run w = .error f m'.world → point.Placed i ns m.cursor m'.cursor →
      Account i ns m steps (.error f m')

/-- The steps are made by nodes among `ns`, and account for the outcome of `x`. -/
structure Accounts (i : Interpreter) (ns : List Predicate) (m : Machine) (steps : List Step)
    (x : Eval α) : Prop where
  grounded : ∀ s ∈ steps, s.Grounded ns
  outcome : Account i ns m steps (x.run m)

namespace Accounts

variable {i : Interpreter} {ns : List Predicate} {m : Machine} {es : List Step} {e : Effect}

theorem done (a : α) (m : Machine) : Accounts i ns m [] (pure a : Eval α) :=
  ⟨fun _ hs => absurd hs List.not_mem_nil, .ok a rfl (.refl _)⟩

/-- Equal outcomes have the same account. -/
theorem congr {x y : Eval α} (h : x.run m = y.run m) (hy : Accounts i ns m es y) :
    Accounts i ns m es x :=
  ⟨hy.grounded, h ▸ hy.outcome⟩

theorem bind {x : Eval α} {f : α → Eval β} {fs : α → Machine → List Step}
    (hx : Accounts i ns m es x)
    (hf : ∀ a m', x.run m = .ok a m' → Accounts i ns m' (fs a m') (f a)) :
    Accounts i ns m (es ++ x.thenSteps m fs) (x >>= f) := by
  obtain ⟨hgrounded, houtcome⟩ := hx
  unfold thenSteps
  cases h : x.run m with
  | ok a m' =>
    show Accounts i ns m (es ++ fs a m') (x >>= f)
    rw [h] at houtcome
    obtain ⟨hgrounded', houtcome'⟩ := hf a m' h
    refine ⟨fun s hs => (List.mem_append.1 hs).elim (hgrounded s) (hgrounded' s), ?_⟩
    rw [run_bind_ok h]
    cases houtcome with
    | ok a hdone hsame =>
      -- the steps of `f a` start in the world that the steps of `x` lead to
      have happend : ∀ ss, (replay i (es ++ ss)).run m.world = (replay i ss).run m'.world := by
        intro ss
        rw [replay_append, EStateM.run_bind, hdone]
      generalize (f a).run m' = result at houtcome'
      cases houtcome' with
      | ok b hdone' hsame' => exact .ok b ((happend _).trans hdone') (hsame'.trans hsame)
      | error before point w hsteps hdone' hfail hplaced =>
        refine .error (es ++ before) point w ?_ ((happend _).trans hdone') hfail ?_
        · rw [hsteps, List.append_assoc]
        · cases hplaced with
          | shared hon hlast => exact .shared (hon.trans hsame) hlast
          | filter v hmem hon => exact .filter v hmem hon
  | error f m' =>
    rw [h] at houtcome
    rw [List.append_nil]
    refine ⟨hgrounded, ?_⟩
    rw [run_bind_error h]
    cases houtcome with
    | error before point w hsteps hdone hfail hplaced =>
      exact .error before point w hsteps hdone hfail hplaced

/-- What follows may take no steps. -/
theorem bindQuiet {x : Eval α} {f : α → Eval β} (hx : Accounts i ns m es x)
    (hf : ∀ a m', Accounts i ns m' [] (f a)) : Accounts i ns m es (x >>= f) := by
  have h := hx.bind fun a m' _ => hf a m'
  have hnone : x.thenSteps m (fun _ _ => []) = [] := by unfold thenSteps; split <;> rfl
  rwa [hnone, List.append_nil] at h

/-- What is read off the store takes no step. -/
theorem read {f : Store → α} {g : α → Eval β} (h : Accounts i ns m es (g (f m.world.store))) :
    Accounts i ns m es (onWorld (Action.read f) >>= g) :=
  congr (y := g (f m.world.store)) rfl h

theorem reading (f : Store → α) (m : Machine) : Accounts i ns m [] (onWorld (Action.read f)) :=
  congr (y := pure (f m.world.store)) rfl (.done _ m)

/-- A request to the cursor of the machine. -/
theorem request {f : Cursor → Except EvalError α × Cursor} {g : Unit → α} (n : Nat)
    (h : f m.cursor = ((m.cursor.skip n).1.map g, (m.cursor.skip n).2)) :
    Accounts i ns m [m.doing (.ask n)] (onCursor .error f) := by
  refine ⟨fun s hs => ?_, ?_⟩
  · rw [List.mem_singleton.1 hs]
    trivial
  have hmoved := (m.cursor.requested_skip n).moved
  have hact : (m.doing (.ask n)).act i = Action.ofExcept (m.cursor.skip n).1 := rfl
  have hleft : (m.doing (.ask n)).left = (m.cursor.skip n).2 := rfl
  simp only [onCursor, EStateM.run, h]
  cases hskip : m.cursor.skip n with
  | mk r d =>
    rw [hskip] at hmoved hact hleft
    cases r with
    | ok u =>
      refine .ok (g u) ?_ ?_
      · rw [replay_singleton, hact]; rfl
      · subst hmoved; exact ⟨rfl, rfl⟩
    | error e =>
      refine .error [] _ m.world rfl rfl ?_ (.shared (.refl _) hleft.symm)
      rw [hact]; rfl

theorem shift (m : Machine) : Accounts i ns m [m.doing (.ask 1)] Eval.shift :=
  request 1 m.cursor.shift_eq_skip

theorem skip (n : Nat) (m : Machine) :
    Accounts i ns m [m.doing (.ask n)] (Eval.skip n) := by
  refine request (g := id) n ?_
  rw [Except.map_id]
  rfl

/-- A step that leaves the cursor alone. -/
theorem world {y : Action α} (e : Effect) (hground : (m.doing e).Grounded ns)
    (hleft : (m.doing e).left = m.cursor)
    (h : ((m.doing e).act i).run m.world = y.silent.run m.world) :
    Accounts i ns m [m.doing e] (onWorld y) := by
  refine ⟨fun s hs => ?_, ?_⟩
  · rw [List.mem_singleton.1 hs]
    exact hground
  simp only [Action.silent, EStateM.run_bind, EStateM.run_pure] at h
  simp only [EStateM.run, onWorld] at h ⊢
  cases hy : y m.world with
  | ok a w =>
    rw [hy] at h
    refine .ok a ?_ (.refl _)
    rw [replay_singleton]
    exact h
  | error f w =>
    rw [hy] at h
    exact .error [] _ m.world rfl rfl h (.shared (.refl _) hleft.symm)

/-- Arguments are asked for and then made a buffer of. -/
theorem take {n : Nat} (hmem : ∃ f receiver, .function f receiver n ∈ ns) (m : Machine) :
    Accounts i ns m (takeSteps n m) (Eval.take n) := by
  refine congr (run_take n m) ((skip n m).bind fun _ m' hskip =>
    world (.gather n) ⟨hmem, m.cursor, onCursor_ok hskip⟩ rfl ?_)
  simp only [Step.act, Machine.doing, Action.gather]
  split <;> rfl

theorem invoke (f : Function) (receiver : Value) (args : List Value) (m : Machine) :
    Accounts i ns m [m.doing (.call f receiver args)] (i.invoke f receiver args) :=
  world _ trivial rfl rfl

/-- A test that is passed. -/
theorem passed {x : Eval α} (hground : (m.doing e).Grounded ns)
    (hpass : ((m.doing e).act i).run m.world = .ok () m.world) (hx : Accounts i ns m es x) :
    Accounts i ns m (m.doing e :: es) x := by
  have htest : Accounts i ns m [m.doing e] (pure () : Eval Unit) := by
    refine ⟨fun s hs => ?_, .ok () ?_ (.refl _)⟩
    · rw [List.mem_singleton.1 hs]
      exact hground
    · rw [replay_singleton]
      exact hpass
  have hthen : ∀ a m', (pure () : Eval Unit).run m = .ok a m' → Accounts i ns m' es x := by
    intro a m' hm'
    cases hm'
    exact hx
  exact htest.bind hthen

/-- The steps of a filter are steps of the tree. -/
theorem filter {name : Option String} {p : Predicate} {x : Eval α} (v : Value)
    (hmem : .property name (some (.nested p)) ∈ ns)
    (hx : Accounts i ns ⟨.start [v] i.config.underflow, m.world⟩ es x) :
    Accounts i ns m es (withCursor (.start [v] i.config.underflow) x) := by
  obtain ⟨hgrounded, houtcome⟩ := hx
  refine ⟨hgrounded, ?_⟩
  simp only [withCursor, EStateM.run] at houtcome ⊢
  generalize x ⟨.start [v] i.config.underflow, m.world⟩ = result at *
  cases houtcome with
  | ok a hdone _ => exact .ok a hdone (.refl _)
  | error before point w hsteps hdone hfail hplaced =>
    refine .error before point w hsteps hdone hfail ?_
    cases hplaced with
    | shared hon _ => exact .filter v hmem hon
    | filter u hmem' hon => exact .filter u hmem' hon

/-- The steps of an evaluation lead to the world that it leaves. -/
theorem worldAfter_replay {x : Eval α} (h : Accounts i ns m es x) :
    (replay i es).worldAfter m.world = (x.machineAfter m).world := by
  have houtcome := h.outcome
  unfold machineAfter Action.worldAfter
  generalize x.run m = result at *
  cases houtcome with
  | ok a hdone _ => rw [hdone]
  | error before point w hsteps hdone hfail _ =>
    rw [hsteps, replay_append_ok _ hdone, replay_singleton, hfail]

end Accounts

end Criteria
