import Criteria.Proofs.Eval.Events

/-!
# Events explain outcomes

* `Explains.bind` — the events of two steps in sequence explain the sequence.
* `explains_eval` — the events of a tree explain the outcome of evaluating it, from every machine.

The proof follows the evaluator: one lemma for each kind of step, and an induction over the tree.
-/

set_option autoImplicit false

namespace Criteria

open Eval Interpreter

variable {α β : Type}

/-! ## Steps -/

/-- Makes a buffer of `n` values. -/
def Action.gather (n : Nat) (vs : List Value) : Action (List Value) :=
  if Cursor.bufferCapacity < n then fault .capacityOverflow else pure vs

theorem EvalError.not_isUnderflow_notObject (got : String) : ¬ (notObject got).IsUnderflow := by
  rintro ⟨_, _, ⟨⟩⟩

/-- No outcome of the action is a want of arguments. -/
def Action.IsQuiet (y : Action α) : Prop :=
  ∀ w e w', y w = .error (.error e) w' → ¬ e.IsUnderflow

theorem Action.isQuiet_read (f : Store → α) : (Action.read f).IsQuiet := by
  intro w e w' h; cases h

theorem Action.isQuiet_change (f : Store → α × Store) : (Action.change f).IsQuiet := by
  intro w e w' h; cases h

theorem Action.isQuiet_decode (cell : CharsetCell) (set : String) :
    (Action.decode cell set).IsQuiet := by
  intro w e w' h; cases h

theorem Action.isQuiet_fault (f : Fault) : (Action.fault f : Action α).IsQuiet := by
  intro w e w' h; cases h

theorem Action.isQuiet_raise {e : EvalError} (h : ¬ e.IsUnderflow) :
    (Action.raise e : Action α).IsQuiet := by
  intro w e w' h'
  cases h'
  exact h

theorem Action.isQuiet_ofExcept {x : Except EvalError α}
    (h : ∀ e, x = .error e → ¬ e.IsUnderflow) : (Action.ofExcept x).IsQuiet := by
  cases x with
  | ok a => intro w e w' h'; cases h'
  | error e => exact Action.isQuiet_raise (h e rfl)

theorem Action.isQuiet_gather (n : Nat) (vs : List Value) : (Action.gather n vs).IsQuiet := by
  intro w e w' h
  unfold gather at h
  split at h <;> cases h

/-- The world after a pattern was prepared. -/
def World.prepared (w : World) (cell : RegexCell) (source : String) (flags : Regex.Flags) : World :=
  { w with caches := (w.caches.prepare cell source flags).2 }

/-- What preparing a pattern comes to. -/
theorem Action.run_prepare (cell : RegexCell) (source : String) (flags : Regex.Flags) (w : World) :
    (Action.prepare cell source flags).run w =
      match (w.caches.prepare cell source flags).1 with
      | .ok program => .ok program (w.prepared cell source flags)
      | .error e =>
        .error (.error (.regexCompile source e.message)) (w.prepared cell source flags) := by
  have hrun : (Action.prepare cell source flags).run w =
      (match (w.caches.prepare cell source flags).1 with
        | .ok program => pure program
        | .error e => Action.raise (.regexCompile source e.message) : Action Regex.Program).run
        (w.prepared cell source flags) := rfl
  rw [hrun]
  cases (w.caches.prepare cell source flags).1 <;> rfl

theorem Action.isQuiet_prepare (cell : RegexCell) (source : String) (flags : Regex.Flags) :
    (Action.prepare cell source flags).IsQuiet := by
  intro w e w' h
  have hrun : (Action.prepare cell source flags).run w = .error (.error e) w' := h
  rw [Action.run_prepare] at hrun
  cases hp : (w.caches.prepare cell source flags).1 <;> rw [hp] at hrun <;> cases hrun
  rintro ⟨_, _, ⟨⟩⟩

theorem Eval.run_bind_ok {x : Eval α} {f : α → Eval β} {a : α} {m m' : Machine}
    (h : x.run m = .ok a m') : (x >>= f).run m = (f a).run m' := by
  rw [EStateM.run_bind, h]

theorem Eval.run_bind_error {x : Eval α} {f : α → Eval β} {e : Failure} {m m' : Machine}
    (h : x.run m = .error e m') : (x >>= f).run m = .error e m' := by
  rw [EStateM.run_bind, h]

/-- The step leaves the cursor alone. -/
def Eval.KeepsCursor (x : Eval α) : Prop := ∀ m, (x.machineAfter m).cursor = m.cursor

theorem Eval.keepsCursor_onWorld (y : Action α) : (onWorld y).KeepsCursor := by
  intro m
  simp only [machineAfter, onWorld, EStateM.run]
  cases y m.world <;> rfl

theorem Eval.keepsCursor_withCursor (c : Cursor) (x : Eval α) : (withCursor c x).KeepsCursor := by
  intro m
  simp only [machineAfter, withCursor, EStateM.run]
  cases x { m with cursor := c } <;> rfl

theorem Eval.KeepsCursor.bind {x : Eval α} {f : α → Eval β} (hx : x.KeepsCursor)
    (hf : ∀ a, (f a).KeepsCursor) : (x >>= f).KeepsCursor := by
  intro m
  have hm := hx m
  unfold machineAfter at *
  cases h : x.run m with
  | ok a m' =>
    rw [run_bind_ok h]
    rw [h] at hm
    exact (hf a m').trans hm
  | error e m' =>
    rw [run_bind_error h]
    rwa [h] at hm

/-- Taking arguments is skipping them and making a buffer of them. -/
theorem Eval.run_take (n : Nat) (m : Machine) : (take n).run m =
    (Eval.skip n >>= fun _ => onWorld (Action.gather n (m.cursor.window n))).run m := by
  rw [EStateM.run_bind]
  simp only [take, Eval.skip, onCursor, EStateM.run, m.cursor.take_eq]
  cases m.cursor.skip n with
  | mk outcome c =>
    cases outcome with
    | error e => rfl
    | ok u =>
      by_cases hn : Cursor.bufferCapacity < n
      · simp only [if_pos hn, onWorld, Action.gather]
        rfl
      · simp only [if_neg hn, onWorld, Action.gather]
        rfl

namespace Explains

variable {m : Machine}

theorem done (a : α) (m : Machine) : Explains m [] (pure a : Eval α) :=
  ⟨.done _, fun _ _ => by simp, nofun⟩

theorem quiet {y : Action α} (hy : y.IsQuiet) (m : Machine) : Explains m [] (onWorld y) := by
  refine ⟨by rw [keepsCursor_onWorld]; exact .done _, fun _ _ => by simp, fun h he => ?_⟩
  simp only [onWorld, EStateM.run] at h
  split at h
  · cases h
  · rename_i hw
    cases h
    exact absurd he (hy _ _ _ hw)

/-- A step that leaves the cursor alone and reports its failure in an event. -/
theorem reported {x : Eval α} {e : CursorEvent} {m : Machine} (hx : x.KeepsCursor)
    (hrun : m.cursor.Run [e] m.cursor) (hg : e.IsGranted)
    (hr : ∀ f, x.failure? m = some f → e.Raises f) : Explains m [e] x := by
  refine ⟨by rw [hx m]; exact hrun, fun _ _ => by simpa using hg, fun h _ => ?_⟩
  exact ⟨e, List.mem_singleton_self _, hr _ (by rw [failure?, h])⟩

theorem bind {x : Eval α} {f : α → Eval β} {es : List CursorEvent}
    {fs : α → Machine → List CursorEvent} (hx : Explains m es x)
    (hf : ∀ a m', Explains m' (fs a m') (f a)) :
    Explains m (es ++ x.followed m fs) (x >>= f) := by
  obtain ⟨hrun, hgranted, hraised⟩ := hx
  unfold machineAfter at hrun
  unfold followed
  cases h : x.run m with
  | ok a m' =>
    rw [h] at hrun
    have hb := run_bind_ok (f := f) h
    have ha := hf a m'
    refine ⟨?_, fun hok hp e he => ?_, fun herr hkind => ?_⟩
    · rw [machineAfter, hb]
      exact hrun.append ha.run
    · rcases List.mem_append.1 he with he | he
      · exact hgranted h hp e he
      · exact ha.granted (hb ▸ hok) (hrun.policy_eq.trans hp) e he
    · obtain ⟨e, he, hr⟩ := ha.raised (hb ▸ herr) hkind
      exact ⟨e, List.mem_append_right _ he, hr⟩
  | error e m' =>
    rw [h] at hrun
    have hb := run_bind_error (f := f) h
    rw [List.append_nil]
    refine ⟨?_, fun hok => ?_, fun herr hkind => ?_⟩
    · rw [machineAfter, hb]
      exact hrun
    · rw [hb] at hok; cases hok
    · rw [hb] at herr
      cases herr
      exact hraised h hkind

/-- What follows a step may have no events. -/
theorem bindQuiet {x : Eval α} {f : α → Eval β} {es : List CursorEvent}
    (hx : Explains m es x) (hf : ∀ a m', Explains m' [] (f a)) : Explains m es (x >>= f) := by
  have h := hx.bind hf
  have : x.followed m (fun _ _ => []) = [] := by unfold followed; split <;> rfl
  rwa [this, List.append_nil] at h

/-- A step may have no events. -/
theorem quietBind {x : Eval α} {f : α → Eval β} {fs : α → Machine → List CursorEvent}
    (hx : Explains m [] x) (hf : ∀ a m', Explains m' (fs a m') (f a)) :
    Explains m (x.followed m fs) (x >>= f) := hx.bind hf

/-- Equal outcomes have the same explanations. -/
theorem congr {x y : Eval α} {es : List CursorEvent} {m : Machine} (h : x.run m = y.run m)
    (hy : Explains m es y) : Explains m es x :=
  ⟨by rw [machineAfter, h]; exact hy.run, fun hx => hy.granted (h ▸ hx),
    fun hx => hy.raised (h ▸ hx)⟩

/-- A request to the cursor explains itself. -/
theorem request {f : Cursor → Except EvalError α × Cursor} {n : Nat} (m : Machine)
    (h : m.cursor.Requested n (f m.cursor)) :
    Explains m [.ask n m.cursor.remaining] (onCursor .error f) := by
  obtain ⟨hmoved, hgranted, hrefused⟩ := h
  have hrun : m.cursor.Run [.ask n m.cursor.remaining] (f m.cursor).2 := by
    rw [hmoved]; exact .ask n (.done _)
  cases hf : f m.cursor with
  | mk r c =>
    rw [hf] at hrun hgranted hrefused
    cases r with
    | ok a =>
      have hx : (onCursor .error f).run m = .ok a { m with cursor := c } := by
        simp only [onCursor, EStateM.run, hf]
      refine ⟨by rw [machineAfter, hx]; exact hrun, fun _ hp e he => ?_, fun h _ => ?_⟩
      · rw [List.mem_singleton.1 he]
        rcases hgranted a rfl with hn | hpad
        · exact hn
        · rw [hp] at hpad; cases hpad
      · rw [hx] at h; cases h
    | error e =>
      have hx : (onCursor .error f).run m = .error (.error e) { m with cursor := c } := by
        simp only [onCursor, EStateM.run, hf]
      refine ⟨by rw [machineAfter, hx]; exact hrun, fun h => ?_, fun h _ => ?_⟩
      · rw [hx] at h; cases h
      · obtain ⟨hlt, rfl, -⟩ := hrefused e rfl
        rw [hx] at h
        cases h
        exact ⟨_, List.mem_singleton_self _, hlt, rfl⟩

theorem shift (m : Machine) : Explains m (shiftEvents m) Eval.shift :=
  request m m.cursor.requested_shift

theorem take (n : Nat) (m : Machine) : Explains m [.ask n m.cursor.remaining] (Eval.take n) :=
  congr (run_take n m) ((request m (m.cursor.requested_skip n)).bindQuiet fun _ m =>
    .quiet (Action.isQuiet_gather n _) m)

/-- What is read off the store changes nothing. -/
theorem read {f : Store → α} {g : α → Eval β} {es : List CursorEvent}
    (h : Explains m es (g (f m.world.store))) :
    Explains m es (onWorld (Action.read f) >>= g) :=
  congr (y := g (f m.world.store)) rfl h

theorem invoke (i : Interpreter) (f : Function) (receiver : Value) (args : List Value)
    (m : Machine) : Explains m (i.invokeEvents f receiver args m) (i.invoke f receiver args) :=
  reported (keepsCursor_onWorld _) (.call _ (.done _)) trivial fun _ h => h

/-- Captures are exported to the argument after the input. -/
theorem exported {x y : Eval α} {es : List CursorEvent} {v : Value}
    (hp : m.cursor.peek = some v) (hv : v.isSink)
    (hx : x.run m = y.run { m with cursor := m.cursor.advance 1 })
    (h : Explains { m with cursor := m.cursor.advance 1 } es y) :
    Explains m (.search true :: es) x :=
  ⟨by rw [machineAfter, hx]; exact .exported hp hv h.run,
    fun ho hpol => List.forall_mem_cons.2 ⟨trivial, h.granted (hx ▸ ho) hpol⟩,
    fun ho hkind => let ⟨e, he, hr⟩ := h.raised (hx ▸ ho) hkind; ⟨e, List.mem_cons_of_mem _ he, hr⟩⟩

theorem searched (a : α) (m : Machine) : Explains m [.search false] (pure a : Eval α) :=
  ⟨.search (.done _), fun _ _ => by simp [CursorEvent.IsGranted], nofun⟩

end Explains

/-! ## Nodes -/

theorem isQuiet_getProperty (s : Store) (v : Value) (key : String) :
    (Action.ofExcept (s.getProperty v key)).IsQuiet := by
  refine Action.isQuiet_ofExcept fun e h => ?_
  unfold Store.getProperty at h
  split at h <;> cases h <;> exact EvalError.not_isUnderflow_notObject _

theorem isQuiet_instanceOf (s : Store) (v ctor : Value) :
    (Action.ofExcept (s.instanceOf v ctor)).IsQuiet := by
  refine Action.isQuiet_ofExcept fun e h => ?_
  unfold Store.instanceOf at h
  split at h
  · split at h <;> cases h
  · cases h
    rintro ⟨_, _, ⟨⟩⟩

theorem explains_shiftText (m : Machine) : Explains m (shiftEvents m) shiftText :=
  (Explains.shift m).bindQuiet fun _ m => .quiet (Action.isQuiet_read _) m

theorem explains_compare (op : CompareOp) (stored : Value) (m : Machine) :
    Explains m (shiftEvents m) (Interpreter.compare op stored) := by
  refine (Explains.shift m).bindQuiet fun v m => ?_
  cases op with
  | instanceOf =>
    exact .read ((Explains.quiet (isQuiet_instanceOf _ _ _) m).bindQuiet fun _ m => .done _ m)
  | prototypeIs => exact .read (.done _ m)
  | equal => exact .read (.done _ m)

theorem explains_readProperty (name : Option String) (m : Machine) :
    Explains m (readEvents name m) (readProperty name) := by
  refine (Explains.shift m).bind fun object m => ?_
  have hget : ∀ key m, Explains m [] (do
      let found ← onWorld (Action.read fun s => s.getProperty object key)
      onWorld (Action.ofExcept found) : Eval Value) :=
    fun key m => .read (.quiet (isQuiet_getProperty _ _ _) m)
  by_cases ho : object.isObject
  · cases name with
    | some key => simpa [ho] using hget key m
    | none => simpa [ho] using (explains_shiftText m).bindQuiet hget
  · simpa [ho] using Explains.quiet (Action.isQuiet_raise (EvalError.not_isUnderflow_notObject _)) m

theorem explains_readMember (target : Value) (m : Machine) :
    Explains m (shiftEvents m) (readMember target) := by
  refine (explains_shiftText m).bindQuiet fun key m => .read ?_
  split
  · exact .read (.quiet (isQuiet_getProperty _ _ _) m)
  · exact .done _ m

theorem run_shift_of_peek {m : Machine} {v : Value} (hp : m.cursor.peek = some v) :
    shift.run m = .ok v { m with cursor := m.cursor.advance 1 } := by
  simp [shift, onCursor, Cursor.shift, hp, EStateM.run]

/-- What takes the captures of a match is seen before it is taken. -/
theorem run_exportMatch (i : Interpreter) (input : Value) (spans : Spans) (m : Machine) :
    (i.exportMatch input spans).run m = match m.cursor.peek with
      | some (.function callback) => (do
          let captures ← onWorld (Action.change fun s => s.exportCaptures spans i.config.maxCaptures)
          let _ ← i.invoke callback .null [captures, input] : Eval Unit).run
            { m with cursor := m.cursor.advance 1 }
      | some (.array sink) =>
        (onWorld (Action.change fun s => ((), s.fillCaptures sink spans i.config.maxCaptures)) :
          Eval Unit).run { m with cursor := m.cursor.advance 1 }
      | _ => .ok () m := by
  have hx : (i.exportMatch input spans).run m = (match m.cursor.peek with
      | some (.function callback) => do
        let _ ← shift
        let captures ← onWorld (Action.change fun s => s.exportCaptures spans i.config.maxCaptures)
        let _ ← i.invoke callback .null [captures, input]
      | some (.array sink) => do
        let _ ← shift
        onWorld (Action.change fun s => ((), s.fillCaptures sink spans i.config.maxCaptures))
      | _ => pure () : Eval Unit).run m := rfl
  rw [hx]
  split
  · rename_i f hp; exact run_bind_ok (run_shift_of_peek hp)
  · rename_i sink hp; exact run_bind_ok (run_shift_of_peek hp)
  · rfl

/-- Captures go nowhere when nothing that takes them is next. -/
theorem run_exportMatch_of_no_sink (i : Interpreter) (input : Value) (spans : Spans) {m : Machine}
    (h : ∀ v, m.cursor.peek = some v → v.isSink = false) :
    (i.exportMatch input spans).run m = .ok () m := by
  rw [run_exportMatch]
  split
  · rename_i f hp; cases h _ hp
  · rename_i sink hp; cases h _ hp
  · rfl

theorem explains_exportMatch (i : Interpreter) (input : Value) (spans : Spans) (m : Machine) :
    Explains m (i.exportEvents input spans m) (i.exportMatch input spans) := by
  have hx := run_exportMatch i input spans m
  unfold exportEvents
  split
  · rename_i f hp
    simp only [hp] at hx
    refine .exported hp rfl hx (.reported ?_ (.call _ (.done _)) trivial fun _ h => ?_)
    · exact (keepsCursor_onWorld _).bind fun _ => (keepsCursor_onWorld _).bind fun _ _ => rfl
    · rw [failure?, ← hx] at h
      exact h
  · rename_i sink hp
    simp only [hp] at hx
    exact .exported hp rfl hx (.quiet (Action.isQuiet_change _) _)
  · rename_i hf ha
    refine .congr (run_exportMatch_of_no_sink i input spans fun v hp => ?_) (.searched () m)
    cases v with
    | function f => exact absurd hp (hf f)
    | array sink => exact absurd hp (ha sink)
    | _ => rfl

theorem explains_evalRegex (i : Interpreter) (cell : RegexCell) (source : String)
    (flags : Regex.Flags) (m : Machine) :
    Explains m (i.regexEvents cell source flags m) (i.evalRegex cell source flags) := by
  refine (Explains.quiet (Action.isQuiet_prepare cell source flags) m).quietBind
    fun program m => ?_
  refine (Explains.shift m).bind fun input m => ?_
  refine (Explains.quiet (Action.isQuiet_read _) m).quietBind fun bytes m => ?_
  cases program.search bytes flags.sticky with
  | none => exact .searched _ m
  | some spans => exact (explains_exportMatch i input spans m).bindQuiet fun _ m => .done _ m

theorem explains_filter (i : Interpreter) (filter : Option Operand) (v : Value) (m : Machine) :
    Explains m (i.filterEvents filter v m) (match filter with
      | some (.nested p) => withCursor (.start [v] i.config.underflow) (i.eval p)
      | some (.literal (.function f)) => i.invoke f .undefined [v]
      | _ => return v : Eval Value) := by
  cases filter with
  | none => exact .done v m
  | some x =>
    cases x with
    | unset => exact .done v m
    | nested p =>
      exact .reported (keepsCursor_withCursor _ _) (.filter _ (.done _)) trivial fun _ h => h
    | literal u =>
      cases u with
      | function f => exact .invoke i _ _ _ m
      | _ => exact .done v m

mutual

theorem explains_value (i : Interpreter) :
    ∀ (x : Operand) (m : Machine), Explains m (i.valueEvents x m) (i.value x)
  | .unset, m => by
    rw [valueEvents, value]
    exact .shift m
  | .nested p, m => by
    rw [valueEvents, value]
    exact explains_eval i p m
  | .literal v, m => by
    cases v with
    | function f =>
      rw [valueEvents, value]
      exact .congr (y := i.invoke f .undefined m.cursor.rest) rfl (.invoke ..)
    | _ => exact .done _ m

/-- The events of an evaluation explain its outcome. -/
theorem explains_eval (i : Interpreter) :
    ∀ (p : Predicate) (m : Machine), Explains m (i.events p m) (i.eval p)
  | .unset, m => by
    rw [events, eval]
    exact .quiet (Action.isQuiet_fault _) m
  | .type mask, m => by
    rw [events, eval]
    exact (Explains.shift m).bindQuiet fun _ m => .done _ m
  | .charset cell set, m => by
    rw [events, eval]
    refine (Explains.shift m).bindQuiet fun v m => .read ?_
    exact (Explains.quiet (Action.isQuiet_decode _ _) m).bindQuiet fun _ m => .done _ m
  | .string start, m => by
    rw [events, eval]
    exact (Explains.shift m).bindQuiet fun v m => .read (.done _ m)
  | .compare op stored, m => by
    rw [events, eval]
    exact explains_compare op stored m
  | .member target, m => by
    rw [events, eval]
    exact explains_readMember target m
  | .unary op x, m => by
    rw [events, eval]
    exact (explains_value i x m).bindQuiet fun v m => .quiet (Action.isQuiet_read _) m
  | .binary op left right, m => by
    rw [events, eval]
    refine (explains_value i left m).bind fun l m => ?_
    exact (explains_value i right m).bindQuiet fun r m => .quiet (Action.isQuiet_read _) m
  | .boolean .or xs, m => by
    rw [events, eval]
    exact explains_until i true _ xs m
  | .boolean .and xs, m => by
    rw [events, eval]
    exact explains_until i false _ xs m
  | .boolean .xor xs, m => by
    rw [events, eval]
    exact explains_xor i _ xs m
  | .regex cell source flags, m => by
    rw [events, eval]
    exact explains_evalRegex i cell source flags m
  | .property name filter, m => by
    rw [events, eval]
    exact (explains_readProperty name m).bind fun v m => explains_filter i filter v m
  | .shift count x, m => by
    rw [events, eval]
    exact (Explains.request m (m.cursor.requested_skip count)).bind fun _ m => explains_value i x m
  | .function f receiver arity, m => by
    rw [events, eval]
    exact (Explains.take arity m).bind fun args m => .invoke i f receiver args m

theorem explains_until (i : Interpreter) (stop : Bool) (last : Value) :
    ∀ (xs : List Operand) (m : Machine),
      Explains m (i.untilEvents stop xs m) (i.evalUntil stop last xs)
  | [], m => .done last m
  | x :: rest, m => by
    rw [untilEvents, evalUntil]
    refine (explains_value i x m).bind fun v m => ?_
    split
    · exact .done v m
    · exact explains_until i stop v rest m

theorem explains_xor (i : Interpreter) (acc : Int64) :
    ∀ (xs : List Operand) (m : Machine), Explains m (i.xorEvents xs m) (i.evalXor acc xs)
  | [], m => .done _ m
  | x :: rest, m => by
    rw [xorEvents, evalXor]
    refine (explains_value i x m).bind fun v m => .read ?_
    exact explains_xor i _ rest m

end

end Criteria
