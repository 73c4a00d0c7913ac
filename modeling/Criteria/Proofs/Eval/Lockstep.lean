import Criteria.Proofs.Eval.Consumption

/-!
# One tree on two cursors

An evaluation learns of its cursor what it takes, and whether a match is followed by something that
takes its captures. So two cursors that answer alike lead to the same value or failure and to the
same world, whatever else is different about them.

* `Cursor.Lockstep` — related cursors grant a request with the same arguments, and stay related. A
  relation is indexed by the number of arguments that can still be asked for.
* `inStep_eval` — a tree has the same outcome on related cursors with as many arguments to spare as
  the tree has slots.

A tree that calls a literal function sees all arguments that are left, which is more than related
cursors have in common.
-/

set_option autoImplicit false

namespace Criteria

open Eval Interpreter

variable {α β : Type}

/-! ## Trees by what they see of a cursor -/

mutual

/-- The operand calls no literal function on the arguments left. -/
def Operand.isDiscreet : Operand → Bool
  | .unset => true
  | .nested p => p.isDiscreet
  | .literal (.function _) => false
  | .literal _ => true

/-- No operand that takes arguments from the cursor of the tree is a literal function. A filter has
a cursor of its own. -/
def Predicate.isDiscreet : Predicate → Bool
  | .unary _ x => x.isDiscreet
  | .binary _ left right => left.isDiscreet && right.isDiscreet
  | .boolean _ xs => Operand.allDiscreet xs
  | .shift _ x => x.isDiscreet
  | _ => true

/-- None of the operands is a literal function, at any depth. -/
def Operand.allDiscreet : List Operand → Bool
  | [] => true
  | x :: rest => x.isDiscreet && Operand.allDiscreet rest

end

mutual

/-- A pattern is searched for in an argument from the cursor of the operand. -/
def Operand.hasPattern : Operand → Bool
  | .unset => false
  | .nested p => p.hasPattern
  | .literal _ => false

/-- A pattern node takes its input from the cursor of the tree. -/
def Predicate.hasPattern : Predicate → Bool
  | .regex .. => true
  | .unary _ x => x.hasPattern
  | .binary _ left right => left.hasPattern || right.hasPattern
  | .boolean _ xs => Operand.anyPattern xs
  | .shift _ x => x.hasPattern
  | _ => false

/-- One of the operands has a pattern. -/
def Operand.anyPattern : List Operand → Bool
  | [] => false
  | x :: rest => x.hasPattern || Operand.anyPattern rest

end

/-! ## Related cursors -/

namespace Cursor

variable {R : Nat → Cursor → Cursor → Prop} {S : Cursor → Cursor → Prop} {c c' : Cursor} {n k : Nat}

/-- Cursors related by `R n` grant requests for up to `n` arguments alike. `S` is what remains of
the relation where an evaluation fails. -/
structure Lockstep (R : Nat → Cursor → Cursor → Prop) (S : Cursor → Cursor → Prop) : Prop where
  fail : ∀ {n c c'}, R n c c' → S c c'
  grant : ∀ {n k c c'}, R (n + k) c c' → ∃ d d', c.skip n = (.ok (), d) ∧ c'.skip n = (.ok (), d') ∧
    c.window n = c'.window n ∧ R k d d'

/-- Fewer arguments can be asked for than are granted. -/
def Slack (R : Nat → Cursor → Cursor → Prop) : Prop :=
  ∀ {n k c c'}, R (n + k) c c' → R k c c'

/-- Related cursors agree on the argument that takes captures, if one is next. -/
structure SameSinks (R : Nat → Cursor → Cursor → Prop) : Prop where
  peek : ∀ {n c c' v}, R n c c' → v.isSink → (c.peek = some v ↔ c'.peek = some v)
  advance : ∀ {n c c' v}, R n c c' → v.isSink → c.peek = some v → R n (c.advance 1) (c'.advance 1)

theorem Lockstep.shift (h : Lockstep R S) (hc : R (1 + k) c c') :
    ∃ v d d', c.shift = (.ok v, d) ∧ c'.shift = (.ok v, d') ∧ R k d d' := by
  obtain ⟨d, d', hskip, hskip', hwindow, hd⟩ := h.grant hc
  have hpeek : c.peek.getD .undefined = c'.peek.getD .undefined := by
    rw [← Option.some_inj, ← head?_window, ← head?_window, hwindow]
  refine ⟨c.peek.getD .undefined, d, d', ?_, ?_, hd⟩
  · rw [shift_eq_skip, hskip]; rfl
  · rw [shift_eq_skip, hskip', hpeek]; rfl

theorem Lockstep.skip (h : Lockstep R S) (hc : R (n + k) c c') :
    ∃ d d', c.skip n = (.ok (), d) ∧ c'.skip n = (.ok (), d') ∧ R k d d' := by
  obtain ⟨d, d', hskip, hskip', -, hd⟩ := h.grant hc
  exact ⟨d, d', hskip, hskip', hd⟩

end Cursor

/-! ## Steps -/

/-- Two outcomes are the same but for their cursors, which are related by `R` after a value and by
`S` after a failure. -/
inductive SameOutcome {α : Type} (R S : Cursor → Cursor → Prop) :
    EStateM.Result Failure Machine α → EStateM.Result Failure Machine α → Prop where
  | ok (a : α) (w : World) {c c' : Cursor} : R c c' → SameOutcome R S (.ok a ⟨c, w⟩) (.ok a ⟨c', w⟩)
  | error (f : Failure) (w : World) {c c' : Cursor} :
      S c c' → SameOutcome R S (.error f ⟨c, w⟩) (.error f ⟨c', w⟩)

theorem SameOutcome.mono {R R' S : Cursor → Cursor → Prop}
    {x y : EStateM.Result Failure Machine α} (hR : ∀ c c', R c c' → R' c c')
    (h : SameOutcome R S x y) : SameOutcome R' S x y := by
  cases h with
  | ok a w hc => exact .ok a w (hR _ _ hc)
  | error f w hc => exact .error f w hc

/-- On related cursors with `n` arguments to spare, the step has the same outcome, and leaves them
related by the rest. -/
def InStep (R : Nat → Cursor → Cursor → Prop) (S : Cursor → Cursor → Prop) (n : Nat) (x : Eval α) :
    Prop :=
  ∀ k c c' w, R (n + k) c c' → SameOutcome (R k) S (x.run ⟨c, w⟩) (x.run ⟨c', w⟩)

namespace InStep

variable {R : Nat → Cursor → Cursor → Prop} {S : Cursor → Cursor → Prop} {n k : Nat}

theorem pure (a : α) : InStep R S 0 (Pure.pure a) := by
  intro k c c' w h
  rw [Nat.zero_add] at h
  exact .ok a w h

theorem onWorld (hR : Cursor.Lockstep R S) (y : Action α) : InStep R S 0 (Eval.onWorld y) := by
  intro k c c' w h
  rw [Nat.zero_add] at h
  simp only [Eval.onWorld, EStateM.run]
  cases y w with
  | ok a w' => exact .ok a w' h
  | error f w' => exact .error f w' (hR.fail h)

theorem withCursor (hR : Cursor.Lockstep R S) (own : Cursor) (x : Eval α) :
    InStep R S 0 (Eval.withCursor own x) := by
  intro k c c' w h
  rw [Nat.zero_add] at h
  simp only [Eval.withCursor, EStateM.run]
  cases x ⟨own, w⟩ with
  | ok a m => exact .ok a m.world h
  | error f m => exact .error f m.world (hR.fail h)

/-- A request that is granted alike. -/
theorem onCursor {f : Cursor → Except EvalError α × Cursor}
    (h : ∀ {k c c'}, R (n + k) c c' →
      ∃ a d d', f c = (.ok a, d) ∧ f c' = (.ok a, d') ∧ R k d d') :
    InStep R S n (Eval.onCursor .error f) := by
  intro k c c' w hc
  obtain ⟨a, d, d', hf, hf', hd⟩ := h hc
  simp only [Eval.onCursor, EStateM.run, hf, hf']
  exact .ok a w hd

theorem skip (hR : Cursor.Lockstep R S) (n : Nat) : InStep R S n (Eval.skip n) :=
  onCursor fun h => let ⟨d, d', hskip⟩ := hR.skip h; ⟨(), d, d', hskip⟩

theorem shift (hR : Cursor.Lockstep R S) : InStep R S 1 Eval.shift := onCursor hR.shift

theorem bind {x : Eval α} {f : α → Eval β} (hx : InStep R S n x) (hf : ∀ a, InStep R S k (f a)) :
    InStep R S (n + k) (x >>= f) := by
  intro j c c' w h
  rw [Nat.add_assoc] at h
  have hsame := hx (k + j) c c' w h
  cases hrun : x.run ⟨c, w⟩ with
  | ok a m =>
    rw [hrun] at hsame
    cases hrun' : x.run ⟨c', w⟩ with
    | ok a' m' =>
      rw [hrun'] at hsame
      cases hsame with
      | ok a w' hd =>
        rw [run_bind_ok hrun, run_bind_ok hrun']
        exact hf a j _ _ w' hd
    | error f m' => rw [hrun'] at hsame; cases hsame
  | error e m =>
    rw [hrun] at hsame
    cases hrun' : x.run ⟨c', w⟩ with
    | ok a' m' => rw [hrun'] at hsame; cases hsame
    | error e' m' =>
      rw [hrun'] at hsame
      cases hsame with
      | error e w' hd =>
        rw [run_bind_error hrun, run_bind_error hrun']
        exact .error e w' hd

/-- The arguments that are granted are the same, and so is whether there is a buffer for them. -/
theorem take (hR : Cursor.Lockstep R S) (n : Nat) : InStep R S n (Eval.take n) := by
  intro k c c' w hc
  obtain ⟨d, d', hskip, hskip', hwindow, hd⟩ := hR.grant hc
  have hrun : (Eval.skip n).run ⟨c, w⟩ = .ok () ⟨d, w⟩ := by
    simp only [Eval.skip, Eval.onCursor, EStateM.run, hskip]
  have hrun' : (Eval.skip n).run ⟨c', w⟩ = .ok () ⟨d', w⟩ := by
    simp only [Eval.skip, Eval.onCursor, EStateM.run, hskip']
  rw [run_take, run_take, run_bind_ok hrun, run_bind_ok hrun', hwindow]
  exact onWorld hR _ k d d' w ((Nat.zero_add k).symm ▸ hd)

/-- What follows a step may ask for nothing. -/
theorem bindQuiet {x : Eval α} {f : α → Eval β} (hx : InStep R S n x)
    (hf : ∀ a, InStep R S 0 (f a)) : InStep R S n (x >>= f) := hx.bind hf

/-- A step may ask for nothing. -/
theorem quietBind {x : Eval α} {f : α → Eval β} (hx : InStep R S 0 x)
    (hf : ∀ a, InStep R S n (f a)) : InStep R S n (x >>= f) := by
  have h := hx.bind hf
  rwa [Nat.zero_add] at h

/-- A step that fails may leave arguments unasked for. -/
theorem raise (hR : Cursor.Lockstep R S) (n : Nat) (e : EvalError) :
    InStep R S n (Eval.onWorld (Action.raise e) : Eval α) :=
  fun _ _ _ w h => .error (.error e) w (hR.fail h)

/-- With slack, less may be asked for than is granted. -/
theorem loosen {x : Eval α} (hslack : Cursor.Slack R) (hx : InStep R S n x) :
    InStep R S (n + k) x := by
  intro j c c' w h
  refine hx j c c' w (hslack (n := k) ?_)
  rwa [← Nat.add_assoc, Nat.add_comm k n]

end InStep

/-! ## Nodes -/

section Nodes

variable {R : Nat → Cursor → Cursor → Prop} {S : Cursor → Cursor → Prop}

theorem inStep_shiftText (hR : Cursor.Lockstep R S) : InStep R S 1 shiftText :=
  (InStep.shift hR).bindQuiet fun _ => .onWorld hR _

theorem inStep_compare (hR : Cursor.Lockstep R S) (op : CompareOp) (stored : Value) :
    InStep R S 1 (Interpreter.compare op stored) := by
  refine (InStep.shift hR).bindQuiet fun v => ?_
  cases op with
  | instanceOf =>
    exact (InStep.onWorld hR _).bindQuiet fun _ => (InStep.onWorld hR _).bindQuiet fun _ => .pure _
  | prototypeIs => exact (InStep.onWorld hR _).bindQuiet fun _ => .pure _
  | equal => exact (InStep.onWorld hR _).bindQuiet fun _ => .pure _

/-- Reading a property takes the key as well, unless the node has a name or the object has no
properties. -/
theorem inStep_readProperty (hR : Cursor.Lockstep R S) (name : Option String) :
    InStep R S (Predicate.propertyArgCount name) (readProperty name) := by
  have hget : ∀ (object : Value) (key : String), InStep R S 0 (do
      let found ← onWorld (Action.read fun s => s.getProperty object key)
      onWorld (Action.ofExcept found) : Eval Value) :=
    fun object key => (InStep.onWorld hR _).bindQuiet fun _ => .onWorld hR _
  cases name with
  | some key =>
    refine (InStep.shift hR).bindQuiet fun object => ?_
    by_cases ho : object.isObject
    · simpa [ho] using hget object key
    · simpa [ho] using InStep.raise hR 0 _
  | none =>
    refine (InStep.shift hR).bind (k := 1) fun object => ?_
    by_cases ho : object.isObject
    · simpa [ho] using (inStep_shiftText hR).bindQuiet (hget object)
    · simpa [ho] using InStep.raise hR 1 _

theorem inStep_readMember (hR : Cursor.Lockstep R S) (target : Value) :
    InStep R S 1 (readMember target) := by
  refine (inStep_shiftText hR).bindQuiet fun key => (InStep.onWorld hR _).bindQuiet fun found => ?_
  cases found with
  | true => exact (InStep.onWorld hR _).bindQuiet fun _ => .onWorld hR _
  | false => exact .pure _

theorem inStep_exportMatch (hR : Cursor.Lockstep R S) (hs : Cursor.SameSinks R) (i : Interpreter)
    (input : Value) (spans : Spans) : InStep R S 0 (i.exportMatch input spans) := by
  intro k c c' w h
  rw [Nat.zero_add] at h
  by_cases hsink : ∃ v, v.isSink ∧ c.peek = some v
  · obtain ⟨v, hv, hp⟩ := hsink
    have hp' := (hs.peek h hv).1 hp
    have hadvance := hs.advance h hv hp
    have hquiet : ∀ {y : Eval Unit}, InStep R S 0 y →
        SameOutcome (R k) S (y.run ⟨c.advance 1, w⟩) (y.run ⟨c'.advance 1, w⟩) :=
      fun hy => hy k _ _ w (by rwa [Nat.zero_add])
    rw [run_exportMatch, run_exportMatch]
    cases v with
    | function f =>
      simp only [hp, hp']
      exact hquiet ((InStep.onWorld hR _).bindQuiet fun _ =>
        (InStep.onWorld hR _).bindQuiet fun _ => .pure _)
    | array sink =>
      simp only [hp, hp']
      exact hquiet (.onWorld hR _)
    | _ => cases hv
  · have hnone : ∀ v, c.peek = some v → v.isSink = false :=
      fun v hp => Bool.eq_false_iff.2 fun hv => hsink ⟨v, hv, hp⟩
    have hnone' : ∀ v, c'.peek = some v → v.isSink = false :=
      fun v hp => Bool.eq_false_iff.2 fun hv => hsink ⟨v, hv, (hs.peek h hv).2 hp⟩
    rw [run_exportMatch_of_no_sink i input spans hnone,
      run_exportMatch_of_no_sink i input spans hnone']
    exact .ok () w h

theorem inStep_evalRegex (hR : Cursor.Lockstep R S) (hs : Cursor.SameSinks R) (i : Interpreter)
    (cell : RegexCell) (source : String) (flags : Regex.Flags) :
    InStep R S 1 (i.evalRegex cell source flags) := by
  refine (InStep.onWorld hR _).quietBind fun program => ?_
  refine (InStep.shift hR).bindQuiet fun input => (InStep.onWorld hR _).bindQuiet fun bytes => ?_
  cases program.search bytes flags.sticky with
  | none => exact .pure _
  | some spans => exact (inStep_exportMatch hR hs i input spans).bindQuiet fun _ => .pure _

theorem inStep_filter (hR : Cursor.Lockstep R S) (i : Interpreter) (filter : Option Operand)
    (v : Value) :
    InStep R S 0 (match filter with
      | some (.nested p) => Eval.withCursor (.start [v] i.config.underflow) (i.eval p)
      | some (.literal (.function f)) => i.invoke f .undefined [v]
      | _ => return v : Eval Value) := by
  split
  · exact .withCursor hR _ _
  · exact .onWorld hR _
  · exact .pure v

end Nodes

/-! ## Trees -/

/-- What the relation has to grant for operands: they are discreet, a pattern needs agreement on
what takes captures, and a combinator that stops early needs slack. -/
structure Suits (R : Nat → Cursor → Cursor → Prop) (discreet pattern straight : Bool) : Prop where
  discreet : discreet
  sinks : pattern → Cursor.SameSinks R
  slack : straight = false → Cursor.Slack R

namespace Suits

variable {R : Nat → Cursor → Cursor → Prop} {d d' p p' s s' : Bool}

theorem left (h : Suits R (d && d') (p || p') (s && s')) : Suits R d p s :=
  ⟨(Bool.and_eq_true_iff.1 h.discreet).1, fun hp => h.sinks (by rw [hp, Bool.true_or]),
    fun hs => h.slack (by rw [hs, Bool.false_and])⟩

theorem right (h : Suits R (d && d') (p || p') (s && s')) : Suits R d' p' s' :=
  ⟨(Bool.and_eq_true_iff.1 h.discreet).2, fun hp => h.sinks (by rw [hp, Bool.or_true]),
    fun hs => h.slack (by rw [hs, Bool.and_false])⟩

/-- With slack, it does not matter what stops early. -/
theorem ofSlack (h : Suits R d p false) (s : Bool) : Suits R d p s :=
  ⟨h.discreet, h.sinks, fun _ => h.slack rfl⟩

end Suits

section Trees

variable {R : Nat → Cursor → Cursor → Prop} {S : Cursor → Cursor → Prop}

mutual

theorem inStep_value (hR : Cursor.Lockstep R S) (i : Interpreter) : ∀ {x : Operand},
    Suits R x.isDiscreet x.hasPattern x.isStraight → InStep R S x.slots (i.value x)
  | .unset, _ => by
    rw [value]
    exact .shift hR
  | .nested p, h => by
    rw [value]
    exact inStep_eval hR i h
  | .literal v, h => by
    cases v with
    | function f => cases h.discreet
    | _ => exact .pure _

/-- A tree has the same outcome on related cursors. -/
theorem inStep_eval (hR : Cursor.Lockstep R S) (i : Interpreter) : ∀ {p : Predicate},
    Suits R p.isDiscreet p.hasPattern p.isStraight → InStep R S p.slots (i.eval p)
  | .unset, _ => by
    rw [eval]
    exact .onWorld hR _
  | .type mask, _ => by
    rw [eval]
    exact (InStep.shift hR).bindQuiet fun _ => .pure _
  | .charset cell set, _ => by
    rw [eval]
    refine (InStep.shift hR).bindQuiet fun v => (InStep.onWorld hR _).bindQuiet fun chars => ?_
    exact (InStep.onWorld hR _).bindQuiet fun members => .pure _
  | .string start, _ => by
    rw [eval]
    exact (InStep.shift hR).bindQuiet fun v => (InStep.onWorld hR _).bindQuiet fun _ => .pure _
  | .compare op stored, _ => by
    rw [eval]
    exact inStep_compare hR op stored
  | .member target, _ => by
    rw [eval]
    exact inStep_readMember hR target
  | .unary op x, h => by
    rw [eval]
    exact (inStep_value hR i h).bindQuiet fun v => .onWorld hR _
  | .binary op left right, h => by
    rw [eval]
    exact (inStep_value hR i h.left).bind fun l =>
      (inStep_value hR i h.right).bindQuiet fun r => .onWorld hR _
  | .boolean .or xs, h => by
    rw [eval]
    exact inStep_until hR i true h .undefined
  | .boolean .and xs, h => by
    rw [eval]
    exact inStep_until hR i false h .undefined
  | .boolean .xor xs, h => by
    rw [eval]
    exact inStep_xor hR i h 0
  | .regex cell source flags, h => by
    rw [eval]
    exact inStep_evalRegex hR (h.sinks rfl) i cell source flags
  | .property name filter, _ => by
    rw [eval]
    exact (inStep_readProperty hR name).bindQuiet fun v => inStep_filter hR i filter v
  | .shift count x, h => by
    rw [eval]
    exact (InStep.skip hR count).bind fun _ => inStep_value hR i h
  | .function f receiver arity, _ => by
    rw [eval]
    exact (InStep.take hR arity).bindQuiet fun args => .onWorld hR _

theorem inStep_until (hR : Cursor.Lockstep R S) (i : Interpreter) (stop : Bool) :
    ∀ {xs : List Operand}, Suits R (Operand.allDiscreet xs) (Operand.anyPattern xs) false →
      ∀ last, InStep R S (Operand.slotSum xs) (i.evalUntil stop last xs)
  | [], _, last => by
    rw [evalUntil]
    exact .pure last
  | x :: rest, h, _ => by
    have hx : Suits R x.isDiscreet x.hasPattern x.isStraight :=
      (h.ofSlack (x.isStraight && true)).left
    have hrest : Suits R (Operand.allDiscreet rest) (Operand.anyPattern rest) false :=
      (h.ofSlack (true && false)).right
    rw [evalUntil, Operand.slotSum]
    refine (inStep_value hR i hx).bind fun v => ?_
    split
    -- where the combinator stops, the slots of the operands after are slack
    · have hstop := (InStep.pure (S := S) v).loosen (k := Operand.slotSum rest) (h.slack rfl)
      rwa [Nat.zero_add] at hstop
    · exact inStep_until hR i stop hrest v

theorem inStep_xor (hR : Cursor.Lockstep R S) (i : Interpreter) : ∀ {xs : List Operand},
    Suits R (Operand.allDiscreet xs) (Operand.anyPattern xs) (Operand.allStraight xs) →
      ∀ acc, InStep R S (Operand.slotSum xs) (i.evalXor acc xs)
  | [], _, acc => by
    rw [evalXor]
    exact .pure _
  | x :: rest, h, acc => by
    rw [evalXor, Operand.slotSum]
    refine (inStep_value hR i h.left).bind fun v => (InStep.onWorld hR _).quietBind fun n => ?_
    exact inStep_xor hR i h.right _

end

end Trees

end Criteria
