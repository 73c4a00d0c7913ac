import Criteria.Proofs.Eval.Lockstep

/-!
# Operands have arguments of their own

All nodes of a tree share a cursor. Where no combinator stops early, what an operand takes of it is
known beforehand: as many arguments as it has slots, after those of the operands before it. So a
tree can be evaluated without a shared cursor, each operand on a new one over its own slice of the
arguments.

* `Interpreter.evalApart` — the value of a tree from the values of its operands on slices.
* `Cursor.Abreast` — two cursors on their way through the same arguments.
* `slices_disjoint` — evaluation on a shared cursor does the same as on slices, and does not depend
  on any other argument.

Pattern nodes look at the argument after their input, so when there is one no argument may be a
function or an array.
-/

set_option autoImplicit false

namespace Criteria

open Eval Interpreter

variable {α β : Type}

/-! ## Evaluation on slices -/

namespace Interpreter

/-- The value of an operand on a new cursor over its own slice, which is the first of the arguments.
-/
def valueApart (i : Interpreter) (x : Operand) (args : List Value) : Action Value :=
  i.onArgs (args.take x.slots) (i.value x)

/-- The exclusive or of `acc` and the operands' integers, each operand on the slice after those of
the operands before it. -/
def xorApart (i : Interpreter) (acc : Int64) : List Operand → List Value → Action Value
  | [], _ => return .int acc
  | x :: rest, args => do
    let v ← i.valueApart x args
    let n ← Action.read fun s => s.int64 v
    i.xorApart (acc ^^^ n) rest (args.drop x.slots)

/-- The value of a tree, each operand on a slice of its own. A node without operands has the slice
to itself. -/
def evalApart (i : Interpreter) : Predicate → List Value → Action Value
  | .unary op x, args => do
    let v ← i.valueApart x args
    Action.read fun s => op.apply s v
  | .binary op left right, args => do
    let l ← i.valueApart left args
    let r ← i.valueApart right (args.drop left.slots)
    Action.read fun s => op.apply s l r
  | .boolean .xor xs, args => i.xorApart 0 xs args
  | .shift count x, args => i.valueApart x (args.drop count)
  | p, args => i.onArgs (args.take p.slots) (i.eval p)

end Interpreter

/-! ## Cursors abreast -/

namespace Cursor

variable {b b' c c' : Cursor} {N n k : Nat}

/-- No argument takes captures. -/
def SinkFree (c : Cursor) : Prop := ∀ v ∈ c.args, v.isSink = false

/-- Two cursors that have come equally far into the next `N` arguments of `b` and of `b'`; up to the
end of these there are `n` left. -/
structure Abreast (b b' : Cursor) (N n : Nat) (c c' : Cursor) : Prop where
  le : n ≤ N
  left : c = b.advance (N - n)
  right : c' = b'.advance (N - n)

/-- The next `N` arguments are there, and are the same. -/
structure SameNext (N : Nat) (b b' : Cursor) : Prop where
  left : N ≤ b.remaining
  right : N ≤ b'.remaining
  same : b.rest.take N = b'.rest.take N

theorem Abreast.start (b b' : Cursor) (N : Nat) : Abreast b b' N N b b' :=
  ⟨Nat.le_refl N, by rw [Nat.sub_self]; rfl, by rw [Nat.sub_self]; rfl⟩

theorem Abreast.finish (h : Abreast b b' N 0 c c') : c = b.advance N ∧ c' = b'.advance N :=
  ⟨h.left, h.right⟩

/-- The cursors get the same arguments until the end of those that are the same. -/
theorem lockstep_abreast (h : SameNext N b b') : Lockstep (Abreast b b' N) fun _ _ => True := by
  refine ⟨fun _ => trivial, ?_⟩
  intro n k c c' hc
  obtain ⟨hle, rfl, rfl⟩ := hc
  -- the next `n` arguments are some of the `N` that are the same
  have hsame : ((b.advance (N - (n + k))).rest).take n = ((b'.advance (N - (n + k))).rest).take n := by
    have hdrop := congrArg (fun vs => (vs.drop (N - (n + k))).take n) h.same
    have hlen : min n (N - (N - (n + k))) = n := by omega
    simpa only [rest_advance, List.drop_take, List.take_take, hlen] using hdrop
  have hleft := h.left
  have hright := h.right
  have hroom : n ≤ (b.advance (N - (n + k))).remaining := by rw [remaining_advance]; omega
  have hroom' : n ≤ (b'.advance (N - (n + k))).remaining := by rw [remaining_advance]; omega
  have hreach : N - (n + k) + n = N - k := by omega
  have hskip := skip_of_le hroom
  have hskip' := skip_of_le hroom'
  rw [advance_advance, hreach] at hskip hskip'
  rw [← window_of_le hroom, ← window_of_le hroom'] at hsame
  exact ⟨_, _, hskip, hskip', hsame, by omega, rfl, rfl⟩

theorem SinkFree.peek_ne {v : Value} (hb : b.SinkFree) (hargs : c.args = b.args) (hv : v.isSink) :
    c.peek ≠ some v := by
  intro hp
  have hmem := List.mem_of_getElem? hp
  rw [hargs] at hmem
  rw [hb v hmem] at hv
  cases hv

theorem sameSinks_abreast (hb : b.SinkFree) (hb' : b'.SinkFree) : SameSinks (Abreast b b' N) := by
  have hleft : ∀ {n c c'}, Abreast b b' N n c c' → c.args = b.args := fun h => by rw [h.left]; rfl
  have hright : ∀ {n c c'}, Abreast b b' N n c c' → c'.args = b'.args :=
    fun h => by rw [h.right]; rfl
  refine ⟨fun h hv => ⟨fun hp => ?_, fun hp => ?_⟩, fun h hv hp => ?_⟩
  · exact absurd hp (hb.peek_ne (hleft h) hv)
  · exact absurd hp (hb'.peek_ne (hright h) hv)
  · exact absurd hp (hb.peek_ne (hleft h) hv)

end Cursor

/-- A step that suits two cursors with the same arguments next. -/
theorem suits_abreast {discreet pattern : Bool} {b b' : Cursor} {N : Nat} (hd : discreet)
    (hb : pattern → b.SinkFree) (hb' : pattern → b'.SinkFree) :
    Suits (Cursor.Abreast b b' N) discreet pattern true :=
  ⟨hd, fun hp => Cursor.sameSinks_abreast (hb hp) (hb' hp), nofun⟩

/-! ## Steps on slices -/

/-- An evaluation has the outcome of an action, and a value leaves the cursor at `d`. -/
inductive OutcomeAt {α : Type} (d : Cursor) :
    EStateM.Result Failure World α → EStateM.Result Failure Machine α → Prop where
  | ok (a : α) (w : World) : OutcomeAt d (.ok a w) (.ok a ⟨d, w⟩)
  | error (f : Failure) (w : World) (c : Cursor) : OutcomeAt d (.error f w) (.error f ⟨c, w⟩)

/-- On a cursor with `n` arguments left, the step does what `y` does with them, and takes them. -/
def Sliced (pattern : Bool) (n : Nat) (x : Eval α) (y : List Value → Action α) : Prop :=
  ∀ c w, n ≤ c.remaining → (pattern → c.SinkFree) →
    OutcomeAt (c.advance n) ((y c.rest).run w) (x.run ⟨c, w⟩)

namespace Sliced

variable {p p' : Bool} {n k : Nat}

theorem onWorld (y : Action α) : Sliced p 0 (Eval.onWorld y) fun _ => y := by
  intro c w _ _
  simp only [Eval.onWorld, EStateM.run]
  cases y w with
  | ok a w' => exact .ok a w'
  | error f w' => exact .error f w' c

/-- Skipped arguments take part in nothing. -/
theorem skip (n : Nat) : Sliced p n (Eval.skip n) fun _ => pure () := by
  intro c w hc _
  simp only [Eval.skip, onCursor, EStateM.run, Cursor.skip_of_le hc]
  exact .ok () w

theorem bind {x : Eval α} {f : α → Eval β} {y : List Value → Action α}
    {g : α → List Value → Action β} (hx : Sliced p n x y) (hf : ∀ a, Sliced p' k (f a) (g a)) :
    Sliced (p || p') (n + k) (x >>= f) fun args => y args >>= fun a => g a (args.drop n) := by
  intro c w hc hfree
  have hfirst := hx c w (by omega) fun hp => hfree (by rw [hp, Bool.true_or])
  rw [EStateM.run_bind, EStateM.run_bind]
  generalize (y c.rest).run w = apart at *
  generalize x.run ⟨c, w⟩ = shared at *
  cases hfirst with
  | ok a w' =>
    have hrest : k ≤ (c.advance n).remaining := by rw [Cursor.remaining_advance]; omega
    have hnext := hf a (c.advance n) w' hrest fun hp => hfree (by rw [hp, Bool.or_true])
    rw [Cursor.rest_advance, Cursor.advance_advance] at hnext
    exact hnext
  | error e w' c' => exact .error e w' c'

theorem bindWorld {x : Eval α} {y : List Value → Action α} (hx : Sliced p n x y)
    (g : α → Action β) :
    Sliced p n (x >>= fun a => Eval.onWorld (g a)) fun args => y args >>= g := by
  have hg : ∀ a, Sliced false 0 (Eval.onWorld (g a)) fun _ => g a := fun a => onWorld (g a)
  have h := hx.bind hg
  rwa [Bool.or_false] at h

/-- What a step reads off the store on its way. -/
theorem read {f : Store → β} {x : β → Eval α} {y : β → List Value → Action α}
    (h : ∀ a, Sliced p n (x a) (y a)) :
    Sliced p n (Eval.onWorld (Action.read f) >>= x) fun args =>
      Action.read f >>= fun a => y a args := by
  have hread : Sliced false 0 (Eval.onWorld (Action.read f)) fun _ => Action.read f := onWorld _
  have hboth := hread.bind h
  rwa [Bool.false_or, Nat.zero_add] at hboth

/-- A step that keeps in step with one on a new cursor over the slice. -/
theorem alone (i : Interpreter) {x : Eval α}
    (h : ∀ {b b' N}, Cursor.SameNext N b b' → (p → b.SinkFree) → (p → b'.SinkFree) →
      InStep (Cursor.Abreast b b' N) (fun _ _ => True) n x) :
    Sliced p n x fun args => i.onArgs (args.take n) x := by
  intro c w hc hfree
  have hlen : (c.rest.take n).length = n := by
    rw [List.length_take, Cursor.length_rest, Nat.min_eq_left hc]
  have hsame : Cursor.SameNext n c (.start (c.rest.take n) i.config.underflow) :=
    ⟨hc, by simp [Cursor.remaining, Cursor.start, hlen],
      by simp [Cursor.rest, Cursor.start, List.take_take]⟩
  have hslice : p → (Cursor.start (c.rest.take n) i.config.underflow).SinkFree :=
    fun hp v hv => hfree hp v (List.mem_of_mem_drop (List.mem_of_mem_take hv))
  have hstep := h hsame hfree hslice 0 _ _ w (.start _ _ n)
  simp only [onArgs, EStateM.run] at hstep ⊢
  generalize x ⟨c, w⟩ = shared at *
  generalize x ⟨.start (c.rest.take n) i.config.underflow, w⟩ = own at *
  cases hstep with
  | ok a w' hend =>
    rw [hend.finish.1]
    exact .ok a w'
  | error f w' _ => exact .error f w' _

end Sliced

theorem sliced_value (i : Interpreter) {x : Operand} (hd : x.isDiscreet) (hs : x.isStraight) :
    Sliced x.hasPattern x.slots (i.value x) (i.valueApart x) :=
  .alone i fun hsame hb hb' => inStep_value (Cursor.lockstep_abreast hsame) i
    (by rw [hs]; exact suits_abreast hd hb hb')

theorem sliced_alone (i : Interpreter) {t : Predicate} (hd : t.isDiscreet) (hs : t.isStraight) :
    Sliced t.hasPattern t.slots (i.eval t) fun args => i.onArgs (args.take t.slots) (i.eval t) :=
  .alone i fun hsame hb hb' => inStep_eval (Cursor.lockstep_abreast hsame) i
    (by rw [hs]; exact suits_abreast hd hb hb')

theorem sliced_xor (i : Interpreter) : ∀ {xs : List Operand} (acc : Int64),
    Operand.allDiscreet xs → Operand.allStraight xs →
      Sliced (Operand.anyPattern xs) (Operand.slotSum xs) (i.evalXor acc xs) (i.xorApart acc xs)
  | [], acc, _, _ => by
    rw [evalXor]
    exact .onWorld (pure (Value.int acc))
  | x :: rest, acc, hd, hs => by
    rw [Operand.allDiscreet, Bool.and_eq_true] at hd
    rw [Operand.allStraight, Bool.and_eq_true] at hs
    have hrest : ∀ v, Sliced (Operand.anyPattern rest) (Operand.slotSum rest)
        (do let n ← onWorld (Action.read fun s => s.int64 v); i.evalXor (acc ^^^ n) rest)
        (fun args => do
          let n ← Action.read fun s => s.int64 v
          i.xorApart (acc ^^^ n) rest args) :=
      fun v => .read fun n => sliced_xor i (acc ^^^ n) hd.2 hs.2
    rw [evalXor]
    exact (sliced_value i hd.1 hs.1).bind hrest

/-- A tree does on a shared cursor what it does on slices. -/
theorem sliced_eval (i : Interpreter) {t : Predicate} (hd : t.isDiscreet) (hs : t.isStraight) :
    Sliced t.hasPattern t.slots (i.eval t) (i.evalApart t) := by
  cases t with
  | unary op x =>
    rw [eval]
    exact (sliced_value i hd hs).bindWorld _
  | binary op left right =>
    rw [Predicate.isDiscreet, Bool.and_eq_true] at hd
    rw [Predicate.isStraight, Bool.and_eq_true] at hs
    rw [eval]
    exact (sliced_value i hd.1 hs.1).bind fun l => (sliced_value i hd.2 hs.2).bindWorld _
  | boolean op xs =>
    cases op with
    | xor =>
      rw [eval]
      exact sliced_xor i 0 hd hs
    | or => cases hs
    | and => cases hs
  | shift count x =>
    have hskip : Sliced false count (Eval.skip count) fun _ => pure () := .skip count
    have h := hskip.bind fun _ => sliced_value i hd hs
    rw [Bool.false_or] at h
    rw [eval]
    exact h
  | _ => exact sliced_alone i hd hs

/-- **Operands consume slices of their own.** Take a complete tree in which nothing stops early and
no literal function is called on the arguments left. When the arguments left are at least as many as
it has slots, which is the count that it reports unless the count was stopped, and none of them
takes captures if the tree has a pattern node, then:

* the tree does what its operands do from left to right, each on a new cursor over its own slice,
  with the same value or failure and the same world: the same calls, the same arrays filled; the
  shared cursor is left after the last slice;
* another argument list, at any position and under any policy, that has the same arguments next has
  the same outcome, whatever its other arguments are.

An operand on its slice is a tree on a cursor again, so that the same goes for what is nested in it.
-/
theorem slices_disjoint (i : Interpreter) (t : Predicate) (ht : t.isComplete) (hs : t.isStraight)
    (hd : t.isDiscreet) (c : Cursor) (w : World) (hc : t.slots ≤ c.remaining)
    (hfree : t.hasPattern → c.SinkFree) :
    t.argCount = .ok (capCount t.slots) ∧
    OutcomeAt (c.advance t.slots) ((i.evalApart t c.rest).run w) ((i.eval t).run ⟨c, w⟩) ∧
    ∀ c' : Cursor, t.slots ≤ c'.remaining → (t.hasPattern → c'.SinkFree) →
      c.rest.take t.slots = c'.rest.take t.slots →
      SameOutcome (fun d d' => d = c.advance t.slots ∧ d' = c'.advance t.slots) (fun _ _ => True)
        ((i.eval t).run ⟨c, w⟩) ((i.eval t).run ⟨c', w⟩) := by
  refine ⟨Predicate.argCount_eq ht, sliced_eval i hd hs c w hc hfree, ?_⟩
  intro c' hc' hfree' hsame
  have hsuits : Suits (Cursor.Abreast c c' t.slots) t.isDiscreet t.hasPattern t.isStraight := by
    rw [hs]
    exact suits_abreast hd hfree hfree'
  have hlockstep := Cursor.lockstep_abreast ⟨hc, hc', hsame⟩
  have hstep := inStep_eval hlockstep i hsuits 0 c c' w (.start c c' t.slots)
  exact hstep.mono fun _ _ h => h.finish

/-- An exclusive or that skips an argument, at the start of one list and inside another. -/
theorem slices_disjoint_shifted :
    let t : Predicate := .boolean .xor [.unset, .nested (.shift 1 .unset)]
    let c : Cursor := .start [.int 5, .null, .int 6, .bool true] .fail
    let c' : Cursor := ⟨[.str "other", .int 5, .null, .int 6], 1, .padUndefined⟩
    (t.isComplete ∧ t.isStraight ∧ t.isDiscreet ∧ t.slots ≤ c.remaining ∧ c.SinkFree) ∧
    (t.slots ≤ c'.remaining ∧ c'.SinkFree ∧ c.rest.take t.slots = c'.rest.take t.slots) ∧
    t.argCount = .ok 3 ∧
    (Interpreter.idle.eval t).run ⟨c, {}⟩ = .ok (.int 3) ⟨c.advance 3, {}⟩ ∧
    (Interpreter.idle.eval t).run ⟨c', {}⟩ = .ok (.int 3) ⟨c'.advance 3, {}⟩ := by
  intro t c c'
  have hc : c.SinkFree := by unfold Cursor.SinkFree; decide
  have hc' : c'.SinkFree := by unfold Cursor.SinkFree; decide
  have hrest : c.rest = [.int 5, .null, .int 6, .bool true] := rfl
  have hvalue : (Interpreter.idle.evalApart t [.int 5, .null, .int 6, .bool true]).run {} =
      .ok (.int 3) {} := by rfl
  obtain ⟨hcount, hapart, hsame⟩ := slices_disjoint Interpreter.idle t rfl rfl rfl c {} (by decide)
    fun _ => hc
  have hsame := hsame c' (by decide) (fun _ => hc') rfl
  rw [hrest, hvalue] at hapart
  generalize (Interpreter.idle.eval t).run ⟨c, {}⟩ = shared at *
  generalize (Interpreter.idle.eval t).run ⟨c', {}⟩ = other at *
  cases hapart
  cases hsame with
  | ok v w hend =>
    obtain ⟨-, rfl⟩ := hend
    exact ⟨⟨rfl, rfl, rfl, by decide, hc⟩, ⟨by decide, hc', rfl⟩, hcount, rfl, rfl⟩

end Criteria
