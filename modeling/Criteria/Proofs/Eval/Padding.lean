import Criteria.Proofs.Eval.Lockstep

/-!
# Missing arguments are supplied at the end

A cursor that supplies `undefined` for missing arguments is like one that fails, over the same
arguments with enough of `undefined` after them. The two differ in their positions only: the first
one stops at the end of the real arguments, the second one goes on into the padding.

* `Cursor.Padded` — such a pair of cursors, and how much of the padding is still needed.
* `padding_outcome` — a tree has the same outcome on both, and the second one does not run out.

Captures are handed to functions and arrays only, which the padding does not contain, so it is used
up by requests alone, of which there are no more than the tree has slots.
-/

set_option autoImplicit false

namespace Criteria

open Eval Interpreter

namespace Cursor

variable {args : List Value} {k n : Nat} {c c' : Cursor} {es : List CursorEvent}

/-- A list of arguments with `k` times `undefined` after it. -/
def padded (args : List Value) (k : Nat) : List Value := args ++ List.replicate k .undefined

theorem length_padded (args : List Value) (k : Nat) : (padded args k).length = args.length + k := by
  simp [padded]

/-- What is taken off a padded list is what is left of the list, and padding for the rest. -/
theorem take_drop_padded {q : Nat} (h : q - args.length + n ≤ k) :
    ((padded args k).drop q).take n =
      (args.drop (min args.length q)).take n ++
        List.replicate (n - (args.length - min args.length q)) .undefined := by
  have hdrop : args.drop (min args.length q) = args.drop q := by
    by_cases hq : q ≤ args.length
    · rw [Nat.min_eq_right hq]
    · have hlong : args.length ≤ q := by omega
      rw [Nat.min_eq_left hlong, List.drop_length, List.drop_eq_nil_of_le hlong]
  have hpad : min (n - (args.length - q)) (k - (q - args.length)) =
      n - (args.length - min args.length q) := by omega
  rw [padded, List.drop_append, List.drop_replicate, List.take_append, List.take_replicate,
    List.length_drop, hdrop, hpad]

/-- A sink in a padded list is one of the arguments in front. -/
theorem position_lt_of_sink {v : Value} (hargs : c.args = padded args k) (hp : c.peek = some v)
    (hv : v.isSink) : c.position < args.length := by
  refine Nat.lt_of_not_le fun hle => ?_
  rw [peek, hargs, padded, List.getElem?_append_right hle, List.getElem?_replicate] at hp
  split at hp
  · cases hp; cases hv
  · cases hp

/-- A cursor that supplies missing arguments, and one that fails over the padded list. Of the
padding, `n` arguments can still be asked for. -/
structure Padded (args : List Value) (k n : Nat) (c c' : Cursor) : Prop where
  supplies : c.args = args ∧ c.policy = .padUndefined
  fails : c'.args = padded args k ∧ c'.policy = .fail
  position : c.position = min args.length c'.position
  room : c'.position - args.length + n ≤ k

/-- The positions of the two cursors. -/
def StopsAtEnd (args : List Value) (c c' : Cursor) : Prop :=
  c.position = min args.length c'.position

theorem Padded.remaining (h : Padded args k n c c') : n ≤ c'.remaining := by
  have hroom := h.room
  rw [Cursor.remaining, h.fails.1, length_padded]
  omega

/-- Requests are granted alike. -/
theorem lockstep_padded (args : List Value) (k : Nat) :
    Lockstep (Padded args k) (StopsAtEnd args) := by
  refine ⟨fun h => h.position, ?_⟩
  intro n j c c' h
  have hleft : n ≤ c'.remaining := Nat.le_trans (Nat.le_add_right n j) h.remaining
  obtain ⟨⟨hargs, hpolicy⟩, ⟨hargs', hpolicy'⟩, hposition, hroom⟩ := h
  have hwindow : c.window n = c'.window n := by
    rw [window_of_le hleft, window, rest, rest, Cursor.remaining, hargs, hargs', hposition]
    exact (take_drop_padded (by omega)).symm
  refine ⟨c.advance (min n c.remaining), c'.advance n, skip_padUndefined hpolicy n, skip_of_le hleft,
    hwindow, ⟨hargs, hpolicy⟩, ⟨hargs', hpolicy'⟩, ?_, ?_⟩
  · simp only [advance, Cursor.remaining, hargs, hposition]; omega
  · simp only [advance]; omega

/-- Padding that is asked for less has room for it. -/
theorem slack_padded (args : List Value) (k : Nat) : Slack (Padded args k) := by
  intro n j c c' h
  have hroom := h.room
  exact ⟨h.supplies, h.fails, h.position, by omega⟩

theorem Padded.peek {v : Value} (h : Padded args k n c c') (hlt : c'.position < args.length) :
    c.peek = some v ↔ c'.peek = some v := by
  have hposition : c.position = c'.position := by rw [h.position]; omega
  rw [Cursor.peek, Cursor.peek, h.supplies.1, h.fails.1, hposition, padded,
    List.getElem?_append_left hlt]

/-- The padding takes no captures. -/
theorem sameSinks_padded (args : List Value) (k : Nat) : SameSinks (Padded args k) := by
  have hlt : ∀ {n c c' v}, Padded args k n c c' → v.isSink → c.peek = some v →
      c'.position < args.length := by
    intro n c c' v h hv hp
    have hin := (List.getElem?_eq_some_iff.1 hp).1
    rw [h.supplies.1, h.position] at hin
    omega
  refine ⟨fun {n c c' v} h hv => ⟨fun hp => ?_, fun hp' => ?_⟩, fun {n c c' v} h hv hp => ?_⟩
  · exact (h.peek (hlt h hv hp)).1 hp
  · exact (h.peek (position_lt_of_sink h.fails.1 hp' hv)).2 hp'
  · have hin := hlt h hv hp
    have hposition := h.position
    have hroom := h.room
    refine ⟨h.supplies, h.fails, ?_, ?_⟩
    · simp only [advance]; omega
    · simp only [advance]; omega

/-- A padded list does not run out where no more is asked for than there is padding. -/
theorem Run.granted_of_padded (h : Run c es c') (hargs : c.args = padded args k)
    (hroom : c.position - args.length + requests es ≤ k) : ∀ e ∈ es, e.IsGranted := by
  induction h with
  | done => simp
  | @ask c c' es n _ ih =>
    rw [requests_cons, CursorEvent.requested] at hroom
    have hleft : n ≤ c.remaining := by
      rw [Cursor.remaining, hargs, length_padded]; omega
    rw [Nat.min_eq_left hleft] at ih
    have ih := ih hargs (by simp only [advance]; omega)
    exact List.forall_mem_cons.2 ⟨hleft, ih⟩
  | exported hp hv _ ih =>
    -- what takes captures stands before the padding, so none of the padding is used up
    have hlt := position_lt_of_sink hargs hp hv
    simp only [requests_cons, CursorEvent.requested] at hroom
    have ih := ih hargs (by simp only [advance]; omega)
    exact List.forall_mem_cons.2 ⟨trivial, ih⟩
  | search _ ih | call _ _ ih | filter _ _ ih =>
    simp only [requests_cons, CursorEvent.requested, Nat.zero_add] at hroom
    exact List.forall_mem_cons.2 ⟨trivial, ih hargs hroom⟩

end Cursor

/-- **To supply missing arguments is to pad the list.** Take a complete tree that calls no literal
function on the arguments left, and at least as much padding as it has slots, which is the count
that it reports unless the count was stopped. A cursor that supplies missing arguments and one that
fails over the padded list then lead to the same value or failure and to the same world: the same
calls with the same arguments, the same arrays filled, the same caches. No request of the second one
underflows, and the first one is left where the second one is, or at the end of the real arguments
if that is before. -/
theorem padding_outcome (i : Interpreter) (t : Predicate) (ht : t.isComplete) (hd : t.isDiscreet)
    (args : List Value) (p : Nat) (hp : p ≤ args.length) (k : Nat) (hk : t.slots ≤ k) (w : World) :
    let supplies : Machine := ⟨⟨args, p, .padUndefined⟩, w⟩
    let fails : Machine := ⟨⟨Cursor.padded args k, p, .fail⟩, w⟩
    t.argCount = .ok (capCount t.slots) ∧
    SameOutcome (Cursor.StopsAtEnd args) (Cursor.StopsAtEnd args)
      ((i.eval t).run supplies) ((i.eval t).run fails) ∧
    ∀ e ∈ i.events t fails, e.IsGranted := by
  intro supplies fails
  have hpadded : Cursor.Padded args k (t.slots + 0) supplies.cursor fails.cursor :=
    ⟨⟨rfl, rfl⟩, ⟨rfl, rfl⟩, by simp only [supplies, fails]; omega,
      by simp only [fails]; omega⟩
  have hsuits : Suits (Cursor.Padded args k) t.isDiscreet t.hasPattern t.isStraight :=
    ⟨hd, fun _ => Cursor.sameSinks_padded args k, fun _ => Cursor.slack_padded args k⟩
  -- the padding that the tree could ask for is there, and none needs to be left
  have hsame := inStep_eval (Cursor.lockstep_padded args k) i hsuits 0 _ _ w hpadded
  refine ⟨Predicate.argCount_eq ht, ?_, ?_⟩
  · exact hsame.mono fun _ _ h => h.position
  · have hrun := (explains_eval i t fails).run
    have hasked := (asks_eval i t fails).le
    refine hrun.granted_of_padded rfl ?_
    have hstart : fails.cursor.position - args.length = 0 := Nat.sub_eq_zero_of_le hp
    omega

/-- A disjunction that goes on past the only argument. -/
theorem padding_outcome_disjunction :
    let t : Predicate := .boolean .or [.unset, .unset, .nested (.type (.single .undefined))]
    t.isComplete ∧ t.isDiscreet ∧ 0 ≤ [Value.null].length ∧ t.slots ≤ 3 ∧ t.argCount = .ok 3 ∧
    (Interpreter.idle.eval t).run ⟨⟨[.null], 0, .padUndefined⟩, {}⟩ =
      .ok (.bool true) ⟨⟨[.null], 1, .padUndefined⟩, {}⟩ ∧
    ∃ m', (Interpreter.idle.eval t).run ⟨⟨Cursor.padded [.null] 3, 0, .fail⟩, {}⟩ =
      .ok (.bool true) m' ∧ min 1 m'.cursor.position = 1 := by
  intro t
  have hsupplies : (Interpreter.idle.eval t).run ⟨⟨[.null], 0, .padUndefined⟩, {}⟩ =
      .ok (.bool true) ⟨⟨[.null], 1, .padUndefined⟩, {}⟩ := by rfl
  obtain ⟨hcount, hsame, -⟩ := padding_outcome Interpreter.idle t rfl rfl [.null] 0 (Nat.zero_le _)
    3 (by decide) {}
  rw [hsupplies] at hsame
  cases hfails : (Interpreter.idle.eval t).run ⟨⟨Cursor.padded [.null] 3, 0, .fail⟩, {}⟩ with
  | error f m' => rw [hfails] at hsame; cases hsame
  | ok v m' =>
    rw [hfails] at hsame
    cases hsame with
    | ok v w h =>
      exact ⟨rfl, rfl, Nat.zero_le _, by decide, hcount, hsupplies, _, rfl, h.symm⟩

end Criteria
