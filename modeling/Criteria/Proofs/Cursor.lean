import Criteria.Cursor

/-!
# Requests to a cursor

Taking one argument, taking several and skipping some are all requests for a number of arguments:
the cursor moves past those that are left, and the request fails exactly when the policy is to fail
and fewer are left. Taking several needs a buffer besides, which they may be too many for.

* `Cursor.Requested` — the outcome of a request.
* `Cursor.window` — the next arguments, padded.
* `shift_eq_skip`, `take_eq` — taking is skipping, and handing out what was skipped.
-/

set_option autoImplicit false

namespace Criteria.Cursor

variable {α β : Type} {c : Cursor}

/-- The cursor stands at an argument or at the end. -/
def InRange (c : Cursor) : Prop := c.position ≤ c.args.length

theorem InRange.advance {n : Nat} (hc : c.InRange) (h : n ≤ c.remaining) :
    (c.advance n).InRange := by
  simp only [InRange, Cursor.advance, remaining] at *; omega

theorem length_rest (c : Cursor) : c.rest.length = c.remaining := List.length_drop ..

theorem rest_eq_nil (h : c.remaining = 0) : c.rest = [] :=
  List.length_eq_zero_iff.1 (c.length_rest.trans h)

theorem take_remaining (c : Cursor) : c.rest.take c.remaining = c.rest := by
  rw [← length_rest, List.take_length]

theorem rest_advance (c : Cursor) (n : Nat) : (c.advance n).rest = c.rest.drop n := by
  rw [rest, rest, advance, List.drop_drop]

theorem advance_advance (c : Cursor) (n k : Nat) : (c.advance n).advance k = c.advance (n + k) := by
  simp only [advance, Nat.add_assoc]

theorem remaining_advance (c : Cursor) (n : Nat) : (c.advance n).remaining = c.remaining - n := by
  simp only [advance, remaining, Nat.sub_add_eq]

theorem remaining_advance_remaining (c : Cursor) : (c.advance c.remaining).remaining = 0 := by
  rw [remaining_advance, Nat.sub_self]

theorem remaining_of_peek {v : Value} (h : c.peek = some v) : 1 ≤ c.remaining := by
  have := (List.getElem?_eq_some_iff.1 h).1
  simp only [remaining]; omega

theorem remaining_of_peek_none (h : c.peek = none) : c.remaining = 0 := by
  have := List.getElem?_eq_none_iff.1 h
  simp only [remaining]; omega

/-- The outcome of a request for `n` arguments. -/
structure Requested (c : Cursor) (n : Nat) (outcome : Except EvalError α × Cursor) : Prop where
  moved : outcome.2 = c.advance (min n c.remaining)
  granted : ∀ a, outcome.1 = .ok a → n ≤ c.remaining ∨ c.policy = .padUndefined
  refused : ∀ e, outcome.1 = .error e →
    c.remaining < n ∧ e = .argumentUnderflow n c.remaining ∧ c.policy = .fail

/-- What the answer is made into does not matter to a request. -/
theorem Requested.map {n : Nat} {outcome : Except EvalError α × Cursor} (h : Requested c n outcome)
    (f : α → β) : Requested c n (outcome.1.map f, outcome.2) := by
  obtain ⟨answer, after⟩ := outcome
  cases answer with
  | ok a => exact ⟨h.moved, fun _ _ => h.granted a rfl, nofun⟩
  | error e =>
    refine ⟨h.moved, nofun, fun e' he => ?_⟩
    cases he
    exact h.refused e rfl

/-- Exactly the requests for more than is left are refused, under the policy that refuses. -/
theorem Requested.eq_error_iff {n : Nat} {outcome : Except EvalError α × Cursor}
    (h : Requested c n outcome) (e : EvalError) : outcome.1 = .error e ↔
      c.policy = .fail ∧ c.remaining < n ∧ e = .argumentUnderflow n c.remaining := by
  constructor
  · intro he
    obtain ⟨hmore, hkind, hpolicy⟩ := h.refused e he
    exact ⟨hpolicy, hmore, hkind⟩
  · rintro ⟨hpolicy, hmore, rfl⟩
    cases hanswer : outcome.1 with
    | ok a =>
      rcases h.granted a hanswer with hless | hpad
      · omega
      · exact nomatch hpolicy.symm.trans hpad
    | error e => rw [(h.refused e hanswer).2.1]

/-- The policy decides what becomes of a request for more than is left. -/
theorem requested_underflow {n : Nat} (h : c.remaining < n) :
    Requested c n (c.underflow n c.remaining, c.advance c.remaining) := by
  have hmin : min n c.remaining = c.remaining := by omega
  cases hp : c.policy with
  | fail => exact ⟨by rw [hmin], fun a ha => by simp [underflow, hp] at ha,
      fun e he => by simp_all [underflow]⟩
  | padUndefined => exact ⟨by rw [hmin], fun a _ => .inr hp,
      fun e he => by simp [underflow, hp] at he⟩

theorem skip_of_le {n : Nat} (h : n ≤ c.remaining) : c.skip n = (.ok (), c.advance n) := by
  simp only [skip, Nat.min_eq_left h, Nat.lt_irrefl, if_false]

theorem requested_skip (c : Cursor) (n : Nat) : Requested c n (c.skip n) := by
  by_cases hn : c.remaining < n
  · have hmin : min n c.remaining = c.remaining := by omega
    simpa [skip, hmin, hn] using requested_underflow hn
  · have hmin : min n c.remaining = n := by omega
    rw [skip_of_le (Nat.le_of_not_lt hn)]
    exact ⟨by rw [hmin], fun _ _ => .inl (by omega), fun e he => by cases he⟩

/-- A request for more than is left moves the cursor to the end. -/
theorem rest_of_skip_gt {n : Nat} (h : c.remaining < n) : (c.skip n).2.rest = [] := by
  rw [(c.requested_skip n).moved, Nat.min_eq_right (Nat.le_of_lt h),
    rest_eq_nil c.remaining_advance_remaining]

/-! ## Taking is skipping -/

theorem peek_eq_head? (c : Cursor) : c.peek = c.rest.head? := by
  rw [peek, rest, List.head?_drop]

theorem shift_of_peek {v : Value} (h : c.peek = some v) :
    c.shift = (.ok v, c.advance 1) := by
  simp only [shift, h]

/-- What follows an argument that was taken is not the first argument. -/
theorem mem_tail_of_peek_shift {v : Value} (h : c.shift.2.peek = some v) :
    v ∈ c.args.tail := by
  cases hp : c.peek with
  | some u =>
    rw [shift_of_peek hp] at h
    have hnext : c.args[1 + c.position]? = some v := by rwa [Nat.add_comm]
    rw [← List.getElem?_drop, List.drop_one] at hnext
    exact List.mem_of_getElem? hnext
  | none =>
    have hleft : c.shift.2 = c := by
      simp only [shift, hp]
      split <;> rfl
    rw [hleft, hp] at h
    cases h

theorem skip_padUndefined (h : c.policy = .padUndefined) (n : Nat) :
    c.skip n = (.ok (), c.advance (min n c.remaining)) := by
  simp only [skip, underflow, h, ite_self]

/-- The next `n` arguments, with `undefined` for those that are missing. -/
def window (c : Cursor) (n : Nat) : List Value :=
  c.rest.take n ++ List.replicate (n - c.remaining) .undefined

theorem length_window (c : Cursor) (n : Nat) : (c.window n).length = n := by
  rw [window, List.length_append, List.length_take, length_rest, List.length_replicate]
  omega

theorem window_of_le {n : Nat} (h : n ≤ c.remaining) : c.window n = c.rest.take n := by
  rw [window, Nat.sub_eq_zero_of_le h, List.replicate_zero, List.append_nil]

theorem head?_window (c : Cursor) : (c.window 1).head? = some (c.peek.getD .undefined) := by
  have hlen := c.length_rest
  rw [peek_eq_head?, window]
  cases hrest : c.rest with
  | nil =>
    rw [hrest, List.length_nil] at hlen
    rw [← hlen]
    rfl
  | cons v rest => rfl

theorem shift_eq_skip (c : Cursor) :
    c.shift = ((c.skip 1).1.map fun _ => c.peek.getD .undefined, (c.skip 1).2) := by
  unfold shift
  cases hpeek : c.peek with
  | some v =>
    rw [skip_of_le (remaining_of_peek hpeek)]
    rfl
  | none =>
    have hend := remaining_of_peek_none hpeek
    simp only [skip, hend, Nat.min_zero, Nat.zero_lt_one, if_true]
    cases c.underflow 1 0 <;> rfl

theorem requested_shift (c : Cursor) : Requested c 1 c.shift := by
  rw [shift_eq_skip]
  exact (c.requested_skip 1).map _

theorem buffer_rest (c : Cursor) (n : Nat) : buffer n (c.rest.take n) =
    if bufferCapacity < n then .error (.fault .capacityOverflow) else .ok (c.window n) := by
  have hlen : n - (c.rest.take n).length = n - c.remaining := by
    rw [List.length_take, length_rest]
    omega
  rw [buffer, hlen, window]

/-- Arguments are taken by skipping them and making a buffer of them. -/
theorem take_eq (c : Cursor) (n : Nat) : c.take n =
    ((c.skip n).1.mapError Failure.error >>= fun _ =>
      if bufferCapacity < n then .error (.fault .capacityOverflow) else .ok (c.window n),
      (c.skip n).2) := by
  unfold take skip
  simp only [List.length_take, length_rest, buffer_rest]
  split
  · cases c.underflow n (min n c.remaining) <;> rfl
  · rfl

end Criteria.Cursor
