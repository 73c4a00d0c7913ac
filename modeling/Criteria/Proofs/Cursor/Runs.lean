import Criteria.Proofs.Cursor

/-!
# Runs of a cursor

Any number of calls, one after the other, some of which may fail. They come to one pass over the
arguments: what is handed out and what is skipped are, in order, the arguments from the first one on.
There is one exception. A take that fails has moved past the arguments that were left, and hands none
of them out.

Takes that pad up to more values than a buffer holds are left out.

* `Call.Fits` — the call needs no larger buffer than there can be.
* `Call.given`, `Call.lost` — the arguments that a call hands out or skips, and those that it moves past
  without giving them to anyone.
* `Spends` — what happens to the arguments between two positions of a cursor.

Principal results:

* `Call.spends`, `spends_afterCalls` — one call, and a run of calls.
* `failed_take_gives_nothing` — the exception.
* `calls_partition` — what holds of every run.
-/

set_option autoImplicit false

namespace Criteria.Cursor

/-! ## Calls -/

/-- What is asked of a cursor. -/
inductive Call where
  | shift
  | skip (n : Nat)
  | take (n : Nat)
  | peek
  | rest

/-- What a call gives back when it succeeds. -/
inductive Answer where
  | value (v : Value)
  | done
  | values (vs : List Value)
  /-- The next argument, if there is one. -/
  | next (v? : Option Value)

namespace Call

/-- The answer to a call, and the cursor after it. -/
def perform : Call → Cursor → Except Failure Answer × Cursor
  | shift, c => ((c.shift.1.mapError .error).map .value, c.shift.2)
  | skip n, c => ((c.skip n).1.mapError .error |>.map fun _ => .done, (c.skip n).2)
  | take n, c => ((c.take n).1.map .values, (c.take n).2)
  | peek, c => (.ok (.next c.peek), c)
  | rest, c => (.ok (.values c.rest), c)

/-- The cursor after a call, which may fail. -/
def after (call : Call) (c : Cursor) : Cursor := (call.perform c).2

/-- How many arguments a call asks for. -/
def requested : Call → Nat
  | shift => 1
  | skip n => n
  | take n => n
  | peek => 0
  | rest => 0

/-- A take gathers no more values than the largest buffer holds. Without padding, these are arguments. -/
def Fits (c : Cursor) : Call → Prop
  | take n => n ≤ bufferCapacity ∨ c.policy = .fail ∧ c.args.length ≤ bufferCapacity
  | _ => True

/-- The arguments that a call moves past. -/
def passed (call : Call) (c : Cursor) : List Value :=
  c.rest.take ((call.after c).position - c.position)

/-- What a call hands out, and the arguments that it skips. -/
def given : Call → Cursor → List Value
  | shift, c => c.shift.1.toOption.toList
  | skip n, c => (skip n).passed c
  | take n, c => (c.take n).1.toOption.getD []
  | peek, _ => []
  | rest, _ => []

/-- The arguments that a take moves past although it fails. -/
def lost : Call → Cursor → List Value
  | take n, c => if (c.take n).1.isOk then [] else (take n).passed c
  | _, _ => []

end Call

/-- The cursor after some calls. -/
def afterCalls (calls : List Call) (c : Cursor) : Cursor :=
  calls.foldl (fun c call => call.after c) c

/-- The arguments that belong to each of some calls, one call after the other. -/
def collect (part : Call → Cursor → List Value) : List Call → Cursor → List Value
  | [], _ => []
  | call :: calls, c => part call c ++ collect part calls (call.after c)

variable {c c' c'' : Cursor} {given lost given' lost' : List Value}

/-! ## What becomes of the arguments -/

/-- What becomes of the arguments when a cursor moves on: some are given, in order, and others are lost. -/
inductive Spends (c : Cursor) : List Value → List Value → Cursor → Prop where
  | exactly {n : Nat} (hn : n ≤ c.remaining) : Spends c (c.rest.take n) [] (c.advance n)
  /-- All that are left are given, and some `undefined` behind them. -/
  | padded (k : Nat) (hpolicy : c.policy = .padUndefined) :
      Spends c (c.rest ++ List.replicate k .undefined) [] (c.advance c.remaining)
  /-- Some are given, and the others are lost. -/
  | losing (n : Nat) (hpolicy : c.policy = .fail) :
      Spends c (c.rest.take n) (c.rest.drop n) (c.advance c.remaining)

theorem Spends.none (c : Cursor) : Spends c [] [] c := .exactly (n := 0) (Nat.zero_le _)

/-- At the end of its arguments a cursor gives nothing more than padding, and nothing can be lost. -/
theorem Spends.of_remaining_eq_zero (h : Spends c given lost c') (hc : c.remaining = 0) :
    lost = [] ∧ c' = c ∧ ∃ k, given = List.replicate k .undefined ∧ (c.policy = .fail → k = 0) := by
  have hrest := rest_eq_nil hc
  cases h with
  | @exactly n hn =>
    obtain rfl : n = 0 := by omega
    exact ⟨rfl, rfl, 0, rfl, fun _ => rfl⟩
  | padded k hpolicy =>
    rw [hrest, hc]
    exact ⟨rfl, rfl, k, rfl, fun hfail => nomatch hpolicy.symm.trans hfail⟩
  | losing n hpolicy =>
    rw [hrest, hc]
    exact ⟨List.drop_nil, rfl, 0, List.take_nil, fun _ => rfl⟩

/-- What becomes of the arguments on the way from one position to a third. -/
theorem Spends.trans (h : Spends c given lost c') (h' : Spends c' given' lost' c'') :
    Spends c (given ++ given') (lost ++ lost') c'' := by
  cases h with
  | @exactly n hn =>
    have hleft : (c.advance n).remaining = c.remaining - n := c.remaining_advance n
    have hend : (c.advance n).advance (c.advance n).remaining = c.advance c.remaining := by
      rw [advance_advance, hleft, Nat.add_sub_cancel' hn]
    cases h' with
    | @exactly k hk =>
      rw [rest_advance, ← List.take_add, List.append_nil, advance_advance]
      exact .exactly (by omega)
    | padded k hpolicy =>
      rw [rest_advance, ← List.append_assoc, List.take_append_drop, List.append_nil, hend]
      exact .padded k hpolicy
    | losing k hpolicy =>
      rw [rest_advance, ← List.take_add, List.drop_drop, List.nil_append, hend]
      exact .losing (n + k) hpolicy
  | padded k hpolicy =>
    obtain ⟨rfl, rfl, j, rfl, -⟩ := h'.of_remaining_eq_zero c.remaining_advance_remaining
    rw [List.append_assoc, List.append_nil, List.replicate_append_replicate]
    exact .padded (k + j) hpolicy
  | losing n hpolicy =>
    obtain ⟨rfl, rfl, j, rfl, hj⟩ := h'.of_remaining_eq_zero c.remaining_advance_remaining
    obtain rfl := hj hpolicy
    rw [List.replicate_zero, List.append_nil, List.append_nil]
    exact .losing n hpolicy

theorem Spends.args_eq (h : Spends c given lost c') : c'.args = c.args := by
  cases h <;> rfl

theorem Spends.policy_eq (h : Spends c given lost c') : c'.policy = c.policy := by
  cases h <;> rfl

theorem Spends.inRange (h : Spends c given lost c') (hc : c.InRange) : c'.InRange := by
  cases h with
  | exactly hn => exact hc.advance hn
  | padded | losing => exact hc.advance (Nat.le_refl _)

/-- The arguments up to the new position are given or lost; what is given besides is padding. -/
theorem Spends.parts (h : Spends c given lost c') : ∃ n k, n ≤ c.remaining ∧ c' = c.advance n ∧
    given ++ lost = c.rest.take n ++ List.replicate k .undefined ∧ (c.policy = .fail → k = 0) := by
  cases h with
  | @exactly n hn => exact ⟨n, 0, hn, rfl, rfl, fun _ => rfl⟩
  | padded k hpolicy =>
    refine ⟨c.remaining, k, Nat.le_refl _, rfl, ?_, fun hfail => nomatch hpolicy.symm.trans hfail⟩
    rw [take_remaining, List.append_nil]
  | losing n hpolicy =>
    refine ⟨c.remaining, 0, Nat.le_refl _, rfl, ?_, fun _ => rfl⟩
    rw [take_remaining, List.take_append_drop, List.replicate_zero, List.append_nil]

/-! ## One call -/

variable {α : Type} {n : Nat} {f : Failure}

namespace Call

/-- A take within its buffer is refused or hands out the next arguments. -/
theorem take_of_fits (h : (take n).Fits c) :
    c.take n = ((c.skip n).1.mapError .error |>.map fun _ => c.window n, (c.skip n).2) := by
  rw [take_eq]
  cases hskip : (c.skip n).1 with
  | error e => rfl
  | ok u =>
    -- without padding no more are taken than there are arguments
    have hfits : n ≤ bufferCapacity := by
      rcases h with h | ⟨hpolicy, hargs⟩
      · exact h
      rcases (c.requested_skip n).granted u hskip with hn | hpad
      · exact Nat.le_trans hn (Nat.le_trans (Nat.sub_le ..) hargs)
      · exact nomatch hpolicy.symm.trans hpad
    simp only [if_neg (Nat.not_lt.2 hfits)]
    rfl

/-- A call that fits skips as many arguments as it asks for, and answers if it is not refused. -/
theorem perform_eq (call : Call) (h : call.Fits c) : ∃ answer,
    call.perform c = ((c.skip call.requested).1.mapError .error |>.map fun _ => answer,
      (c.skip call.requested).2) := by
  cases call with
  | shift =>
    refine ⟨.value (c.peek.getD .undefined), ?_⟩
    rw [perform, shift_eq_skip, requested]
    cases (c.skip 1).1 <;> rfl
  | skip n => exact ⟨.done, rfl⟩
  | take n =>
    refine ⟨.values (c.window n), ?_⟩
    rw [perform, take_of_fits h, requested]
    cases (c.skip n).1 <;> rfl
  | peek => exact ⟨.next c.peek, by rw [requested, skip_of_le (Nat.zero_le _)]; rfl⟩
  | rest => exact ⟨.values c.rest, by rw [requested, skip_of_le (Nat.zero_le _)]; rfl⟩

/-- Exactly the calls for more than is left are refused, under the policy that refuses. -/
theorem perform_eq_error_iff (call : Call) (h : call.Fits c) (f : Failure) :
    (call.perform c).1 = .error f ↔ c.policy = .fail ∧ c.remaining < call.requested ∧
      f = .error (.argumentUnderflow call.requested c.remaining) := by
  obtain ⟨answer, hanswer⟩ := call.perform_eq h
  have hiff := (c.requested_skip call.requested).eq_error_iff
  rw [hanswer]
  cases hskip : (c.skip call.requested).1 with
  | ok u =>
    refine ⟨nofun, fun ⟨hpolicy, hmore, _⟩ => ?_⟩
    rw [(hiff _).2 ⟨hpolicy, hmore, rfl⟩] at hskip
    cases hskip
  | error e =>
    obtain ⟨hpolicy, hmore, rfl⟩ := (hiff e).1 hskip
    constructor
    · rintro ⟨⟩
      exact ⟨hpolicy, hmore, rfl⟩
    · rintro ⟨-, -, rfl⟩
      rfl

/-- A call moves past as many arguments as it asks for, or past all that are left. -/
theorem after_eq (call : Call) (c : Cursor) :
    call.after c = c.advance (min call.requested c.remaining) := by
  have hmoved := (c.requested_skip call.requested).moved
  cases call with
  | shift => rw [after, perform, shift_eq_skip]; exact hmoved
  | skip n => exact hmoved
  | take n => rw [after, perform, take_eq]; exact hmoved
  | peek => rw [after, perform, requested, Nat.zero_min]; rfl
  | rest => rw [after, perform, requested, Nat.zero_min]; rfl

theorem passed_eq (call : Call) (c : Cursor) :
    call.passed c = c.rest.take (min call.requested c.remaining) := by
  rw [passed, after_eq, advance, Nat.add_sub_cancel_left]

theorem spends_shift (c : Cursor) : Spends c (shift.given c) [] (shift.after c) := by
  rw [given, after, perform, Cursor.shift]
  cases hpeek : c.peek with
  | some v =>
    have hv : c.rest.take 1 = [v] := by
      rw [peek_eq_head?] at hpeek
      rw [List.take_one, hpeek]
      rfl
    have h := Spends.exactly (remaining_of_peek hpeek)
    rwa [hv] at h
  | none =>
    have hend := remaining_of_peek_none hpeek
    have hrest := rest_eq_nil hend
    cases hpolicy : c.policy with
    | fail =>
      simp only [underflow, hpolicy]
      exact .none c
    | padUndefined =>
      simp only [underflow, hpolicy]
      have h := Spends.padded 1 hpolicy
      rwa [hrest, hend] at h

theorem spends_skip (c : Cursor) (n : Nat) :
    Spends c ((skip n).given c) [] ((skip n).after c) := by
  rw [given, passed_eq, after_eq]
  exact .exactly (Nat.min_le_right ..)

theorem spends_take (c : Cursor) (n : Nat) (h : (take n).Fits c) :
    Spends c ((take n).given c) ((take n).lost c) ((take n).after c) := by
  have htake := take_of_fits h
  by_cases hn : n ≤ c.remaining
  · rw [given, lost, after, perform, htake, skip_of_le hn, window_of_le hn]
    exact .exactly hn
  have hmore : c.remaining < n := Nat.lt_of_not_le hn
  have hmin : min n c.remaining = c.remaining := Nat.min_eq_right (Nat.le_of_lt hmore)
  cases hpolicy : c.policy with
  | padUndefined =>
    have hall : c.rest.take n = c.rest :=
      List.take_of_length_le (c.length_rest ▸ Nat.le_of_lt hmore)
    rw [given, lost, after, perform, htake, skip_padUndefined hpolicy, window, hall, hmin]
    exact .padded _ hpolicy
  | fail =>
    have herror : (c.skip n).1 = .error (.argumentUnderflow n c.remaining) :=
      ((c.requested_skip n).eq_error_iff _).2 ⟨hpolicy, hmore, rfl⟩
    rw [given, lost, passed_eq, after_eq, htake, herror, requested, hmin, take_remaining]
    exact .losing 0 hpolicy

/-- What becomes of the arguments in one call. -/
theorem spends (call : Call) (c : Cursor) (h : call.Fits c) :
    Spends c (call.given c) (call.lost c) (call.after c) := by
  cases call with
  | shift => exact spends_shift c
  | skip n => exact spends_skip c n
  | take n => exact spends_take c n h
  | peek => exact .none c
  | rest => exact .none c

/-- Only a take loses arguments, and only when it is refused; it then loses all that were left. -/
theorem lost_cases (call : Call) (c : Cursor) (h : call.Fits c) : call.lost c = [] ∨
    ∃ n, call = take n ∧ c.policy = .fail ∧ c.remaining < n ∧ call.lost c = c.rest := by
  cases call with
  | take n =>
    cases htake : (c.take n).1 with
    | ok vs =>
      left
      rw [lost, htake]
      rfl
    | error f =>
      have hfail : ((take n).perform c).1 = .error f := by rw [perform, htake]; rfl
      obtain ⟨hpolicy, hmore, -⟩ := ((take n).perform_eq_error_iff h f).1 hfail
      have hmin : min n c.remaining = c.remaining := Nat.min_eq_right (Nat.le_of_lt hmore)
      refine .inr ⟨n, rfl, hpolicy, hmore, ?_⟩
      rw [lost, htake, passed_eq, requested, hmin, take_remaining]
      rfl
  | shift | skip | peek | rest => exact .inl rfl

/-- A call that is refused leaves the cursor at the end. -/
theorem remaining_after_error {call : Call} (h : call.Fits c) (hfail : (call.perform c).1 = .error f) :
    (call.after c).remaining = 0 := by
  obtain ⟨-, hmore, -⟩ := (call.perform_eq_error_iff h f).1 hfail
  rw [after_eq, Nat.min_eq_right (Nat.le_of_lt hmore), remaining_advance_remaining]

end Call

/-- A take that succeeds gives as many values as it was asked for. -/
theorem length_of_take {vs : List Value} (h : (c.take n).1 = .ok vs) : vs.length = n := by
  rw [take_eq] at h
  cases hskip : (c.skip n).1 with
  | error e =>
    rw [hskip] at h
    cases h
  | ok u =>
    rw [hskip] at h
    change (if bufferCapacity < n then _ else Except.ok (c.window n)) = Except.ok vs at h
    split at h <;> cases h
    exact c.length_window n

/-! ## Runs -/

/-- What fits at one position in the arguments fits at every other. -/
theorem Call.fits_after (first : Call) {call : Call} (h : call.Fits c) :
    call.Fits (first.after c) := by
  rw [after_eq]
  cases call <;> exact h

variable {calls : List Call}

/-- What becomes of the arguments in a run. -/
theorem spends_afterCalls (h : ∀ call ∈ calls, call.Fits c) :
    Spends c (collect Call.given calls c) (collect Call.lost calls c) (afterCalls calls c) := by
  induction calls generalizing c with
  | nil => exact .none c
  | cons call calls ih =>
    obtain ⟨hcall, hcalls⟩ := List.forall_mem_cons.1 h
    exact (call.spends c hcall).trans (ih fun later hlater => call.fits_after (hcalls later hlater))

/-- A run loses arguments at one call at most, a take that is refused. -/
theorem collect_lost_cases (h : ∀ call ∈ calls, call.Fits c) : collect Call.lost calls c = [] ∨
    ∃ before n later, calls = before ++ .take n :: later ∧ c.policy = .fail ∧
      (afterCalls before c).remaining < n ∧
      collect Call.lost calls c = (afterCalls before c).rest := by
  induction calls generalizing c with
  | nil => exact .inl rfl
  | cons call calls ih =>
    obtain ⟨hcall, hcalls⟩ := List.forall_mem_cons.1 h
    replace hcalls : ∀ later ∈ calls, later.Fits (call.after c) :=
      fun later hlater => call.fits_after (hcalls later hlater)
    rcases call.lost_cases c hcall with hlost | ⟨n, rfl, hpolicy, hmore, hlost⟩
    · rw [collect, hlost, List.nil_append]
      refine (ih hcalls).imp_right ?_
      rintro ⟨before, n, later, rfl, hpolicy, hmore, hrest⟩
      exact ⟨call :: before, n, later, rfl, (call.spends c hcall).policy_eq ▸ hpolicy, hmore, hrest⟩
    · -- the refused take leaves nothing to lose behind it
      have herror := ((Call.take n).perform_eq_error_iff hcall _).2 ⟨hpolicy, hmore, rfl⟩
      have hend := Call.remaining_after_error hcall herror
      have hnone := ((spends_afterCalls hcalls).of_remaining_eq_zero hend).1
      refine .inr ⟨[], n, calls, rfl, hpolicy, hmore, ?_⟩
      rw [collect, hlost, hnone, List.append_nil]
      rfl

/-- A take that fails moves past the arguments that were left and hands none of them out. What is
given in a run need therefore not be the arguments up to the position. -/
theorem failed_take_gives_nothing :
    let args : List Value := [.int 1, .int 2, .int 3]
    let first := start args .fail
    let last := afterCalls [.take 5] first
    (first.take 5).1 = .error (.error (.argumentUnderflow 5 3)) ∧ last.position = 3 ∧
      collect Call.given [.take 5] first = [] ∧
      ¬∃ k, collect Call.given [.take 5] first =
        args.take last.position ++ List.replicate k .undefined := by
  refine ⟨rfl, rfl, rfl, ?_⟩
  rintro ⟨k, hk⟩
  cases hk

/-- **Runs of a cursor.** Whatever is asked of a cursor from its first argument on, and whatever of it
fails, where no take pads up to more values than a buffer holds:

* the arguments stay as they are, the position is in them, and those from the position on are left;
* what is given, followed by what is lost, is the arguments up to the position, in order and each of
  them once, followed by `undefined` only, which there is none of under the policy to fail;
* nothing is lost unless a take is refused under that policy: what is lost is then what was left at one
  such take;
* a further call does not move the position back; it fails exactly under the policy to fail and when
  it asks for more than is left, says how many it asked for and how many were left, and leaves the
  cursor at the end;
* a take of `n` that succeeds gives `n` values, and under the policy to pad it does. -/
theorem calls_partition (args : List Value) (policy : UnderflowPolicy) (calls : List Call)
    (hcalls : ∀ call ∈ calls, call.Fits (start args policy)) :
    let first := start args policy
    let c := afterCalls calls first
    (c.args = args ∧ c.position ≤ args.length ∧ c.remaining = args.length - c.position ∧
      c.rest = args.drop c.position) ∧
    (∃ k, collect Call.given calls first ++ collect Call.lost calls first =
        args.take c.position ++ List.replicate k .undefined ∧ (policy = .fail → k = 0)) ∧
    (collect Call.lost calls first = [] ∨
      ∃ before n later, calls = before ++ .take n :: later ∧ policy = .fail ∧
        (afterCalls before first).remaining < n ∧
        collect Call.lost calls first = (afterCalls before first).rest) ∧
    (∀ call : Call, c.position ≤ (call.after c).position ∧
      (call.Fits first → ∀ f, (call.perform c).1 = .error f →
        (call.after c).position = args.length)) ∧
    (∀ call : Call, call.Fits first → ∀ f : Failure, (call.perform c).1 = .error f ↔
      policy = .fail ∧ c.remaining < call.requested ∧
        f = .error (.argumentUnderflow call.requested c.remaining)) ∧
    ∀ n, (∀ vs, (c.take n).1 = .ok vs → vs.length = n) ∧
      (policy = .padUndefined → (Call.take n).Fits first → ∃ vs, (c.take n).1 = .ok vs) := by
  intro first c
  have hrun : Spends first _ _ c := spends_afterCalls hcalls
  have hargs : c.args = args := hrun.args_eq
  have hpolicy : c.policy = policy := hrun.policy_eq
  have hrange : c.InRange := hrun.inRange (Nat.zero_le _)
  have hfits : ∀ call : Call, call.Fits first → call.Fits c := by
    intro call hcall
    cases call with
    | take n => exact hcall.imp_right fun ⟨hfail, hlen⟩ => ⟨hpolicy.trans hfail, hargs ▸ hlen⟩
    | _ => trivial
  obtain ⟨n, k, -, hc, hparts, hk⟩ := hrun.parts
  have hn : c.position = n := hc ▸ Nat.zero_add n
  refine ⟨⟨hargs, hargs ▸ hrange, by rw [remaining, hargs], by rw [rest, hargs]⟩, ⟨k, ?_, hk⟩,
    collect_lost_cases hcalls, fun call => ⟨?_, fun hcall f hf => ?_⟩, fun call hcall f => ?_,
    fun n => ⟨fun vs => length_of_take, fun hpad hcall => ?_⟩⟩
  · rw [hparts, hn]
    rfl
  · rw [call.after_eq]
    exact Nat.le_add_right ..
  · have hspends := call.spends c (hfits call hcall)
    have hend := Call.remaining_after_error (hfits call hcall) hf
    have hin : (call.after c).position ≤ (call.after c).args.length := hspends.inRange hrange
    rw [remaining, hspends.args_eq, hargs] at hend
    rw [hspends.args_eq, hargs] at hin
    omega
  · rw [call.perform_eq_error_iff (hfits call hcall), hpolicy]
  · rw [Call.take_of_fits (hfits _ hcall), skip_padUndefined (hpolicy.trans hpad)]
    exact ⟨_, rfl⟩

/-- A refused take between other calls: the two arguments that are left are lost. -/
theorem calls_partition_refused :
    let args : List Value := [.int 1, .int 2, .int 3, .int 4]
    let calls : List Call := [.shift, .skip 1, .peek, .take 5, .rest, .take 0]
    let c := afterCalls calls (start args .fail)
    (∀ call ∈ calls, call.Fits (start args .fail)) ∧
      collect Call.given calls (start args .fail) = [.int 1, .int 2] ∧
      collect Call.lost calls (start args .fail) = [.int 3, .int 4] ∧
      ∃ k, collect Call.given calls (start args .fail) ++ collect Call.lost calls (start args .fail) =
        args.take c.position ++ List.replicate k .undefined := by
  intro args calls c
  have hlen : args.length ≤ bufferCapacity := by decide
  have hfits : ∀ call ∈ calls, call.Fits (start args .fail) := by
    intro call _
    cases call with
    | take n => exact .inr ⟨rfl, hlen⟩
    | _ => trivial
  obtain ⟨-, ⟨k, hparts, -⟩, -⟩ := calls_partition args .fail calls hfits
  exact ⟨hfits, rfl, rfl, k, hparts⟩

end Criteria.Cursor
