import Criteria.Value.Basic
import Mathlib.Logic.Function.Basic

/-!
# Decisions

A decision asks for arguments one after another and goes on by their truth. Each question is for the
argument of a numbered slot. There are two ways to answer: with the argument that has the number of
the slot, or with the arguments in the order of the questions.

* `Decision.Aligned` — while the value is open, each question is for the slot whose number is that of
  the arguments taken before.
* `Decision.Aligned.inPlace_eq`, `Decision.Ordered.exists_inPlace_ne` — the two ways come to the same value
  whatever the arguments are, exactly when the decision is aligned.
-/

set_option autoImplicit false

namespace Criteria

/-- How a value depends on arguments. -/
inductive Decision where
  | done (v : Value)
  /-- The argument that was asked for last. -/
  | same
  /-- Asks for the argument of a slot, and goes on by its truth. -/
  | ask (slot : Nat) (next : Bool → Decision)

namespace Decision

/-! ## Values of decisions -/

section Run

variable {σ : Type}

/-- The value, when `read` answers the questions. -/
def run (read : σ → Nat → Value × σ) : Decision → σ → Value → Value × σ
  | done v, st, _ => (v, st)
  | same, st, last => (last, st)
  | ask slot next, st, _ =>
    (next (read st slot).1.isTruthy).run read (read st slot).2 (read st slot).1

/-- Whether the value has the truth `wanted`, where `last` is the truth of the argument asked for
last. -/
def test (wanted : Bool) : Decision → Bool → Decision
  | done v, _ => done (.bool (v.isTruthy == wanted))
  | same, last => done (.bool (last == wanted))
  | ask slot next, _ => ask slot fun b => (next b).test wanted b

/-- Goes on with another decision unless the value has the truth `stop`. -/
def followedBy : Decision → Bool → Decision → Bool → Decision
  | done v, stop, next, _ => if v.isTruthy = stop then done v else next
  | same, stop, next, last => if last = stop then same else next
  | ask slot more, stop, next, _ => ask slot fun b => (more b).followedBy stop next b

variable (read : σ → Nat → Value × σ)

/-- What was asked for before does not matter, unless it is the value. -/
theorem run_of_ne {d : Decision} (h : d ≠ same) (st : σ) (last last' : Value) :
    d.run read st last = d.run read st last' := by
  cases d with
  | same => exact absurd rfl h
  | done | ask => rfl

theorem run_test (wanted : Bool) (d : Decision) (st : σ) (last : Value) :
    (d.test wanted last.isTruthy).run read st last =
      (.bool ((d.run read st last).1.isTruthy == wanted), (d.run read st last).2) := by
  induction d generalizing st last with
  | done | same => rfl
  | ask slot next ih => exact ih _ _ _

theorem run_followedBy {next : Decision} (hnext : next ≠ same) (stop : Bool) (d : Decision) (st : σ)
    (last : Value) :
    (d.followedBy stop next last.isTruthy).run read st last =
      if (d.run read st last).1.isTruthy = stop then d.run read st last
      else next.run read (d.run read st last).2 .undefined := by
  induction d generalizing st last with
  | done v =>
    rw [followedBy, run]
    by_cases hv : v.isTruthy = stop
    · rw [if_pos hv, if_pos hv, run]
    · rw [if_neg hv, if_neg hv]
      exact run_of_ne read hnext st last .undefined
  | same =>
    rw [followedBy, run]
    by_cases hv : last.isTruthy = stop
    · rw [if_pos hv, if_pos hv, run]
    · rw [if_neg hv, if_neg hv]
      exact run_of_ne read hnext st last .undefined
  | ask slot more ih => exact ih _ _ _

theorem test_ne_same (wanted : Bool) (d : Decision) (last : Bool) : d.test wanted last ≠ same := by
  cases d <;> nofun

theorem followedBy_ne_same {d next : Decision} (hd : d ≠ same) (hnext : next ≠ same)
    (stop last : Bool) : d.followedBy stop next last ≠ same := by
  cases d with
  | same => exact absurd rfl hd
  | ask slot more => nofun
  | done v =>
    rw [followedBy]
    split
    · nofun
    · exact hnext

end Run

/-- The value when a question is answered with the argument that has the number of the slot. -/
def inPlace (arg : Nat → Value) (d : Decision) (last : Value) : Value :=
  (d.run (fun st slot => (arg slot, st)) () last).1

/-- The answer to the next question, when arguments are taken in order. -/
def takeNext (arg : Nat → Value) (position _slot : Nat) : Value × Nat := (arg position, position + 1)

/-- The value when questions are answered with the arguments in order, from a position on. -/
def inOrder (arg : Nat → Value) (d : Decision) (position : Nat) (last : Value) : Value :=
  (d.run (takeNext arg) position last).1

theorem inPlace_ask (arg : Nat → Value) (slot : Nat) (next : Bool → Decision) (last : Value) :
    (ask slot next).inPlace arg last = (next (arg slot).isTruthy).inPlace arg (arg slot) := rfl

theorem inOrder_ask (arg : Nat → Value) (slot : Nat) (next : Bool → Decision) (position : Nat)
    (last : Value) : (ask slot next).inOrder arg position last =
      (next (arg position).isTruthy).inOrder arg (position + 1) (arg position) := rfl

theorem inPlace_test (arg : Nat → Value) (wanted : Bool) (d : Decision) :
    (d.test wanted false).inPlace arg .undefined =
      .bool ((d.inPlace arg .undefined).isTruthy == wanted) :=
  congrArg Prod.fst (run_test (fun st slot => (arg slot, st)) wanted d () .undefined)

theorem inPlace_followedBy (arg : Nat → Value) {next : Decision} (hnext : next ≠ same) (stop : Bool)
    (d : Decision) : (d.followedBy stop next false).inPlace arg .undefined =
      if (d.inPlace arg .undefined).isTruthy = stop then d.inPlace arg .undefined
      else next.inPlace arg .undefined := by
  have hrun := run_followedBy (fun st slot => (arg slot, st)) hnext stop d () .undefined
  change ((d.followedBy stop next (Value.isTruthy .undefined)).run _ () .undefined).1 = _
  rw [hrun, apply_ite Prod.fst]
  rfl

/-! ## Open decisions -/

/-- The value is `v`, whatever the arguments are. -/
inductive Gives (v : Value) : Decision → Prop where
  | done : Gives v (.done v)
  | ask (slot : Nat) {next : Bool → Decision} (h : ∀ b, Gives v (next b)) : Gives v (.ask slot next)

/-- The value does not depend on arguments that are asked for later. -/
def IsSettled (d : Decision) : Prop := d = same ∨ ∃ v, d.Gives v

/-- The value is settled after `n` questions. -/
def Settles : Nat → Decision → Prop
  | 0, d => d.IsSettled
  | n + 1, ask _ next => ∀ b, (next b).Settles n
  | _ + 1, _ => True

/-- Questions are for slots from `first` on, below `limit`, and in order. -/
def Ordered (limit : Nat) : Decision → Nat → Prop
  | ask slot next, first => first ≤ slot ∧ slot < limit ∧ ∀ b, (next b).Ordered limit (slot + 1)
  | _, _ => True

/-- While the value is open, each question is for the slot whose number is that of the arguments
taken before. -/
inductive Aligned : Nat → Decision → Prop where
  | same (position : Nat) : Aligned position .same
  | gives {position : Nat} {d : Decision} {v : Value} (h : d.Gives v) : Aligned position d
  | ask {position : Nat} {next : Bool → Decision} (h : ∀ b, Aligned (position + 1) (next b)) :
      Aligned position (.ask position next)

variable {d : Decision} {arg arg' : Nat → Value} {limit first n : Nat}

theorem Gives.inPlace_eq {v : Value} (h : d.Gives v) (arg : Nat → Value) (last : Value) :
    d.inPlace arg last = v := by
  induction h generalizing last with
  | done => rfl
  | ask slot h ih => exact ih _ _

theorem Gives.inOrder_eq {v : Value} (h : d.Gives v) (arg : Nat → Value) (position : Nat)
    (last : Value) : d.inOrder arg position last = v := by
  induction h generalizing position last with
  | done => rfl
  | ask slot h ih => exact ih _ _ _

theorem IsSettled.settles_one (h : d.IsSettled) : d.Settles 1 := by
  rcases h with rfl | ⟨v, hv⟩
  · trivial
  · cases hv with
    | done => trivial
    | ask slot hnext => exact fun b => .inr ⟨v, hnext b⟩

theorem Settles.succ (h : d.Settles n) : d.Settles (n + 1) := by
  induction d generalizing n with
  | done | same => trivial
  | ask slot next ih =>
    cases n with
    | zero => exact IsSettled.settles_one h
    | succ n => exact fun b => ih b (h b)

theorem Settles.mono (h : d.Settles n) {k : Nat} (hk : n ≤ k) : d.Settles k := by
  induction hk with
  | refl => exact h
  | step _ ih => exact ih.succ

/-- An open decision has a last question that matters. -/
theorem Settles.exists_last (h : d.Settles n) (hopen : ¬d.IsSettled) :
    ∃ k, ¬d.Settles k ∧ d.Settles (k + 1) := by
  induction n with
  | zero => exact absurd h hopen
  | succ n ih =>
    by_cases hn : d.Settles n
    · exact ih hn
    · exact ⟨n, hn, h⟩

theorem Ordered.anti (h : d.Ordered limit first) (hn : n ≤ first) : d.Ordered limit n := by
  cases d with
  | done | same => trivial
  | ask slot next => exact ⟨Nat.le_trans hn h.1, h.2⟩

theorem Ordered.test (h : d.Ordered limit first) (wanted last : Bool) :
    (d.test wanted last).Ordered limit first := by
  induction d generalizing first last with
  | done | same => trivial
  | ask slot next ih => exact ⟨h.1, h.2.1, fun b => ih b (h.2.2 b) b⟩

/-- Two decisions one after the other, on slots of their own. -/
theorem Ordered.followedBy {next : Decision} {limit' : Nat} (h : d.Ordered limit first)
    (hnext : next.Ordered limit' limit) (hfirst : first ≤ limit) (hlimit : limit ≤ limit')
    (stop last : Bool) : (d.followedBy stop next last).Ordered limit' first := by
  induction d generalizing first last with
  | done v =>
    rw [Decision.followedBy]
    split
    · trivial
    · exact hnext.anti hfirst
  | same =>
    rw [Decision.followedBy]
    split
    · trivial
    · exact hnext.anti hfirst
  | ask slot more ih =>
    obtain ⟨hslot, hlt, hmore⟩ := h
    exact ⟨hslot, by omega, fun b => ih b (hmore b) hlt b⟩

/-- There is a question for each slot at most. -/
theorem Ordered.settles (h : d.Ordered limit first) : d.Settles (limit - first) := by
  induction d generalizing first with
  | done v => exact Settles.mono (n := 0) (.inr ⟨v, .done⟩) (Nat.zero_le _)
  | same => exact Settles.mono (n := 0) (.inl rfl) (Nat.zero_le _)
  | ask slot next ih =>
    obtain ⟨hfirst, hlimit, hnext⟩ := h
    have hsettles : (ask slot next).Settles (limit - (slot + 1) + 1) := fun b => ih b (hnext b)
    exact hsettles.mono (by omega)

/-- Only the slots of the questions matter. -/
theorem Ordered.inPlace_congr (h : d.Ordered limit first)
    (hagree : ∀ i, first ≤ i → i < limit → arg i = arg' i) (last : Value) :
    d.inPlace arg last = d.inPlace arg' last := by
  induction d generalizing first last with
  | done | same => rfl
  | ask slot next ih =>
    obtain ⟨hfirst, hlimit, hnext⟩ := h
    rw [inPlace_ask, inPlace_ask, hagree slot hfirst hlimit]
    exact ih _ (hnext _) (fun i hi hi' => hagree i (by omega) hi') _

/-- Only the arguments taken while the value is open matter. -/
theorem Settles.inOrder_congr (h : d.Settles n) {position : Nat}
    (hagree : ∀ i, position ≤ i → i < position + n → arg i = arg' i) (last : Value) :
    d.inOrder arg position last = d.inOrder arg' position last := by
  induction n generalizing d position last with
  | zero =>
    rcases h with rfl | ⟨v, hv⟩
    · rfl
    · rw [hv.inOrder_eq, hv.inOrder_eq]
  | succ n ih =>
    cases d with
    | done | same => rfl
    | ask slot next =>
      rw [inOrder_ask, inOrder_ask, hagree position (Nat.le_refl _) (by omega)]
      exact ih (h _) (fun i hi hi' => hagree i (by omega) (by omega)) _

/-! ## Two ways to answer -/

/-- Aligned decisions have one value. -/
theorem Aligned.inPlace_eq {position : Nat} (h : d.Aligned position) (arg : Nat → Value)
    (last : Value) : d.inPlace arg last = d.inOrder arg position last := by
  induction h generalizing last with
  | same => rfl
  | gives hv => rw [hv.inPlace_eq, hv.inOrder_eq]
  | ask _ ih => exact ih _ _

/-- Arguments that no one can call. -/
def Uncallable (arg : Nat → Value) : Prop := ∀ i f, arg i ≠ .function f

theorem Uncallable.update {v : Value} (h : Uncallable arg) (hv : ∀ f, v ≠ .function f) (j : Nat) :
    Uncallable (Function.update arg j v) := by
  intro i
  by_cases hi : i = j
  · rw [hi, Function.update_self]
    exact hv
  · rw [Function.update_of_ne hi]
    exact h i

/-- The answer to the last question that matters can change the value. -/
theorem IsSettled.exists_pair {next : Bool → Decision} (h : ∀ b, (next b).IsSettled) {slot : Nat}
    (hopen : ∀ v, ¬(ask slot next).Gives v) :
    ∃ v v' : Value, (∀ f, v ≠ .function f) ∧ (∀ f, v' ≠ .function f) ∧
      ∀ arg arg', (next v.isTruthy).inPlace arg v ≠ (next v'.isTruthy).inPlace arg' v' := by
  rcases h true with htrue | ⟨v, htrue⟩
  · refine ⟨.int 1, .int 2, nofun, nofun, fun arg arg' => ?_⟩
    have hone : (Value.int 1).isTruthy = true := by decide
    have htwo : (Value.int 2).isTruthy = true := by decide
    rw [hone, htwo, htrue]
    change Value.int 1 ≠ .int 2
    exact fun he => absurd (Value.int.inj he) (by decide)
  · rcases h false with hfalse | ⟨v', hfalse⟩
    · refine ⟨.int 0, .bool false, nofun, nofun, fun arg arg' => ?_⟩
      have hzero : (Value.int 0).isTruthy = false := by decide
      have hno : (Value.bool false).isTruthy = false := rfl
      rw [hzero, hno, hfalse]
      change Value.int 0 ≠ .bool false
      nofun
    · refine ⟨.bool true, .bool false, nofun, nofun, fun arg arg' => ?_⟩
      have hyes : (Value.bool true).isTruthy = true := rfl
      have hno : (Value.bool false).isTruthy = false := rfl
      rw [hyes, hno, htrue.inPlace_eq, hfalse.inPlace_eq]
      rintro rfl
      exact hopen v (.ask slot fun b => by cases b <;> assumption)

/-- When the value is open after `n` questions and settled after one more, the argument of some slot
that is at least the `n`-th can change it. -/
theorem Ordered.exists_slot (h : d.Ordered limit first) (hopen : ¬d.Settles n)
    (hsettles : d.Settles (n + 1)) :
    ∃ j, first + n ≤ j ∧ ∃ arg v v', Uncallable arg ∧ (∀ f, v ≠ .function f) ∧
      (∀ f, v' ≠ .function f) ∧ ∀ last,
        d.inPlace (Function.update arg j v) last ≠ d.inPlace (Function.update arg j v') last := by
  induction n generalizing d first with
  | zero =>
    cases d with
    | done v => exact absurd (.inr ⟨v, .done⟩) hopen
    | same => exact absurd (.inl rfl) hopen
    | ask slot next =>
      have hgives : ∀ v, ¬(ask slot next).Gives v := fun v h => hopen (.inr ⟨v, h⟩)
      obtain ⟨v, v', hv, hv', hne⟩ := IsSettled.exists_pair hsettles hgives
      refine ⟨slot, h.1, fun _ => .undefined, v, v', fun _ _ => nofun, hv, hv', fun last => ?_⟩
      rw [inPlace_ask, inPlace_ask, Function.update_self, Function.update_self]
      exact hne _ _
  | succ n ih =>
    cases d with
    | done | same => exact absurd trivial hopen
    | ask slot next =>
      obtain ⟨hfirst, hlimit, hnext⟩ := h
      obtain ⟨b, hb⟩ := not_forall.mp hopen
      obtain ⟨j, hj, arg, v, v', harg, hv, hv', hne⟩ := ih (hnext b) hb (hsettles b)
      -- The path to the question is kept by the answers to the slots before it.
      refine ⟨j, by omega, Function.update arg slot (.bool b), v, v',
        harg.update (v := .bool b) nofun slot, hv, hv', fun last => ?_⟩
      have hslot : slot ≠ j := by omega
      have htruth : (Value.bool b).isTruthy = b := rfl
      have hafter : ∀ w last, (next b).inPlace (Function.update (Function.update arg slot (.bool b)) j w)
          last = (next b).inPlace (Function.update arg j w) last := fun w last => by
        refine (hnext b).inPlace_congr (fun i hi _ => ?_) last
        rw [Function.update_comm hslot, Function.update_of_ne (by omega)]
      rw [inPlace_ask, inPlace_ask, Function.update_of_ne hslot, Function.update_of_ne hslot,
        Function.update_self, htruth, hafter, hafter]
      exact hne _

/-- An open decision whose slots come after the position has two values for some arguments. -/
theorem Ordered.exists_ne_of_lt (h : d.Ordered limit first) {position : Nat} (hlt : position < first)
    (hopen : ¬d.IsSettled) :
    ∃ arg, Uncallable arg ∧ d.inPlace arg .undefined ≠ d.inOrder arg position .undefined := by
  -- The last question that matters is for a slot that answers in order do not come to.
  obtain ⟨n, hn, hsettles⟩ := h.settles.exists_last hopen
  obtain ⟨j, hj, arg, v, v', harg, hv, hv', hne⟩ := h.exists_slot hn hsettles
  by_contra hnone
  have hall : ∀ arg, Uncallable arg → d.inPlace arg .undefined = d.inOrder arg position .undefined :=
    fun arg harg => by_contra fun hne => hnone ⟨arg, harg, hne⟩
  have hsame : d.inOrder (Function.update arg j v) position .undefined =
      d.inOrder (Function.update arg j v') position .undefined := by
    refine hsettles.inOrder_congr (fun i _ hi => ?_) .undefined
    rw [Function.update_of_ne (by omega), Function.update_of_ne (by omega)]
  refine hne .undefined ?_
  rw [hall _ (harg.update hv j), hall _ (harg.update hv' j), hsame]

/-- A decision that is not aligned has two values for some arguments. -/
theorem Ordered.exists_inPlace_ne (h : d.Ordered limit first) (hd : ¬d.Aligned first) :
    ∃ arg, Uncallable arg ∧ d.inPlace arg .undefined ≠ d.inOrder arg first .undefined := by
  induction d generalizing first with
  | done v => exact absurd (.gives .done) hd
  | same => exact absurd (.same first) hd
  | ask slot next ih =>
    have hopen : ¬(ask slot next).IsSettled := by
      rintro (he | ⟨v, hv⟩)
      · cases he
      · exact hd (.gives hv)
    by_cases hslot : slot = first
    · subst hslot
      have hex : ∃ b, ¬(next b).Aligned (slot + 1) := not_forall.mp fun hall => hd (.ask hall)
      obtain ⟨b, hb⟩ := hex
      obtain ⟨arg, harg, hne⟩ := ih b (h.2.2 b) hb
      refine ⟨Function.update arg slot (.bool b), harg.update (v := .bool b) nofun slot, ?_⟩
      have hnext : next b ≠ same := by
        intro he
        rw [he] at hb
        exact hb (.same _)
      have hagree : ∀ i, slot + 1 ≤ i → Function.update arg slot (.bool b) i = arg i :=
        fun i hi => Function.update_of_ne (by omega) _ _
      have htruth : (Value.bool b).isTruthy = b := rfl
      rw [inPlace_ask, inOrder_ask, Function.update_self, htruth,
        (h.2.2 b).inPlace_congr (fun i hi _ => hagree i hi),
        (h.2.2 b).settles.inOrder_congr (fun i hi _ => hagree i hi), inPlace, inOrder,
        run_of_ne _ hnext _ _ .undefined, run_of_ne _ hnext _ (.bool b) .undefined]
      exact hne
    · have hlate : (ask slot next).Ordered limit slot := ⟨Nat.le_refl _, h.2.1, h.2.2⟩
      exact hlate.exists_ne_of_lt (Nat.lt_of_le_of_ne h.1 (Ne.symm hslot)) hopen

/-- The argument at a position, and `undefined` where there is none. -/
def argAt (args : List Value) (position : Nat) : Value := args.getD position .undefined

theorem argAt_eq_getElem {args : List Value} {position : Nat} (h : position < args.length) :
    argAt args position = args[position] := by
  rw [argAt, List.getD_eq_getElem?_getD, List.getElem?_eq_getElem h]
  rfl

/-- An argument for each slot is enough for two values. -/
theorem Ordered.exists_args_ne (h : d.Ordered limit 0) (hd : ¬d.Aligned 0) :
    ∃ args : List Value, args.length = limit ∧ (∀ v ∈ args, ∀ f, v ≠ .function f) ∧
      d.inPlace (argAt args) .undefined ≠ d.inOrder (argAt args) 0 .undefined := by
  obtain ⟨arg, harg, hne⟩ := h.exists_inPlace_ne hd
  have hlen : ((List.range limit).map arg).length = limit := by
    rw [List.length_map, List.length_range]
  have hagree : ∀ k, k < limit → argAt ((List.range limit).map arg) k = arg k := by
    intro k hk
    rw [argAt_eq_getElem (by omega), List.getElem_map, List.getElem_range]
  refine ⟨(List.range limit).map arg, hlen, fun v hv f => ?_, ?_⟩
  · obtain ⟨k, -, rfl⟩ := List.mem_map.mp hv
    exact harg k f
  · rw [h.inPlace_congr (fun k _ hk => hagree k hk),
      h.settles.inOrder_congr (fun k _ hk => hagree k (by omega))]
    exact hne

end Decision

end Criteria
