import Criteria.Proofs.Eval.Provenance
import Criteria.Proofs.Store.Captures

/-!
# What an evaluation leaves alone

A tree that calls nothing changes the store in one way only: a pattern node that finds a match hands
its captures to the array that is the next argument. Such an array comes after the input of the node,
so that it is never the first argument of its list, and the list that a property filter has of its
own has no other.

* `Machine.Finds` — a pattern node finds a match and has an array to fill.
* `Tame` — steps that change caches only, and runs of steps that lead up to such an array.
* `tame_eval` — the steps of an inert tree are tame.
* `eval_frame` — what follows for the store, after a value and after a failure.
-/

set_option autoImplicit false

namespace Criteria

open Eval Interpreter

variable {α β : Type}

/-! ## Trees that call nothing -/

mutual

/-- The operand is no function and holds none to call. -/
def Operand.isInert : Operand → Bool
  | .unset => true
  | .nested p => p.isInert
  | .literal (.function _) => false
  | .literal _ => true

/-- No operand and no filter of the tree is a function, and no node calls one. -/
def Predicate.isInert : Predicate → Bool
  | .unary _ x => x.isInert
  | .binary _ left right => left.isInert && right.isInert
  | .boolean _ xs => Operand.allInert xs
  | .property _ (some x) => x.isInert
  | .shift _ x => x.isInert
  | .function .. => false
  | _ => true

/-- None of the operands is a function or holds one to call. -/
def Operand.allInert : List Operand → Bool
  | [] => true
  | x :: rest => x.isInert && Operand.allInert rest

end

/-- Captures cannot be handed to a function: only the first argument may be one. -/
def Cursor.NoCallback (c : Cursor) : Prop := ∀ f, .function f ∉ c.args.tail

/-! ## Matches and the arrays they fill -/

/-- A pattern node among `ns`, come to at the machine, finds `spans` in its input, and the argument
after the input is the array `sink`. -/
structure Machine.Finds (m : Machine) (ns : List Predicate) (cell : RegexCell) (source : String)
    (flags : Regex.Flags) (spans : Spans) (sink : ArrayRef) : Prop where
  node : .regex cell source flags ∈ ns
  found : ∃ program input, (m.world.caches.prepare cell source flags).1 = .ok program ∧
    m.cursor.shift.1 = .ok input ∧
    program.search (m.world.store.inputBytes input) flags.sticky = some spans
  next : m.cursor.shift.2.peek = some (.array sink)

/-- The steps of a pattern node that fills an array. -/
def Machine.filling (m : Machine) (cell : RegexCell) (source : String) (flags : Regex.Flags)
    (spans : Spans) (sink : ArrayRef) : List Step :=
  let c := m.cursor.shift.2
  [m.doing (.compile cell source flags), m.doing (.ask 1), ⟨c, .ask 1⟩,
    ⟨c.advance 1, .fill sink spans⟩]

/-! ## Tame steps -/

/-- The effect can be had without a change to the store, and without a call. -/
def Effect.IsTame (ns : List Predicate) : Effect → Prop
  | compile cell source flags => .regex cell source flags ∈ ns
  | capture _ => False
  | fill .. => False
  | call .. => False
  | _ => True

/-- Steps from a world on, up to one that fails: each is tame, or belongs to a pattern node among
`ns` that fills an argument of the cursor's list. -/
inductive Tame (i : Interpreter) (ns : List Predicate) (own : Cursor) : World → List Step → Prop where
  | done (w : World) : Tame i ns own w []
  | pass {w w' : World} {s : Step} {rest : List Step} : s.effect.IsTame ns →
      (s.act i).run w = .ok () w' → Tame i ns own w' rest → Tame i ns own w (s :: rest)
  | fail {w w' : World} {s : Step} {f : Failure} : s.effect.IsTame ns →
      (s.act i).run w = .error f w' → Tame i ns own w [s]
  | found {m : Machine} {w' : World} {cell : RegexCell} {source : String} {flags : Regex.Flags}
      {spans : Spans} {sink : ArrayRef} {rest : List Step} : m.cursor.SameList own →
      m.Finds ns cell source flags spans sink →
      (replay i (m.filling cell source flags spans sink)).run m.world = .ok () w' →
      Tame i ns own w' rest →
      Tame i ns own m.world (m.filling cell source flags spans sink ++ rest)

namespace Tame

variable {i : Interpreter} {ns : List Predicate} {own : Cursor} {w w' : World} {es fs : List Step}
  {m : Machine}

theorem one {s : Step} (h : s.effect.IsTame ns) : Tame i ns own w [s] := by
  cases hs : (s.act i).run w with
  | ok u w' => exact .pass h hs (.done w')
  | error f w' => exact .fail h hs

theorem append (h : Tame i ns own w es) (hdone : (replay i es).run w = .ok () w')
    (h' : Tame i ns own w' fs) : Tame i ns own w (es ++ fs) := by
  induction h with
  | done w => cases hdone; exact h'
  | pass hs hact _ ih =>
    rw [replay_cons_ok _ hact] at hdone
    exact .pass hs hact (ih hdone)
  | fail hs hact =>
    rw [replay_singleton, hact] at hdone
    cases hdone
  | found hc hfinds hfill _ ih =>
    rw [replay_append_ok _ hfill] at hdone
    rw [List.append_assoc]
    exact .found hc hfinds hfill (ih hdone)

theorem bind {x : Eval α} {fs : α → Machine → List Step} (hx : Accounts i ns m es x)
    (h : Tame i ns own m.world es)
    (hf : ∀ a m', x.run m = .ok a m' → m'.cursor.SameList m.cursor →
      Tame i ns own m'.world (fs a m')) :
    Tame i ns own m.world (es ++ x.thenSteps m fs) := by
  have houtcome := hx.outcome
  unfold thenSteps
  cases hrun : x.run m with
  | ok a m' =>
    rw [hrun] at houtcome
    cases houtcome with
    | ok a hdone hsame => exact h.append hdone (hf a m' hrun hsame)
  | error f m' =>
    rw [List.append_nil]
    exact h

/-- Tame steps on a list of one argument are tame on every list. -/
theorem ofSingle {c : Cursor} {v : Value} (hc : c.args = [v]) (h : Tame i ns c w es) :
    Tame i ns own w es := by
  induction h with
  | done w => exact .done w
  | pass hs hact _ ih => exact .pass hs hact ih
  | fail hs hact => exact .fail hs hact
  | found hsame hfinds =>
    have hmem := Cursor.mem_tail_of_peek_shift hfinds.next
    rw [hsame.args, hc] at hmem
    cases hmem

end Tame

/-! ## Nodes and trees -/

section Trees

variable {i : Interpreter} {ns : List Predicate} {own : Cursor}

theorem tame_compare {op : CompareOp} {stored : Value} (m : Machine) :
    Tame i ns own m.world (compareSteps op stored m) := by
  refine (Tame.one (s := m.doing (.ask 1)) trivial).bind (Accounts.shift m) fun v m' _ _ => ?_
  cases op with
  | instanceOf => exact .one trivial
  | prototypeIs => exact .done _
  | equal => exact .done _

theorem tame_readProperty {name : Option String} (m : Machine) :
    Tame i ns own m.world (readSteps name m) := by
  refine (Tame.one (s := m.doing (.ask 1)) trivial).bind (Accounts.shift m) fun v m' _ _ => ?_
  by_cases h : v.isObject ∧ name = none
  · rw [if_pos h]
    have hpass : ((m'.doing (.inspect v)).act i).run m'.world = .ok () m'.world := by
      simp only [Step.act, Machine.doing, h.1, if_true]
      rfl
    exact .pass trivial hpass (.one trivial)
  · rw [if_neg h]
    exact .one trivial

/-- The step of a pattern that compiles. -/
theorem Step.run_compile (i : Interpreter) {m : Machine} {cell : RegexCell} {source : String}
    {flags : Regex.Flags} {program : Regex.Program}
    (h : (m.world.caches.prepare cell source flags).1 = .ok program) :
    ((m.doing (.compile cell source flags)).act i).run m.world =
      .ok () (m.world.prepared cell source flags) := by
  simp only [Step.act, Machine.doing, Action.silent, EStateM.run_bind, Action.run_prepare, h]
  rfl

/-- A pattern that compiles, and a match with an array after its input, come to filled captures. -/
theorem Machine.Finds.run_filling (i : Interpreter) {m : Machine} {cell : RegexCell}
    {source : String} {flags : Regex.Flags} {spans : Spans} {sink : ArrayRef}
    (h : m.Finds ns cell source flags spans sink) :
    (replay i (m.filling cell source flags spans sink)).run m.world =
      .ok () { m.world.prepared cell source flags with
        store := m.world.store.fillCaptures sink spans i.config.maxCaptures } := by
  obtain ⟨program, input, hprogram, hinput, -⟩ := h.found
  have hask : ∀ (c : Cursor) (v : Value) (w : World), c.shift.1 = .ok v →
      (Step.act i ⟨c, .ask 1⟩).run w = .ok () w := by
    intro c v w hv
    rw [Cursor.shift_eq_skip] at hv
    cases hskip : (c.skip 1).1 with
    | ok u => simp only [Step.act, hskip]; rfl
    | error e => rw [hskip] at hv; cases hv
  have hsink : m.cursor.shift.2.shift.1 = .ok (.array sink) := by
    rw [Cursor.shift_of_peek h.next]
  rw [filling, replay_cons_ok _ (Step.run_compile i hprogram), doing,
    replay_cons_ok _ (hask _ _ _ hinput), replay_cons_ok _ (hask _ _ _ hsink), replay_singleton]
  rfl

/-- The steps of a pattern node, by what becomes of the pattern, the input and the search. -/
theorem regexSteps_eq (i : Interpreter) (cell : RegexCell) (source : String) (flags : Regex.Flags)
    (m : Machine) :
    i.regexSteps cell source flags m = m.doing (.compile cell source flags) ::
      match (m.world.caches.prepare cell source flags).1 with
      | .error _ => []
      | .ok program => m.doing (.ask 1) ::
        match m.cursor.shift with
        | (.error _, _) => []
        | (.ok input, c) =>
          match program.search (m.world.store.inputBytes input) flags.sticky with
          | none => []
          | some spans =>
            i.exportSteps input spans ⟨c, m.world.prepared cell source flags⟩ := by
  rw [regexSteps, thenSteps, run_onWorld, Action.run_prepare]
  cases (m.world.caches.prepare cell source flags).1 with
  | error e => rfl
  | ok program =>
    simp only [thenSteps, run_shift]
    cases m.cursor.shift with
    | mk r c =>
      cases r with
      | error e => rfl
      | ok input => rfl

/-- A pattern node comes to an array to fill, or takes steps that are tame by themselves. -/
theorem tame_evalRegex {cell : RegexCell} {source : String} {flags : Regex.Flags}
    (hmem : .regex cell source flags ∈ ns) (hown : own.NoCallback) {m : Machine}
    (hm : m.cursor.SameList own) : Tame i ns own m.world (i.regexSteps cell source flags m) := by
  rw [regexSteps_eq]
  cases hprogram : (m.world.caches.prepare cell source flags).1 with
  | error e => exact .one hmem
  | ok program =>
    have hquiet : Tame i ns own m.world
        [m.doing (.compile cell source flags), m.doing (.ask 1)] :=
      .pass hmem (Step.run_compile i hprogram) (.one trivial)
    cases hshift : m.cursor.shift with
    | mk r c =>
      cases r with
      | error e => exact hquiet
      | ok input =>
        cases hsearch : program.search (m.world.store.inputBytes input) flags.sticky with
        | none => simpa only [hsearch] using hquiet
        | some spans =>
          have hleft : m.cursor.shift.2 = c := by rw [hshift]
          simp only [hsearch, exportSteps]
          split
          · rename_i f hp
            have hmem := Cursor.mem_tail_of_peek_shift (c := m.cursor) (by rw [hleft]; exact hp)
            rw [hm.args] at hmem
            exact absurd hmem (hown f)
          · rename_i sink hp
            have hfinds : m.Finds ns cell source flags spans sink :=
              ⟨hmem, ⟨program, input, hprogram, by rw [hshift], hsearch⟩, by rw [hleft]; exact hp⟩
            have htame := Tame.found hm hfinds (hfinds.run_filling i) (.done _)
            rw [List.append_nil, Machine.filling, hleft] at htame
            simpa only [thenSteps, run_shift, Cursor.shift_of_peek hp, Machine.doing] using htame
          · exact hquiet

/-- A property node is tame on every list when its filter is on the list that it has of its own. -/
theorem tame_property {name : Option String} {filter : Option Operand}
    (h : (Predicate.property name filter).nodes ⊆ ns)
    (hinert : (Predicate.property name filter).isInert)
    (hfilter : ∀ p, filter = some (.nested p) → ∀ v w,
      Tame i ns (.start [v] i.config.underflow) w
        (i.steps p ⟨.start [v] i.config.underflow, w⟩)) (m : Machine) :
    Tame i ns own m.world (i.steps (.property name filter) m) := by
  rw [steps]
  have hmem := (List.cons_subset.1 h).1
  refine (tame_readProperty m).bind (accounts_readProperty hmem m) fun v m' _ _ => ?_
  match filter with
  | none => exact .done _
  | some .unset => exact .done _
  | some (.nested p) => exact .ofSingle rfl (hfilter p rfl v m'.world)
  | some (.literal u) =>
    cases u with
    | function f => cases hinert
    | _ => exact .done _

mutual

theorem tame_value {own : Cursor} (hown : own.NoCallback) : ∀ (x : Operand) (m : Machine),
    x.nodes ⊆ ns → x.isInert → m.cursor.SameList own → Tame i ns own m.world (i.valueSteps x m)
  | .unset, m, _, _, _ => by
    rw [valueSteps]
    exact .one trivial
  | .nested p, m, h, hp, hm => by
    rw [valueSteps]
    exact tame_eval hown p m h hp hm
  | .literal v, m, _, hv, _ => by
    cases v with
    | function f => cases hv
    | _ => exact .done _

/-- The steps of an inert tree are tame. -/
theorem tame_eval {own : Cursor} (hown : own.NoCallback) : ∀ (p : Predicate) (m : Machine),
    p.nodes ⊆ ns → p.isInert → m.cursor.SameList own → Tame i ns own m.world (i.steps p m)
  | .unset, m, _, _, _ => by
    rw [steps]
    exact .one trivial
  | .type mask, m, _, _, _ => by
    rw [steps]
    exact .one trivial
  | .charset cell set, m, _, _, _ => by
    rw [steps]
    exact (Tame.one (s := m.doing (.ask 1)) trivial).bind (Accounts.shift m) fun _ _ _ _ =>
      .one trivial
  | .string start, m, _, _, _ => by
    rw [steps]
    exact .one trivial
  | .compare op stored, m, _, _, _ => by
    rw [steps]
    exact tame_compare m
  | .member target, m, _, _, _ => by
    rw [steps]
    exact .one trivial
  | .unary op x, m, h, hx, hm => by
    rw [steps]
    exact tame_value hown x m (List.cons_subset.1 h).2 hx hm
  | .binary op left right, m, h, hx, hm => by
    rw [steps]
    rw [Predicate.isInert, Bool.and_eq_true] at hx
    obtain ⟨hleft, hright⟩ := List.append_subset.1 (List.cons_subset.1 h).2
    refine (tame_value hown left m hleft hx.1 hm).bind (accounts_value i left m hleft) ?_
    exact fun _ m' _ hm' => tame_value hown right m' hright hx.2 (hm'.trans hm)
  | .boolean .or xs, m, h, hx, hm => by
    rw [steps]
    exact tame_until hown true xs m (List.cons_subset.1 h).2 hx hm
  | .boolean .and xs, m, h, hx, hm => by
    rw [steps]
    exact tame_until hown false xs m (List.cons_subset.1 h).2 hx hm
  | .boolean .xor xs, m, h, hx, hm => by
    rw [steps]
    exact tame_xor hown xs m (List.cons_subset.1 h).2 hx hm
  | .regex cell source flags, m, h, _, hm => by
    rw [steps]
    exact tame_evalRegex (h List.mem_cons_self) hown hm
  | .property _ none, m, h, hx, _ => tame_property h hx (fun _ hp => nomatch hp) m
  | .property _ (some .unset), m, h, hx, _ => tame_property h hx (fun _ hp => nomatch hp) m
  | .property _ (some (.literal _)), m, h, hx, _ => tame_property h hx (fun _ hp => nomatch hp) m
  | .property name (some (.nested p)), m, h, hx, _ => by
    refine tame_property h hx (fun p' hp v w => ?_) m
    cases hp
    have hc : (Cursor.start [v] i.config.underflow).NoCallback := fun _ h => nomatch h
    exact tame_eval hc p ⟨.start [v] i.config.underflow, w⟩ (List.cons_subset.1 h).2 hx (.refl _)
  | .shift count x, m, h, hx, hm => by
    rw [steps]
    refine (Tame.one (s := m.doing (.ask count)) trivial).bind
      (Accounts.skip count m) fun _ m' _ hm' => ?_
    exact tame_value hown x m' (List.cons_subset.1 h).2 hx (hm'.trans hm)

theorem tame_until {own : Cursor} (hown : own.NoCallback) (stop : Bool) :
    ∀ (xs : List Operand) (m : Machine), Operand.allNodes xs ⊆ ns → Operand.allInert xs →
      m.cursor.SameList own → Tame i ns own m.world (i.untilSteps stop xs m)
  | [], m, _, _, _ => by
    rw [untilSteps]
    exact .done _
  | x :: rest, m, h, hx, hm => by
    rw [untilSteps]
    rw [Operand.allInert, Bool.and_eq_true] at hx
    obtain ⟨hnodes, hrest⟩ := List.append_subset.1 h
    refine (tame_value hown x m hnodes hx.1 hm).bind (accounts_value i x m hnodes) ?_
    intro v m' _ hm'
    split
    · exact .done _
    · exact tame_until hown stop rest m' hrest hx.2 (hm'.trans hm)

theorem tame_xor {own : Cursor} (hown : own.NoCallback) : ∀ (xs : List Operand) (m : Machine),
    Operand.allNodes xs ⊆ ns → Operand.allInert xs → m.cursor.SameList own →
      Tame i ns own m.world (i.xorSteps xs m)
  | [], m, _, _, _ => by
    rw [xorSteps]
    exact .done _
  | x :: rest, m, h, hx, hm => by
    rw [xorSteps]
    rw [Operand.allInert, Bool.and_eq_true] at hx
    obtain ⟨hnodes, hrest⟩ := List.append_subset.1 h
    refine (tame_value hown x m hnodes hx.1 hm).bind (accounts_value i x m hnodes) ?_
    exact fun _ m' _ hm' => tame_xor hown rest m' hrest hx.2 (hm'.trans hm)

end

end Trees

/-! ## Frames -/

/-- None of the steps fills the array. -/
def Unfilled (a : ArrayRef) (steps : List Step) : Prop :=
  ∀ s ∈ steps, ∀ spans, s.effect ≠ .fill a spans

theorem Unfilled.append {a : ArrayRef} {es fs : List Step} (h : Unfilled a es)
    (h' : Unfilled a fs) : Unfilled a (es ++ fs) :=
  List.forall_mem_append.2 ⟨h, h'⟩

theorem unfilled_filling {a sink : ArrayRef} (h : a ≠ sink) (m : Machine) (cell : RegexCell)
    (source : String) (flags : Regex.Flags) (spans : Spans) :
    Unfilled a (m.filling cell source flags spans sink) := by
  intro s hs spans' he
  simp only [Machine.filling, List.mem_cons, List.not_mem_nil, or_false] at hs
  rcases hs with rfl | rfl | rfl | rfl <;> cases he
  exact h rfl

/-- A pattern node has filled the array, no later step has, and in the store `s` the array shows the
spans that the node has found, as many as are exported, in arrays that are not among the first
`n`. -/
def FilledLast (i : Interpreter) (ns : List Predicate) (own : Cursor) (w : World)
    (steps : List Step) (s : Store) (n : Nat) (a : ArrayRef) : Prop :=
  ∃ (before : List Step) (m : Machine) (cell : RegexCell) (source : String) (flags : Regex.Flags)
    (spans : Spans) (rest : List Step),
    steps = before ++ m.filling cell source flags spans a ++ rest ∧
    (replay i before).run w = .ok () m.world ∧
    m.cursor.SameList own ∧
    m.Finds ns cell source flags spans a ∧
    Unfilled a rest ∧
    List.Forall₂ (s.IsSpan n) (s.items a) (spans.take i.config.maxCaptures)

/-- What steps leave of the world `w`, of which the first `n` arrays are looked at. -/
structure Framed (i : Interpreter) (ns : List Predicate) (own : Cursor) (n : Nat) (w : World)
    (steps : List Step) (w' : World) : Prop where
  objects : w'.store.objects = w.store.objects
  symbols : w'.store.symbols = w.store.symbols
  calls : w'.calls = w.calls
  size_le : w.store.arrays.size ≤ w'.store.arrays.size
  kept : ∀ a : ArrayRef, a.index < w.store.arrays.size → Unfilled a steps →
    w'.store.items a = w.store.items a
  filled : ∀ a : ArrayRef, a.index < n →
    Unfilled a steps ∨ FilledLast i ns own w steps w'.store n a

section Frames

variable {i : Interpreter} {ns : List Predicate} {own : Cursor} {w w' w'' : World} {n : Nat}
  {es fs : List Step} {a : ArrayRef}

theorem FilledLast.after {s : Store} (hdone : (replay i es).run w = .ok () w')
    (h : FilledLast i ns own w' fs s n a) : FilledLast i ns own w (es ++ fs) s n a := by
  obtain ⟨before, m, cell, source, flags, spans, rest, hsteps, hbefore, hfilled⟩ := h
  refine ⟨es ++ before, m, cell, source, flags, spans, rest, ?_, ?_, hfilled⟩
  · rw [hsteps, List.append_assoc, List.append_assoc, List.append_assoc]
  · rw [replay_append_ok _ hdone, hbefore]

theorem worldAfter_replay_append (fs : List Step) (hdone : (replay i es).run w = .ok () w') :
    (replay i (es ++ fs)).worldAfter w = (replay i fs).worldAfter w' := by
  rw [Action.worldAfter, replay_append_ok _ hdone]
  rfl

/-- Steps that fill nothing and leave the store as it is. -/
theorem Framed.quiet (hstore : w'.store = w.store) (hcalls : w'.calls = w.calls)
    (hes : ∀ a, Unfilled a es) : Framed i ns own n w es w' :=
  ⟨by rw [hstore], by rw [hstore], hcalls, Nat.le_of_eq (by rw [hstore]),
    fun _ _ _ => by rw [hstore],
    fun a _ => .inl (hes a)⟩

/-- What comes after steps that fill nothing and leave the store as it is. -/
theorem Framed.after (hdone : (replay i es).run w = .ok () w') (hstore : w'.store = w.store)
    (hcalls : w'.calls = w.calls) (hes : ∀ a, Unfilled a es)
    (h : Framed i ns own n w' fs w'') : Framed i ns own n w (es ++ fs) w'' := by
  obtain ⟨hobjects, hsymbols, hcalls', hsize, hkept, hfilled⟩ := h
  rw [hstore] at hobjects hsymbols hsize
  refine ⟨hobjects, hsymbols, hcalls'.trans hcalls, hsize, fun a ha hun => ?_, fun a ha => ?_⟩
  · have hrest : Unfilled a fs := (List.forall_mem_append.1 hun).2
    rw [hkept a (by rwa [hstore]) hrest, hstore]
  · rcases hfilled a ha with hun | hlast
    · exact .inl ((hes a).append hun)
    · exact .inr (hlast.after hdone)

theorem Effect.IsTame.unfilled {s : Step} (h : s.effect.IsTame ns) (a : ArrayRef) :
    Unfilled a [s] := by
  intro s' hs spans he
  rw [List.mem_singleton.1 hs] at he
  rw [he] at h
  exact h

/-- A tame step changes caches only. -/
theorem Effect.IsTame.worldAfter {s : Step} (h : s.effect.IsTame ns) (i : Interpreter)
    (w : World) :
    ((s.act i).worldAfter w).store = w.store ∧ ((s.act i).worldAfter w).calls = w.calls := by
  rw [Step.worldAfter_act]
  obtain ⟨c, effect⟩ := s
  cases effect with
  | capture spans => cases h
  | fill sink spans => cases h
  | call f receiver args => cases h
  | _ => exact ⟨rfl, rfl⟩

/-- Only arguments after the first one are filled. -/
theorem Tame.mem_of_fill (h : Tame i ns own w es) {s : Step} (hs : s ∈ es) {spans : Spans}
    (he : s.effect = .fill a spans) : .array a ∈ own.args.tail := by
  induction h with
  | done w => cases hs
  | pass htame _ _ ih =>
    rcases List.mem_cons.1 hs with rfl | hs
    · exact absurd he (htame.unfilled a _ (List.mem_singleton_self _) spans)
    · exact ih hs
  | fail htame _ => exact absurd he (htame.unfilled a _ hs spans)
  | @found m _ cell source flags spans' sink rest hsame hfinds _ _ ih =>
    rcases List.mem_append.1 hs with hs | hs
    · by_cases ha : a = sink
      · have hmem := Cursor.mem_tail_of_peek_shift hfinds.next
        rwa [hsame.args, ← ha] at hmem
      · exact absurd he (unfilled_filling ha m cell source flags spans' s hs spans)
    · exact ih hs

/-- Tame steps change arrays that they fill, and nothing else in the store. -/
theorem Tame.framed (h : Tame i ns own w es)
    (hsinks : ∀ a : ArrayRef, .array a ∈ own.args.tail → a.index < n)
    (hn : n ≤ w.store.arrays.size) : Framed i ns own n w es ((replay i es).worldAfter w) := by
  induction h with
  | done w => exact .quiet rfl rfl fun a s hs => nomatch hs
  | @pass w w' s rest htame hact htail ih =>
    obtain ⟨hstore, hcalls⟩ := htame.worldAfter i w
    rw [Action.worldAfter, hact] at hstore hcalls
    have hdone : (replay i [s]).run w = .ok () w' := by rw [replay_singleton, hact]
    have hrest := ih (by rw [hstore]; exact hn)
    rw [← worldAfter_replay_append _ hdone] at hrest
    exact .after hdone hstore hcalls htame.unfilled hrest
  | @fail w w' s f htame hact =>
    obtain ⟨hstore, hcalls⟩ := htame.worldAfter i w
    rw [replay_singleton]
    exact .quiet hstore hcalls htame.unfilled
  | @found m w' cell source flags spans sink rest hsame hfinds hfill htail ih =>
    have hsink : .array sink ∈ own.args.tail := by
      have hmem := Cursor.mem_tail_of_peek_shift hfinds.next
      rwa [hsame.args] at hmem
    have hw' := hfill
    rw [hfinds.run_filling] at hw'
    cases hw'
    have hfilled := Store.filled_fillCaptures (hsinks sink hsink) hn spans i.config.maxCaptures
    obtain ⟨hobjects, hsymbols, hcalls, hsize, hkept, hlast⟩ :=
      ih (Nat.le_trans hn hfilled.size_le)
    rw [worldAfter_replay_append _ hfill]
    refine ⟨hobjects.trans hfilled.objects, hsymbols.trans hfilled.symbols, hcalls,
      Nat.le_trans hfilled.size_le hsize, fun a ha hun => ?_, fun a ha => ?_⟩
    · obtain ⟨hun, hrest⟩ := List.forall_mem_append.1 hun
      have hne : a ≠ sink := by
        intro he
        exact hun ⟨m.cursor.shift.2.advance 1, .fill sink spans⟩ (by simp [Machine.filling]) spans
          (by rw [he])
      rw [hkept a (Nat.lt_of_lt_of_le ha hfilled.size_le) hrest]
      exact hfilled.kept a hne ha
    · rcases hlast a ha with hun | hlast
      · by_cases hsame' : a = sink
        -- this match is the last one for its array, and the offsets it made are left alone
        · subst hsame'
          have hitems := hkept a
            (Nat.lt_of_lt_of_le ha (Nat.le_trans hn hfilled.size_le)) hun
          refine .inr ⟨[], m, cell, source, flags, spans, rest, rfl, rfl, hsame, hfinds, hun, ?_⟩
          rw [hitems]
          refine hfilled.shown.imp fun v span hspan => hspan.mono hsize fun b hold hin => ?_
          refine hkept b hin fun s hs spans' he => ?_
          have := hsinks b (htail.mem_of_fill hs he)
          omega
        · exact .inl ((unfilled_filling hsame' m cell source flags spans).append hun)
      · exact .inr (hlast.after hfill)

/-- Where there is nothing to fill, tame steps keep what each of them keeps. -/
theorem Tame.keeps {γ : Type} (f : World → γ) (h : Tame i ns own w es)
    (hact : ∀ (s : Step) (w : World), s.effect.IsTame ns → f ((s.act i).worldAfter w) = f w)
    (hnone : ∀ (m : Machine) cell source flags spans sink, m.cursor.SameList own →
      ¬ m.Finds ns cell source flags spans sink) :
    f ((replay i es).worldAfter w) = f w := by
  induction h with
  | done w => rfl
  | @pass w w' s rest htame hrun _ ih =>
    have hkept := hact s w htame
    rw [Action.worldAfter, hrun] at hkept
    have hdone : (replay i [s]).run w = .ok () w' := by rw [replay_singleton, hrun]
    have happend := worldAfter_replay_append rest hdone
    rw [List.singleton_append] at happend
    rw [happend, ih, ← hkept]
  | @fail w _ s _ htame _ =>
    rw [replay_singleton]
    exact hact s w htame
  | found hsame hfinds _ _ _ => exact absurd hfinds (hnone _ _ _ _ _ _ hsame)

/-- Without pattern nodes, tame steps prepare no pattern. -/
theorem Effect.IsTame.patterns_eq {s : Step} (h : s.effect.IsTame ns)
    (hnone : ∀ cell source flags, .regex cell source flags ∉ ns) (i : Interpreter) (w : World) :
    ((s.act i).worldAfter w).caches.patterns = w.caches.patterns := by
  rw [Step.worldAfter_act]
  obtain ⟨c, effect⟩ := s
  cases effect with
  | decode cell set =>
    show (w.caches.decode cell set).2.patterns = _
    unfold Caches.decode
    split <;> rfl
  | compile cell source flags => exact absurd h (hnone cell source flags)
  | capture spans => cases h
  | fill sink spans => cases h
  | call f receiver args => cases h
  | _ => rfl

end Frames

/-! ## Main result -/

section Main

variable {i : Interpreter} {t : Predicate} {m : Machine}

theorem accounts_self (i : Interpreter) (t : Predicate) (m : Machine) :
    Accounts i t.nodes m (i.steps t m) (i.eval t) :=
  accounts_eval i t m (List.Subset.refl _)

/-- An evaluation stays on its list of arguments, also when it fails. -/
theorem sameList_machineAfter (i : Interpreter) (t : Predicate) (m : Machine) :
    ((i.eval t).machineAfter m).cursor.SameList m.cursor := by
  have hrun := (explains_eval i t m).run
  exact ⟨hrun.args_eq, hrun.policy_eq⟩

/-- Without pattern nodes, an inert tree changes character-set caches only. -/
theorem world_machineAfter (hinert : t.isInert) (hargs : m.cursor.NoCallback)
    (hnone : ∀ cell source flags, .regex cell source flags ∉ t.nodes) :
    ((i.eval t).machineAfter m).world =
      { m.world with caches := { m.world.caches with
          charsets := ((i.eval t).machineAfter m).world.caches.charsets } } := by
  have htame := tame_eval (i := i) hargs t m (List.Subset.refl _) hinert (.refl _)
  have hfinds : ∀ (m' : Machine) cell source flags spans sink, m'.cursor.SameList m.cursor →
      ¬ m'.Finds t.nodes cell source flags spans sink :=
    fun _ cell source flags _ _ _ hf => hnone cell source flags hf.node
  have hstore := htame.keeps (·.store) (fun _ w h => (h.worldAfter i w).1) hfinds
  have hcalls := htame.keeps (·.calls) (fun _ w h => (h.worldAfter i w).2) hfinds
  have hpatterns := htame.keeps (·.caches.patterns) (fun _ w h => h.patterns_eq hnone i w) hfinds
  rw [(accounts_self i t m).worldAfter_replay] at hstore hcalls hpatterns
  generalize ((i.eval t).machineAfter m).world = w at *
  obtain ⟨store, ⟨charsets, patterns⟩, calls⟩ := w
  cases hstore
  cases hcalls
  cases hpatterns
  rfl

/-- A property node leaves the store alone, whatever its filter searches. -/
theorem store_property {name : Option String} {filter : Option Operand}
    (hinert : (Predicate.property name filter).isInert) (m : Machine) :
    ((i.eval (.property name filter)).machineAfter m).world.store = m.world.store := by
  -- the node has no use for the list that it is on, so that an empty one will do
  have htame : Tame i (Predicate.property name filter).nodes (.start [] .fail) m.world
      (i.steps (.property name filter) m) := by
    refine tame_property (List.Subset.refl _) hinert (fun p hp v w => ?_) m
    subst hp
    have hc : (Cursor.start [v] i.config.underflow).NoCallback := fun _ h => nomatch h
    exact tame_eval hc p ⟨.start [v] i.config.underflow, w⟩ (List.subset_cons_self _ _) hinert
      (.refl _)
  have hkept := htame.keeps (·.store) (fun _ w h => (h.worldAfter i w).1)
    fun m' _ _ _ _ _ hc hf => by
      have hmem := Cursor.mem_tail_of_peek_shift hf.next
      rw [hc.args] at hmem
      cases hmem
  rwa [(accounts_self i _ m).worldAfter_replay] at hkept

/-- What leaves the cursor alone leaves it where what went before has left it. -/
theorem Eval.cursor_bind {x : Eval α} {f : α → Eval β} (hf : ∀ a, (f a).KeepsCursor) (m : Machine) :
    ((x >>= f).machineAfter m).cursor = (x.machineAfter m).cursor := by
  unfold machineAfter
  cases hx : x.run m with
  | error e m' => rw [run_bind_error hx]
  | ok a m' =>
    rw [run_bind_ok hx]
    exact hf a m'

/-- The filter of a property node leaves the cursor where reading the property has left it. -/
theorem cursor_property (i : Interpreter) (name : Option String) (filter : Option Operand)
    (m : Machine) :
    ((i.eval (.property name filter)).machineAfter m).cursor =
      ((readProperty name).machineAfter m).cursor := by
  rw [eval]
  refine cursor_bind (fun v => ?_) m
  split
  · exact keepsCursor_withCursor _ _
  · exact keepsCursor_onWorld _
  · exact fun _ => rfl

end Main

/-- **Frame of evaluation.** For a tree that calls nothing, on arguments of which none but the first
is a function and whose arrays are in the store: whether it comes to a value or fails, the evaluation
stays on its list of arguments, calls no host callable and leaves all objects as they were. An array
of the store is as it was, and no pattern node fills it; or it is an argument, filled by pattern
nodes that found a match and had it next on the shared cursor, and it shows the last of these
matches.

Without pattern nodes, nothing but the position of the cursor and the decoded character sets changes.
A property node, on whatever list, leaves all arrays alone, and its filter leaves the cursor alone. -/
theorem eval_frame (i : Interpreter) (t : Predicate) (m : Machine) (hinert : t.isInert)
    (hargs : m.cursor.NoCallback)
    (hrefs : ∀ a : ArrayRef, .array a ∈ m.cursor.args.tail → a.index < m.world.store.arrays.size) :
    let n := m.world.store.arrays.size
    let steps := i.steps t m
    let after := (i.eval t).machineAfter m
    after.cursor.SameList m.cursor ∧
    after.world.store.objects = m.world.store.objects ∧
    after.world.store.symbols = m.world.store.symbols ∧
    after.world.calls = m.world.calls ∧
    (∀ a : ArrayRef, a.index < n →
      (Unfilled a steps ∧ after.world.store.items a = m.world.store.items a) ∨
      (.array a ∈ m.cursor.args.tail ∧
        FilledLast i t.nodes m.cursor m.world steps after.world.store n a)) ∧
    ((∀ cell source flags, .regex cell source flags ∉ t.nodes) →
      after.world = { m.world with caches := { m.world.caches with
        charsets := after.world.caches.charsets } }) ∧
    (∀ name filter, (Predicate.property name filter).isInert → ∀ m' : Machine,
      ((i.eval (.property name filter)).machineAfter m').world.store = m'.world.store ∧
      ((i.eval (.property name filter)).machineAfter m').cursor =
        ((readProperty name).machineAfter m').cursor) := by
  intro n steps after
  have htame : Tame i t.nodes m.cursor m.world steps :=
    tame_eval hargs t m (List.Subset.refl _) hinert (.refl _)
  have hframed := htame.framed hrefs (Nat.le_refl n)
  rw [(accounts_self i t m).worldAfter_replay] at hframed
  obtain ⟨hobjects, hsymbols, hcalls, -, hkept, hfilled⟩ := hframed
  refine ⟨sameList_machineAfter i t m, hobjects, hsymbols, hcalls, fun a ha => ?_,
    world_machineAfter hinert hargs, fun name filter hp m' => ?_⟩
  · rcases hfilled a ha with hun | hlast
    · exact .inl ⟨hun, hkept a ha hun⟩
    · refine .inr ⟨?_, hlast⟩
      obtain ⟨_, m', _, _, _, _, _, _, _, hsame, hfinds, _⟩ := hlast
      have hmem := Cursor.mem_tail_of_peek_shift hfinds.next
      rwa [hsame.args] at hmem
  · exact ⟨store_property hp m', cursor_property i name filter m'⟩

/-- A match is handed to the array that is the next argument, and shown by an array that is new. The
array after it is left alone. -/
theorem eval_frame_filled :
    let t : Predicate := .regex ⟨0⟩ "a" {}
    let m : Machine := ⟨.start [.str "a", .array ⟨0⟩, .array ⟨1⟩] .fail,
      { store := { arrays := #[[.null], [.null]] } }⟩
    let n := m.world.store.arrays.size
    t.isInert ∧ m.cursor.NoCallback ∧
    (∀ a : ArrayRef, .array a ∈ m.cursor.args.tail → a.index < n) ∧
    FilledLast Interpreter.idle t.nodes m.cursor m.world (Interpreter.idle.steps t m)
      ((Interpreter.idle.eval t).machineAfter m).world.store n ⟨0⟩ ∧
    ((Interpreter.idle.eval t).machineAfter m).world.store.arrays =
      #[[.array ⟨2⟩], [.null], [.int 0, .int 1]] := by
  have hcompute : ∀ t m, t = .regex ⟨0⟩ "a" {} →
      m = ⟨.start [.str "a", .array ⟨0⟩, .array ⟨1⟩] .fail,
        { store := { arrays := #[[.null], [.null]] } }⟩ →
      Interpreter.idle.steps t m = m.filling ⟨0⟩ "a" {} [some (0, 1)] ⟨0⟩ ∧
      ((Interpreter.idle.eval t).machineAfter m).world.store.arrays =
        #[[.array ⟨2⟩], [.null], [.int 0, .int 1]] := by
    rintro _ _ rfl rfl
    exact ⟨by rfl, by rfl⟩
  intro t m n
  obtain ⟨hsteps, hafter⟩ := hcompute t m rfl rfl
  have hargs : m.cursor.NoCallback := by
    intro f hf
    simp [m, Cursor.start] at hf
  have hrefs : ∀ a : ArrayRef, .array a ∈ m.cursor.args.tail → a.index < n := by
    intro a ha
    simp only [m, Cursor.start, List.tail_cons, List.mem_cons, List.not_mem_nil, or_false,
      Value.array.injEq] at ha
    rcases ha with rfl | rfl <;> decide
  obtain ⟨-, -, -, -, harrays, -⟩ := eval_frame Interpreter.idle t m rfl hargs hrefs
  refine ⟨rfl, hargs, hrefs, ?_, hafter⟩
  rcases harrays ⟨0⟩ Nat.zero_lt_two with ⟨hun, -⟩ | ⟨-, hlast⟩
  · rw [hsteps] at hun
    exact absurd rfl (hun ⟨m.cursor.shift.2.advance 1, .fill ⟨0⟩ [some (0, 1)]⟩
      (by simp [Machine.filling]) [some (0, 1)])
  · exact hlast

end Criteria
