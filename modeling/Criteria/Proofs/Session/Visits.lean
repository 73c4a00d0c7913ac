import Criteria.Proofs.Session.Caches

/-!
# Which nodes are visited

An evaluation visits the nodes that it comes to, each with the cursor that it has there. It fills
the cell of a character-set node if there is an argument for it, and the cell of a pattern node in
any case. What host callables visit in between is a parameter here.

* `Visit.fills?` — the cell that a visit fills.
* `Interpreter.visits` — the visits of an evaluation.
* `Leads` — visits that account for the caches: the cells that they fill, and no others, are filled
  afterwards.
* `makes_eval` — those of an evaluation do.
-/

set_option autoImplicit false

namespace Criteria

open Eval Interpreter

/-! ## Filling cells -/

namespace Caches

variable {c c' c'' : Caches} {cells cells' : List Cell} {x : Cell}

/-- The caches `c'` are `c` with the cells of a list filled, as far as there are such cells. -/
structure FilledBy (c : Caches) (cells : List Cell) (c' : Caches) : Prop where
  size_charsets : c'.charsets.size = c.charsets.size
  size_patterns : c'.patterns.size = c.patterns.size
  isFilled : ∀ x, c'.isFilled x ↔ c.isFilled x ∨ (x ∈ cells ∧ c.HasCell x)

namespace FilledBy

theorem refl (c : Caches) : c.FilledBy [] c :=
  ⟨rfl, rfl, fun _ => ⟨.inl, fun h => h.elim id fun h => nomatch h.1⟩⟩

theorem hasCell (h : c.FilledBy cells c') (x : Cell) : c'.HasCell x ↔ c.HasCell x :=
  hasCell_congr h.size_charsets h.size_patterns x

theorem trans (h : c.FilledBy cells c') (h' : c'.FilledBy cells' c'') :
    c.FilledBy (cells ++ cells') c'' := by
  refine ⟨h'.size_charsets.trans h.size_charsets, h'.size_patterns.trans h.size_patterns,
    fun x => ?_⟩
  rw [h'.isFilled, h.isFilled, h.hasCell, List.mem_append, or_assoc, ← or_and_right]

/-- One cell is filled, if it is there, and the others stay. -/
theorem one (hcharsets : c'.charsets.size = c.charsets.size)
    (hpatterns : c'.patterns.size = c.patterns.size) (hself : c.HasCell x → c'.isFilled x)
    (hne : ∀ y, y ≠ x → c'.isFilled y = c.isFilled y) : c.FilledBy [x] c' := by
  refine ⟨hcharsets, hpatterns, fun y => ?_⟩
  rw [List.mem_singleton]
  by_cases hy : y = x
  · subst hy
    have hhas : c'.HasCell y ↔ c.HasCell y := hasCell_congr hcharsets hpatterns y
    refine ⟨fun h => .inr ⟨rfl, hhas.1 (hasCell_of_isFilled h)⟩, fun h => ?_⟩
    exact hself (h.elim hasCell_of_isFilled And.right)
  · rw [hne y hy]
    exact ⟨.inl, fun h => h.elim id fun h => absurd h.1 hy⟩

theorem decode (c : Caches) (cell : CharsetCell) (set : String) :
    c.FilledBy [.charset cell] (c.decode cell set).2 := by
  refine one (c.size_charsets_decode cell set) (by rw [patterns_decode]) (fun hin => ?_)
    fun y hy => ?_
  · have hself := c.decoded?_decode_self hin set
    simp only [Caches.isFilled, hself, Option.isSome_some]
  · cases y with
    | charset other =>
      have hne : other ≠ cell := fun he => hy (by rw [he])
      simp only [Caches.isFilled, c.decoded?_decode_ne hne]
    | pattern other => simp only [Caches.isFilled, prepared?, patterns_decode]

theorem prepare (c : Caches) (cell : RegexCell) (source : String) (flags : Regex.Flags) :
    c.FilledBy [.pattern cell] (c.prepare cell source flags).2 := by
  refine one (by rw [charsets_prepare]) (c.size_patterns_prepare cell source flags) (fun hin => ?_)
    fun y hy => ?_
  · have hself := c.prepared?_prepare_self hin source flags
    simp only [Caches.isFilled, hself, Option.isSome_some]
  · cases y with
    | charset other => simp only [Caches.isFilled, decoded?, charsets_prepare]
    | pattern other =>
      have hne : other ≠ cell := fun he => hy (by rw [he])
      simp only [Caches.isFilled, c.prepared?_prepare_ne hne]

end FilledBy

end Caches

/-! ## Visits -/

/-- A visit to a node. -/
inductive Visit where
  /-- An evaluation comes to it, with its cursor. -/
  | eval (p : Predicate) (cursor : Cursor)
  /-- A dump comes to it. -/
  | dump (p : Predicate)
  /-- Its pattern is to be compiled. -/
  | compile (p : Predicate)

namespace Visit

def node : Visit → Predicate
  | eval p _ => p
  | dump p => p
  | compile p => p

/-- The cell that is filled at a visit. A character set is decoded after the argument was taken, and
a pattern is compiled before. -/
def fills? : Visit → Option Cell
  | eval (.charset cell _) cursor =>
    match cursor.shift.1 with
    | .ok _ => some (.charset cell)
    | .error _ => none
  | eval (.regex cell _ _) _ => some (.pattern cell)
  | dump (.charset cell _) => some (.charset cell)
  | compile (.regex cell _ _) => some (.pattern cell)
  | _ => none

/-- A visit fills the cell of the node and no other. -/
theorem cell?_of_fills? {v : Visit} {x : Cell} (h : v.fills? = some x) :
    v.node.cell? = some x := by
  unfold fills? at h
  split at h
  · split at h <;> cases h
    rfl
  all_goals cases h
  all_goals rfl

end Visit

/-- The cells that some visits fill. -/
def filled (vs : List Visit) : List Cell := vs.filterMap Visit.fills?

/-- The visits that host callables make, by the receiver, the arguments and the world. -/
abbrev Trails := Closure → Value → List Value → World → List Visit

/-- The visits of a call. -/
def Trails.call (trails : Trails) (f : Function) (receiver : Value) (args : List Value)
    (w : World) : List Visit :=
  trails f.closure receiver args (w.called f receiver args)

/-- The visits lead from the one world to the other: they are to nodes with a property, and the
cells that they fill, and no others, are filled afterwards. -/
structure Leads (Q : Predicate → Prop) (w : World) (vs : List Visit) (w' : World) : Prop where
  nodes : ∀ v ∈ vs, Q v.node
  filledBy : w.caches.FilledBy (filled vs) w'.caches

section Leads

variable {Q : Predicate → Prop} {w w' w'' : World} {vs vs' : List Visit} {v : Visit}

theorem Leads.still (h : w'.caches = w.caches) : Leads Q w [] w' :=
  ⟨fun _ hv => (nomatch hv), h ▸ .refl _⟩

theorem Leads.trans (h : Leads Q w vs w') (h' : Leads Q w' vs' w'') :
    Leads Q w (vs ++ vs') w'' := by
  refine ⟨List.forall_mem_append.2 ⟨h.nodes, h'.nodes⟩, ?_⟩
  rw [filled, List.filterMap_append]
  exact h.filledBy.trans h'.filledBy

/-- A visit that fills nothing. -/
theorem Leads.pass (hnode : Q v.node) (hv : v.fills? = none) (h : Leads Q w vs w') :
    Leads Q w (v :: vs) w' := by
  refine ⟨List.forall_mem_cons.2 ⟨hnode, h.nodes⟩, ?_⟩
  rw [filled, List.filterMap_cons_none hv]
  exact h.filledBy

/-- A visit that fills one cell. -/
theorem Leads.one {x : Cell} (hnode : Q v.node) (hv : v.fills? = some x)
    (h : w.caches.FilledBy [x] w'.caches) : Leads Q w [v] w' := by
  refine ⟨List.forall_mem_singleton.2 hnode, ?_⟩
  rw [filled, List.filterMap_cons_some hv]
  exact h

end Leads

/-- Host callables make the visits that are told of them. -/
def Host.Makes (Q : Predicate → Prop) (host : Host) (trails : Trails) : Prop :=
  ∀ closure receiver args w,
    Leads Q w (trails closure receiver args w) ((host closure receiver args).worldAfter w)

/-! ## Visits of an evaluation -/

/-- The visits of what follows, which are none when `x` fails. -/
def Eval.thenVisits {α : Type} (x : Eval α) (m : Machine) (visits : α → Machine → List Visit) :
    List Visit :=
  match x.run m with
  | .ok a m' => visits a m'
  | .error .. => []

namespace Interpreter

/-- The visits of a callback that is called with the captures of a match. -/
def exportVisits (i : Interpreter) (trails : Trails) (input : Value) (spans : Spans) (m : Machine) :
    List Visit :=
  match m.cursor.peek with
  | some (.function callback) =>
    (do
      let _ ← shift
      onWorld (Action.change fun s => s.exportCaptures spans i.config.maxCaptures)).thenVisits m
        fun captures m => trails.call callback .null [captures, input] m.world
  | _ => []

/-- The visits after the pattern of a pattern node was prepared. -/
def searchVisits (i : Interpreter) (trails : Trails) (flags : Regex.Flags)
    (program : Regex.Program) (m : Machine) : List Visit :=
  shift.thenVisits m fun input m =>
    match program.search (m.world.store.inputBytes input) flags.sticky with
    | none => []
    | some spans => i.exportVisits trails input spans m

mutual

/-- The visits of an operand slot. -/
def valueVisits (i : Interpreter) (trails : Trails) : Operand → Machine → List Visit
  | .unset, _ => []
  | .nested p, m => i.visits trails p m
  | .literal (.function f), m => trails.call f .undefined m.cursor.rest m.world
  | .literal _, _ => []

/-- The visits of a tree: to its root, to the nodes in operands that are evaluated and in filters
that are applied, and those of host callables. -/
def visits (i : Interpreter) (trails : Trails) (p : Predicate) (m : Machine) : List Visit :=
  .eval p m.cursor :: match p with
  | .unary _ x => i.valueVisits trails x m
  | .binary _ left right =>
    i.valueVisits trails left m ++
      (i.value left).thenVisits m fun _ m => i.valueVisits trails right m
  | .boolean .or xs => i.untilVisits trails true xs m
  | .boolean .and xs => i.untilVisits trails false xs m
  | .boolean .xor xs => i.xorVisits trails xs m
  | .regex cell source flags =>
    (onWorld (Action.prepare cell source flags)).thenVisits m fun program m =>
      i.searchVisits trails flags program m
  | .property name (some (.nested q)) =>
    (readProperty name).thenVisits m fun v m =>
      i.visits trails q ⟨.start [v] i.config.underflow, m.world⟩
  | .property name (some (.literal (.function f))) =>
    (readProperty name).thenVisits m fun v m => trails.call f .undefined [v] m.world
  | .shift count x =>
    (Eval.skip count).thenVisits m fun _ m => i.valueVisits trails x m
  | .function f receiver arity =>
    (Eval.take arity).thenVisits m fun args m => trails.call f receiver args m.world
  | _ => []

/-- The visits of operands up to the first one whose truth is `stop`. -/
def untilVisits (i : Interpreter) (trails : Trails) (stop : Bool) :
    List Operand → Machine → List Visit
  | [], _ => []
  | x :: rest, m =>
    i.valueVisits trails x m ++ (i.value x).thenVisits m fun v m =>
      if v.isTruthy = stop then [] else i.untilVisits trails stop rest m

/-- The visits of all of some operands. -/
def xorVisits (i : Interpreter) (trails : Trails) : List Operand → Machine → List Visit
  | [], _ => []
  | x :: rest, m =>
    i.valueVisits trails x m ++ (i.value x).thenVisits m fun _ m => i.xorVisits trails rest m

end

end Interpreter

/-- The visits account for what `x` does to the caches. -/
def Makes {α : Type} (Q : Predicate → Prop) (m : Machine) (vs : List Visit) (x : Eval α) : Prop :=
  Leads Q m.world vs (x.machineAfter m).world

namespace Makes

variable {α β : Type} {Q : Predicate → Prop} {m : Machine} {vs : List Visit}

theorem congr {x y : Eval α} (h : x.run m = y.run m) (hy : Makes Q m vs y) : Makes Q m vs x := by
  unfold Makes machineAfter at *
  rwa [h]

theorem bind {x : Eval α} {f : α → Eval β} {fs : α → Machine → List Visit} (hx : Makes Q m vs x)
    (hf : ∀ a m', x.run m = .ok a m' → Makes Q m' (fs a m') (f a)) :
    Makes Q m (vs ++ x.thenVisits m fs) (x >>= f) := by
  unfold Makes thenVisits machineAfter at *
  cases h : x.run m with
  | ok a m' =>
    rw [run_bind_ok h]
    rw [h] at hx
    exact hx.trans (hf a m' h)
  | error e m' =>
    rw [run_bind_error h, List.append_nil]
    rwa [h] at hx

/-- What follows may make no visits. -/
theorem bindQuiet {x : Eval α} {f : α → Eval β} (hx : Makes Q m vs x)
    (hf : ∀ a m', Makes Q m' [] (f a)) : Makes Q m vs (x >>= f) := by
  have h := hx.bind fun a m' _ => hf a m'
  have hnone : x.thenVisits m (fun _ _ => []) = [] := by unfold thenVisits; split <;> rfl
  rwa [hnone, List.append_nil] at h

/-- What goes before may make no visits. -/
theorem quietBind {x : Eval α} {f : α → Eval β} {fs : α → Machine → List Visit}
    (hx : Makes Q m [] x) (hf : ∀ a m', x.run m = .ok a m' → Makes Q m' (fs a m') (f a)) :
    Makes Q m (x.thenVisits m fs) (x >>= f) :=
  hx.bind hf

theorem pure (a : α) (m : Machine) : Makes Q m [] (Pure.pure a : Eval α) := .still rfl

theorem onCursor {ε : Type} (fail : ε → Failure) (f : Cursor → Except ε α × Cursor) (m : Machine) :
    Makes Q m [] (Eval.onCursor fail f) := by
  refine .still ?_
  simp only [machineAfter, Eval.onCursor, EStateM.run]
  cases f m.cursor with
  | mk r cursor => cases r <;> rfl

theorem shift (m : Machine) : Makes Q m [] Eval.shift := .onCursor _ _ m

theorem worldAfter_onWorld (y : Action α) (m : Machine) :
    ((Eval.onWorld y).machineAfter m).world = y.worldAfter m.world := by
  unfold machineAfter Action.worldAfter
  rw [run_onWorld]
  cases y.run m.world <;> rfl

theorem onWorld {y : Action α} (h : Leads Q m.world vs (y.worldAfter m.world)) :
    Makes Q m vs (Eval.onWorld y) := by
  unfold Makes
  rwa [worldAfter_onWorld]

theorem read (f : Store → α) (m : Machine) : Makes Q m [] (Eval.onWorld (Action.read f)) :=
  onWorld (.still rfl)

/-- What follows may depend on the store. -/
theorem reading {f : Store → α} {g : α → Eval β} (h : Makes Q m vs (g (f m.world.store))) :
    Makes Q m vs (Eval.onWorld (Action.read f) >>= g) :=
  congr (y := g (f m.world.store)) rfl h

theorem change (f : Store → α × Store) (m : Machine) :
    Makes Q m [] (Eval.onWorld (Action.change f)) :=
  onWorld (.still rfl)

theorem ofExcept (x : Except EvalError α) (m : Machine) :
    Makes Q m [] (Eval.onWorld (Action.ofExcept x)) := by
  cases x with
  | ok a => exact onWorld (.still rfl)
  | error e => exact onWorld (.still rfl)

theorem withCursor (own : Cursor) {x : Eval α} (h : Makes Q ⟨own, m.world⟩ vs x) :
    Makes Q m vs (Eval.withCursor own x) := by
  have hworld : ((Eval.withCursor own x).machineAfter m).world =
      (x.machineAfter ⟨own, m.world⟩).world := by
    simp only [machineAfter, Eval.withCursor, EStateM.run]
    cases x ⟨own, m.world⟩ <;> rfl
  unfold Makes at *
  rwa [hworld]

/-- An evaluation comes to a node that has no cell, and goes on. -/
theorem arrive {p : Predicate} {x : Eval α} (hp : Q p) (hcell : p.cell? = none)
    (hx : Makes Q m vs x) : Makes Q m (.eval p m.cursor :: vs) x := by
  refine .pass hp ?_ hx
  by_contra hne
  obtain ⟨c, hc⟩ := Option.ne_none_iff_exists'.1 hne
  have hnode := Visit.cell?_of_fills? hc
  rw [Visit.node, hcell] at hnode
  cases hnode

end Makes

section Nodes

variable {Q : Predicate → Prop} {i : Interpreter} {trails : Trails}

theorem makes_shiftText (m : Machine) : Makes Q m [] shiftText :=
  (Makes.shift m).bindQuiet fun _ m => .read _ m

theorem makes_compare (op : CompareOp) (stored : Value) (m : Machine) :
    Makes Q m [] (Interpreter.compare op stored) := by
  refine (Makes.shift m).bindQuiet fun v m => ?_
  cases op with
  | instanceOf =>
    exact (Makes.read _ m).bindQuiet fun related m =>
      (Makes.ofExcept related m).bindQuiet fun _ m => .pure _ m
  | prototypeIs => exact (Makes.read _ m).bindQuiet fun _ m => .pure _ m
  | equal => exact (Makes.read _ m).bindQuiet fun _ m => .pure _ m

theorem makes_readProperty (name : Option String) (m : Machine) :
    Makes Q m [] (readProperty name) := by
  have hget : ∀ (object : Value) (key : String) (m : Machine), Makes Q m [] (do
      let found ← onWorld (Action.read fun s => s.getProperty object key)
      onWorld (Action.ofExcept found) : Eval Value) :=
    fun object key m => (Makes.read _ m).bindQuiet fun found m => .ofExcept found m
  refine (Makes.shift m).bindQuiet fun object m => ?_
  split
  · cases name with
    | some key => exact hget object key m
    | none => exact (makes_shiftText m).bindQuiet (hget object)
  · exact .onWorld (.still rfl)

theorem makes_readMember (target : Value) (m : Machine) : Makes Q m [] (readMember target) := by
  refine (makes_shiftText m).bindQuiet fun key m => (Makes.read _ m).bindQuiet fun found m => ?_
  split
  · exact (Makes.read _ m).bindQuiet fun found m => .ofExcept found m
  · exact .pure _ m

/-- A call of a host callable. -/
theorem leads_invoke {host : Host} (hhost : host.Makes Q trails) (f : Function) (receiver : Value)
    (args : List Value) (w : World) :
    Leads Q w (trails.call f receiver args w)
      ((Action.invoke host f receiver args).worldAfter w) :=
  ⟨(hhost f.closure receiver args (w.called f receiver args)).nodes,
    (hhost f.closure receiver args (w.called f receiver args)).filledBy⟩

theorem makes_invoke (hhost : i.host.Makes Q trails) (f : Function) (receiver : Value)
    (args : List Value) (m : Machine) :
    Makes Q m (trails.call f receiver args m.world) (i.invoke f receiver args) :=
  .onWorld (leads_invoke hhost f receiver args m.world)

theorem makes_exportMatch (hhost : i.host.Makes Q trails) (input : Value) (spans : Spans)
    (m : Machine) :
    Makes Q m (i.exportVisits trails input spans m) (i.exportMatch input spans) := by
  have hx := run_exportMatch i input spans m
  unfold exportVisits
  split
  · rename_i f hp
    simp only [hp] at hx
    have hcall : (i.exportMatch input spans).run m = (do
        let captures ← (do
          let _ ← shift
          onWorld (Action.change fun s => s.exportCaptures spans i.config.maxCaptures))
        let _ ← i.invoke f .null [captures, input] : Eval Unit).run m := by
      rw [hx, bind_assoc, run_bind_ok (run_shift_of_peek hp)]
    have hcaptures : Makes Q m [] (do
        let _ ← shift
        onWorld (Action.change fun s => s.exportCaptures spans i.config.maxCaptures)) :=
      (Makes.shift m).bindQuiet fun _ m => .change _ m
    refine .congr hcall (hcaptures.quietBind fun captures m _ => ?_)
    exact (makes_invoke hhost f .null [captures, input] m).bindQuiet fun _ m => .pure () m
  · rename_i hf
    cases hp : m.cursor.peek with
    | none =>
      rw [hp] at hx
      exact .congr hx (.pure () m)
    | some v =>
      rw [hp] at hx
      cases v with
      | function f => exact absurd hp (hf f)
      | array sink =>
        have hfill : (i.exportMatch input spans).run m = (do
            let _ ← shift
            onWorld (Action.change fun s =>
              ((), s.fillCaptures sink spans i.config.maxCaptures)) : Eval Unit).run m := by
          rw [hx, run_bind_ok (run_shift_of_peek hp)]
        exact .congr hfill ((Makes.shift m).bindQuiet fun _ m => .change _ m)
      | _ => exact .congr hx (.pure () m)

theorem makes_charset {cell : CharsetCell} {set : String} (hp : Q (.charset cell set))
    (m : Machine) :
    Makes Q m [.eval (.charset cell set) m.cursor] (i.eval (.charset cell set)) := by
  rw [eval]
  unfold Makes machineAfter
  cases hshift : m.cursor.shift with
  | mk r d =>
    have hrun := run_shift m
    rw [hshift] at hrun
    cases r with
    | ok v =>
      rw [run_bind_ok hrun]
      exact .one hp (by simp only [Visit.fills?, hshift]) (.decode m.world.caches cell set)
    | error e =>
      rw [run_bind_error hrun]
      exact .pass hp (by simp only [Visit.fills?, hshift]) (.still rfl)

theorem leads_prepare {v : Visit} {cell : RegexCell} (hv : Q v.node)
    (hfills : v.fills? = some (.pattern cell)) (source : String) (flags : Regex.Flags) (w : World) :
    Leads Q w [v] ((Action.prepare cell source flags).worldAfter w) := by
  have hworld : ((Action.prepare cell source flags).worldAfter w).caches =
      (w.caches.prepare cell source flags).2 := by
    rw [Action.worldAfter, Action.run_prepare]
    cases (w.caches.prepare cell source flags).1 <;> rfl
  refine .one hv hfills ?_
  rw [hworld]
  exact .prepare w.caches cell source flags

theorem makes_evalRegex (hhost : i.host.Makes Q trails) {cell : RegexCell} {source : String}
    {flags : Regex.Flags} (hp : Q (.regex cell source flags)) (m : Machine) :
    Makes Q m (i.visits trails (.regex cell source flags) m) (i.evalRegex cell source flags) := by
  have hprepare : Makes Q m [.eval (.regex cell source flags) m.cursor]
      (onWorld (Action.prepare cell source flags)) :=
    .onWorld (leads_prepare hp rfl source flags m.world)
  rw [visits]
  refine hprepare.bind fun program m _ => (Makes.shift m).quietBind fun input m _ => .reading ?_
  cases program.search (m.world.store.inputBytes input) flags.sticky with
  | none => exact .pure _ m
  | some spans => exact (makes_exportMatch hhost input spans m).bindQuiet fun _ m => .pure _ m

end Nodes

/-! ## Visits of a tree -/

section Trees

variable {Q : Predicate → Prop} {i : Interpreter} {trails : Trails}

mutual

theorem makes_value (hhost : i.host.Makes Q trails) : ∀ (x : Operand) (m : Machine),
    (∀ p ∈ x.nodes, Q p) → Makes Q m (i.valueVisits trails x m) (i.value x)
  | .unset, m, _ => by
    rw [valueVisits, value]
    exact .shift m
  | .nested p, m, h => by
    rw [valueVisits, value]
    exact makes_eval hhost p m h
  | .literal v, m, _ => by
    cases v with
    | function f =>
      rw [valueVisits, value]
      exact .congr (y := i.invoke f .undefined m.cursor.rest) rfl (makes_invoke hhost ..)
    | _ => exact .pure _ m

/-- The visits of a tree account for what evaluating it does to the caches. -/
theorem makes_eval (hhost : i.host.Makes Q trails) : ∀ (p : Predicate) (m : Machine),
    (∀ q ∈ p.nodes, Q q) → Makes Q m (i.visits trails p m) (i.eval p)
  | .unset, m, h => by
    rw [visits, eval]
    · exact .arrive (h _ List.mem_cons_self) rfl (.onWorld (.still rfl))
    all_goals simp
  | .type mask, m, h => by
    exact .arrive (h _ List.mem_cons_self) rfl ((Makes.shift m).bindQuiet fun _ m => .pure _ m)
  | .charset cell set, m, h => by
    exact makes_charset (h _ List.mem_cons_self) m
  | .string start, m, h => by
    exact .arrive (h _ List.mem_cons_self) rfl ((Makes.shift m).bindQuiet fun _ m =>
      (Makes.read _ m).bindQuiet fun _ m => .pure _ m)
  | .compare op stored, m, h => by
    exact .arrive (h _ List.mem_cons_self) rfl (makes_compare op stored m)
  | .member target, m, h => by
    exact .arrive (h _ List.mem_cons_self) rfl (makes_readMember target m)
  | .unary op x, m, h => by
    obtain ⟨hp, hx⟩ := List.forall_mem_cons.1 h
    rw [visits, eval]
    exact .arrive hp rfl ((makes_value hhost x m hx).bindQuiet fun v m => .read _ m)
  | .binary op left right, m, h => by
    obtain ⟨hp, hinner⟩ := List.forall_mem_cons.1 h
    obtain ⟨hleft, hright⟩ := List.forall_mem_append.1 hinner
    rw [visits, eval]
    refine .arrive hp rfl ((makes_value hhost left m hleft).bind fun l m _ => ?_)
    exact (makes_value hhost right m hright).bindQuiet fun r m => .read _ m
  | .boolean .or xs, m, h => by
    obtain ⟨hp, hxs⟩ := List.forall_mem_cons.1 h
    rw [visits, eval]
    exact .arrive hp rfl (makes_until hhost true xs m hxs .undefined)
  | .boolean .and xs, m, h => by
    obtain ⟨hp, hxs⟩ := List.forall_mem_cons.1 h
    rw [visits, eval]
    exact .arrive hp rfl (makes_until hhost false xs m hxs .undefined)
  | .boolean .xor xs, m, h => by
    obtain ⟨hp, hxs⟩ := List.forall_mem_cons.1 h
    rw [visits, eval]
    exact .arrive hp rfl (makes_xor hhost xs m hxs 0)
  | .regex cell source flags, m, h => by
    rw [eval]
    exact makes_evalRegex hhost (h _ List.mem_cons_self) m
  | .property name none, m, h => by
    exact .arrive (h _ List.mem_cons_self) rfl
      ((makes_readProperty name m).bindQuiet fun v m => .pure v m)
  | .property name (some .unset), m, h => by
    exact .arrive (h _ List.mem_cons_self) rfl
      ((makes_readProperty name m).bindQuiet fun v m => .pure v m)
  | .property name (some (.nested q)), m, h => by
    obtain ⟨hp, hq⟩ := List.forall_mem_cons.1 h
    rw [visits, eval]
    refine .arrive hp rfl ((makes_readProperty name m).quietBind fun v m _ => ?_)
    exact .withCursor _ (makes_eval hhost q _ hq)
  | .property name (some (.literal u)), m, h => by
    have hp := h _ List.mem_cons_self
    cases u with
    | function f =>
      rw [visits, eval]
      exact .arrive hp rfl ((makes_readProperty name m).quietBind fun v m _ =>
        makes_invoke hhost f .undefined [v] m)
    | _ => exact .arrive hp rfl ((makes_readProperty name m).bindQuiet fun v m => .pure v m)
  | .shift count x, m, h => by
    obtain ⟨hp, hx⟩ := List.forall_mem_cons.1 h
    rw [visits, eval]
    exact .arrive hp rfl ((Makes.onCursor _ _ m).quietBind fun _ m _ => makes_value hhost x m hx)
  | .function f receiver arity, m, h => by
    rw [visits, eval]
    exact .arrive (h _ List.mem_cons_self) rfl ((Makes.onCursor _ _ m).quietBind fun args m _ =>
      makes_invoke hhost f receiver args m)

theorem makes_until (hhost : i.host.Makes Q trails) (stop : Bool) :
    ∀ (xs : List Operand) (m : Machine), (∀ p ∈ Operand.allNodes xs, Q p) → ∀ last,
      Makes Q m (i.untilVisits trails stop xs m) (i.evalUntil stop last xs)
  | [], m, _, last => by
    rw [untilVisits, evalUntil]
    exact .pure last m
  | x :: rest, m, h, last => by
    obtain ⟨hx, hrest⟩ := List.forall_mem_append.1 h
    rw [untilVisits, evalUntil]
    refine (makes_value hhost x m hx).bind fun v m _ => ?_
    split
    · exact .pure v m
    · exact makes_until hhost stop rest m hrest v

theorem makes_xor (hhost : i.host.Makes Q trails) :
    ∀ (xs : List Operand) (m : Machine), (∀ p ∈ Operand.allNodes xs, Q p) → ∀ acc,
      Makes Q m (i.xorVisits trails xs m) (i.evalXor acc xs)
  | [], m, _, acc => by
    rw [xorVisits, evalXor]
    exact .pure _ m
  | x :: rest, m, h, acc => by
    obtain ⟨hx, hrest⟩ := List.forall_mem_append.1 h
    rw [xorVisits, evalXor]
    exact (makes_value hhost x m hx).bind fun v m _ => .reading (makes_xor hhost rest m hrest _)

end

end Trees

end Criteria
