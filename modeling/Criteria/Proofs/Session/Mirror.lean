import Criteria.Proofs.Session.Bare
import Criteria.Proofs.Session.Caches

/-!
# Steps without caches

Where the caches are sound, what is taken from a cell is what preparing it anew would give. So an
evaluation comes to the same without any cells, on the tree without its cells, and leaves the caches
sound.

* `Mirrors` — steps, and other steps that do the same without caches.
* `mirrors_eval`, `mirrors_dump` — a tree, and the tree without its cells.
-/

set_option autoImplicit false

namespace Criteria

open Eval Interpreter

/-- A state that has caches. -/
class Cached (σ : Type) where
  caches : σ → Caches
  /-- The state with no cache cells. -/
  uncached : σ → σ

instance : Cached World := ⟨World.caches, World.uncached⟩

instance : Cached Machine := ⟨fun m => m.world.caches, fun m => ⟨m.cursor, m.world.uncached⟩⟩

section Mirrors

variable {σ α β : Type} [Cached σ] {L : Labels}

/-- The second outcome is the first one without its caches, which are sound. -/
inductive Mirrored (L : Labels) :
    EStateM.Result Failure σ α → EStateM.Result Failure σ α → Prop where
  | ok (a : α) (s : σ) :
      L.Holds (Cached.caches s) → Mirrored L (.ok a s) (.ok a (Cached.uncached s))
  | error (f : Failure) (s : σ) :
      L.Holds (Cached.caches s) → Mirrored L (.error f s) (.error f (Cached.uncached s))

/-- From sound caches on, `y` does without caches what `x` does, and `x` leaves them sound. -/
def Mirrors (L : Labels) (x y : EStateM Failure σ α) : Prop :=
  ∀ s, L.Holds (Cached.caches s) → Mirrored L (x.run s) (y.run (Cached.uncached s))

namespace Mirrors

theorem pure (a : α) : Mirrors L (Pure.pure a : EStateM Failure σ α) (Pure.pure a) :=
  fun s h => .ok a s h

theorem throw (f : Failure) :
    Mirrors L (MonadExcept.throw f : EStateM Failure σ α) (MonadExcept.throw f) :=
  fun s h => .error f s h

theorem bind {x y : EStateM Failure σ α} {f g : α → EStateM Failure σ β} (hxy : Mirrors L x y)
    (hfg : ∀ a, Mirrors L (f a) (g a)) : Mirrors L (x >>= f) (y >>= g) := by
  intro s h
  have hrun := hxy s h
  rw [EStateM.run_bind, EStateM.run_bind]
  generalize x.run s = result at hrun
  generalize y.run (Cached.uncached s) = result' at hrun
  cases hrun with
  | ok a s' h' => exact hfg a s' h'
  | error f s' h' => exact .error f s' h'

/-- Mirrored steps come to the same, and the states after them are the same but for the caches. -/
theorem outcome_eq {x y : EStateM Failure σ α} (hxy : Mirrors L x y) {s : σ}
    (h : L.Holds (Cached.caches s)) : outcome y (Cached.uncached s) = outcome x s := by
  have hrun := hxy s h
  unfold outcome
  generalize x.run s = result at hrun
  generalize y.run (Cached.uncached s) = result' at hrun
  cases hrun <;> rfl

end Mirrors

end Mirrors

/-! ## Actions -/

namespace Mirrors

variable {α : Type} {L : Labels}

theorem worldAfter {x y : Action α} (hxy : Mirrors L x y) {w : World} (h : L.Holds w.caches) :
    y.worldAfter w.uncached = (x.worldAfter w).uncached ∧ L.Holds (x.worldAfter w).caches := by
  have hrun : Mirrored L (x.run w) (y.run w.uncached) := hxy w h
  unfold Action.worldAfter
  generalize x.run w = result at hrun
  generalize y.run w.uncached = result' at hrun
  cases hrun with
  | ok a w' h' => exact ⟨rfl, h'⟩
  | error f w' h' => exact ⟨rfl, h'⟩

theorem read (f : Store → α) : Mirrors L (Action.read f) (Action.read f) :=
  fun w h => .ok (f w.store) w h

theorem change (f : Store → α × Store) : Mirrors L (Action.change f) (Action.change f) :=
  fun w h => .ok (f w.store).1 { w with store := (f w.store).2 } h

theorem ofExcept (x : Except EvalError α) :
    Mirrors L (Action.ofExcept x) (Action.ofExcept x) := by
  cases x with
  | ok a => exact .pure a
  | error e => exact .throw _

theorem decode {cell : CharsetCell} {set : String} (hcell : L.Covers (.charset cell set))
    (bare : CharsetCell) : Mirrors L (Action.decode cell set) (Action.decode bare set) := by
  intro w (h : L.Holds w.caches)
  obtain ⟨hchars, hafter⟩ := h.decode hcell
  have hrun : (Action.decode bare set).run w.uncached = .ok set.toList w.uncached := by
    have hdecode : (Action.decode bare set).run w.uncached =
        .ok (w.uncached.caches.decode bare set).1
          { w.uncached with caches := (w.uncached.caches.decode bare set).2 } := rfl
    rw [hdecode]
    simp only [World.uncached, Caches.decode_empty]
  show Mirrored L _ ((Action.decode bare set).run w.uncached)
  rw [hrun, ← hchars]
  exact .ok _ { w with caches := (w.caches.decode cell set).2 } hafter

theorem prepare {cell : RegexCell} {source : String} {flags : Regex.Flags}
    (hcell : L.Covers (.regex cell source flags)) (bare : RegexCell) :
    Mirrors L (Action.prepare cell source flags) (Action.prepare bare source flags) := by
  intro w (h : L.Holds w.caches)
  obtain ⟨hcompiled, hafter⟩ := h.prepare hcell
  have hbare : (w.uncached.caches.prepare bare source flags) = (Regex.compile source flags, {}) :=
    Caches.prepare_empty bare source flags
  have hstay : w.uncached.prepared bare source flags = w.uncached := by
    rw [World.prepared, hbare]
    rfl
  show Mirrored L _ ((Action.prepare bare source flags).run w.uncached)
  rw [Action.run_prepare, Action.run_prepare, hcompiled, hbare, hstay]
  cases Regex.compile source flags with
  | ok program => exact .ok program (w.prepared cell source flags) hafter
  | error e => exact .error _ (w.prepared cell source flags) hafter

end Mirrors

/-- Host callables do the same without caches. -/
def Host.Mirrors (L : Labels) (host host' : Host) : Prop :=
  ∀ closure receiver args, Criteria.Mirrors L (host closure receiver args)
    (host' closure receiver args)

theorem Mirrors.called {L : Labels} {host host' : Host} (h : host.Mirrors L host') (f : Function)
    (receiver : Value) (args : List Value) :
    Mirrors L (Action.invoke host f receiver args) (Action.invoke host' f receiver args) :=
  fun w hw => h f.closure receiver args (w.called f receiver args) hw

/-! ## Evaluation -/

/-- The interpreters are configured alike, and their host callables do the same. -/
structure Interpreter.Mirrors (L : Labels) (i i' : Interpreter) : Prop where
  config : i'.config = i.config
  host : i.host.Mirrors L i'.host

namespace Mirrors

variable {α : Type} {L : Labels}

theorem onWorld {x y : Action α} (hxy : Mirrors L x y) :
    Mirrors L (Eval.onWorld x) (Eval.onWorld y) := by
  intro m h
  have hrun : Mirrored L (x.run m.world) (y.run m.world.uncached) := hxy m.world h
  show Mirrored L _ ((Eval.onWorld y).run ⟨m.cursor, m.world.uncached⟩)
  rw [run_onWorld, run_onWorld]
  generalize x.run m.world = result at hrun
  generalize y.run m.world.uncached = result' at hrun
  cases hrun with
  | ok a w h' => exact .ok a (Machine.mk m.cursor w) h'
  | error f w h' => exact .error f (Machine.mk m.cursor w) h'

theorem onCursor {ε : Type} (fail : ε → Failure) (f : Cursor → Except ε α × Cursor) :
    Mirrors L (Eval.onCursor fail f) (Eval.onCursor fail f) := by
  intro m h
  show Mirrored L _ ((Eval.onCursor fail f).run ⟨m.cursor, m.world.uncached⟩)
  simp only [Eval.onCursor, EStateM.run]
  cases f m.cursor with
  | mk r cursor =>
    cases r with
    | ok a => exact .ok a (Machine.mk cursor m.world) h
    | error e => exact .error (fail e) (Machine.mk cursor m.world) h

theorem withCursor (own : Cursor) {x y : Eval α} (hxy : Mirrors L x y) :
    Mirrors L (Eval.withCursor own x) (Eval.withCursor own y) := by
  intro m h
  have hrun : Mirrored L (x ⟨own, m.world⟩) (y ⟨own, m.world.uncached⟩) := hxy ⟨own, m.world⟩ h
  show Mirrored L _ ((Eval.withCursor own y).run ⟨m.cursor, m.world.uncached⟩)
  simp only [Eval.withCursor, EStateM.run]
  generalize x ⟨own, m.world⟩ = result at hrun
  generalize y ⟨own, m.world.uncached⟩ = result' at hrun
  cases hrun with
  | ok a m' h' => exact .ok a (Machine.mk m.cursor m'.world) h'
  | error f m' h' => exact .error f (Machine.mk m.cursor m'.world) h'

/-- Steps that depend on the machine, for example on its cursor. -/
theorem onMachine {f g : Machine → Eval α}
    (hfg : ∀ m : Machine, Mirrors L (f m) (g ⟨m.cursor, m.world.uncached⟩)) :
    Mirrors L (get >>= f) (get >>= g) :=
  fun m h => hfg m m h

end Mirrors

section Nodes

variable {L : Labels} {i i' : Interpreter}

theorem mirrors_shift : Mirrors L Eval.shift Eval.shift := .onCursor _ _

theorem mirrors_shiftText : Mirrors L shiftText shiftText :=
  mirrors_shift.bind fun _ => (Mirrors.read _).onWorld

theorem mirrors_compare (op : CompareOp) (stored : Value) :
    Mirrors L (Interpreter.compare op stored) (Interpreter.compare op stored) := by
  refine mirrors_shift.bind fun v => ?_
  cases op with
  | instanceOf =>
    exact (Mirrors.read _).onWorld.bind fun related =>
      (Mirrors.ofExcept related).onWorld.bind fun _ => .pure _
  | prototypeIs => exact (Mirrors.read _).onWorld.bind fun _ => .pure _
  | equal => exact (Mirrors.read _).onWorld.bind fun _ => .pure _

theorem mirrors_readProperty (name : Option String) :
    Mirrors L (readProperty name) (readProperty name) := by
  have hget : ∀ (object : Value) (key : String), Mirrors L (do
      let found ← onWorld (Action.read fun s => s.getProperty object key)
      onWorld (Action.ofExcept found) : Eval Value) (do
      let found ← onWorld (Action.read fun s => s.getProperty object key)
      onWorld (Action.ofExcept found)) :=
    fun object key => (Mirrors.read _).onWorld.bind fun found => (Mirrors.ofExcept found).onWorld
  refine mirrors_shift.bind fun object => ?_
  split
  · cases name with
    | some name => exact hget object name
    | none => exact mirrors_shiftText.bind (hget object)
  · exact (Mirrors.throw _).onWorld

theorem mirrors_readMember (target : Value) :
    Mirrors L (readMember target) (readMember target) := by
  refine mirrors_shiftText.bind fun key => (Mirrors.read _).onWorld.bind fun found => ?_
  split
  · exact (Mirrors.read _).onWorld.bind fun found => (Mirrors.ofExcept found).onWorld
  · exact .pure _

theorem mirrors_invoke (hi : i.Mirrors L i') (f : Function) (receiver : Value)
    (args : List Value) : Mirrors L (i.invoke f receiver args) (i'.invoke f receiver args) :=
  (Mirrors.called hi.host f receiver args).onWorld

theorem mirrors_exportMatch (hi : i.Mirrors L i') (input : Value) (spans : Spans) :
    Mirrors L (i.exportMatch input spans) (i'.exportMatch input spans) := by
  unfold exportMatch
  refine Mirrors.onMachine fun m => ?_
  simp only [hi.config]
  split
  · exact mirrors_shift.bind fun _ => (Mirrors.change _).onWorld.bind fun _ =>
      (mirrors_invoke hi _ _ _).bind fun _ => .pure _
  · exact mirrors_shift.bind fun _ => (Mirrors.change _).onWorld
  · exact .pure ()

theorem mirrors_evalRegex (hi : i.Mirrors L i') {cell : RegexCell} {source : String}
    {flags : Regex.Flags} (hcell : L.Covers (.regex cell source flags)) (bare : RegexCell) :
    Mirrors L (i.evalRegex cell source flags) (i'.evalRegex bare source flags) := by
  refine (Mirrors.prepare hcell bare).onWorld.bind fun program => mirrors_shift.bind fun input =>
    (Mirrors.read _).onWorld.bind fun bytes => ?_
  split
  · exact .pure _
  · exact (mirrors_exportMatch hi input _).bind fun _ => .pure _

end Nodes

section Trees

variable {L : Labels} {i i' : Interpreter}

mutual

theorem mirrors_value (hi : i.Mirrors L i') : ∀ x : Operand, L.Fits x.nodes →
    Mirrors L (i.value x) (i'.value x.bare)
  | .unset, _ => by
    rw [Operand.bare, value, value]
    exact mirrors_shift
  | .nested p, h => by
    rw [Operand.bare, value, value]
    exact mirrors_eval hi p h
  | .literal v, _ => by
    rw [Operand.bare]
    cases v with
    | function f => exact .onMachine fun m => mirrors_invoke hi f .undefined m.cursor.rest
    | _ => exact .pure _

/-- A tree comes to the same without caches and without cells. -/
theorem mirrors_eval (hi : i.Mirrors L i') : ∀ p : Predicate, L.Fits p.nodes →
    Mirrors L (i.eval p) (i'.eval p.bare)
  | .unset, _ => by
    rw [Predicate.bare, eval, eval]
    · exact (Mirrors.throw _).onWorld
    all_goals simp
  | .type mask, _ => by
    exact mirrors_shift.bind fun _ => .pure _
  | .charset cell set, h => by
    have hcell := (Labels.Fits.cons.1 h).1
    rw [Predicate.bare, eval, eval]
    exact mirrors_shift.bind fun v => (Mirrors.read _).onWorld.bind fun chars =>
      (Mirrors.decode hcell ⟨0⟩).onWorld.bind fun _ => .pure _
  | .string start, _ => by
    exact mirrors_shift.bind fun v => (Mirrors.read _).onWorld.bind fun _ => .pure _
  | .compare op stored, _ => by
    exact mirrors_compare op stored
  | .member target, _ => by
    exact mirrors_readMember target
  | .unary op x, h => by
    rw [Predicate.bare, eval, eval]
    exact (mirrors_value hi x (Labels.Fits.cons.1 h).2).bind fun v => (Mirrors.read _).onWorld
  | .binary op left right, h => by
    obtain ⟨hleft, hright⟩ := Labels.Fits.append.1 (Labels.Fits.cons.1 h).2
    rw [Predicate.bare, eval, eval]
    exact (mirrors_value hi left hleft).bind fun l => (mirrors_value hi right hright).bind fun r =>
      (Mirrors.read _).onWorld
  | .boolean .or xs, h => by
    rw [Predicate.bare, eval, eval]
    exact mirrors_until hi true xs (Labels.Fits.cons.1 h).2 .undefined
  | .boolean .and xs, h => by
    rw [Predicate.bare, eval, eval]
    exact mirrors_until hi false xs (Labels.Fits.cons.1 h).2 .undefined
  | .boolean .xor xs, h => by
    rw [Predicate.bare, eval, eval]
    exact mirrors_xor hi xs (Labels.Fits.cons.1 h).2 0
  | .regex cell source flags, h => by
    rw [Predicate.bare, eval, eval]
    exact mirrors_evalRegex hi (Labels.Fits.cons.1 h).1 ⟨0⟩
  | .property name none, _ => by
    exact (mirrors_readProperty name).bind fun v => .pure v
  | .property name (some .unset), _ => by
    exact (mirrors_readProperty name).bind fun v => .pure v
  | .property name (some (.nested p)), h => by
    rw [Predicate.bare, Operand.bare, eval, eval, hi.config]
    exact (mirrors_readProperty name).bind fun v =>
      (mirrors_eval hi p (Labels.Fits.cons.1 h).2).withCursor _
  | .property name (some (.literal v)), _ => by
    rw [Predicate.bare, Operand.bare, eval, eval]
    refine (mirrors_readProperty name).bind fun found => ?_
    cases v with
    | function f => exact mirrors_invoke hi f .undefined [found]
    | _ => exact .pure _
  | .shift count x, h => by
    rw [Predicate.bare, eval, eval]
    exact (Mirrors.onCursor _ _).bind fun _ => mirrors_value hi x (Labels.Fits.cons.1 h).2
  | .function f receiver arity, _ => by
    exact (Mirrors.onCursor _ _).bind fun args => mirrors_invoke hi f receiver args

theorem mirrors_until (hi : i.Mirrors L i') (stop : Bool) : ∀ xs : List Operand,
    L.Fits (Operand.allNodes xs) → ∀ last,
      Mirrors L (i.evalUntil stop last xs) (i'.evalUntil stop last (Operand.allBare xs))
  | [], _, last => by
    rw [Operand.allBare, evalUntil, evalUntil]
    exact .pure last
  | x :: rest, h, last => by
    obtain ⟨hx, hrest⟩ := Labels.Fits.append.1 h
    rw [Operand.allBare, evalUntil, evalUntil]
    refine (mirrors_value hi x hx).bind fun v => ?_
    split
    · exact .pure v
    · exact mirrors_until hi stop rest hrest v

theorem mirrors_xor (hi : i.Mirrors L i') : ∀ xs : List Operand,
    L.Fits (Operand.allNodes xs) → ∀ acc,
      Mirrors L (i.evalXor acc xs) (i'.evalXor acc (Operand.allBare xs))
  | [], _, acc => by
    rw [Operand.allBare, evalXor, evalXor]
    exact .pure _
  | x :: rest, h, acc => by
    obtain ⟨hx, hrest⟩ := Labels.Fits.append.1 h
    rw [Operand.allBare, evalXor, evalXor]
    exact (mirrors_value hi x hx).bind fun v => (Mirrors.read _).onWorld.bind fun n =>
      mirrors_xor hi rest hrest _

end

/-! ## Dumps -/

mutual

theorem mirrors_dump_operand : ∀ x : Operand, L.Fits x.nodes →
    Mirrors L x.dump x.bare.dump
  | .unset, _ => .pure _
  | .nested p, h => by
    rw [Operand.bare, Operand.dump, Operand.dump]
    exact mirrors_dump p h
  | .literal v, _ => by
    rw [Operand.bare, Operand.dump]
    exact .read _

/-- A tree has the same dump without caches and without cells. -/
theorem mirrors_dump : ∀ p : Predicate, L.Fits p.nodes → Mirrors L p.dump p.bare.dump
  | .unset, _ => .throw _
  | .charset cell set, h => by
    rw [Predicate.bare, Predicate.dump, Predicate.dump]
    exact (Mirrors.decode (Labels.Fits.cons.1 h).1 ⟨0⟩).bind fun _ => .pure _
  | .unary op x, h => by
    rw [Predicate.bare, Predicate.dump, Predicate.dump]
    exact (mirrors_dump_operand x (Labels.Fits.cons.1 h).2).bind fun _ => .pure _
  | .binary op left right, h => by
    obtain ⟨hleft, hright⟩ := Labels.Fits.append.1 (Labels.Fits.cons.1 h).2
    rw [Predicate.bare, Predicate.dump, Predicate.dump]
    exact (mirrors_dump_operand left hleft).bind fun _ =>
      (mirrors_dump_operand right hright).bind fun _ => .pure _
  | .boolean op xs, h => by
    rw [Predicate.bare, Predicate.dump, Predicate.dump]
    exact (mirrors_dumps xs (Labels.Fits.cons.1 h).2).bind fun _ => .pure _
  | .property name none, _ => .pure _
  | .property name (some x), h => by
    rw [Predicate.bare]
    exact (mirrors_dump_operand x (Labels.Fits.cons.1 h).2).bind fun _ => .pure _
  | .shift count x, h => by
    rw [Predicate.bare, Predicate.dump, Predicate.dump]
    exact (mirrors_dump_operand x (Labels.Fits.cons.1 h).2).bind fun _ => .pure _
  | .compare op v, _ => (Mirrors.read _).bind fun _ => .pure _
  | .member target, _ => (Mirrors.read _).bind fun _ => .pure _
  | .type _, _ => .pure _
  | .string _, _ => .pure _
  | .regex .., _ => .pure _
  | .function .., _ => .pure _

theorem mirrors_dumps : ∀ xs : List Operand, L.Fits (Operand.allNodes xs) →
    Mirrors L (Operand.dumps xs) (Operand.dumps (Operand.allBare xs))
  | [], _ => .pure _
  | x :: rest, h => by
    obtain ⟨hx, hrest⟩ := Labels.Fits.append.1 h
    rw [Operand.allBare, Operand.dumps, Operand.dumps]
    exact (mirrors_dump_operand x hx).bind fun _ => (mirrors_dumps rest hrest).bind fun _ => .pure _

end

theorem mirrors_compileRegex (p : Predicate) (h : L.Fits p.nodes) :
    Mirrors L p.compileRegex p.bare.compileRegex := by
  cases p with
  | regex cell source flags =>
    exact (Mirrors.prepare (Labels.Fits.cons.1 h).1 ⟨0⟩).bind fun _ => .pure _
  | property _ filter => cases filter <;> exact .throw _
  | _ => exact .throw _

end Trees

end Criteria
