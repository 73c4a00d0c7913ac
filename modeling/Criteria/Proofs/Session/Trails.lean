import Criteria.Proofs.Session.Visits
import Mathlib.Data.List.TakeWhile

/-!
# Visits of requests

A dump visits the nodes of a tree up to the first unset one, and fills the cells of the
character-set nodes among them. A request visits nodes by evaluating or dumping them, or by
compiling a pattern, and so does a host callable by the requests that it makes.

* `dumps_dump` — the visits of a dump.
* `Request.visits`, `Routine.visits`, `Trails.ofCallables` — the visits of requests and host
  callables.
* `leads_request`, `makes_ofCallables` — they account for the caches.
-/

set_option autoImplicit false

namespace Criteria

open Eval Interpreter

/-! ## Dumps -/

/-- The visits of a dump to some nodes: it stops at the first unset one. -/
def dumped (ns : List Predicate) : List Visit :=
  (ns.takeWhile fun p => !p.isUnset).map Visit.dump

/-- A dump visits these nodes, in order, and finishes when none of them is unset. -/
structure Dumps {α : Type} (ns : List Predicate) (x : Action α) : Prop where
  filledBy : ∀ w : World, w.caches.FilledBy (filled (dumped ns)) (x.worldAfter w).caches
  finishes : ∀ w : World, (∃ a w', x.run w = .ok a w') ↔ ∀ p ∈ ns, p.isUnset = false

namespace Dumps

variable {α β : Type} {ns ms : List Predicate}

theorem pure (a : α) : Dumps [] (Pure.pure a : Action α) :=
  ⟨fun _ => .refl _, fun w => ⟨fun _ _ h => (nomatch h), fun _ => ⟨a, w, rfl⟩⟩⟩

theorem read (f : Store → α) : Dumps [] (Action.read f) :=
  ⟨fun _ => .refl _, fun w => ⟨fun _ _ h => (nomatch h), fun _ => ⟨f w.store, w, rfl⟩⟩⟩

theorem dumped_append_of_set (h : ∀ p ∈ ns, p.isUnset = false) :
    dumped (ns ++ ms) = dumped ns ++ dumped ms := by
  have htake : ∀ p ∈ ns, (!p.isUnset) = true := fun p hp => by rw [h p hp]; rfl
  unfold dumped
  rw [List.takeWhile_append_of_pos htake, List.takeWhile_eq_self_iff.2 htake, List.map_append]

theorem dumped_append_of_unset (h : ¬ ∀ p ∈ ns, p.isUnset = false) :
    dumped (ns ++ ms) = dumped ns := by
  unfold dumped
  rw [List.takeWhile_append, if_neg]
  intro hlen
  refine h fun p hp => ?_
  rw [← (List.takeWhile_prefix _).eq_of_length hlen] at hp
  simpa using List.mem_takeWhile_imp hp

theorem bind {x : Action α} {f : α → Action β} (hx : Dumps ns x) (hf : ∀ a, Dumps ms (f a)) :
    Dumps (ns ++ ms) (x >>= f) := by
  refine ⟨fun w => ?_, fun w => ?_⟩
  · have hfilled := hx.filledBy w
    unfold Action.worldAfter at hfilled ⊢
    rw [EStateM.run_bind]
    cases hrun : x.run w with
    | ok a w' =>
      rw [hrun] at hfilled
      rw [dumped_append_of_set ((hx.finishes w).1 ⟨a, w', hrun⟩), filled, List.filterMap_append]
      exact hfilled.trans ((hf a).filledBy w')
    | error e w' =>
      have hunset : ¬ ∀ p ∈ ns, p.isUnset = false := fun h => by
        obtain ⟨a, w'', ha⟩ := (hx.finishes w).2 h
        rw [hrun] at ha
        cases ha
      rw [hrun] at hfilled
      rw [dumped_append_of_unset hunset]
      exact hfilled
  · rw [EStateM.run_bind, List.forall_mem_append, ← hx.finishes w]
    cases hrun : x.run w with
    | ok a w' =>
      rw [← (hf a).finishes w']
      exact ⟨fun h => ⟨⟨a, w', rfl⟩, h⟩, fun h => h.2⟩
    | error e w' =>
      constructor
      · rintro ⟨_, _, h⟩
        cases h
      · rintro ⟨⟨_, _, h⟩, -⟩
        cases h

/-- What follows may come to no nodes. -/
theorem map {x : Action α} {f : α → Action β} (hx : Dumps ns x) (hf : ∀ a, Dumps [] (f a)) :
    Dumps ns (x >>= f) := by
  have h := hx.bind hf
  rwa [List.append_nil] at h

/-- A node that a dump passes by. -/
theorem node {p : Predicate} {x : Action α} (hset : p.isUnset = false)
    (hfills : (Visit.dump p).fills? = none) (hx : Dumps ns x) : Dumps (p :: ns) x := by
  refine ⟨fun w => ?_, fun w => ?_⟩
  · have hvisits : dumped (p :: ns) = .dump p :: dumped ns := by
      unfold dumped
      rw [List.takeWhile_cons_of_pos (by rw [hset]; rfl), List.map_cons]
    rw [hvisits, filled, List.filterMap_cons_none hfills]
    exact hx.filledBy w
  · rw [List.forall_mem_cons, hx.finishes w]
    exact ⟨fun h => ⟨hset, h⟩, fun h => h.2⟩

/-- A character-set node. -/
theorem decode (cell : CharsetCell) (set : String) :
    Dumps [.charset cell set] (Action.decode cell set) := by
  refine ⟨fun w => .decode w.caches cell set, fun w => ⟨fun _ p hp => ?_, fun _ => ⟨_, _, rfl⟩⟩⟩
  rw [List.mem_singleton.1 hp]
  rfl

/-- An unset node. -/
theorem fault (f : Fault) : Dumps [.unset] (Action.fault f : Action α) := by
  refine ⟨fun w => .refl _, fun w => ⟨fun ⟨_, _, h⟩ => (nomatch h), fun h => ?_⟩⟩
  cases h .unset (List.mem_singleton_self _)

end Dumps

mutual

theorem dumps_operand : ∀ x : Operand, Dumps x.nodes x.dump
  | .unset => .pure _
  | .nested p => dumps_dump p
  | .literal v => by
    rw [Operand.dump]
    exact .read _

/-- A dump visits the nodes of the tree, filters included, in their order. -/
theorem dumps_dump : ∀ p : Predicate, Dumps p.nodes p.dump
  | .unset => .fault _
  | .charset cell set => (Dumps.decode cell set).map fun _ => .pure _
  | .unary _ x => .node rfl rfl ((dumps_operand x).map fun _ => .pure _)
  | .binary _ left right =>
    .node rfl rfl ((dumps_operand left).bind fun _ => (dumps_operand right).map fun _ => .pure _)
  | .boolean _ xs => .node rfl rfl ((dumps_all xs).map fun _ => .pure _)
  | .property _ none => .node rfl rfl (.pure _)
  | .property _ (some x) => .node rfl rfl ((dumps_operand x).map fun _ => .pure _)
  | .shift _ x => .node rfl rfl ((dumps_operand x).map fun _ => .pure _)
  | .compare .. => .node rfl rfl ((Dumps.read _).map fun _ => .pure _)
  | .member _ => .node rfl rfl ((Dumps.read _).map fun _ => .pure _)
  | .type _ => .node rfl rfl (.pure _)
  | .string _ => .node rfl rfl (.pure _)
  | .regex .. => .node rfl rfl (.pure _)
  | .function .. => .node rfl rfl (.pure _)

theorem dumps_all : ∀ xs : List Operand, Dumps (Operand.allNodes xs) (Operand.dumps xs)
  | [] => .pure _
  | x :: rest => (dumps_operand x).bind fun _ => (dumps_all rest).map fun _ => .pure _

end

theorem leads_dump {Q : Predicate → Prop} {p : Predicate} (h : ∀ q ∈ p.nodes, Q q) (w : World) :
    Leads Q w (dumped p.nodes) (p.dump.worldAfter w) := by
  refine ⟨fun v hv => ?_, (dumps_dump p).filledBy w⟩
  obtain ⟨q, hq, rfl⟩ := List.mem_map.1 hv
  exact h q ((List.takeWhile_prefix _).subset hq)

/-! ## Requests -/

/-- The visits of a question to a node. -/
def Query.visits (host : Host) (trails : Trails) (p : Predicate) (w : World) : Query → List Visit
  | eval config cursor => ({ config, host } : Interpreter).visits trails p ⟨cursor, w⟩
  | dump => dumped p.nodes
  | compileRegex => [.compile p]
  | _ => []

/-- The visits of a request. -/
def Request.visits {ν : Type} (host : Host) (trails : Trails) (nodes : ν → Predicate) (w : World) :
    Request ν → List Visit
  | ask node query => query.visits host trails (nodes node) w
  | value config x cursor =>
    ({ config, host } : Interpreter).valueVisits trails (x.operand nodes) ⟨cursor, w⟩
  | call config target args =>
    match target.operand nodes with
    | .nested p =>
      ({ config, host } : Interpreter).visits trails p ⟨.start args config.underflow, w⟩
    | .literal (.function f) => trails.call f .undefined args w
    | _ => []
  | apply f receiver args => trails.call f receiver args w

/-- The visits of a routine that holds some nodes. -/
def Routine.visits (host : Host) (trails : Trails) (held : Nat → Predicate) :
    Routine → World → List Visit
  | finish _, _ => []
  | change f next, w => (next w.store).visits host trails held { w with store := f w.store }
  | request r next, w =>
    let (reply, w') := r.answer host held w
    r.visits host trails held w ++ (next reply).visits host trails held w'

/-- The visits of some callables, with requests nested in calls down to `depth`. -/
def Trails.ofCallables (callables : List Callable) : Nat → Trails
  | 0 => fun _ _ _ _ => []
  | depth + 1 => fun closure receiver args w =>
    match callables[closure.index]? with
    | some c =>
      (c.body receiver args).visits (Host.ofCallables callables depth)
        (Trails.ofCallables callables depth) c.held w
    | none => []

section Requests

variable {Q : Predicate → Prop} {host : Host} {trails : Trails}

theorem leads_compileRegex {p : Predicate} (hp : Q p) (w : World) :
    Leads Q w [.compile p] (p.compileRegex.worldAfter w) := by
  cases p with
  | regex cell source flags =>
    have hworld : (Predicate.regex cell source flags).compileRegex.worldAfter w =
        (Action.prepare cell source flags).worldAfter w := by
      unfold Action.worldAfter
      rw [Predicate.compileRegex, EStateM.run_bind]
      cases (Action.prepare cell source flags).run w <;> rfl
    rw [hworld]
    exact leads_prepare hp rfl source flags w
  | property name filter => cases filter <;> exact .pass hp rfl (.still rfl)
  | _ => exact .pass hp rfl (.still rfl)

theorem leads_query (hhost : host.Makes Q trails) {p : Predicate} (h : ∀ q ∈ p.nodes, Q q)
    (w : World) (query : Query) :
    Leads Q w (query.visits host trails p w) (query.answer host p w).2 := by
  cases query with
  | eval config cursor => exact makes_eval (i := { config, host }) hhost p ⟨cursor, w⟩ h
  | dump => exact leads_dump h w
  | compileRegex => exact leads_compileRegex (h p List.mem_cons_self) w
  | _ => exact .still rfl

theorem worldAfter_onArgs {α : Type} (i : Interpreter) (args : List Value) (x : Eval α)
    (w : World) :
    (i.onArgs args x).worldAfter w =
      (x.machineAfter ⟨.start args i.config.underflow, w⟩).world := by
  simp only [Action.worldAfter, onArgs, machineAfter, EStateM.run]
  cases x ⟨.start args i.config.underflow, w⟩ <;> rfl

/-- The visits of a request account for what it does to the caches. -/
theorem leads_request {ν : Type} (hhost : host.Makes Q trails) {nodes : ν → Predicate}
    (h : ∀ n, ∀ q ∈ (nodes n).nodes, Q q) (w : World) (r : Request ν) :
    Leads Q w (r.visits host trails nodes w) (r.answer host nodes w).2 := by
  have hslot : ∀ x : Slot ν, ∀ q ∈ (x.operand nodes).nodes, Q q := by
    intro x
    cases x with
    | node n => exact h n
    | _ => exact fun _ hq => (nomatch hq)
  cases r with
  | ask node query => exact leads_query hhost (h node) w query
  | value config x cursor =>
    exact makes_value (i := { config, host }) hhost (x.operand nodes) ⟨cursor, w⟩ (hslot x)
  | call config target args =>
    have htarget := hslot target
    simp only [Request.visits, Request.answer]
    generalize target.operand nodes = x at htarget
    cases x with
    | unset => exact .still rfl
    | nested p =>
      rw [Interpreter.call, callPredicate, worldAfter_onArgs]
      exact makes_eval (i := { config, host }) hhost p ⟨.start args config.underflow, w⟩ htarget
    | literal v =>
      cases v with
      | function f => exact leads_invoke hhost f .undefined args w
      | _ => exact .still rfl
  | apply f receiver args => exact leads_invoke hhost f receiver args w

/-- The visits of a routine account for what it does to the caches. -/
theorem leads_routine (hhost : host.Makes Q trails) {held : Nat → Predicate}
    (h : ∀ k, ∀ q ∈ (held k).nodes, Q q) (routine : Routine) (w : World) :
    Leads Q w (routine.visits host trails held w) ((routine.run host held).worldAfter w) := by
  induction routine generalizing w with
  | finish result => cases result <;> exact .still rfl
  | change f next ih =>
    have hrest := ih w.store { w with store := f w.store }
    exact ⟨hrest.nodes, hrest.filledBy⟩
  | request r next ih =>
    exact (leads_request hhost h w r).trans (ih (r.answer host held w).1 (r.answer host held w).2)

/-- The visits of host callables account for what they do to the caches. -/
theorem makes_ofCallables {callables : List Callable}
    (h : ∀ c ∈ callables, ∀ k, ∀ q ∈ (c.held k).nodes, Q q) (depth : Nat) :
    (Host.ofCallables callables depth).Makes Q (Trails.ofCallables callables depth) := by
  induction depth with
  | zero => exact fun _ _ _ _ => .still rfl
  | succ depth ih =>
    intro closure receiver args w
    simp only [Host.ofCallables, Trails.ofCallables]
    cases hc : callables[closure.index]? with
    | none => exact .still rfl
    | some c => exact leads_routine ih (h c (List.mem_of_getElem? hc)) _ w

end Requests

end Criteria
