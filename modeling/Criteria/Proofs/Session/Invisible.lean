import Criteria.Proofs.Session.Mirror

/-!
# Caches do not show

Whatever a session does, in every order, its answers are those of a session without caches, which
decodes each set and compiles each pattern anew where it is needed. Only the question whether a cell
is filled tells the two apart.

* `sameAnswer_request`, `mirrors_ofCallables` — one request, and host callables.
* `Session.Sound.step` — one command.
* `caches_invisible` — a whole session.
-/

set_option autoImplicit false

namespace Criteria

open Eval Interpreter

/-! ## Requests -/

/-- Without caches the reply is the same, and so is the world after it; the caches are sound. -/
structure SameAnswer (L : Labels) (answer answer' : Reply × World) : Prop where
  reply : answer'.1 = answer.1
  world : answer'.2 = answer.2.uncached
  sound : L.Holds answer.2.caches

section Requests

variable {L : Labels} {w : World} {host host' : Host}

theorem sameAnswer_onCursor {x y : Eval Value} (hxy : Mirrors L x y) (hw : L.Holds w.caches)
    (cursor : Cursor) :
    SameAnswer L (Reply.onCursor x cursor w) (Reply.onCursor y cursor w.uncached) := by
  have hrun : Mirrored L (x.run ⟨cursor, w⟩) (y.run ⟨cursor, w.uncached⟩) := hxy ⟨cursor, w⟩ hw
  unfold Reply.onCursor outcome machineAfter
  generalize x.run ⟨cursor, w⟩ = result at hrun
  generalize y.run ⟨cursor, w.uncached⟩ = result' at hrun
  cases hrun with
  | ok v m h => exact ⟨rfl, rfl, h⟩
  | error f m h => exact ⟨rfl, rfl, h⟩

theorem sameAnswer_action {α : Type} {x y : Action α} (hxy : Mirrors L x y)
    (hw : L.Holds w.caches) (reply : Except Failure α → Reply) :
    SameAnswer L (reply (outcome x w), x.worldAfter w)
      (reply (outcome y w.uncached), y.worldAfter w.uncached) := by
  obtain ⟨hworld, hsound⟩ := hxy.worldAfter hw
  have houtcome : outcome y w.uncached = outcome x w := hxy.outcome_eq hw
  exact ⟨congrArg reply houtcome, hworld, hsound⟩

/-- An answer that is read off the node and the store. -/
theorem SameAnswer.same {reply reply' : Reply} (h : reply' = reply) (hw : L.Holds w.caches) :
    SameAnswer L (reply, w) (reply', w.uncached) :=
  ⟨h, rfl, hw⟩

theorem sameAnswer_query (hhost : host.Mirrors L host') (hw : L.Holds w.caches) {p : Predicate}
    (hp : L.Fits p.nodes) (q : Query) :
    SameAnswer L (q.answer host p w) (q.answer host' p.bare w.uncached) := by
  have hstore : w.uncached.store = w.store := rfl
  cases q with
  | eval config cursor =>
    have hi : Interpreter.Mirrors L { config, host } { config, host := host' } := ⟨rfl, hhost⟩
    exact sameAnswer_onCursor (mirrors_eval hi p hp) hw cursor
  | dump => exact sameAnswer_action (mirrors_dump p hp) hw .text
  | source => exact .same (by rw [hstore, Predicate.toSource_bare]) hw
  | sourceOn names => exact .same (by rw [hstore, Predicate.toSourceOn_bare]) hw
  | kind => exact .same (by rw [Predicate.kind_bare]) hw
  | precedence => exact .same (by rw [Predicate.precedence_bare]) hw
  | keys => exact .same (by rw [Predicate.keys_bare]) hw
  | values => exact .same (by rw [Predicate.values_bare]) hw
  | argCount => exact .same (by rw [Predicate.argCount_bare]) hw
  | directArgCount => exact .same (by rw [Predicate.directArgCount_bare]) hw
  | compileRegex => exact sameAnswer_action (mirrors_compileRegex p hp) hw .groups

theorem Slot.operand_bare {ν : Type} (nodes : ν → Predicate) (x : Slot ν) :
    x.operand (fun n => (nodes n).bare) = (x.operand nodes).bare := by
  cases x <;> rfl

theorem Slot.fits_operand {ν : Type} {nodes : ν → Predicate}
    (hnodes : ∀ n, L.Fits (nodes n).nodes) (x : Slot ν) : L.Fits (x.operand nodes).nodes := by
  cases x with
  | unset => exact fun _ hp => nomatch hp
  | node n => exact hnodes n
  | literal v => exact fun _ hp => nomatch hp

theorem mirrors_onArgs {i i' : Interpreter} (hi : i.Mirrors L i') {x y : Eval Value}
    (hxy : Mirrors L x y) (args : List Value) : Mirrors L (i.onArgs args x) (i'.onArgs args y) := by
  intro w h
  have hrun : Mirrored L (x ⟨.start args i.config.underflow, w⟩)
      (y ⟨.start args i.config.underflow, w.uncached⟩) := hxy ⟨.start args i.config.underflow, w⟩ h
  show Mirrored L (i.onArgs args x w) (i'.onArgs args y w.uncached)
  unfold onArgs
  rw [hi.config]
  generalize x ⟨.start args i.config.underflow, w⟩ = result at hrun
  generalize y ⟨.start args i.config.underflow, w.uncached⟩ = result' at hrun
  cases hrun with
  | ok v m h => exact .ok v m.world h
  | error f m h => exact .error f m.world h

theorem mirrors_call {i i' : Interpreter} (hi : i.Mirrors L i') {x : Operand}
    (hx : L.Fits x.nodes) (args : List Value) :
    Mirrors L (i.call x args) (i'.call x.bare args) := by
  cases x with
  | unset => exact .pure _
  | nested p => exact mirrors_onArgs hi (mirrors_eval hi p hx) args
  | literal v =>
    cases v with
    | function f => exact .called hi.host f .undefined args
    | _ => exact .pure _

/-- A request is answered alike without caches and without cells. -/
theorem sameAnswer_request {ν : Type} (hhost : host.Mirrors L host') (hw : L.Holds w.caches)
    {nodes : ν → Predicate} (hnodes : ∀ n, L.Fits (nodes n).nodes) (r : Request ν) :
    SameAnswer L (r.answer host nodes w)
      (r.answer host' (fun n => (nodes n).bare) w.uncached) := by
  cases r with
  | ask node query => exact sameAnswer_query hhost hw (hnodes node) query
  | value config x cursor =>
    have hi : Interpreter.Mirrors L { config, host } { config, host := host' } := ⟨rfl, hhost⟩
    rw [Request.answer, Request.answer, x.operand_bare]
    exact sameAnswer_onCursor (mirrors_value hi _ (x.fits_operand hnodes)) hw cursor
  | call config target args =>
    have hi : Interpreter.Mirrors L { config, host } { config, host := host' } := ⟨rfl, hhost⟩
    rw [Request.answer, Request.answer, target.operand_bare]
    exact sameAnswer_action (mirrors_call hi (target.fits_operand hnodes) args) hw .returned
  | apply f receiver args => exact sameAnswer_action (.called hhost f receiver args) hw .returned

/-! ## Host callables -/

/-- A routine does the same without caches, on nodes without cells. -/
theorem mirrors_routine (hhost : host.Mirrors L host') {held : Nat → Predicate}
    (hheld : ∀ k, L.Fits (held k).nodes) (routine : Routine) :
    Mirrors L (routine.run host held) (routine.run host' fun k => (held k).bare) := by
  induction routine with
  | finish result =>
    cases result with
    | ok v => exact .pure v
    | error f => exact .throw f
  | change f next ih => exact fun w h => ih w.store { w with store := f w.store } h
  | request r next ih =>
    intro w h
    have hsame := sameAnswer_request hhost h hheld r
    have hrest := ih (r.answer host held w).1 (r.answer host held w).2 hsame.sound
    show Mirrored L _ ((next (r.answer host' _ w.uncached).1).run host' _
      (r.answer host' _ w.uncached).2)
    rw [hsame.reply, hsame.world]
    exact hrest

theorem Callable.held_bare (c : Callable) (k : Nat) : c.bare.held k = (c.held k).bare := by
  simp only [held, bare, List.getD_eq_getElem?_getD, List.getElem?_map]
  cases c.holds[k]? <;> rfl

theorem Callable.fits_held {c : Callable} (hc : ∀ p ∈ c.holds, L.Fits p.nodes) (k : Nat) :
    L.Fits (c.held k).nodes := by
  rw [held, List.getD_eq_getElem?_getD]
  cases h : c.holds[k]? with
  | none =>
    intro p hp
    rw [List.mem_singleton.1 hp]
    trivial
  | some p => exact hc p (List.mem_of_getElem? h)

/-- Host callables do the same without caches, on nodes without cells. -/
theorem mirrors_ofCallables {callables : List Callable}
    (hfits : ∀ c ∈ callables, ∀ p ∈ c.holds, L.Fits p.nodes) (depth : Nat) :
    (Host.ofCallables callables depth).Mirrors L
      (Host.ofCallables (callables.map Callable.bare) depth) := by
  induction depth with
  | zero => exact fun _ _ _ => .pure _
  | succ depth ih =>
    intro closure receiver args
    simp only [Host.ofCallables, List.getElem?_map]
    cases hc : callables[closure.index]? with
    | none => exact .pure _
    | some c =>
      have hheld : c.bare.held = fun k => (c.held k).bare := funext c.held_bare
      show Mirrors L _ ((c.body receiver args).run _ c.bare.held)
      rw [hheld]
      exact mirrors_routine ih (Callable.fits_held (hfits c (List.mem_of_getElem? hc))) _

end Requests

/-! ## Making and copying nodes -/

section Nodes

variable {L : Labels} {w : World}

/-- The cells of a node that is made belong to its literals. -/
theorem Draft.fits_make {nodes : String → Predicate} (hnodes : ∀ n, L.Fits (nodes n).nodes)
    (hw : L.Holds w.caches) (draft : Draft) : ∃ L', L.Extends L' ∧
      L'.Holds (draft.make nodes w).2.caches ∧ L'.Fits (draft.make nodes w).1.nodes := by
  have hslot : ∀ x : Slot String, L.Fits (x.operand nodes).nodes := Slot.fits_operand hnodes
  have hplain : ∀ p : Predicate, L.Covers p → L.Fits p.inner →
      ∃ L', L.Extends L' ∧ L'.Holds w.caches ∧ L'.Fits p.nodes :=
    fun p hp hinner => ⟨L, .refl L, hw, Labels.Fits.cons.2 ⟨hp, hinner⟩⟩
  have hnone : L.Fits [] := fun _ hp => nomatch hp
  cases draft with
  | charset set =>
    obtain ⟨L', hL, hholds, hcovers⟩ := hw.newCharset set none nofun
    exact ⟨L', hL, hholds, Labels.Fits.cons.2 ⟨hcovers, fun _ hp => nomatch hp⟩⟩
  | regex source flags =>
    obtain ⟨L', hL, hholds, hcovers⟩ := hw.newPattern source flags
    exact ⟨L', hL, hholds, Labels.Fits.cons.2 ⟨hcovers, fun _ hp => nomatch hp⟩⟩
  | unary op x => exact hplain _ trivial (hslot x)
  | binary op left right =>
    exact hplain _ trivial (Labels.Fits.append.2 ⟨hslot left, hslot right⟩)
  | boolean op xs =>
    refine hplain _ trivial (Labels.Fits.allNodes fun y hy => ?_)
    obtain ⟨x, -, rfl⟩ := List.mem_map.1 hy
    exact hslot x
  | property name filter =>
    cases filter with
    | none => exact hplain _ trivial hnone
    | some x => exact hplain _ trivial (hslot x)
  | shift count x => exact hplain _ trivial (hslot x)
  | _ => exact hplain _ trivial hnone

/-- The cell of a copy belongs to the literal of the copy. -/
theorem World.fits_clone {p : Predicate} (hp : L.Fits p.nodes) (hw : L.Holds w.caches) :
    ∃ L', L.Extends L' ∧ L'.Holds (w.clone p).2.caches ∧ L'.Fits (w.clone p).1.nodes := by
  cases p with
  | charset cell set =>
    have hcell := (Labels.Fits.cons.1 hp).1
    obtain ⟨L', hL, hholds, hcovers⟩ := hw.newCharset set _ (hw.decoded cell set · hcell)
    exact ⟨L', hL, hholds, Labels.Fits.cons.2 ⟨hcovers, fun _ hq => nomatch hq⟩⟩
  | regex cell source flags =>
    obtain ⟨L', hL, hholds, hcovers⟩ := hw.newPattern source flags
    exact ⟨L', hL, hholds, Labels.Fits.cons.2 ⟨hcovers, fun _ hq => nomatch hq⟩⟩
  | _ => exact ⟨L, .refl L, hw, hp⟩

/-- Nodes are made alike from nodes without cells. -/
theorem Draft.bare_make (nodes : String → Predicate) (w w' : World) (draft : Draft) :
    (draft.make (fun n => (nodes n).bare) w').1.bare = (draft.make nodes w).1.bare := by
  cases draft with
  | unary op x => simp only [make, Predicate.bare, Slot.operand_bare, Operand.bare_bare]
  | binary op left right => simp only [make, Predicate.bare, Slot.operand_bare, Operand.bare_bare]
  | boolean op xs =>
    have hslot : Slot.operand (fun n => (nodes n).bare) = Operand.bare ∘ Slot.operand nodes :=
      funext (Slot.operand_bare nodes)
    simp only [make, Predicate.bare, hslot, ← List.map_map, ← Operand.allBare_eq_map,
      Operand.allBare_allBare]
  | property name filter =>
    cases filter with
    | none => rfl
    | some x => simp only [make, Option.map_some, Predicate.bare, Slot.operand_bare,
        Operand.bare_bare]
  | shift count x => simp only [make, Predicate.bare, Slot.operand_bare, Operand.bare_bare]
  | _ => rfl

theorem Draft.uncached_make (nodes : String → Predicate) (w : World) (draft : Draft) :
    (draft.make nodes w).2.uncached = w.uncached := by
  cases draft <;> rfl

theorem World.bare_clone (w : World) (p : Predicate) : (w.clone p).1.bare = p.bare := by
  cases p <;> rfl

theorem World.uncached_clone (w : World) (p : Predicate) :
    (w.clone p).2.uncached = w.uncached := by
  cases p <;> rfl

end Nodes

/-! ## Sessions -/

namespace Session

variable {L L' : Labels} {s t : Session} {depth : Nat}

/-- The caches are sound, and the cells of the nodes at hand belong to their literals. -/
structure Sound (L : Labels) (s : Session) : Prop where
  caches : L.Holds s.world.caches
  nodes : ∀ name, L.Fits (s.nodes name).nodes
  callables : ∀ c ∈ s.callables, ∀ p ∈ c.holds, L.Fits p.nodes

theorem sound_empty : ({} : Session).Sound {} := by
  have hcaches : ({} : Labels).Holds {} :=
    ⟨rfl, rfl, fun _ _ _ h => (nomatch h), fun _ _ _ _ h => (nomatch h)⟩
  refine ⟨hcaches, fun _ p hp => ?_, fun _ hc => (nomatch hc)⟩
  rw [List.mem_singleton.1 hp]
  trivial

theorem Sound.bind (h : s.Sound L) (name : String) {p : Predicate} (hp : L.Fits p.nodes) :
    (s.bind name p).Sound L := by
  refine ⟨h.caches, fun n => ?_, h.callables⟩
  show L.Fits (Function.update s.nodes name p n).nodes
  by_cases hn : n = name
  · rw [hn, Function.update_self]
    exact hp
  · rw [Function.update_of_ne hn]
    exact h.nodes n

/-- A session stays sound when cells are added. -/
theorem Sound.extend (h : s.Sound L) (hL : L.Extends L') {w : World} (hw : L'.Holds w.caches) :
    { s with world := w }.Sound L' :=
  ⟨hw, fun name => (h.nodes name).extend hL, fun c hc p hp => (h.callables c hc p hp).extend hL⟩

theorem Sound.request (h : s.Sound L) (depth : Nat) (r : Request String) :
    SameAnswer L (r.answer (s.host depth) s.nodes s.world)
      (r.answer (s.forget.host depth) s.forget.nodes s.forget.world) :=
  sameAnswer_request (mirrors_ofCallables h.callables depth) h.caches h.nodes r

/-- Commands keep a session sound, and cells keep their literals. -/
theorem Sound.step (h : s.Sound L) (depth : Nat) (command : Command) :
    ∃ L', L.Extends L' ∧ (s.perform depth command).2.Sound L' := by
  cases command with
  | make name draft =>
    obtain ⟨L', hL, hholds, hfits⟩ := draft.fits_make h.nodes h.caches
    exact ⟨L', hL, (h.extend hL hholds).bind name hfits⟩
  | clone name of =>
    obtain ⟨L', hL, hholds, hfits⟩ := World.fits_clone (h.nodes of) h.caches
    exact ⟨L', hL, (h.extend hL hholds).bind name hfits⟩
  | share name of k =>
    refine ⟨L, .refl L, h.bind name ?_⟩
    rw [List.getD_eq_getElem?_getD]
    cases hk : (s.nodes of).nodes[k]? with
    | none => exact sound_empty.nodes name |>.extend ⟨⟨L.charsets, by simp⟩, L.patterns, by simp⟩
    | some p =>
      exact fun q hq => h.nodes of q (Predicate.nodes_subset _ (List.mem_of_getElem? hk) hq)
  | free name =>
    exact ⟨L, .refl L, h.bind name fun p hp => by rw [List.mem_singleton.1 hp]; trivial⟩
  | define holds body =>
    refine ⟨L, .refl L, h.caches, h.nodes, fun c hc p hp => ?_⟩
    rcases List.mem_append.1 hc with hc | hc
    · exact h.callables c hc p hp
    · rw [List.mem_singleton.1 hc] at hp
      obtain ⟨name, -, rfl⟩ := List.mem_map.1 hp
      exact h.nodes name
  | change f => exact ⟨L, .refl L, h.caches, h.nodes, h.callables⟩
  | request r => exact ⟨L, .refl L, h.extend (.refl L) (h.request depth r).sound⟩
  | inspect name => exact ⟨L, .refl L, h⟩

/-- The reply to a command is the same without caches, unless it shows them. -/
theorem Sound.reply_eq (h : s.Sound L) (depth : Nat) {command : Command}
    (hcommand : command.isInspect = false) :
    (s.forget.perform depth command).1 = (s.perform depth command).1 := by
  cases command with
  | request r => exact (h.request depth r).reply
  | inspect name => cases hcommand
  | _ => rfl

theorem forget_bind (s : Session) (name : String) (p : Predicate) :
    (s.bind name p).forget = s.forget.bind name p.bare := by
  ext n
  · by_cases hn : n = name
    · simp only [forget, Session.bind, hn, Function.update_self]
    · simp only [forget, Session.bind, Function.update_of_ne hn]
  all_goals rfl

@[simp] theorem forget_forget (s : Session) : s.forget.forget = s.forget := by
  have hbare : Predicate.bare ∘ Predicate.bare = Predicate.bare := funext Predicate.bare_bare
  have hcallable : Callable.bare ∘ Callable.bare = Callable.bare := by
    funext c
    simp only [Function.comp, Callable.bare, List.map_map, hbare]
  ext n
  · exact Predicate.bare_bare (s.nodes n)
  · simp only [forget, List.map_map, hcallable]
  all_goals rfl

/-- Worlds that differ in their caches only. -/
theorem forget_world (hst : t.forget = s.forget) {w w' : World} (hw : w'.uncached = w.uncached) :
    { t with world := w' }.forget = { s with world := w }.forget := by
  have hnodes : t.forget.nodes = s.forget.nodes := by rw [hst]
  have hcallables : t.forget.callables = s.forget.callables := by rw [hst]
  exact Session.ext hnodes hcallables hw

/-- Nodes that differ in their cells only. -/
theorem forget_bind_congr (hst : t.forget = s.forget) {p p' : Predicate} (hp : p'.bare = p.bare)
    (name : String) : (t.bind name p').forget = (s.bind name p).forget := by
  rw [forget_bind, forget_bind, hst, hp]

/-- The session after a command is the same without caches. -/
theorem Sound.forget_perform (h : s.Sound L) (depth : Nat) (command : Command) :
    (s.forget.perform depth command).2.forget = (s.perform depth command).2.forget := by
  have hstay := s.forget_forget
  cases command with
  | make name draft =>
    have hw : (draft.make s.forget.nodes s.forget.world).2.uncached =
        (draft.make s.nodes s.world).2.uncached := by
      rw [Draft.uncached_make, Draft.uncached_make]
      rfl
    exact forget_bind_congr (forget_world hstay hw) (draft.bare_make s.nodes s.world _) name
  | clone name of =>
    have hw : (s.forget.world.clone (s.forget.nodes of)).2.uncached =
        (s.world.clone (s.nodes of)).2.uncached := by
      rw [World.uncached_clone, World.uncached_clone]
      rfl
    have hp : (s.forget.world.clone (s.forget.nodes of)).1.bare =
        (s.world.clone (s.nodes of)).1.bare := by
      rw [World.bare_clone, World.bare_clone]
      exact Predicate.bare_bare _
    exact forget_bind_congr (forget_world hstay hw) hp name
  | share name of k =>
    refine forget_bind_congr hstay ?_ name
    show ((s.nodes of).bare.nodes.getD k .unset).bare = ((s.nodes of).nodes.getD k .unset).bare
    simp only [Predicate.nodes_bare, List.getD_eq_getElem?_getD, List.getElem?_map]
    cases (s.nodes of).nodes[k]? with
    | none => rfl
    | some p => exact p.bare_bare
  | free name => exact forget_bind_congr hstay rfl name
  | define holds body =>
    have hnodes : s.forget.forget.nodes = s.forget.nodes := by rw [hstay]
    have hcallables : s.forget.forget.callables = s.forget.callables := by rw [hstay]
    refine Session.ext hnodes ?_ rfl
    simp only [perform, forget, List.map_append, List.map_cons, List.map_nil] at hcallables ⊢
    rw [hcallables]
    simp [Callable.bare]
  | change f => exact forget_world hstay rfl
  | request r =>
    have hworld := (h.request depth r).world
    have hw : (r.answer (s.forget.host depth) s.forget.nodes s.forget.world).2.uncached =
        (r.answer (s.host depth) s.nodes s.world).2.uncached := by
      rw [hworld]
      rfl
    exact forget_world hstay hw
  | inspect name => exact hstay

/-! ## Runs -/

theorem run_append (depth : Nat) (s : Session) (before after : List Command) :
    s.run depth (before ++ after) = (s.run depth before).run depth after :=
  List.foldl_append

/-- The session after some commands is sound, and it is the same without caches. -/
theorem Sound.run (h : s.Sound L) (depth : Nat) (commands : List Command) :
    (∃ L', L.Extends L' ∧ (s.run depth commands).Sound L') ∧
      (s.run depth commands).forget = s.forget.runAfresh depth commands := by
  induction commands generalizing s L with
  | nil => exact ⟨⟨L, .refl L, h⟩, rfl⟩
  | cons command rest ih =>
    obtain ⟨L', hL, hstep⟩ := h.step depth command
    obtain ⟨⟨L'', hL', hsound⟩, hforget⟩ := ih hstep
    refine ⟨⟨L'', hL.trans hL', hsound⟩, ?_⟩
    show ((s.perform depth command).2.run depth rest).forget =
      (s.forget.perform depth command).2.forget.runAfresh depth rest
    rw [hforget, h.forget_perform]

/-- Sessions that differ in caches and cells only reply alike. -/
theorem Sound.reply_congr (hs : s.Sound L) (ht : t.Sound L') (hst : s.forget = t.forget)
    (depth : Nat) {command : Command} (hcommand : command.isInspect = false) :
    (s.perform depth command).1 = (t.perform depth command).1 := by
  rw [← hs.reply_eq depth hcommand, hst, ht.reply_eq depth hcommand]

/-- A request that changes neither the store nor what was called leaves all later replies as they
would have been without it. -/
theorem Sound.reply_after_request (hs : s.Sound L) (depth : Nat) (r : Request String)
    (hstore : (s.perform depth (.request r)).2.world.store = s.world.store)
    (hcalls : (s.perform depth (.request r)).2.world.calls = s.world.calls)
    (later : List Command) {command : Command} (hcommand : command.isInspect = false) :
    (((s.perform depth (.request r)).2.run depth later).perform depth command).1 =
      ((s.run depth later).perform depth command).1 := by
  obtain ⟨L', -, hr⟩ := hs.step depth (.request r)
  obtain ⟨⟨M, -, hlater⟩, hforget⟩ := hs.run depth later
  obtain ⟨⟨M', -, hlater'⟩, hforget'⟩ := hr.run depth later
  have hworld : (s.perform depth (.request r)).2.world.uncached = s.world.uncached := by
    unfold World.uncached
    rw [hstore, hcalls]
  have hst : (s.perform depth (.request r)).2.forget = s.forget := forget_world rfl hworld
  refine hlater'.reply_congr hlater ?_ depth hcommand
  rw [hforget', hforget, hst]

/-- A copy answers what the original would. -/
theorem Sound.reply_clone (hs : s.Sound L) (depth : Nat) (name of : String) (query : Query) :
    ((s.perform depth (.clone name of)).2.perform depth (.request (.ask name query))).1 =
      (s.perform depth (.request (.ask of query))).1 := by
  obtain ⟨L', -, hclone⟩ := hs.step depth (.clone name of)
  have hnode : (s.perform depth (.clone name of)).2.forget.nodes name = s.forget.nodes of := by
    show (Function.update s.nodes name (s.world.clone (s.nodes of)).1 name).bare = _
    rw [Function.update_self, World.bare_clone]
    rfl
  have hworld : (s.perform depth (.clone name of)).2.forget.world = s.forget.world :=
    World.uncached_clone s.world (s.nodes of)
  rw [← hs.reply_eq depth rfl, ← hclone.reply_eq depth rfl]
  show (query.answer _ ((s.perform depth (.clone name of)).2.forget.nodes name)
    (s.perform depth (.clone name of)).2.forget.world).1 = _
  rw [hnode, hworld]
  rfl

/-- A pattern that does not compile is an error, the same every time, and takes no argument. -/
theorem Sound.reply_failing (hs : s.Sound L) (depth : Nat) {name : String} {cell : RegexCell}
    {source : String} {flags : Regex.Flags} {e : Regex.PatternError}
    (hnode : s.nodes name = .regex cell source flags) (he : Regex.compile source flags = .error e) :
    (∀ config cursor, (s.perform depth (.request (.ask name (.eval config cursor)))).1 =
      .value (.error (.error (.regexCompile source e.message))) cursor) ∧
    (s.perform depth (.request (.ask name .compileRegex))).1 =
      .groups (.error (.error (.regexCompile source e.message))) := by
  have hcell : L.Covers (.regex cell source flags) :=
    hnode ▸ (Labels.Fits.cons.1 (hs.nodes name)).1
  have hrun : (Action.prepare cell source flags).run s.world =
      .error (.error (.regexCompile source e.message)) (s.world.prepared cell source flags) := by
    rw [Action.run_prepare, (hs.caches.prepare hcell).1, he]
  constructor
  · intro config cursor
    have heval : (({ config, host := s.host depth } : Interpreter).eval (s.nodes name)).run
        ⟨cursor, s.world⟩ = .error (.error (.regexCompile source e.message))
          ⟨cursor, s.world.prepared cell source flags⟩ := by
      rw [hnode, eval]
      refine run_bind_error ?_
      rw [run_onWorld, hrun]
    show (Reply.onCursor _ cursor s.world).1 = _
    simp only [Reply.onCursor, outcome, machineAfter, heval]
  · have hcompile : (s.nodes name).compileRegex.run s.world =
        .error (.error (.regexCompile source e.message)) (s.world.prepared cell source flags) := by
      rw [hnode, Predicate.compileRegex, EStateM.run_bind, hrun]
    show Reply.groups (outcome (s.nodes name).compileRegex s.world) = _
    simp only [outcome, hcompile]

end Session

/-- **Caches do not show.** After any commands, a session is what it is without caches: the same
trees, apart from their cells, the same store and the same calls. To every further command but the
question whether a cell is filled it replies as the session without caches, in which there are no
cells, each set is decoded and each pattern compiled when it is needed.

So a pattern that does not compile fails with one error at every evaluation and takes no argument; a
request that changes nothing but caches, for example an evaluation, can be left out, and no later
reply changes, be it of the same node, of a tree that shares it or of a copy; and a copy replies
what the original would. -/
theorem caches_invisible (depth : Nat) (commands : List Command) :
    let s := ({} : Session).run depth commands
    let fresh := ({} : Session).runAfresh depth commands
    fresh.world.caches = {} ∧ s.forget = fresh ∧
    (∀ command : Command, command.isInspect = false →
      (s.perform depth command).1 = (fresh.perform depth command).1) ∧
    (∀ name cell source flags e, s.nodes name = .regex cell source flags →
      Regex.compile source flags = .error e →
      (∀ config cursor, (s.perform depth (.request (.ask name (.eval config cursor)))).1 =
        .value (.error (.error (.regexCompile source e.message))) cursor) ∧
      (s.perform depth (.request (.ask name .compileRegex))).1 =
        .groups (.error (.error (.regexCompile source e.message)))) ∧
    (∀ r : Request String,
      let after := (s.perform depth (.request r)).2
      after.world.store = s.world.store → after.world.calls = s.world.calls →
      ∀ (later : List Command) (command : Command), command.isInspect = false →
        ((after.run depth later).perform depth command).1 =
          ((s.run depth later).perform depth command).1) ∧
    (∀ name of query,
      ((s.perform depth (.clone name of)).2.perform depth (.request (.ask name query))).1 =
        (s.perform depth (.request (.ask of query))).1) := by
  intro s fresh
  obtain ⟨⟨L, -, hs⟩, hforget⟩ := Session.sound_empty.run depth commands
  have hfresh : s.forget = fresh := hforget
  refine ⟨?_, hfresh, fun command hcommand => ?_, fun name cell source flags e => ?_, fun r => ?_,
    hs.reply_clone depth⟩
  · rw [← hfresh]
    rfl
  · rw [← hfresh]
    exact (hs.reply_eq depth hcommand).symm
  · exact hs.reply_failing depth
  · intro after hstore hcalls later command hcommand
    exact hs.reply_after_request depth r hstore hcalls later hcommand

/-- A pattern that was compiled in vain fails again with the same error under another name. -/
theorem caches_invisible_failing :
    let s := ({} : Session).run 0 [.make "p" (.regex "(" {}), .request (.ask "p" .compileRegex),
      .share "q" "p" 0]
    let c : Cursor := .start [.int 1] .fail
    ∃ e, Regex.compile "(" {} = .error e ∧ s.nodes "q" = .regex ⟨0⟩ "(" {} ∧
      s.world.cached? (s.nodes "q") = some true ∧
      (s.perform 0 (.request (.ask "q" (.eval {} c)))).1 =
        .value (.error (.error (.regexCompile "(" e.message))) c := by
  intro s c
  obtain ⟨e, he⟩ : ∃ e, Regex.compile "(" {} = .error e := ⟨_, rfl⟩
  have hnode : s.nodes "q" = .regex ⟨0⟩ "(" {} := by rfl
  obtain ⟨-, -, -, hfailing, -⟩ := caches_invisible 0 [.make "p" (.regex "(" {}),
    .request (.ask "p" .compileRegex), .share "q" "p" 0]
  exact ⟨e, he, hnode, by decide, (hfailing "q" ⟨0⟩ "(" {} e hnode he).1 {} c⟩

end Criteria
