import Criteria.Proofs.Session.Invisible
import Criteria.Proofs.Session.Trails

/-!
# When the caches are filled

Whether the cell of a node is filled is told by what the session did: a visit to the node fills it,
and the copy of a decoded character-set node is decoded from the start. Nothing else fills a cell,
and a cell that is filled stays so.

* `Session.visits` — the nodes that a command visits.
* `Session.Sound.isFilled_step` — one command.
* `Session.Sound.isFilled_run` — some commands.
* `cache_state` — the nodes at hand after a whole session.
-/

set_option autoImplicit false

namespace Criteria

/-! ## Visits to one node -/

namespace Visit

variable {vs : List Visit}

/-- A character-set node is decoded by an evaluation that has an argument, or by a dump. -/
theorem exists_fills_charset {cell : CharsetCell} {set : String} :
    (∃ v ∈ vs, v.node = .charset cell set ∧ v.fills? = some (.charset cell)) ↔
      (∃ cursor arg, .eval (.charset cell set) cursor ∈ vs ∧ cursor.shift.1 = .ok arg) ∨
        .dump (.charset cell set) ∈ vs := by
  constructor
  · rintro ⟨v, hv, hnode, hfills⟩
    cases v with
    | eval p cursor =>
      cases hnode
      cases harg : cursor.shift.1 with
      | ok arg => exact .inl ⟨cursor, arg, hv, harg⟩
      | error e =>
        simp only [fills?, harg] at hfills
        cases hfills
    | dump p =>
      cases hnode
      exact .inr hv
    | compile p =>
      cases hnode
      cases hfills
  · rintro (⟨cursor, arg, hv, harg⟩ | hv)
    · exact ⟨_, hv, rfl, by simp only [fills?, harg]⟩
    · exact ⟨_, hv, rfl, rfl⟩

/-- A pattern node is compiled by every evaluation, and when its pattern is to be compiled. -/
theorem exists_fills_pattern {cell : RegexCell} {source : String} {flags : Regex.Flags} :
    (∃ v ∈ vs, v.node = .regex cell source flags ∧ v.fills? = some (.pattern cell)) ↔
      (∃ cursor, .eval (.regex cell source flags) cursor ∈ vs) ∨
        .compile (.regex cell source flags) ∈ vs := by
  constructor
  · rintro ⟨v, hv, hnode, hfills⟩
    cases v with
    | eval p cursor =>
      cases hnode
      exact .inl ⟨cursor, hv⟩
    | dump p =>
      cases hnode
      cases hfills
    | compile p =>
      cases hnode
      exact .inr hv
  · rintro (⟨cursor, hv⟩ | hv)
    · exact ⟨_, hv, rfl, rfl⟩
    · exact ⟨_, hv, rfl, rfl⟩

end Visit

/-! ## New cells -/

namespace Caches

variable (c : Caches)

theorem not_isFilled_charsets_size : ¬ c.isFilled (.charset ⟨c.charsets.size⟩) := fun h =>
  absurd (hasCell_of_isFilled h) (Nat.lt_irrefl _)

theorem isFilled_newCharset (decoded : Option (List Char)) (x : Cell) :
    (c.newCharset decoded).2.isFilled x ↔
      c.isFilled x ∨ (x = .charset (c.newCharset decoded).1 ∧ decoded.isSome) := by
  cases x with
  | charset cell =>
    rw [isFilled, decoded?_newCharset]
    by_cases hcell : cell = ⟨c.charsets.size⟩
    · subst hcell
      rw [if_pos rfl]
      exact ⟨fun h => .inr ⟨rfl, h⟩,
        fun h => h.elim (fun h => absurd h c.not_isFilled_charsets_size) And.right⟩
    · rw [if_neg hcell]
      refine ⟨.inl, fun h => h.elim id ?_⟩
      rintro ⟨hx, -⟩
      cases hx
      exact absurd rfl hcell
  | pattern cell =>
    refine ⟨.inl, fun h => h.elim id ?_⟩
    rintro ⟨hx, -⟩
    cases hx

theorem isFilled_newPattern (x : Cell) : c.newPattern.2.isFilled x = c.isFilled x := by
  cases x with
  | charset cell => rfl
  | pattern cell => rw [isFilled, prepared?_newPattern, isFilled]

end Caches

/-- A new node has no filled cell. -/
theorem Draft.isFilled_make (nodes : String → Predicate) (w : World) (draft : Draft) (x : Cell) :
    (draft.make nodes w).2.caches.isFilled x ↔ w.caches.isFilled x := by
  cases draft with
  | charset set =>
    refine (w.caches.isFilled_newCharset none x).trans ⟨fun h => ?_, .inl⟩
    exact h.elim id fun ⟨_, h⟩ => (nomatch h)
  | regex source flags => exact iff_of_eq (congrArg (· = true) (w.caches.isFilled_newPattern x))
  | _ => exact Iff.rfl

/-- The copy of a decoded character-set node is decoded, and no other cell is filled by copying. -/
theorem World.isFilled_clone (w : World) (p : Predicate) (x : Cell) :
    (w.clone p).2.caches.isFilled x ↔ w.caches.isFilled x ∨
      ∃ cell set, x = .charset cell ∧ (w.clone p).1 = .charset cell set ∧
        w.cached? p = some true := by
  cases p with
  | charset cell set =>
    refine (w.caches.isFilled_newCharset _ x).trans (or_congr_right ?_)
    refine ⟨fun ⟨hx, hdecoded⟩ => ⟨_, set, hx, rfl, congrArg some hdecoded⟩, ?_⟩
    rintro ⟨cell', set', hx, hcopy, hdecoded⟩
    cases hcopy
    exact ⟨hx, Option.some.inj hdecoded⟩
  | regex cell source flags =>
    have hnone : ¬ ∃ cell' set, x = .charset cell' ∧
        (w.clone (.regex cell source flags)).1 = .charset cell' set ∧
          w.cached? (.regex cell source flags) = some true := by
      rintro ⟨cell', set, -, hcopy, -⟩
      cases hcopy
    rw [or_iff_left hnone]
    exact iff_of_eq (congrArg (· = true) (w.caches.isFilled_newPattern x))
  | _ =>
    refine ⟨.inl, fun h => h.elim id ?_⟩
    rintro ⟨cell', set, -, hcopy, -⟩
    cases hcopy

theorem World.cached?_of_cell? (w : World) {p : Predicate} {x : Cell} (hx : p.cell? = some x) :
    w.cached? p = some (w.caches.isFilled x) := by
  rw [cached?, hx, Option.map_some]

/-- The nested trees are shared with the copy. -/
theorem World.inner_clone (w : World) (p : Predicate) : (w.clone p).1.inner = p.inner := by
  cases p <;> rfl

/-- The cell of a copy is a new one. -/
theorem World.not_hasCell_clone (w : World) {p : Predicate} {x : Cell}
    (hx : (w.clone p).1.cell? = some x) : ¬ w.caches.HasCell x := by
  cases p with
  | charset cell set => cases hx; exact Nat.lt_irrefl _
  | regex cell source flags => cases hx; exact Nat.lt_irrefl _
  | _ => cases hx

/-- The copy of a character-set node is decoded if the original is. -/
theorem World.cached?_clone_charset (w : World) {p : Predicate} {cell : CharsetCell} {set : String}
    (h : (w.clone p).1 = .charset cell set) :
    (w.clone p).2.cached? (.charset cell set) = w.cached? p := by
  cases p with
  | charset cell' set' =>
    cases h
    have hself := w.caches.decoded?_newCharset (w.caches.decoded? cell') ⟨w.caches.charsets.size⟩
    rw [if_pos rfl] at hself
    exact congrArg (some ·.isSome) hself
  | _ => cases h

/-- The copy of a pattern node is not compiled. -/
theorem World.cached?_clone_regex (w : World) {p : Predicate} {cell : RegexCell} {source : String}
    {flags : Regex.Flags} (h : (w.clone p).1 = .regex cell source flags) :
    (w.clone p).2.cached? (.regex cell source flags) = some false := by
  have hout : ¬ w.caches.HasCell (.pattern cell) := w.not_hasCell_clone (by rw [h]; rfl)
  have hclone := w.isFilled_clone p (.pattern cell)
  have hnone : ¬ (w.clone p).2.caches.isFilled (.pattern cell) := by
    rw [hclone]
    rintro (hold | ⟨cell', set, hx, -⟩)
    · exact hout (Caches.hasCell_of_isFilled hold)
    · cases hx
  rw [cached?_of_cell? _ rfl, Bool.eq_false_iff.2 hnone]

/-- The question is answered from the node and the store only. -/
def Query.isPlain : Query → Bool
  | eval .. => false
  | dump => false
  | compileRegex => false
  | _ => true

/-! ## Sessions -/

namespace Session

variable {L L' : Labels} {s : Session} {depth : Nat} {p : Predicate} {x : Cell}

/-- The node is at hand: it is in a tree that has a name, or that a host callable holds. -/
def AtHand (s : Session) (p : Predicate) : Prop :=
  (∃ name, p ∈ (s.nodes name).nodes) ∨ ∃ c ∈ s.callables, ∃ q ∈ c.holds, p ∈ q.nodes

/-- The visits of a command. -/
def visits (depth : Nat) (s : Session) : Command → List Visit
  | .request r => r.visits (s.host depth) (Trails.ofCallables s.callables depth) s.nodes s.world
  | _ => []

/-- What fills a cell. -/
inductive Fills (depth : Nat) (s : Session) : Command → Cell → Prop where
  | visit {command : Command} {v : Visit} {x : Cell} :
      v ∈ s.visits depth command → v.fills? = some x → Fills depth s command x
  /-- The node is the copy of a decoded one. -/
  | copy {name of : String} {cell : CharsetCell} {set : String} :
      (s.perform depth (.clone name of)).2.nodes name = .charset cell set →
      s.world.cached? (s.nodes of) = some true → Fills depth s (.clone name of) (.charset cell)

/-- The name of a copy. -/
theorem nodes_clone (depth : Nat) (s : Session) (name of : String) :
    (s.perform depth (.clone name of)).2.nodes name = (s.world.clone (s.nodes of)).1 :=
  Function.update_self ..

/-- Nothing is filled by a command that visits no node and copies none. -/
theorem not_fills {command : Command} (hvisits : s.visits depth command = [])
    (hcopy : ∀ name of, command ≠ .clone name of) : ¬ s.Fills depth command x := by
  intro h
  cases h with
  | visit hv _ => rw [hvisits] at hv; cases hv
  | copy _ _ => exact hcopy _ _ rfl

theorem Sound.covers (h : s.Sound L) (hp : s.AtHand p) : L.Covers p := by
  obtain ⟨name, hp⟩ | ⟨c, hc, q, hq, hp⟩ := hp
  · exact h.nodes name p hp
  · exact h.callables c hc q hq p hp

/-- The visits of a request account for the caches. -/
theorem Sound.leads_request (h : s.Sound L) (depth : Nat) (r : Request String) :
    Leads L.Covers s.world (s.visits depth (.request r))
      (s.perform depth (.request r)).2.world := by
  have hheld : ∀ c ∈ s.callables, ∀ k, ∀ q ∈ (c.held k).nodes, L.Covers q :=
    fun c hc k => Callable.fits_held (h.callables c hc) k
  exact Criteria.leads_request (makes_ofCallables hheld depth) h.nodes s.world r

/-- The nodes visited have the cells of their literals. -/
theorem Sound.covers_visits (h : s.Sound L) {command : Command} {v : Visit}
    (hv : v ∈ s.visits depth command) : L.Covers v.node := by
  cases command with
  | request r => exact (h.leads_request depth r).nodes v hv
  | _ => cases hv

/-- After a command a cell is filled if it was before or is filled by the command. -/
theorem Sound.isFilled_step (h : s.Sound L) (depth : Nat) (command : Command) (x : Cell) :
    (s.perform depth command).2.world.caches.isFilled x ↔
      s.world.caches.isFilled x ∨ s.Fills depth command x := by
  cases command with
  | request r =>
    have hleads := h.leads_request depth r
    rw [hleads.filledBy.isFilled]
    refine or_congr_right ⟨fun ⟨hx, _⟩ => ?_, fun hfills => ?_⟩
    · obtain ⟨v, hv, hvx⟩ := List.mem_filterMap.1 hx
      exact .visit hv hvx
    · cases hfills with
      | visit hv hvx =>
        refine ⟨List.mem_filterMap.2 ⟨_, hv, hvx⟩, ?_⟩
        exact h.caches.hasCell (hleads.nodes _ hv) (Visit.cell?_of_fills? hvx)
  | clone name of =>
    refine (World.isFilled_clone s.world (s.nodes of) x).trans (or_congr_right ?_)
    have hname := nodes_clone depth s name of
    constructor
    · rintro ⟨cell, set, rfl, hcopy, hdecoded⟩
      exact .copy (hname.trans hcopy) hdecoded
    · intro hfills
      cases hfills with
      | visit hv _ => cases hv
      | copy hcopy hdecoded => exact ⟨_, _, rfl, hname.symm.trans hcopy, hdecoded⟩
  | make name draft =>
    rw [or_iff_left (not_fills rfl fun _ _ => Command.noConfusion)]
    exact draft.isFilled_make s.nodes s.world x
  | _ =>
    rw [or_iff_left (not_fills rfl fun _ _ => Command.noConfusion)]
    exact Iff.rfl

/-- After some commands a cell is filled if it was before or is filled by one of them. -/
theorem Sound.isFilled_run (h : s.Sound L) (depth : Nat) (commands : List Command) (x : Cell) :
    (s.run depth commands).world.caches.isFilled x ↔ s.world.caches.isFilled x ∨
      ∃ before command after, commands = before ++ command :: after ∧
        (s.run depth before).Fills depth command x := by
  induction commands generalizing s L with
  | nil =>
    refine ⟨.inl, fun hfilled => hfilled.elim id ?_⟩
    rintro ⟨before, command, after, hnil, -⟩
    cases before <;> cases hnil
  | cons first rest ih =>
    obtain ⟨L', -, hstep⟩ := h.step depth first
    refine (ih hstep).trans ?_
    rw [h.isFilled_step, or_assoc]
    refine or_congr_right ⟨?_, ?_⟩
    · rintro (hfirst | ⟨before, command, after, rfl, hfills⟩)
      · exact ⟨[], first, rest, rfl, hfirst⟩
      · exact ⟨first :: before, command, after, rfl, hfills⟩
    · rintro ⟨before, command, after, hsplit, hfills⟩
      cases before with
      | nil =>
        cases hsplit
        exact .inl hfills
      | cons first' before =>
        cases hsplit
        exact .inr ⟨before, command, after, rfl, hfills⟩

/-- A cell that is filled stays so. -/
theorem Sound.cached?_later (h : s.Sound L) (depth : Nat) (later : List Command)
    (hp : s.world.cached? p = some true) : (s.run depth later).world.cached? p = some true := by
  unfold World.cached? at *
  cases hx : p.cell? with
  | none => rw [hx] at hp; cases hp
  | some x =>
    rw [hx, Option.map_some, Option.some_inj] at hp
    rw [Option.map_some, Option.some_inj, h.isFilled_run]
    exact .inl hp

/-- The copy of a node has a cell that no node at hand has. -/
theorem Sound.cell?_ne_clone (h : s.Sound L) (hp : s.AtHand p) {name of : String}
    (hx : ((s.perform depth (.clone name of)).2.nodes name).cell? = some x) :
    p.cell? ≠ some x := by
  intro hpx
  rw [nodes_clone] at hx
  exact s.world.not_hasCell_clone hx (h.caches.hasCell (h.covers hp) hpx)

/-- The cell of a node at hand is filled by visits to that node. -/
theorem Sound.fills_iff (h : s.Sound L) (hp : s.AtHand p) (hx : p.cell? = some x)
    (command : Command) : s.Fills depth command x ↔
      ∃ v ∈ s.visits depth command, v.node = p ∧ v.fills? = some x := by
  refine ⟨fun hfills => ?_, fun ⟨v, hv, _, hvx⟩ => .visit hv hvx⟩
  cases hfills with
  | visit hv hvx =>
    exact ⟨_, hv, (h.covers_visits hv).eq (h.covers hp) (Visit.cell?_of_fills? hvx) hx, hvx⟩
  | copy hcopy _ => exact absurd hx (h.cell?_ne_clone hp (by rw [hcopy]; rfl))

/-- After a command a node at hand has its cell filled if it had or is visited so. -/
theorem Sound.cached?_step (h : s.Sound L) (hp : s.AtHand p) (depth : Nat) (command : Command) :
    (s.perform depth command).2.world.cached? p = some true ↔ s.world.cached? p = some true ∨
      ∃ v ∈ s.visits depth command, v.node = p ∧ v.fills?.isSome := by
  cases hx : p.cell? with
  | none =>
    have hnone : ∀ w : World, w.cached? p = none := fun w => by
      rw [World.cached?, hx, Option.map_none]
    rw [hnone, hnone]
    refine ⟨nofun, fun hfilled => hfilled.elim nofun ?_⟩
    rintro ⟨v, -, rfl, hv⟩
    obtain ⟨y, hy⟩ := Option.isSome_iff_exists.1 hv
    rw [Visit.cell?_of_fills? hy] at hx
    cases hx
  | some x =>
    rw [World.cached?_of_cell? _ hx, World.cached?_of_cell? _ hx, Option.some_inj, Option.some_inj,
      h.isFilled_step, h.fills_iff hp hx]
    refine or_congr_right (exists_congr fun v => and_congr_right fun _ => and_congr_right ?_)
    rintro rfl
    refine ⟨fun hv => by rw [hv]; rfl, fun hv => ?_⟩
    obtain ⟨y, hy⟩ := Option.isSome_iff_exists.1 hv
    rw [hy, ← hx, Visit.cell?_of_fills? hy]

/-- Copying leaves the caches of the nodes at hand as they are. -/
theorem Sound.cached?_clone (h : s.Sound L) (hp : s.AtHand p) (name of : String) :
    (s.perform depth (.clone name of)).2.world.cached? p = s.world.cached? p := by
  have hstep := h.cached?_step hp depth (.clone name of)
  have hnone : ¬ ∃ v ∈ s.visits depth (.clone name of), v.node = p ∧ v.fills?.isSome := by
    rintro ⟨v, hv, -⟩
    cases hv
  rw [or_iff_left hnone] at hstep
  unfold World.cached? at *
  cases hx : p.cell? with
  | none => rfl
  | some x =>
    rw [hx] at hstep
    simp only [Option.map_some, Option.some_inj] at hstep ⊢
    exact Bool.eq_iff_iff.2 hstep

/-! ## Runs -/

/-- The session before one of the commands, after it, and in the end; cells keep their literals. -/
theorem sound_split (depth : Nat) (before : List Command) (command : Command)
    (after : List Command) :
    ∃ L L' M, (({} : Session).run depth before).Sound L ∧
      ((({} : Session).run depth before).perform depth command).2.Sound L' ∧
      (({} : Session).run depth (before ++ command :: after)).Sound M ∧
      L.Extends M ∧ L'.Extends M := by
  obtain ⟨⟨L, -, hbefore⟩, -⟩ := sound_empty.run depth before
  obtain ⟨L', hL, hstep⟩ := hbefore.step depth command
  obtain ⟨⟨M, hM, hafter⟩, -⟩ := hstep.run depth after
  refine ⟨L, L', M, hbefore, hstep, ?_, hL.trans hM, hM⟩
  rw [run_append]
  exact hafter

/-- A node at hand in the end has its cell filled by visits to that node, or is the copy of a
decoded one. -/
theorem fills_of_split {before after : List Command} {command : Command}
    (hp : (({} : Session).run depth (before ++ command :: after)).AtHand p)
    (hx : p.cell? = some x) :
    let t := ({} : Session).run depth before
    t.Fills depth command x ↔ (∃ v ∈ t.visits depth command, v.node = p ∧ v.fills? = some x) ∨
      ∃ copy of, command = .clone copy of ∧ (t.perform depth command).2.nodes copy = p ∧
        (∃ cell, x = .charset cell) ∧ t.world.cached? (t.nodes of) = some true := by
  intro t
  obtain ⟨L, L', M, ht, hstep, hend, hL, hL'⟩ := sound_split depth before command after
  have hcovers := hend.covers hp
  constructor
  · intro hfills
    cases hfills with
    | visit hv hvx =>
      have hnode := ((ht.covers_visits hv).extend hL).eq hcovers (Visit.cell?_of_fills? hvx) hx
      exact .inl ⟨_, hv, hnode, hvx⟩
    | copy hcopy hdecoded =>
      rename_i copy of cell set
      have hnode : L'.Covers (.charset cell set) :=
        hcopy ▸ hstep.nodes copy _ List.mem_cons_self
      refine .inr ⟨copy, of, rfl, ?_, ⟨cell, rfl⟩, hdecoded⟩
      rw [hcopy]
      exact (hnode.extend hL').eq hcovers rfl hx
  · rintro (⟨v, hv, -, hvx⟩ | ⟨copy, of, rfl, hnode, ⟨cell, rfl⟩, hdecoded⟩)
    · exact .visit hv hvx
    · cases p with
      | charset cell' set =>
        cases hx
        exact .copy hnode hdecoded
      | regex => cases hx
      | _ => cases hx

/-- The caches of nodes at hand in the end. -/
theorem cached?_run (depth : Nat) (commands : List Command)
    (hp : (({} : Session).run depth commands).AtHand p) (hx : p.cell? = some x) :
    (({} : Session).run depth commands).world.cached? p = some true ↔
      ∃ before command after, commands = before ++ command :: after ∧
        let t := ({} : Session).run depth before
        (∃ v ∈ t.visits depth command, v.node = p ∧ v.fills? = some x) ∨
          ∃ copy of, command = .clone copy of ∧ (t.perform depth command).2.nodes copy = p ∧
            (∃ cell, x = .charset cell) ∧ t.world.cached? (t.nodes of) = some true := by
  have hempty : ¬ ({} : Session).world.caches.isFilled x := by cases x <;> exact Bool.false_ne_true
  rw [World.cached?_of_cell? _ hx, Option.some_inj, sound_empty.isFilled_run, or_iff_right hempty]
  refine exists_congr fun before => exists_congr fun command => exists_congr fun after =>
    and_congr_right ?_
  rintro rfl
  exact fills_of_split hp hx

end Session

/-- **The state of the caches.** After any commands a character-set node at hand is decoded if and
only if, before, an evaluation came to it and had an argument for it, or a dump came to it, or it
was made as a copy of a node that was decoded then. A pattern node is compiled if and only if,
before, an evaluation came to it, whatever came of that, or it was asked to compile its pattern.

Command by command: the cell of a node at hand is filled by visits to that very node and by nothing
else, and it stays filled. Questions that are answered from the node and the store leave everything
as it is. A copy has the same nodes within, and a cell that no node at hand has; a copy of a pattern
node is not compiled, the copy of a character-set node is decoded if the original is. -/
theorem cache_state (depth : Nat) (commands : List Command) :
    let s := ({} : Session).run depth commands
    (∀ cell set, s.AtHand (.charset cell set) →
      (s.world.cached? (.charset cell set) = some true ↔
        ∃ before command after, commands = before ++ command :: after ∧
          let t := ({} : Session).run depth before
          (∃ cursor arg, .eval (.charset cell set) cursor ∈ t.visits depth command ∧
            cursor.shift.1 = .ok arg) ∨
          .dump (.charset cell set) ∈ t.visits depth command ∨
          ∃ copy of, command = .clone copy of ∧
            (t.perform depth command).2.nodes copy = .charset cell set ∧
            t.world.cached? (t.nodes of) = some true)) ∧
    (∀ cell source flags, s.AtHand (.regex cell source flags) →
      (s.world.cached? (.regex cell source flags) = some true ↔
        ∃ before command after, commands = before ++ command :: after ∧
          let t := ({} : Session).run depth before
          (∃ cursor, .eval (.regex cell source flags) cursor ∈ t.visits depth command) ∨
          .compile (.regex cell source flags) ∈ t.visits depth command)) ∧
    (∀ p, s.AtHand p →
      (∀ command, (s.perform depth command).2.world.cached? p = some true ↔
        s.world.cached? p = some true ∨
          ∃ v ∈ s.visits depth command, v.node = p ∧ v.fills?.isSome) ∧
      (s.world.cached? p = some true →
        ∀ later, (s.run depth later).world.cached? p = some true)) ∧
    (∀ name (query : Query), query.isPlain →
      (s.perform depth (.request (.ask name query))).2 = s) ∧
    (∀ name of,
      let after := (s.perform depth (.clone name of)).2
      let copy := after.nodes name
      copy.inner = (s.nodes of).inner ∧
      (∀ p, s.AtHand p → after.world.cached? p = s.world.cached? p) ∧
      (∀ p x, s.AtHand p → p.cell? = some x → copy.cell? ≠ some x) ∧
      (∀ cell set, copy = .charset cell set →
        after.world.cached? copy = s.world.cached? (s.nodes of)) ∧
      (∀ cell source flags, copy = .regex cell source flags →
        after.world.cached? copy = some false)) := by
  intro s
  obtain ⟨⟨L, -, hs⟩, -⟩ := Session.sound_empty.run depth commands
  refine ⟨fun cell set hp => ?_, fun cell source flags hp => ?_,
    fun p hp => ⟨fun command => ?_, fun hfilled later => ?_⟩, fun name query hplain => ?_,
    fun name of => ⟨?_, fun p hp => ?_, fun p x hp hx hcopy => ?_, fun cell set hcopy => ?_,
      fun cell source flags hcopy => ?_⟩⟩
  · refine (Session.cached?_run depth commands hp rfl).trans ?_
    refine exists_congr fun before => exists_congr fun command => exists_congr fun after =>
      and_congr_right fun _ => ?_
    refine (or_congr_left Visit.exists_fills_charset).trans (or_assoc.trans ?_)
    refine or_congr_right (or_congr_right (exists_congr fun copy => exists_congr fun of =>
      and_congr_right fun _ => and_congr_right fun _ => ?_))
    exact ⟨And.right, fun h => ⟨⟨cell, rfl⟩, h⟩⟩
  · refine (Session.cached?_run depth commands hp rfl).trans ?_
    refine exists_congr fun before => exists_congr fun command => exists_congr fun after =>
      and_congr_right fun _ => ?_
    refine (or_congr_left Visit.exists_fills_pattern).trans (or_iff_left ?_)
    rintro ⟨copy, of, -, -, ⟨cell, hcell⟩, -⟩
    cases hcell
  · exact hs.cached?_step hp depth command
  · exact hs.cached?_later depth later hfilled
  · cases query <;> first | rfl | cases hplain
  · show ((s.perform depth (.clone name of)).2.nodes name).inner = _
    rw [Session.nodes_clone, World.inner_clone]
  · exact hs.cached?_clone hp name of
  · exact hs.cell?_ne_clone hp hcopy hx
  · show (s.perform depth (.clone name of)).2.world.cached? _ = _
    rw [hcopy]
    rw [Session.nodes_clone] at hcopy
    exact s.world.cached?_clone_charset hcopy
  · show (s.perform depth (.clone name of)).2.world.cached? _ = _
    rw [hcopy]
    rw [Session.nodes_clone] at hcopy
    exact s.world.cached?_clone_regex hcopy

/-- Without an argument a character set is not decoded. A pattern is compiled, in vain here, and its
copy is not. -/
theorem cache_state_no_argument :
    let p : Predicate := .charset ⟨0⟩ "ab"
    let r : Predicate := .regex ⟨0⟩ "(" {}
    let ask : String → Command := fun name => .request (.ask name (.eval {} (.start [] .fail)))
    let s := ({} : Session).run 0
      ([.make "p" (.charset "ab"), ask "p", .make "r" (.regex "(" {})] ++
        ask "r" :: [.clone "q" "r"])
    s.AtHand p ∧ s.world.cached? p = some false ∧ s.AtHand r ∧ s.world.cached? r = some true ∧
      s.nodes "q" = .regex ⟨1⟩ "(" {} ∧ s.world.cached? (s.nodes "q") = some false := by
  intro p r ask s
  have hp : s.AtHand p := .inl ⟨"p", List.mem_cons_self⟩
  have hr : s.AtHand r := .inl ⟨"r", List.mem_cons_self⟩
  obtain ⟨-, hregex, -⟩ := cache_state 0
    ([.make "p" (.charset "ab"), ask "p", .make "r" (.regex "(" {})] ++ ask "r" :: [.clone "q" "r"])
  have hcompiled : s.world.cached? r = some true :=
    (hregex ⟨0⟩ "(" {} hr).2 ⟨_, _, _, rfl, .inl ⟨.start [] .fail, List.mem_cons_self⟩⟩
  exact ⟨hp, by decide, hr, hcompiled, by rfl, by decide⟩

end Criteria
