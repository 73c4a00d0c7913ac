import Criteria.Proofs.Eval.Effects
import Criteria.Proofs.Store.Overwriting

/-!
# What a pattern node hands its captures to

The captures of a match go to the argument after the input: an array is overwritten with them in
place, a function is called with them in a new array. Both show the same spans.

* `run_evalRegex`, `run_evalRegex_error` — a pattern node, by what becomes of the pattern.
* `run_exportMatch_array`, `run_exportMatch_function` — the two ways of a match.
* `Store.exportCaptures_eq` — a new array has the elements that an old one is overwritten with.

`exports_agree` — the outcomes of a pattern node: an array that follows a match holds what a function
in its place would have been given, and without a match nothing but the input is taken.
-/

set_option autoImplicit false

namespace Criteria

open Eval Interpreter

/-! ## Elements of the two arrays -/

namespace Store

variable {s s' : Store} {n : Nat}

/-- A value that shows a span has one datum in all stores in which it does. -/
theorem IsSpan.datum_eq {v : Value} {span : Option (Nat × Nat)} (h : s.IsSpan n v span)
    (h' : s'.IsSpan n v span) : s.datum v = s'.datum v := by
  match span, h, h' with
  | none, h, _ =>
    rw [h]
    simp only [datum, unfold]
  | some (a, b), ⟨ref, hv, _, hin, hitems⟩, ⟨ref', hv', _, hin', hitems'⟩ =>
    obtain rfl : ref = ref' := Value.array.inj (hv.symm.trans hv')
    have hopen : ∀ t : Store, ref.index < t.arrays.size →
        t.items ref = [.int (Int64.ofNat a), .int (Int64.ofNat b)] →
        t.datum v = .array ref [.int (Int64.ofNat a), .int (Int64.ofNat b)] := by
      intro t hin hitems
      obtain ⟨depth, hdepth⟩ : ∃ depth, t.size = depth + 1 :=
        Nat.exists_eq_succ_of_ne_zero (by rw [size]; omega)
      rw [datum, hdepth, hv, unfold, hitems]
      simp only [List.map_cons, List.map_nil, unfold]
    rw [hopen s hin hitems, hopen s' hin' hitems']

theorem map_datum_eq {vs : List Value} {spans : Spans} (h : List.Forall₂ (s.IsSpan n) vs spans)
    (h' : List.Forall₂ (s'.IsSpan n) vs spans) : vs.map s.datum = vs.map s'.datum := by
  induction h with
  | nil => rfl
  | cons hspan _ ih =>
    cases h' with
    | cons hspan' hrest' => rw [List.map_cons, List.map_cons, hspan.datum_eq hspan', ih hrest']

theorem filled_overwrite {sink : ArrayRef} (hsink : sink.index < s.arrays.size) (spans : Spans)
    (limit : Nat) :
    s.Filled (s.overwrite sink spans limit) s.arrays.size sink (spans.take limit) := by
  rw [overwrite_eq_fillCaptures hsink]
  exact filled_fillCaptures hsink (Nat.le_refl _) spans limit

/-- A new array of captures has the elements that an old one is overwritten with. -/
theorem exportCaptures_eq {sink : ArrayRef} (hsink : sink.index < s.arrays.size) (spans : Spans)
    (limit : Nat) :
    let filled := s.overwrite sink spans limit
    ∃ captures t, s.exportCaptures spans limit = (.array captures, t) ∧
      t.items captures = filled.items sink ∧
      (t.items captures).map t.datum = (filled.items sink).map filled.datum := by
  intro filled
  have hshown := (filled_overwrite hsink spans limit).shown
  obtain ⟨hextends, hexported⟩ :=
    exportSpans_spec (Nat.le_refl s.arrays.size) (spans.take limit)
  have hitems : filled.items sink = (s.exportSpans (spans.take limit)).1 := by
    simp only [filled, overwrite_eq_fillCaptures hsink, fillCaptures]
    exact items_setItems _ (Nat.lt_of_lt_of_le hsink hextends.size_le) _
  rw [exportCaptures]
  generalize s.exportSpans (spans.take limit) = exported at *
  obtain ⟨vs, t⟩ := exported
  have hnew : (t.newArray vs).2.items (t.newArray vs).1 = vs := by
    simp [newArray, items]
  refine ⟨_, _, rfl, hnew.trans hitems.symm, ?_⟩
  have hexported' : List.Forall₂ ((t.newArray vs).2.IsSpan s.arrays.size) vs (spans.take limit) :=
    hexported.imp fun _ _ hspan => hspan.extends (.newArray t vs)
  rw [hitems] at hshown ⊢
  exact (congrArg _ hnew).trans (map_datum_eq hexported' hshown)

end Store

/-! ## Runs of a pattern node -/

theorem Action.run_change {α : Type} (f : Store → α × Store) (w : World) :
    (Action.change f).run w = .ok (f w.store).1 { w with store := (f w.store).2 } := rfl

section Runs

variable {i : Interpreter} {cell : RegexCell} {source : String} {flags : Regex.Flags} {m : Machine}
  {input : Value}

/-- The pattern is compiled, the input is taken and searched. -/
theorem run_evalRegex {program : Regex.Program}
    (hprogram : (m.world.caches.prepare cell source flags).1 = .ok program)
    (hinput : m.cursor.peek = some input) :
    (i.evalRegex cell source flags).run m =
      ((program.search (m.world.store.inputBytes input) flags.sticky).elim
        (return .bool false) fun spans => do
          i.exportMatch input spans
          return .bool true : Eval Value).run
        ⟨m.cursor.advance 1, m.world.prepared cell source flags⟩ := by
  have hprepare : (onWorld (Action.prepare cell source flags)).run m =
      .ok program { m with world := m.world.prepared cell source flags } := by
    rw [run_onWorld, Action.run_prepare, hprogram]
  have hshift : shift.run { m with world := m.world.prepared cell source flags } =
      .ok input ⟨m.cursor.advance 1, m.world.prepared cell source flags⟩ :=
    run_shift_of_peek hinput
  have hread : (onWorld (Action.read fun s => s.inputBytes input)).run
      ⟨m.cursor.advance 1, m.world.prepared cell source flags⟩ =
        .ok (m.world.store.inputBytes input)
          ⟨m.cursor.advance 1, m.world.prepared cell source flags⟩ := rfl
  rw [evalRegex, run_bind_ok hprepare, run_bind_ok hshift, run_bind_ok hread]
  cases program.search (m.world.store.inputBytes input) flags.sticky <;> rfl

/-- A pattern that does not compile. -/
theorem run_evalRegex_error {e : Regex.PatternError}
    (herror : (m.world.caches.prepare cell source flags).1 = .error e) :
    (i.evalRegex cell source flags).run m = .error (.error (.regexCompile source e.message))
      { m with world := m.world.prepared cell source flags } := by
  have hprepare : (onWorld (Action.prepare cell source flags)).run m =
      .error (.error (.regexCompile source e.message))
        { m with world := m.world.prepared cell source flags } := by
    rw [run_onWorld, Action.run_prepare, herror]
  rw [evalRegex, run_bind_error hprepare]

/-- An array takes the captures. -/
theorem run_exportMatch_array {sink : ArrayRef} (hnext : m.cursor.peek = some (.array sink))
    (spans : Spans) :
    (i.exportMatch input spans).run m = .ok () ⟨m.cursor.advance 1, { m.world with
      store := m.world.store.fillCaptures sink spans i.config.maxCaptures }⟩ := by
  rw [run_exportMatch, hnext]
  rfl

theorem Eval.run_bind_congr {α β : Type} {x y : Eval α} {m m' : Machine} (h : x.run m = y.run m')
    (f : α → Eval β) : (x >>= f).run m = (y >>= f).run m' := by
  rw [EStateM.run_bind, EStateM.run_bind, h]

/-- A function is called with the captures and the input. -/
theorem run_exportMatch_function {callback : Function}
    (hnext : m.cursor.peek = some (.function callback)) {spans : Spans} {captures : Value}
    {s : Store}
    (hexport : m.world.store.exportCaptures spans i.config.maxCaptures = (captures, s)) :
    (i.exportMatch input spans).run m = (do
        let _ ← i.invoke callback .null [captures, input] : Eval Unit).run
      ⟨m.cursor.advance 1, { m.world with store := s }⟩ := by
  have hchange : (onWorld (Action.change fun s => s.exportCaptures spans i.config.maxCaptures) :
      Eval Value).run { m with cursor := m.cursor.advance 1 } =
        .ok captures ⟨m.cursor.advance 1, { m.world with store := s }⟩ := by
    simp only [run_onWorld, Action.run_change, hexport]
  rw [run_exportMatch, hnext]
  exact run_bind_ok hchange

/-- A match with an array behind the input. -/
theorem run_evalRegex_array {program : Regex.Program} {spans : Spans} {sink : ArrayRef}
    (hprogram : (m.world.caches.prepare cell source flags).1 = .ok program)
    (hinput : m.cursor.peek = some input)
    (hsearch : program.search (m.world.store.inputBytes input) flags.sticky = some spans)
    (hnext : (m.cursor.advance 1).peek = some (.array sink)) :
    (i.evalRegex cell source flags).run m = .ok (.bool true)
      ⟨m.cursor.advance 2, { m.world.prepared cell source flags with
        store := m.world.store.fillCaptures sink spans i.config.maxCaptures }⟩ := by
  have hrun := run_evalRegex (i := i) hprogram hinput
  rw [hsearch] at hrun
  exact hrun.trans (run_bind_ok
    (run_exportMatch_array (m := ⟨m.cursor.advance 1, m.world.prepared cell source flags⟩) hnext spans))

/-- A match with a function behind the input. -/
theorem run_evalRegex_function {program : Regex.Program} {spans : Spans} {callback : Function}
    {captures : Value} {s : Store}
    (hprogram : (m.world.caches.prepare cell source flags).1 = .ok program)
    (hinput : m.cursor.peek = some input)
    (hsearch : program.search (m.world.store.inputBytes input) flags.sticky = some spans)
    (hnext : (m.cursor.advance 1).peek = some (.function callback))
    (hexport : m.world.store.exportCaptures spans i.config.maxCaptures = (captures, s)) :
    (i.evalRegex cell source flags).run m = (do
        let _ ← i.invoke callback .null [captures, input]
        return .bool true : Eval Value).run
      ⟨m.cursor.advance 2, { m.world.prepared cell source flags with store := s }⟩ := by
  have hrun := run_evalRegex (i := i) hprogram hinput
  rw [hsearch] at hrun
  have hcall : (i.exportMatch input spans).run
      ⟨m.cursor.advance 1, m.world.prepared cell source flags⟩ = _ :=
    run_exportMatch_function hnext hexport
  refine hrun.trans ((run_bind_congr hcall _).trans ?_)
  rw [bind_assoc]
  rfl

end Runs

/-- The machine with another argument behind the next one. -/
def Machine.followedBy (m : Machine) (v : Value) : Machine :=
  { m with cursor := { m.cursor with args := m.cursor.args.set (m.cursor.position + 1) v } }

theorem Machine.peek_followedBy (m : Machine) (v : Value) :
    (m.followedBy v).cursor.peek = m.cursor.peek :=
  List.getElem?_set_ne (Nat.succ_ne_self _)

theorem Machine.peek_advance_followedBy {m : Machine} {u : Value}
    (h : (m.cursor.advance 1).peek = some u) (v : Value) :
    ((m.followedBy v).cursor.advance 1).peek = some v :=
  List.getElem?_set_self (List.getElem?_eq_some_iff.1 h).1

/-- **Captures in an array and captures for a function.** A pattern node stands at an input, and
whatever is in the caches and in the store:

* When the pattern matches and an array is next, two arguments are taken. The array has been
  overwritten in place, and nothing else in the store has changed but for new arrays. It has as many
  elements as the match has groups, at most `limit`, and they show the groups in order. A function in
  the place of the array is called with a new array of the same elements, which have the same contents.
* When the pattern does not match, the input alone is taken, and what follows it is left as it is.
* When the pattern does not compile, nothing is taken. -/
theorem exports_agree (i : Interpreter) (cell : RegexCell) (source : String) (flags : Regex.Flags)
    (m : Machine) (input : Value) (hinput : m.cursor.peek = some input) :
    let node : Predicate := .regex cell source flags
    let limit := i.config.maxCaptures
    let before := m.world.store
    let w := m.world.prepared cell source flags
    (∀ program, (m.world.caches.prepare cell source flags).1 = .ok program →
      (∀ spans sink, program.search (before.inputBytes input) flags.sticky = some spans →
        (m.cursor.advance 1).peek = some (.array sink) → sink.index < before.arrays.size →
        let filled := before.overwrite sink spans limit
        (i.eval node).run m =
            .ok (.bool true) ⟨m.cursor.advance 2, { w with store := filled }⟩ ∧
          before.Filled filled before.arrays.size sink (spans.take limit) ∧
          (filled.items sink).length = min spans.length limit ∧
          ∀ callback : Function, ∃ captures s,
            let m' := m.followedBy (.function callback)
            (i.eval node).run m' = (do
                let _ ← i.invoke callback .null [.array captures, input]
                return .bool true : Eval Value).run
              ⟨m'.cursor.advance 2, { w with store := s }⟩ ∧
            s.items captures = filled.items sink ∧
            (s.items captures).map s.datum = (filled.items sink).map filled.datum) ∧
      (program.search (before.inputBytes input) flags.sticky = none →
        (i.eval node).run m = .ok (.bool false) ⟨m.cursor.advance 1, w⟩)) ∧
    (∀ e, (m.world.caches.prepare cell source flags).1 = .error e →
      (i.eval node).run m =
        .error (.error (.regexCompile source e.message)) ⟨m.cursor, w⟩) ∧
    w.store = before ∧ w.calls = m.world.calls := by
  intro node limit before w
  refine ⟨fun program hprogram => ⟨fun spans sink hsearch hnext hsink => ?_, fun hsearch => ?_⟩,
    fun e herror => run_evalRegex_error herror, rfl, rfl⟩
  · have hfilled := Store.filled_overwrite hsink spans limit
    refine ⟨?_, hfilled, ?_, fun callback => ?_⟩
    · rw [Store.overwrite_eq_fillCaptures hsink]
      exact run_evalRegex_array hprogram hinput hsearch hnext
    · rw [hfilled.shown.length_eq, List.length_take, Nat.min_comm]
    · obtain ⟨captures, s, hexport, helements⟩ := Store.exportCaptures_eq hsink spans limit
      refine ⟨captures, s, ?_, helements⟩
      exact run_evalRegex_function (m := m.followedBy (.function callback)) hprogram
        ((m.peek_followedBy _).trans hinput) hsearch (m.peek_advance_followedBy hnext _) hexport
  · have hrun := run_evalRegex (i := i) hprogram hinput
    rw [hsearch] at hrun
    exact hrun

/-- Of three groups two are exported, to an array of other elements. The second took no part. -/
theorem exports_agree_stale :
    let i : Interpreter := { config := { maxCaptures := 2 }, host := fun _ _ _ => return .undefined }
    let m : Machine := ⟨.start [.str "a", .array ⟨0⟩] .fail,
      { store := { arrays := #[[.int 7, .bool true, .null, .int 9]] } }⟩
    let spans : Spans := [some (0, 1), none, some (0, 1)]
    let filled := m.world.store.overwrite ⟨0⟩ spans i.config.maxCaptures
    m.cursor.peek = some (.str "a") ∧
      (∃ program, (m.world.caches.prepare ⟨0⟩ "(b)|(a)" {}).1 = .ok program ∧
        program.search (m.world.store.inputBytes (.str "a")) false = some spans) ∧
      (m.cursor.advance 1).peek = some (.array ⟨0⟩) ∧ 0 < m.world.store.arrays.size ∧
      filled.arrays = #[[.array ⟨1⟩, .null], [.int 0, .int 1]] ∧
      (i.eval (.regex ⟨0⟩ "(b)|(a)" {})).run m = .ok (.bool true)
        ⟨m.cursor.advance 2, { m.world.prepared ⟨0⟩ "(b)|(a)" {} with store := filled }⟩ ∧
      (filled.items ⟨0⟩).length = min 3 2 := by
  intro i m spans filled
  have hfound : ((Regex.compile "(b)|(a)" {}).toOption.bind fun program =>
      program.search (Text.Utf8.encode "a".toList) false) = some spans := by decide +kernel
  obtain ⟨program, hprogram, hsearch⟩ : ∃ program,
      (m.world.caches.prepare ⟨0⟩ "(b)|(a)" {}).1 = .ok program ∧
        program.search (m.world.store.inputBytes (.str "a")) false = some spans := by
    have hprepare : (m.world.caches.prepare ⟨0⟩ "(b)|(a)" {}).1 = Regex.compile "(b)|(a)" {} := rfl
    rw [hprepare]
    cases hcompile : Regex.compile "(b)|(a)" {} with
    | ok program =>
      rw [hcompile] at hfound
      exact ⟨program, rfl, hfound⟩
    | error e =>
      rw [hcompile] at hfound
      cases hfound
  have hagree := exports_agree i ⟨0⟩ "(b)|(a)" {} m (.str "a") rfl
  obtain ⟨hrun, -, hlength, -⟩ := (hagree.1 program hprogram).1 spans ⟨0⟩ hsearch rfl Nat.zero_lt_one
  have hfilled : filled.arrays = #[[.array ⟨1⟩, .null], [.int 0, .int 1]] := by
    have heq : filled = m.world.store.fillCaptures ⟨0⟩ spans i.config.maxCaptures :=
      Store.overwrite_eq_fillCaptures Nat.zero_lt_one spans i.config.maxCaptures
    rw [heq]
    rfl
  exact ⟨rfl, ⟨program, hprogram, hsearch⟩, rfl, Nat.zero_lt_one, hfilled, hrun, hlength⟩

end Criteria
