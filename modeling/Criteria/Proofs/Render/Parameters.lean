import Criteria.Proofs.Predicate.Slots
import Criteria.Proofs.Render.Names
import Criteria.Render.Source

/-!
# The parameters of generated source

The writer of source and the count of arguments walk over a tree independently of each other, and
one slot too many would rename every later parameter.

* `draws_predicate` — writing a tree asks for a name for each slot.
* `params_agree` — what follows for the parameters of the source of a tree.
-/

set_option autoImplicit false

namespace Criteria

open Naming ParamNames

namespace Render

/-! ## A name for each slot -/

theorem draws_wrap (operator : Precedence) (x : Operand) (position : Position) (text : String) :
    Draws 0 (wrap operator x position text) := by
  refine (Draws.ofExcept _).noneBind fun needed => ?_
  cases needed <;> exact .pure _

/-- The first step of writing a property node: the property of an argument. -/
def access (name : Option String) : Naming String := do
  let object ← Naming.next "object"
  match name with
  | some name => return memberAccess object name
  | none => return object ++ "[" ++ (← Naming.next "key") ++ "]"

/-- The second step of writing a property node: its filter, on names of its own. -/
def filtered (s : Store) (filter : Option Operand) (access : String) : Naming String :=
  match filter with
  | some (.nested p) =>
    match onOwnNames p (predicate s p) with
    | .ok source => return spliceOrCall source.text access
    | .error e => throw e
  | some (.literal (.function f)) =>
    match f.source with
    | some source => return spliceOrCall source access
    | none => return callee f ++ "(" ++ access ++ ")"
  | _ => return access

theorem predicate_property (s : Store) (name : Option String) (filter : Option Operand) :
    predicate s (.property name filter) = access name >>= filtered s filter := by
  rw [predicate, access, bind_assoc]
  cases name with
  | some name => rfl
  | none => simp only [bind_assoc]; rfl

theorem draws_access (name : Option String) :
    Draws (Predicate.propertyArgCount name) (access name) := by
  cases name with
  | some name => exact (Draws.next (by decide)).bindNone fun _ => .pure _
  | none =>
    exact (Draws.next (by decide)).bind fun _ => (Draws.next (by decide)).bindNone fun _ => .pure _

/-- Writing a filter leaves the names as they are. -/
theorem filtered_names (s : Store) (filter : Option Operand) (access : String) (ns : ParamNames) :
    (∃ text, (filtered s filter access).run ns = .ok text ns) ∨
      ∃ e, (filtered s filter access).run ns = .error e ns := by
  unfold filtered
  split
  · split
    · exact .inl ⟨_, rfl⟩
    · exact .inr ⟨_, rfl⟩
  · split <;> exact .inl ⟨_, rfl⟩
  · exact .inl ⟨_, rfl⟩

theorem draws_filtered (s : Store) (filter : Option Operand) (access : String) :
    Draws 0 (filtered s filter access) := by
  unfold filtered
  split
  · split
    · exact .pure _
    · exact .throw _ 0
  · split <;> exact .pure _
  · exact .pure _

mutual

/-- Writing an operand asks for a name for each slot. -/
theorem draws_operand (s : Store) {hint : String} (hhint : hint ∈ hints) :
    ∀ x : Operand, Draws x.slots (operand s hint x)
  | .unset => by
    rw [operand, Operand.slots]
    exact .next hhint
  | .nested p => by
    rw [operand, Operand.slots]
    exact draws_predicate s p
  | .literal v => by
    rw [Operand.slots]
    cases v <;> exact .pure _

/-- Writing a tree asks for a name for each slot. -/
theorem draws_predicate (s : Store) : ∀ p : Predicate, Draws p.slots (predicate s p)
  | .unset => .throw _ _
  | .type mask => (Draws.next (by decide)).bindNone fun _ => .pure _
  | .charset _ set => (Draws.next (by decide)).bindNone fun _ => .pure _
  | .string start => (Draws.next (by decide)).bindNone fun _ => .pure _
  | .regex _ source flags => (Draws.next (by decide)).bindNone fun _ => .pure _
  | .compare op stored => (Draws.next (by cases op <;> decide)).bindNone fun _ => .pure _
  | .member target => (Draws.next (by decide)).bindNone fun _ => .pure _
  | .unary op x => by
    have hx := draws_operand s (by decide : "value" ∈ hints) x
    rw [Predicate.slots]
    cases op with
    | sqrt => exact hx.bindNone fun _ => .pure _
    | not | notNot | bitNot =>
      exact hx.bindNone fun _ => (draws_wrap _ _ _ _).bindNone fun _ => .pure _
  | .binary op left right => by
    have hl := draws_operand s (by decide : "value" ∈ hints) left
    have hr := draws_operand s (by decide : "value" ∈ hints) right
    rw [Predicate.slots]
    cases op with
    | atan2 => exact hl.bind fun _ => hr.bindNone fun _ => .pure _
    | _ =>
      exact hl.bind fun _ => (draws_wrap _ _ _ _).noneBind fun _ => hr.bindNone fun _ =>
        (draws_wrap _ _ _ _).bindNone fun _ => .pure _
  | .boolean op xs => by
    rw [Predicate.slots]
    cases xs with
    | nil => exact .pure _
    | cons x rest => exact (draws_chain s op.precedence (x :: rest)).bindNone fun _ => .pure _
  | .property name filter => by
    rw [Predicate.slots, predicate_property]
    exact (draws_access name).bindNone fun _ => draws_filtered s filter _
  | .shift count x => by
    rw [predicate, Predicate.slots]
    exact (Draws.reserve count).noneBind fun _ =>
      (Draws.nextMany (by decide) count).bind fun _ => draws_operand s (by decide) x
  | .function f receiver arity => by
    rw [predicate, Predicate.slots]
    exact (Draws.reserve arity).noneBind fun _ =>
      (Draws.nextMany (by decide) arity).bindNone fun _ => .pure _

theorem draws_chain (s : Store) (operator : Precedence) :
    ∀ xs, Draws (Operand.slotSum xs) (chain s operator xs)
  | [] => .pure []
  | x :: rest => by
    rw [chain, Operand.slotSum]
    exact (draws_operand s (by decide : "value" ∈ hints) x).bind fun text =>
      (draws_wrap _ _ _ _).noneBind fun _ => (draws_chain s operator rest).bindNone fun _ => .pure _

end

/-- Writing an operand hands out a name for each slot. -/
theorem takes_operand (s : Store) {hint : String} (hhint : hint ∈ hints) (x : Operand) :
    (operand s hint x).Takes x.slots :=
  (draws_operand s hhint x).takes

/-- Writing a tree hands out a name for each slot. -/
theorem takes_predicate (s : Store) (p : Predicate) : (predicate s p).Takes p.slots :=
  (draws_predicate s p).takes

theorem takes_chain (s : Store) (operator : Precedence) (xs : List Operand) :
    (chain s operator xs).Takes (Operand.slotSum xs) :=
  (draws_chain s operator xs).takes

end Render

/-! ## Parameters -/

namespace Predicate

theorem draws_toSourceOn (s : Store) (p : Predicate) : Draws p.slots (p.toSourceOn s) :=
  Draws.get.noneBind fun _ => (Render.draws_predicate s p).bindNone fun _ =>
    Draws.get.bindNone fun _ => (Draws.ofExcept _).bindNone fun _ => .pure _

theorem takes_toSourceOn (s : Store) (p : Predicate) : (p.toSourceOn s).Takes p.slots :=
  (draws_toSourceOn s p).takes

/-- The parts of the source of a tree on a given list. -/
theorem toSourceOn_ok {s : Store} {p : Predicate} {ns ns' : ParamNames} {src : Source}
    (h : (p.toSourceOn s).run ns = .ok src ns') :
    (Render.predicate s p).run ns = .ok src.body ns' ∧ src.params = ns'.since ns.position ∧
      p.precedence = .ok src.precedence := by
  unfold toSourceOn at h
  obtain ⟨_, _, hget, h⟩ := ok_of_bind h
  cases hget
  obtain ⟨body, names, hbody, h⟩ := ok_of_bind h
  obtain ⟨_, _, hget, h⟩ := ok_of_bind h
  cases hget
  obtain ⟨precedence, names', hprec, h⟩ := ok_of_bind h
  cases hp : p.precedence with
  | ok precedence' =>
    rw [hp] at hprec
    cases hprec
    cases h
    exact ⟨hbody, rfl, rfl⟩
  | error f =>
    rw [hp] at hprec
    cases hprec

/-- The parts of the source of a tree on a list of names of its own. -/
theorem toSource_ok {s : Store} {p : Predicate} {src : Source} (h : p.toSource s = .ok src) :
    ∃ count ns ns', p.argCount = .ok count ∧ seeded count = .ok ns ∧
      (Render.predicate s p).run ns = .ok src.body ns' ∧ src.params = ns'.since 0 ∧
      p.precedence = .ok src.precedence := by
  unfold toSource Render.onOwnNames at h
  split at h
  · cases h
  · rename_i count hcount
    split at h
    · cases h
    · rename_i ns hns
      split at h
      · rename_i body ns' precedence hbody hprec
        cases h
        exact ⟨count, ns, ns', hcount, hns, hbody, rfl, hprec⟩
      · cases h
      · cases h

end Predicate

/-- A list cannot be so long that the count of the names handed out from it stops. -/
theorem ParamNames.Advance.capCount_eq {n : Nat} {ns ns' : ParamNames} (h : Advance n ns ns') :
    capCount n = n := by
  have hsize := h.size
  have hcap := h.valid.size
  have hlimit : nameCapacity ≤ countLimit := by decide
  exact capCount_of_le (by omega)

/-- What the names of two trees have in common when the second is written after a rewind. -/
theorem ParamNames.Advance.take_since {ns ns' ns'' : ParamNames} {m n : Nat}
    (h : Advance m ns ns') (h' : Advance n ns'.rewind ns'') (hstart : ns.position = 0) :
    (ns''.since 0).take (min m n) = (ns'.since ns.position).take (min m n) := by
  have hsize : m ≤ ns'.names.toList.length := by
    rw [Array.length_toList, h.size]
    omega
  have hsecond := h'.since_eq
  rw [show ns'.rewind.position = 0 from rfl] at hsecond
  obtain ⟨added, hadded⟩ := h'.names
  rw [show ns'.rewind.names = ns'.names from rfl] at hadded
  rw [hsecond, h.since_eq, hstart, List.drop_zero, List.drop_zero, List.take_take, List.take_take,
    ← hadded, Nat.min_eq_left (Nat.min_le_right m n), Nat.min_eq_left (Nat.min_le_left m n)]
  exact List.take_append_of_le_length (by omega)

namespace Predicate

variable {s : Store} {p : Predicate}

/-- On a list of its own a tree has the first letter names as parameters, and adds none. -/
theorem toSource_params {src : Source} (hp : p.isComplete) (h : p.toSource s = .ok src) :
    p.argCount = .ok p.slots ∧ src.params = letterNames p.slots ∧
      ∃ ns ns', seeded p.slots = .ok ns ∧ (Render.predicate s p).run ns = .ok src.body ns' ∧
        ns'.names = ns.names := by
  obtain ⟨count, ns, ns', hcount, hseeded, hrun, hparams, -⟩ := toSource_ok h
  obtain ⟨-, herr⟩ | ⟨hcap, ns₀, hok, hfirst⟩ := seeded_names count
  · rw [herr] at hseeded; cases hseeded
  rw [hok] at hseeded
  cases hseeded
  have hadv := (Render.takes_predicate s p).ok (hfirst.valid hcap) hrun
  have hslots := Predicate.argCount_eq hp
  rw [hcount, Except.ok.injEq, hadv.capCount_eq] at hslots
  subst hslots
  have hall : ns.names.toList.length = p.slots := by
    rw [hfirst.names, length_letterNames]
  have hnames : ns'.names = ns.names := by
    rw [Array.length_toList] at hall
    exact hadv.names_eq (by rw [hfirst.position]; omega)
  refine ⟨hcount, ?_, ns, ns', hok, hrun, hnames⟩
  have hslice := hadv.since_eq
  rw [hfirst.position, List.drop_zero, hnames, List.take_of_length_le (Nat.le_of_eq hall)] at hslice
  rw [hparams, hslice, hfirst.names]

end Predicate

/-- A property with a filter takes the names that it takes without. -/
theorem Render.property_names {s : Store} {name : Option String} {filter : Option Operand}
    {ns ns' : ParamNames} {text : String}
    (h : (predicate s (.property name filter)).run ns = .ok text ns') :
    ∃ text', (predicate s (.property name none)).run ns = .ok text' ns' := by
  rw [predicate_property] at h ⊢
  obtain ⟨access, names, haccess, hfilter⟩ := ok_of_bind h
  refine ⟨access, ?_⟩
  rw [run_bind_ok haccess]
  rcases filtered_names s filter access names with ⟨_, hrun⟩ | ⟨_, hrun⟩
  · rw [hrun] at hfilter
    cases hfilter
    rfl
  · rw [hrun] at hfilter
    cases hfilter

/-- **The parameters agree with the count of arguments.** For a complete tree, written on any list of
names from any position: the position moves by the count, the names that are there stay in place, as
many are added as the list is too short, and the parameters are the names that were handed out.

On a list of its own the parameters are the first letter names, one for each argument and all
different, and none is made from a hint.

A filter leaves the list as it would be without the filter. After a rewind, another tree gets the same
parameters as far as both have any. -/
theorem params_agree (s : Store) (t : Predicate) (ht : t.isComplete) :
    ∃ count, t.argCount = .ok count ∧
      (∀ ns src ns', ns.Valid → (t.toSourceOn s).run ns = .ok src ns' →
        ns'.Valid ∧ ns'.position = ns.position + count ∧
        ns.names.toList <+: ns'.names.toList ∧
        ns'.names.size = ns.names.size + (ns.position + count - ns.names.size) ∧
        src.params = (ns'.names.toList.drop ns.position).take count) ∧
      (∀ src, t.toSource s = .ok src →
        src.params = letterNames count ∧ src.params.length = count ∧ src.params.Nodup ∧
        ∃ ns ns', seeded count = .ok ns ∧ (Render.predicate s t).run ns = .ok src.body ns' ∧
          ns'.names = ns.names) ∧
      (∀ name filter ns text ns',
        (Render.predicate s (.property name filter)).run ns = .ok text ns' →
        ∃ text', (Render.predicate s (.property name none)).run ns = .ok text' ns') ∧
      (∀ (u : Predicate) countU, u.isComplete → u.argCount = .ok countU →
        ∀ ns src ns' srcU ns'', ns.Valid → ns.position = 0 →
          (t.toSourceOn s).run ns = .ok src ns' → (u.toSourceOn s).run ns'.rewind = .ok srcU ns'' →
          srcU.params.take (min count countU) = src.params.take (min count countU)) := by
  refine ⟨_, Predicate.argCount_eq ht, ?_, ?_, ?_, ?_⟩
  · intro ns src ns' hns hrun
    have hadv := (Predicate.takes_toSourceOn s t).ok hns hrun
    rw [hadv.capCount_eq]
    have hsize := hadv.size
    refine ⟨hadv.valid, hadv.position, hadv.names, by omega, ?_⟩
    rw [(Predicate.toSourceOn_ok hrun).2.1, hadv.since_eq]
  · intro src hsrc
    obtain ⟨hcount, hparams, hnames⟩ := Predicate.toSource_params ht hsrc
    rw [Predicate.argCount_eq ht, Except.ok.injEq] at hcount
    rw [hcount, hparams]
    refine ⟨rfl, ?_, nodup_letterNames _, hnames⟩
    rw [letterNames, List.length_map, List.length_range]
  · intro name filter ns text ns' hrun
    exact Render.property_names hrun
  · intro u countU hu hcountU ns src ns' srcU ns'' hns hstart hrun hrunU
    have hadv := (Predicate.takes_toSourceOn s t).ok hns hrun
    have hadvU := (Predicate.takes_toSourceOn s u).ok hadv.valid.rewind hrunU
    rw [Predicate.argCount_eq hu, Except.ok.injEq, hadvU.capCount_eq] at hcountU
    subst hcountU
    rw [hadv.capCount_eq, (Predicate.toSourceOn_ok hrun).2.1, (Predicate.toSourceOn_ok hrunU).2.1]
    exact hadv.take_since hadvU hstart

/-- A sum that skips an argument, on a list with one name left. -/
theorem params_agree_extended :
    let t : Predicate := .binary .add .unset (.nested (.shift 1 .unset))
    let ns : ParamNames := { ParamNames.ofNames ["x", "y"] with position := 1 }
    t.isComplete ∧ ns.Valid ∧
      ∃ src ns', (t.toSourceOn {}).run ns = .ok src ns' ∧ ns'.position = ns.position + 3 ∧
        ns'.names.toList = ["x", "y", "skip", "value"] ∧ src.params = ["y", "skip", "value"] := by
  intro t ns
  have hnames : (ParamNames.ofNames ["x", "y"]).Valid := valid_ofNames (by decide)
  have hns : ns.Valid := ⟨hnames.nodup, hnames.taken, hnames.size, by decide⟩
  have hrun : (Predicate.toSourceOn {} (.binary .add .unset (.nested (.shift 1 .unset)))).run
      { ParamNames.ofNames ["x", "y"] with position := 1 } =
      .ok ⟨["y", "skip", "value"], "y + value", .additive⟩
        ⟨#["x", "y", "skip", "value"], ["value", "skip", "y", "x"], 4⟩ := by rfl
  obtain ⟨count, hcount, hlist, -⟩ := params_agree {} t rfl
  cases hcount
  obtain ⟨-, hposition, -, -, hparams⟩ := hlist ns _ _ hns hrun
  exact ⟨rfl, hns, _, _, hrun, hposition, rfl, hparams⟩

end Criteria
