import Criteria.Proofs.Render.Parameters
import Criteria.Proofs.Predicate.Completeness

/-!
# Generated source as a function of the names

A body is written while names are handed out. What comes out depends on the list only through the names
that the slots of the tree get, from left to right.

* `Predicate.body` — the body of a tree with names for its slots.
* `Predicate.arrow` — the source of a tree on names of its own.
* `Naming.Spells` — a step whose result is a function of the names that it hands out.

Principal results:

* `spells_predicate` — writing a tree gives its body with the names that are handed out.
* `toSource_eq_arrow` — the source of a tree is the arrow function of its body.
* `toSourceOn_body` — on a given list too, the source has the body with its parameters.
-/

set_option autoImplicit false

namespace Criteria

open Naming ParamNames

variable {α β : Type} {s : Store}

/-! ## The body with names for the slots -/

namespace Render

/-- An operand in parentheses, where it needs them. -/
def wrapped (operator : Precedence) (x : Operand) (position : Position) (text : String) : String :=
  match needsParens operator x position with
  | .ok true => "(" ++ text ++ ")"
  | _ => text

/-- The property of an argument, with a name for the object and for the key if there is one. -/
def accessText (name : Option String) (names : List String) : String :=
  match name with
  | some name => memberAccess (names.headD "") name
  | none => names.headD "" ++ "[" ++ (names.drop 1).headD "" ++ "]"

/-- A filter that is a function, on a property. -/
def appliedFunction (f : Function) (access : String) : String :=
  match f.source with
  | some source => spliceOrCall source access
  | none => callee f ++ "(" ++ access ++ ")"

end Render

open Render

/-- The precedence of the outermost operator; that of an atom where there is none. -/
def Predicate.outermost (p : Predicate) : Precedence :=
  match p.precedence with
  | .ok precedence => precedence
  | .error _ => .memberAccess

mutual

/-- The text of an operand. -/
def Operand.body (s : Store) : Operand → List String → String
  | .unset, names => names.headD ""
  | .nested p, names => p.body s names
  | .literal (.function f), _ => callee f ++ "()"
  | .literal v, _ => s.literal v

/-- The body of a tree, with the first of the names for its first slot and so on. A filter has names of
its own. -/
def Predicate.body (s : Store) : Predicate → List String → String
  | .unset, _ => ""
  | .type mask, names => typeTests (names.headD "") mask
  | .charset _ set, names =>
    "[..." ++ names.headD "" ++ "].every((ch) => " ++ Text.quote set ++ ".includes(ch))"
  | .string start, names =>
    names.headD "" ++ ".startsWith(" ++
      Text.quote (String.ofList (Text.Utf8.decodeLossy start)) ++ ")"
  | .unary .sqrt x, names => "Math.sqrt(" ++ x.body s names ++ ")"
  | .unary op x, names => op.symbol ++ wrapped .unary x .operand (x.body s names)
  | .binary .atan2 left right, names =>
    "Math.atan2(" ++ left.body s names ++ ", " ++ right.body s (names.drop left.slots) ++ ")"
  | .binary op left right, names =>
    wrapped op.precedence left .left (left.body s names) ++ " " ++ op.symbol ++ " " ++
      wrapped op.precedence right .right (right.body s (names.drop left.slots))
  | .boolean op [], _ => emptyChain op
  | .boolean op xs, names =>
    String.intercalate (" " ++ op.symbol ++ " ") (Operand.bodies s op.precedence xs names)
  | .regex _ source flags, names =>
    "/" ++ escapeRegex source ++ "/" ++ flags.letters ++ ".test(" ++ names.headD "" ++ ")"
  | .compare op stored, names => comparison s op (names.headD "") stored
  | .property name (some (.nested p)), names =>
    spliceOrCall
      (Source.text ⟨letterNames p.slots, p.body s (letterNames p.slots), p.outermost⟩)
      (accessText name names)
  | .property name (some (.literal (.function f))), names =>
    appliedFunction f (accessText name names)
  | .property name _, names => accessText name names
  | .member target, names => indexed s target (names.headD "")
  | .shift count x, names => x.body s (names.drop count)
  | .function f receiver arity, names => functionCall s f receiver (names.take arity)

/-- The texts of the operands of a chain. -/
def Operand.bodies (s : Store) (operator : Precedence) : List Operand → List String → List String
  | [], _ => []
  | x :: rest, names =>
    wrapped operator x .chain (x.body s names) ::
      Operand.bodies s operator rest (names.drop x.slots)

end

/-- The source of a tree on names of its own. -/
def Predicate.arrow (s : Store) (p : Predicate) : Source :=
  ⟨letterNames p.slots, p.body s (letterNames p.slots), p.outermost⟩

/-! ## The names that count -/

section Prefixes

variable {l l' : List α} {m n : Nat}

theorem take_of_take_add (h : l.take (m + n) = l'.take (m + n)) : l.take m = l'.take m := by
  have h := congrArg (List.take m) h
  rwa [List.take_take, List.take_take, Nat.min_eq_left (Nat.le_add_right m n)] at h

theorem take_drop_of_take_add (h : l.take (m + n) = l'.take (m + n)) :
    (l.drop m).take n = (l'.drop m).take n := by
  rw [List.take_drop, List.take_drop, h]

theorem headD_of_take {d : α} (h : l.take (n + 1) = l'.take (n + 1)) : l.headD d = l'.headD d := by
  have h := congrArg List.head? h
  simp only [List.head?_take, Nat.succ_ne_zero, if_false] at h
  rw [List.headD_eq_head?_getD, List.headD_eq_head?_getD, h]

end Prefixes

theorem Render.accessText_congr {name : Option String} {names names' : List String}
    (h : names.take (Predicate.propertyArgCount name) =
      names'.take (Predicate.propertyArgCount name)) :
    accessText name names = accessText name names' := by
  cases name with
  | some name =>
    have h : names.take (0 + 1) = names'.take (0 + 1) := h
    rw [accessText, accessText, headD_of_take h]
  | none =>
    have h : names.take (1 + 1) = names'.take (1 + 1) := h
    have hkey : (names.drop 1).headD "" = (names'.drop 1).headD "" :=
      headD_of_take (n := 0) (take_drop_of_take_add h)
    rw [accessText, accessText, headD_of_take h, hkey]

mutual

theorem Operand.body_congr : ∀ (x : Operand) {names names' : List String},
    names.take x.slots = names'.take x.slots → x.body s names = x.body s names'
  | .unset, _, _, h => headD_of_take (n := 0) h
  | .nested p, _, _, h => Predicate.body_congr p h
  | .literal v, _, _, _ => by cases v <;> rfl

/-- The body has only the names of the slots in it. -/
theorem Predicate.body_congr : ∀ (p : Predicate) {names names' : List String},
    names.take p.slots = names'.take p.slots → p.body s names = p.body s names'
  | .unset, _, _, _ => rfl
  | .type _, _, _, h | .charset .., _, _, h | .string _, _, _, h | .regex .., _, _, h
  | .compare .., _, _, h | .member _, _, _, h => by
    have hname := headD_of_take (n := 0) (d := "") h
    simp only [Predicate.body, hname]
  | .unary op x, _, _, h => by
    have hx := Operand.body_congr x h
    cases op <;> simp only [Predicate.body, hx]
  | .binary op left right, _, _, h => by
    have hl := Operand.body_congr left (take_of_take_add h)
    have hr := Operand.body_congr right (take_drop_of_take_add h)
    cases op <;> simp only [Predicate.body, hl, hr]
  | .boolean op [], _, _, _ => rfl
  | .boolean op (x :: rest), _, _, h =>
    congrArg (String.intercalate _) (Operand.bodies_congr op.precedence (x :: rest) h)
  | .property name filter, _, _, h => by
    have haccess := accessText_congr h
    cases filter with
    | none => exact haccess
    | some x =>
      cases x with
      | unset => exact haccess
      | nested p => simp only [Predicate.body, haccess]
      | literal v => cases v <;> first | exact haccess | simp only [Predicate.body, haccess]
  | .shift count x, _, _, h => Operand.body_congr x (take_drop_of_take_add h)
  | .function f receiver arity, _, _, h => congrArg (functionCall s f receiver) h

theorem Operand.bodies_congr (operator : Precedence) : ∀ (xs : List Operand)
    {names names' : List String}, names.take (Operand.slotSum xs) = names'.take (Operand.slotSum xs) →
      Operand.bodies s operator xs names = Operand.bodies s operator xs names'
  | [], _, _, _ => rfl
  | x :: rest, _, _, h => by
    have hx := Operand.body_congr x (take_of_take_add h)
    have hrest := Operand.bodies_congr operator rest (take_drop_of_take_add h)
    simp only [Operand.bodies, hx, hrest]

end

/-! ## Steps that spell -/

/-- Where the step succeeds, it hands out `n` names, and gives what `f` makes of the names from the
first of them on. -/
structure Naming.Spells (n : Nat) (f : List String → α) (x : Naming α) : Prop where
  ok : ∀ {ns a ns'}, ns.WellFormed → x.run ns = .ok a ns' →
    ns'.WellFormed ∧ ns'.position = ns.position + n ∧ ns.names.toList <+: ns'.names.toList ∧
      ∀ all, ns'.names.toList <+: all → a = f (all.drop ns.position)

namespace Naming.Spells

variable {n k : Nat} {x : Naming α} {f : List String → α} {y : α → Naming β}
  {g : α → List String → β}

theorem pure (a : α) : Spells 0 (fun _ => a) (Pure.pure a : Naming α) := by
  refine ⟨fun hns h => ?_⟩
  cases h
  exact ⟨hns, rfl, List.prefix_refl _, fun _ _ => rfl⟩

theorem throw (e : RenderFailure) (n : Nat) (f : List String → α) :
    Spells n f (throw e : Naming α) := ⟨fun _ h => by cases h⟩

theorem bind (hx : Spells n f x) (hy : ∀ a, Spells k (g a) (y a)) :
    Spells (n + k) (fun names => g (f names) (names.drop n)) (x >>= y) := by
  refine ⟨fun {ns b ns''} hns h => ?_⟩
  obtain ⟨a, ns', ha, hb⟩ := ok_of_bind h
  obtain ⟨hns', hposition, hgrows, hfirst⟩ := hx.ok hns ha
  obtain ⟨hns'', hposition', hgrows', hsecond⟩ := (hy a).ok hns' hb
  refine ⟨hns'', ?_, hgrows.trans hgrows', fun all hall => ?_⟩
  · rw [hposition', hposition, Nat.add_assoc]
  · rw [hsecond all hall, hfirst all (hgrows'.trans hall), List.drop_drop, hposition]

/-- What follows may hand out nothing. -/
theorem map (hx : Spells n f x) {h : α → β} (hy : ∀ a, Spells 0 (fun _ => h a) (y a)) :
    Spells n (fun names => h (f names)) (x >>= y) := hx.bind hy

/-- A step may hand out nothing. -/
theorem after {a : α} (hx : Spells 0 (fun _ => a) x) (hy : ∀ a, Spells k (g a) (y a)) :
    Spells k (g a) (x >>= y) := by
  have h := hx.bind hy
  rwa [Nat.zero_add] at h

/-- Only lists with a name for each slot matter. -/
theorem congr {f' : List String → α} (hx : Spells n f x)
    (hf : ∀ names, n ≤ names.length → f names = f' names) : Spells n f' x := by
  refine ⟨fun {ns a ns'} hns h => ?_⟩
  obtain ⟨hns', hposition, hgrows, ha⟩ := hx.ok hns h
  refine ⟨hns', hposition, hgrows, fun all hall => ?_⟩
  rw [ha all hall]
  refine hf _ ?_
  have hlength := hall.length_le
  have hsize := hns'.position
  rw [Array.length_toList] at hlength
  rw [List.length_drop]
  omega

theorem next (hint : String) : Spells 1 (fun names => names.headD "") (Naming.next hint) := by
  refine ⟨fun {ns name ns'} hns h => ?_⟩
  obtain ⟨hns', hposition, hgrows, hname⟩ := wellFormed_next hns h
  refine ⟨hns', hposition, hgrows, ?_⟩
  rintro _ ⟨rest, rfl⟩
  have hget : (ns'.names.toList ++ rest)[ns.position]? = some name := by
    rw [← Array.getElem?_toList] at hname
    rw [List.getElem?_append_left (List.getElem?_eq_some_iff.1 hname).1, hname]
  rw [List.headD_eq_head?_getD, List.head?_drop, hget]
  rfl

theorem reserve (count : Nat) : Spells 0 (fun _ => ()) (Naming.reserve count) := by
  refine ⟨fun hns h => ?_⟩
  rw [run_reserve] at h
  split at h <;> cases h
  exact ⟨hns, rfl, List.prefix_refl _, fun _ _ => rfl⟩

theorem nextMany (hint : String) : ∀ count,
    Spells count (fun names => names.take count) (Naming.nextMany hint count)
  | 0 => .pure []
  | count + 1 => by
    rw [Naming.nextMany, Nat.add_comm]
    have hmany := (next hint).bind (y := fun name => do
      return name :: (← Naming.nextMany hint count)) fun name =>
        (nextMany hint count).map fun names => .pure (name :: names)
    refine hmany.congr fun names hlength => ?_
    cases names with
    | nil => simp at hlength
    | cons name rest => rw [Nat.add_comm]; rfl

end Naming.Spells

/-! ## Writing a tree -/

namespace Render

theorem spells_wrap {x : Operand} (hx : x.isComplete) (operator : Precedence) (position : Position)
    (text : String) :
    Spells 0 (fun _ => wrapped operator x position text) (wrap operator x position text) := by
  obtain ⟨needed, hneeded⟩ := Operand.needsParens_of_isComplete hx operator position
  have hwrap : wrap operator x position text = Pure.pure (wrapped operator x position text) := by
    rw [wrap, wrapped, hneeded]
    cases needed <;> rfl
  rw [hwrap]
  exact .pure _

theorem spells_access (name : Option String) :
    Spells (Predicate.propertyArgCount name) (accessText name) (access name) := by
  cases name with
  | some name => exact ((Spells.next "object").map fun _ => .pure _).congr fun _ _ => rfl
  | none =>
    exact ((Spells.next "object").bind fun _ => (Spells.next "key").map fun _ => .pure _).congr
      fun _ _ => rfl

end Render

/-- The source of a tree whose writing gives its body. -/
theorem Predicate.toSource_of_spells {p : Predicate} (hp : p.isComplete)
    (hbody : Spells p.slots (p.body s) (Render.predicate s p)) {src : Source}
    (h : p.toSource s = .ok src) : src = p.arrow s := by
  obtain ⟨-, hparams, ns, ns', hseeded, hrun, hnames⟩ := toSource_params hp h
  obtain ⟨_, _, _, -, -, -, -, hprecedence⟩ := toSource_ok h
  obtain ⟨-, hrefused⟩ | ⟨-, ns₀, hmade, hfirst⟩ := seeded_names p.slots
  · rw [hrefused] at hseeded
    cases hseeded
  rw [hmade] at hseeded
  cases hseeded
  obtain ⟨-, -, -, htext⟩ := hbody.ok hfirst.wellFormed hrun
  have hbodyEq := htext _ (List.prefix_refl _)
  rw [hnames, hfirst.names, hfirst.position, List.drop_zero] at hbodyEq
  have houtermost : p.outermost = src.precedence := by rw [outermost, hprecedence]
  rw [arrow, houtermost, ← hbodyEq, ← hparams]

namespace Render

theorem spells_filtered_nested {p : Predicate} (hp : p.isComplete)
    (hbody : Spells p.slots (p.body s) (predicate s p)) (access : String) :
    Spells 0 (fun _ => spliceOrCall (p.arrow s).text access)
      (filtered s (some (.nested p)) access) := by
  rw [filtered]
  cases hsource : onOwnNames p (predicate s p) with
  | ok src =>
    rw [← Predicate.toSource_of_spells hp hbody hsource]
    exact .pure _
  | error e => exact .throw e 0 _

mutual

theorem spells_operand (hint : String) : ∀ {x : Operand}, x.isComplete →
    Spells x.slots (x.body s) (operand s hint x)
  | .unset, _ => by
    rw [operand, Operand.slots]
    exact .next hint
  | .nested p, h => by
    rw [Operand.isComplete] at h
    rw [operand, Operand.slots]
    exact spells_predicate h
  | .literal v, _ => by
    rw [Operand.slots]
    cases v <;> exact .pure _

/-- Writing a complete tree gives its body with the names that are handed out. -/
theorem spells_predicate : ∀ {p : Predicate}, p.isComplete →
    Spells p.slots (p.body s) (predicate s p)
  | .type _, _ | .charset .., _ | .string _, _ | .regex .., _ | .compare .., _ | .member _, _ =>
    ((Spells.next _).map fun _ => .pure _).congr fun _ _ => rfl
  | .unary op x, h => by
    rw [Predicate.isComplete] at h
    rw [Predicate.slots]
    have hx := spells_operand "value" h
    cases op with
    | sqrt => exact (hx.map fun _ => .pure _).congr fun _ _ => rfl
    | not | notNot | bitNot =>
      exact (hx.map fun _ => (spells_wrap h _ _ _).map fun _ => .pure _).congr fun _ _ => rfl
  | .binary op left right, h => by
    rw [Predicate.isComplete, Bool.and_eq_true] at h
    rw [Predicate.slots]
    have hl := spells_operand "value" h.1
    have hr := spells_operand "value" h.2
    cases op with
    | atan2 => exact (hl.bind fun _ => hr.map fun _ => .pure _).congr fun _ _ => rfl
    | _ =>
      exact (hl.bind fun _ => (spells_wrap h.1 _ _ _).after fun _ => hr.map fun _ =>
        (spells_wrap h.2 _ _ _).map fun _ => .pure _).congr fun _ _ => rfl
  | .boolean op xs, h => by
    rw [Predicate.isComplete] at h
    rw [Predicate.slots]
    cases xs with
    | nil => exact .pure _
    | cons x rest =>
      exact ((spells_chain op.precedence h).map fun _ => .pure _).congr fun _ _ => rfl
  | .property name filter, h => by
    rw [predicate_property, Predicate.slots]
    cases filter with
    | none => exact ((spells_access name).map fun _ => .pure _).congr fun _ _ => rfl
    | some x =>
      rw [Predicate.isComplete] at h
      cases x with
      | unset => exact ((spells_access name).map fun _ => .pure _).congr fun _ _ => rfl
      | nested p =>
        rw [Operand.isComplete] at h
        exact ((spells_access name).map fun _ =>
          spells_filtered_nested h (spells_predicate h) _).congr fun _ _ => rfl
      | literal v =>
        cases v with
        | function f =>
          refine ((spells_access name).map fun access => ?_).congr fun _ _ => rfl
          have happlied : filtered s (some (.literal (.function f))) access =
              Pure.pure (appliedFunction f access) := by
            rw [filtered, appliedFunction]
            cases f.source <;> rfl
          rw [happlied]
          exact .pure _
        | _ => exact ((spells_access name).map fun _ => .pure _).congr fun _ _ => rfl
  | .shift count x, h => by
    rw [Predicate.isComplete] at h
    rw [predicate, Predicate.slots]
    exact ((Spells.reserve count).after fun _ => (Spells.nextMany "skip" count).bind fun _ =>
      spells_operand "value" h).congr fun _ _ => rfl
  | .function f receiver arity, _ => by
    rw [predicate, Predicate.slots]
    exact ((Spells.reserve arity).after fun _ =>
      (Spells.nextMany "arg" arity).map fun _ => .pure _).congr fun _ _ => rfl

theorem spells_chain (operator : Precedence) : ∀ {xs : List Operand}, Operand.allComplete xs →
    Spells (Operand.slotSum xs) (Operand.bodies s operator xs) (chain s operator xs)
  | [], _ => .pure []
  | x :: rest, h => by
    rw [Operand.allComplete, Bool.and_eq_true] at h
    rw [chain, Operand.slotSum]
    exact ((spells_operand "value" h.1).bind fun _ => (spells_wrap h.1 _ _ _).after fun _ =>
      (spells_chain operator h.2).map fun _ => .pure _).congr fun _ _ => rfl

end

end Render

/-- The source of a complete tree is the arrow function of its body. -/
theorem Predicate.toSource_eq_arrow {p : Predicate} (hp : p.isComplete) {src : Source}
    (h : p.toSource s = .ok src) : src = p.arrow s :=
  toSource_of_spells hp (Render.spells_predicate hp) h

/-- The source of a complete tree on a given list has the body with the parameters. -/
theorem Predicate.toSourceOn_body {p : Predicate} (hp : p.isComplete) {ns ns' : ParamNames}
    {src : Source} (hns : ns.Valid) (h : (p.toSourceOn s).run ns = .ok src ns') :
    src.body = p.body s src.params := by
  obtain ⟨hrun, hparams, -⟩ := toSourceOn_ok h
  have hadv := (takes_toSourceOn s p).ok hns h
  obtain ⟨-, -, -, hbody⟩ := (Render.spells_predicate hp).ok hns.wellFormed hrun
  rw [hbody _ (List.prefix_refl _), hparams, hadv.since_eq]
  refine body_congr p ?_
  rw [List.take_take, Nat.min_self]

end Criteria
