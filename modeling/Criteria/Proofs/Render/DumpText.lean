import Criteria.Proofs.Predicate.Completeness
import Criteria.Proofs.Render.Escapes
import Criteria.Proofs.Session.Bare
import Criteria.Proofs.Session.Caches
import Criteria.Proofs.Store.Literals

/-!
# The text of a dump

The dump of a complete tree is a text of the tree and the store: what the caches hold does not show. If
all literals of the tree are plain, the store does not show either, nor do the cells of its nodes.

* `Predicate.dumpText`, `gives_dump` — the text that is dumped.
* `Predicate.isStructural` — trees of tests, operators and properties with plain literals.
* `dumpText_bare` — the dump of such a tree is that of the tree without its cells, in every store.
-/

set_option autoImplicit false

namespace Criteria

open Dump Text

/-! ## Texts -/

/-- The property that a node reads, as it stands in a dump. -/
def accessText (name : Option String) : String := (name.map nameQuoted).getD "[key]"

mutual

/-- The dump of an operand; an unset node has none. -/
def Operand.dumpText (s : Store) : Operand → String
  | .unset => "undefined"
  | .nested p =>
    match p.kind with
    | .ok kind => node kind (p.detail s)
    | .error _ => ""
  | .literal v => s.literal v

/-- What stands between the brackets of a node. -/
def Predicate.detail (s : Store) : Predicate → String
  | .unset => ""
  | .type mask => "type == " ++ mask.label
  | .charset _ set => setDetail set.toList
  | .string start => bytesQuoted start
  | .unary op x => unaryOpening op ++ x.dumpText s ++ " )"
  | .binary op left right =>
    "(" ++ left.dumpText s ++ " " ++ op.symbol ++ " " ++ right.dumpText s ++ ")"
  | .boolean _ xs => String.intercalate ", " (Operand.dumpTexts s xs)
  | .regex _ source flags => "/" ++ source ++ "/" ++ flags.letters
  | .compare op v => stored s op v
  | .property name none => accessText name
  | .property name (some x) => accessText name ++ (", " ++ x.dumpText s)
  | .member target => s.literal target
  | .shift count x => ">> " ++ toString count ++ " " ++ x.dumpText s
  | .function _ _ arity => "func(" ++ toString arity ++ ")"

/-- The dumps of some operands. -/
def Operand.dumpTexts (s : Store) : List Operand → List String
  | [] => []
  | x :: rest => x.dumpText s :: Operand.dumpTexts s rest

end

/-- The dump of a tree. -/
def Predicate.dumpText (s : Store) (p : Predicate) : String := (Operand.nested p).dumpText s

variable {α β : Type} {L : Labels}

/-- From sound caches on, the action gives what `f` is of the store, and changes nothing but caches. -/
def Action.Gives (L : Labels) (x : Action α) (f : Store → α) : Prop :=
  ∀ w, L.Holds w.caches → ∃ w', x.run w = .ok (f w.store) w' ∧ w'.store = w.store ∧ L.Holds w'.caches

namespace Action.Gives

theorem pure (a : α) : Gives L (Pure.pure a : Action α) fun _ => a := fun w h => ⟨w, rfl, rfl, h⟩

theorem read (f : Store → α) : Gives L (Action.read f) f := fun w h => ⟨w, rfl, rfl, h⟩

theorem bind {x : Action α} {f : Store → α} {g : α → Action β} {h : α → Store → β}
    (hx : Gives L x f) (hg : ∀ a, Gives L (g a) (h a)) : Gives L (x >>= g) fun s => h (f s) s := by
  intro w hw
  obtain ⟨w', hrun, hstore, hw'⟩ := hx w hw
  obtain ⟨w'', hrun', hstore', hw''⟩ := hg (f w.store) w' hw'
  rw [hstore] at hrun' hstore'
  refine ⟨w'', ?_, hstore', hw''⟩
  rw [EStateM.run_bind, hrun]
  exact hrun'

theorem decode {cell : CharsetCell} {set : String} (hcell : L.Covers (.charset cell set)) :
    Gives L (Action.decode cell set) fun _ => set.toList := by
  intro w hw
  obtain ⟨hchars, hafter⟩ := hw.decode hcell
  refine ⟨{ w with caches := (w.caches.decode cell set).2 }, ?_, rfl, hafter⟩
  rw [← hchars]
  rfl

end Action.Gives

theorem dump_property (name : Option String) (x : Operand) :
    (Predicate.property name (some x)).dump =
      x.dump >>= fun text => pure (node .property (accessText name ++ (", " ++ text))) := by
  cases name <;>
  · simp only [Predicate.dump, accessText, ← String.append_assoc]
    rfl

mutual

theorem gives_dump_operand :
    ∀ x : Operand, L.Fits x.nodes → x.isComplete → Action.Gives L x.dump fun s => x.dumpText s
  | .unset, _, _ => .pure _
  | .nested p, h, hp => by
    rw [Operand.isComplete] at hp
    rw [Operand.dump]
    exact gives_dump p h hp
  | .literal v, _, _ => by
    rw [Operand.dump]
    exact .read _

/-- A complete tree has a dump, which depends on the store alone. -/
theorem gives_dump : ∀ p : Predicate, L.Fits p.nodes → p.isComplete →
    Action.Gives L p.dump fun s => p.dumpText s
  | .type _, _, _ | .string _, _, _ | .regex .., _, _ | .function .., _, _ => .pure _
  | .charset cell set, h, _ => by
    rw [Predicate.dump]
    exact (Action.Gives.decode (Labels.Fits.cons.1 h).1).bind fun _ => .pure _
  | .unary op x, h, hp => by
    rw [Predicate.isComplete] at hp
    rw [Predicate.dump]
    exact (gives_dump_operand x (Labels.Fits.cons.1 h).2 hp).bind fun _ => .pure _
  | .binary op left right, h, hp => by
    rw [Predicate.isComplete, Bool.and_eq_true] at hp
    obtain ⟨hleft, hright⟩ := Labels.Fits.append.1 (Labels.Fits.cons.1 h).2
    rw [Predicate.dump]
    exact (gives_dump_operand left hleft hp.1).bind fun _ =>
      (gives_dump_operand right hright hp.2).bind fun _ => .pure _
  | .boolean op xs, h, hp => by
    rw [Predicate.isComplete] at hp
    rw [Predicate.dump]
    exact (gives_dumps xs (Labels.Fits.cons.1 h).2 hp).bind fun _ => .pure _
  | .compare .., _, _ => (Action.Gives.read _).bind fun _ => .pure _
  | .member _, _, _ => (Action.Gives.read _).bind fun _ => .pure _
  | .property none none, _, _ => .pure _
  | .property (some _) none, _, _ => .pure _
  | .property name (some x), h, hp => by
    rw [Predicate.isComplete] at hp
    rw [dump_property]
    exact (gives_dump_operand x (Labels.Fits.cons.1 h).2 hp).bind fun _ => .pure _
  | .shift _ x, h, hp => by
    rw [Predicate.isComplete] at hp
    rw [Predicate.dump]
    exact (gives_dump_operand x (Labels.Fits.cons.1 h).2 hp).bind fun _ => .pure _

theorem gives_dumps : ∀ xs : List Operand, L.Fits (Operand.allNodes xs) → Operand.allComplete xs →
    Action.Gives L (Operand.dumps xs) fun s => Operand.dumpTexts s xs
  | [], _, _ => .pure _
  | x :: rest, h, hxs => by
    rw [Operand.allComplete, Bool.and_eq_true] at hxs
    obtain ⟨hx, hrest⟩ := Labels.Fits.append.1 h
    rw [Operand.dumps]
    exact (gives_dump_operand x hx hxs.1).bind fun _ =>
      (gives_dumps rest hrest hxs.2).bind fun _ => .pure _

end

/-! ## Trees of tests and operators -/

variable {s t : Store}

mutual

/-- Whether the operand is unset, a tree of tests and operators, or a literal that is `null`, a truth
value, an integer or a string. -/
def Operand.isStructural : Operand → Bool
  | .unset => true
  | .nested p => p.isStructural
  | .literal v => v.isPlain && !v.isUndefined

/-- Whether the tree is built from type tests, character sets, byte strings, operators, properties and
shifts. -/
def Predicate.isStructural : Predicate → Bool
  | .type _ => true
  | .charset .. => true
  | .string _ => true
  | .unary _ x => x.isStructural
  | .binary _ left right => left.isStructural && right.isStructural
  | .boolean _ xs => Operand.allStructural xs
  | .property _ none => true
  | .property _ (some x) => x.isStructural
  | .shift _ x => x.isStructural
  | _ => false

/-- Whether all operands are such. -/
def Operand.allStructural : List Operand → Bool
  | [] => true
  | x :: rest => x.isStructural && Operand.allStructural rest

end

theorem Operand.isStructural_of_mem {xs : List Operand} {x : Operand}
    (h : Operand.allStructural xs) (hx : x ∈ xs) : x.isStructural := by
  induction xs with
  | nil => cases hx
  | cons y rest ih =>
    rw [allStructural, Bool.and_eq_true] at h
    rcases List.mem_cons.1 hx with rfl | hx
    · exact h.1
    · exact ih h.2 hx

mutual

theorem Operand.isComplete_of_isStructural : ∀ x : Operand, x.isStructural → x.isComplete
  | .unset, _ => rfl
  | .nested p, h => Predicate.isComplete_of_isStructural p h
  | .literal _, _ => rfl

theorem Predicate.isComplete_of_isStructural : ∀ p : Predicate, p.isStructural → p.isComplete
  | .type _, _ | .charset .., _ | .string _, _ | .property _ none, _ => rfl
  | .unary _ x, h => x.isComplete_of_isStructural h
  | .binary _ left right, h => by
    rw [Predicate.isStructural, Bool.and_eq_true] at h
    rw [Predicate.isComplete, Bool.and_eq_true]
    exact ⟨left.isComplete_of_isStructural h.1, right.isComplete_of_isStructural h.2⟩
  | .boolean _ xs, h => Operand.allComplete_of_allStructural xs h
  | .property _ (some x), h => x.isComplete_of_isStructural h
  | .shift _ x, h => x.isComplete_of_isStructural h

theorem Operand.allComplete_of_allStructural :
    ∀ xs : List Operand, Operand.allStructural xs → Operand.allComplete xs
  | [], _ => rfl
  | x :: rest, h => by
    rw [Operand.allStructural, Bool.and_eq_true] at h
    rw [Operand.allComplete, Bool.and_eq_true]
    exact ⟨x.isComplete_of_isStructural h.1, Operand.allComplete_of_allStructural rest h.2⟩

end

theorem exists_kind {p : Predicate} (h : p.isStructural) : ∃ kind, p.kind = .ok kind := by
  cases p <;> first | exact ⟨_, rfl⟩ | cases h

theorem dumpText_nested {p : Predicate} {kind : Kind} (h : p.kind = .ok kind) :
    (Operand.nested p).dumpText s = node kind (p.detail s) := by
  rw [Operand.dumpText, h]

/-! ## Stores and cells -/

mutual

theorem dumpText_bare_operand : ∀ x : Operand, x.isStructural → x.dumpText s = x.bare.dumpText t
  | .unset, _ => by rw [Operand.bare, Operand.dumpText, Operand.dumpText]
  | .nested p, h => by
    obtain ⟨kind, hkind⟩ := exists_kind h
    have hbare : p.bare.kind = .ok kind := by rw [Predicate.kind_bare, hkind]
    rw [Operand.bare, dumpText_nested hkind, dumpText_nested hbare, detail_bare p h]
  | .literal v, h => by
    rw [Operand.bare, Operand.dumpText, Operand.dumpText]
    cases v <;> first | simp only [Store.literal_null, Store.literal_bool, Store.literal_int,
      Store.literal_str] | cases h

/-- Neither the store nor the cells of a tree show in its dump. -/
theorem detail_bare : ∀ p : Predicate, p.isStructural → p.detail s = p.bare.detail t
  | .type _, _ | .string _, _ | .property _ none, _ => by
    simp only [Predicate.bare, Predicate.detail]
  | .charset .., _ => by rw [Predicate.bare, Predicate.detail, Predicate.detail]
  | .unary _ x, h => by
    rw [Predicate.bare, Predicate.detail, Predicate.detail, dumpText_bare_operand x h]
  | .binary _ left right, h => by
    rw [Predicate.isStructural, Bool.and_eq_true] at h
    rw [Predicate.bare, Predicate.detail, Predicate.detail, dumpText_bare_operand left h.1,
      dumpText_bare_operand right h.2]
  | .boolean _ xs, h => by
    rw [Predicate.bare, Predicate.detail, Predicate.detail, dumpTexts_bare xs h]
  | .property _ (some x), h => by
    rw [Predicate.bare, Predicate.detail, Predicate.detail, dumpText_bare_operand x h]
  | .shift _ x, h => by
    rw [Predicate.bare, Predicate.detail, Predicate.detail, dumpText_bare_operand x h]

theorem dumpTexts_bare : ∀ xs : List Operand, Operand.allStructural xs →
    Operand.dumpTexts s xs = Operand.dumpTexts t (Operand.allBare xs)
  | [], _ => rfl
  | x :: rest, h => by
    rw [Operand.allStructural, Bool.and_eq_true] at h
    rw [Operand.allBare, Operand.dumpTexts, Operand.dumpTexts, dumpText_bare_operand x h.1,
      dumpTexts_bare rest h.2]

end

theorem dumpText_bare {p : Predicate} (h : p.isStructural) : p.dumpText s = p.bare.dumpText t :=
  dumpText_bare_operand (.nested p) h

end Criteria
