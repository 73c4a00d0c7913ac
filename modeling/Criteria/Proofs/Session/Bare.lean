import Criteria.Proofs.Session.Basic

/-!
# Cells do not show

Of the answers that a node gives, only those that prepare something need its cell. The others are
the same when the tree is stripped of its cells.

* `Predicate.precedence_bare`, `Predicate.argCount_bare` — questions about a node.
* `Predicate.toSource_bare`, `Predicate.toSourceOn_bare` — its source.
-/

set_option autoImplicit false

namespace Criteria

theorem Operand.allBare_eq_map (xs : List Operand) : Operand.allBare xs = xs.map Operand.bare := by
  induction xs with
  | nil => rfl
  | cons x rest ih => rw [allBare, ih, List.map_cons]

@[simp] theorem Operand.isUnset_bare (x : Operand) : x.bare.isUnset = x.isUnset := by
  cases x <;> simp [bare, isUnset]

@[simp] theorem Operand.isNegativeNumber_bare (x : Operand) :
    x.bare.isNegativeNumber = x.isNegativeNumber := by
  cases x <;> simp [bare, isNegativeNumber]

mutual

@[simp] theorem Operand.bare_bare : ∀ x : Operand, x.bare.bare = x.bare
  | .unset => rfl
  | .nested p => by simp only [Operand.bare, Predicate.bare_bare p]
  | .literal _ => rfl

/-- Stripping a tree twice is stripping it once. -/
@[simp] theorem Predicate.bare_bare : ∀ p : Predicate, p.bare.bare = p.bare
  | .charset .. => rfl
  | .regex .. => rfl
  | .unary _ x => by simp only [Predicate.bare, Operand.bare_bare x]
  | .binary _ left right => by
    simp only [Predicate.bare, Operand.bare_bare left, Operand.bare_bare right]
  | .boolean _ xs => by simp only [Predicate.bare, Operand.allBare_allBare xs]
  | .property _ none => rfl
  | .property _ (some x) => by simp only [Predicate.bare, Operand.bare_bare x]
  | .shift _ x => by simp only [Predicate.bare, Operand.bare_bare x]
  | .unset => rfl
  | .type _ => rfl
  | .string _ => rfl
  | .compare .. => rfl
  | .member _ => rfl
  | .function .. => rfl

theorem Operand.allBare_allBare : ∀ xs : List Operand,
    Operand.allBare (Operand.allBare xs) = Operand.allBare xs
  | [] => rfl
  | x :: rest => by
    simp only [Operand.allBare, Operand.bare_bare x, Operand.allBare_allBare rest]

end

/-! ## Nodes -/

mutual

theorem Operand.nodes_bare : ∀ x : Operand, x.bare.nodes = x.nodes.map Predicate.bare
  | .unset => rfl
  | .nested p => by
    simp only [Operand.bare, Operand.nodes, List.map_cons, Predicate.inner_bare p]
  | .literal _ => rfl

theorem Predicate.inner_bare : ∀ p : Predicate, p.bare.inner = p.inner.map Predicate.bare
  | .unary _ x => by simp only [Predicate.bare, Predicate.inner, Operand.nodes_bare x]
  | .binary _ left right => by
    simp only [Predicate.bare, Predicate.inner, Operand.nodes_bare left, Operand.nodes_bare right,
      List.map_append]
  | .boolean _ xs => by simp only [Predicate.bare, Predicate.inner, Operand.allNodes_bare xs]
  | .property _ (some x) => by simp only [Predicate.bare, Predicate.inner, Operand.nodes_bare x]
  | .shift _ x => by simp only [Predicate.bare, Predicate.inner, Operand.nodes_bare x]
  | .property _ none => rfl
  | .charset .. => rfl
  | .regex .. => rfl
  | .unset => rfl
  | .type _ => rfl
  | .string _ => rfl
  | .compare .. => rfl
  | .member _ => rfl
  | .function .. => rfl

theorem Operand.allNodes_bare : ∀ xs : List Operand,
    Operand.allNodes (Operand.allBare xs) = (Operand.allNodes xs).map Predicate.bare
  | [] => rfl
  | x :: rest => by
    simp only [Operand.allBare, Operand.allNodes, Operand.nodes_bare x, List.map_append,
      Operand.allNodes_bare rest]

end

/-- The nodes of a tree without cells, in the same places. -/
theorem Predicate.nodes_bare (p : Predicate) : p.bare.nodes = p.nodes.map Predicate.bare := by
  rw [nodes, nodes, List.map_cons, inner_bare]

mutual

theorem Operand.nodes_subset : ∀ (x : Operand) {q : Predicate}, q ∈ x.nodes → q.nodes ⊆ x.nodes
  | .unset, _, h => nomatch h
  | .nested p, _, h => p.nodes_subset h
  | .literal _, _, h => nomatch h

/-- The nodes of a node of a tree are nodes of the tree. -/
theorem Predicate.nodes_subset : ∀ (p : Predicate) {q : Predicate}, q ∈ p.nodes → q.nodes ⊆ p.nodes
  | p, q, h => by
    rcases List.mem_cons.1 h with rfl | h
    · exact List.Subset.refl _
    · exact List.subset_cons_of_subset p (p.inner_subset h)

theorem Predicate.inner_subset : ∀ (p : Predicate) {q : Predicate},
    q ∈ p.inner → q.nodes ⊆ p.inner
  | .unary _ x, _, h => x.nodes_subset h
  | .binary _ left right, _, h => by
    rcases List.mem_append.1 h with h | h
    · exact List.subset_append_of_subset_left _ (left.nodes_subset h)
    · exact List.subset_append_of_subset_right _ (right.nodes_subset h)
  | .boolean _ xs, _, h => Operand.allNodes_subset xs h
  | .property _ (some x), _, h => x.nodes_subset h
  | .shift _ x, _, h => x.nodes_subset h
  | .property _ none, _, h => nomatch h
  | .charset .., _, h => nomatch h
  | .regex .., _, h => nomatch h
  | .unset, _, h => nomatch h
  | .type _, _, h => nomatch h
  | .string _, _, h => nomatch h
  | .compare .., _, h => nomatch h
  | .member _, _, h => nomatch h
  | .function .., _, h => nomatch h

theorem Operand.allNodes_subset : ∀ (xs : List Operand) {q : Predicate},
    q ∈ Operand.allNodes xs → q.nodes ⊆ Operand.allNodes xs
  | [], _, h => nomatch h
  | x :: rest, _, h => by
    rcases List.mem_append.1 h with h | h
    · exact List.subset_append_of_subset_left _ (x.nodes_subset h)
    · exact List.subset_append_of_subset_right _ (Operand.allNodes_subset rest h)

end

/-! ## Questions -/

mutual

@[simp] theorem Operand.precedence_bare : ∀ x : Operand, x.bare.precedence = x.precedence
  | .unset => rfl
  | .nested p => by
    simp only [Operand.bare, Operand.precedence, Predicate.precedence_bare p]
  | .literal _ => rfl

@[simp] theorem Predicate.precedence_bare : ∀ p : Predicate, p.bare.precedence = p.precedence
  | .shift _ x => by
    simp only [Predicate.bare, Predicate.precedence, Operand.precedence_bare x]
  | .charset .. => rfl
  | .regex .. => rfl
  | .unary .. => rfl
  | .binary .. => rfl
  | .boolean .. => rfl
  | .property _ none => rfl
  | .property _ (some _) => rfl
  | .unset => rfl
  | .type _ => rfl
  | .string _ => rfl
  | .compare .. => rfl
  | .member _ => rfl
  | .function .. => rfl

end

mutual

@[simp] theorem Operand.argCount_bare : ∀ x : Operand, x.bare.argCount = x.argCount
  | .unset => rfl
  | .nested p => by simp only [Operand.bare, Operand.argCount, Predicate.argCount_bare p]
  | .literal _ => rfl

@[simp] theorem Predicate.argCount_bare : ∀ p : Predicate, p.bare.argCount = p.argCount
  | .unary _ x => by simp only [Predicate.bare, Predicate.argCount, Operand.argCount_bare x]
  | .binary _ left right => by
    simp only [Predicate.bare, Predicate.argCount, Operand.argCount_bare left,
      Operand.argCount_bare right]
  | .boolean _ xs => by simp only [Predicate.bare, Predicate.argCount, Operand.argCounts_bare xs]
  | .shift _ x => by simp only [Predicate.bare, Predicate.argCount, Operand.argCount_bare x]
  | .charset .. => rfl
  | .regex .. => rfl
  | .property _ none => rfl
  | .property _ (some _) => rfl
  | .unset => rfl
  | .type _ => rfl
  | .string _ => rfl
  | .compare .. => rfl
  | .member _ => rfl
  | .function .. => rfl

theorem Operand.argCounts_bare : ∀ xs : List Operand,
    Operand.argCounts (Operand.allBare xs) = Operand.argCounts xs
  | [] => rfl
  | x :: rest => by
    simp only [Operand.allBare, Operand.argCounts, Operand.argCount_bare x,
      Operand.argCounts_bare rest]

end

namespace Predicate

@[simp] theorem kind_bare (p : Predicate) : p.bare.kind = p.kind := by
  cases p with
  | property _ filter => cases filter <;> rfl
  | _ => rfl

@[simp] theorem keys_bare (p : Predicate) : p.bare.keys = p.keys := by
  cases p with
  | property _ filter => cases filter <;> rfl
  | boolean op xs => simp only [bare, keys, Operand.allBare_eq_map, List.length_map]
  | _ => rfl

@[simp] theorem directArgCount_bare (p : Predicate) : p.bare.directArgCount = p.directArgCount := by
  cases p with
  | property _ filter => cases filter <;> rfl
  | unary op x => simp only [bare, directArgCount, Operand.directArgCount, Operand.isUnset_bare]
  | binary op left right =>
    simp only [bare, directArgCount, Operand.directArgCount, Operand.isUnset_bare]
  | boolean op xs =>
    have hunset : Operand.isUnset ∘ Operand.bare = Operand.isUnset := by
      funext x
      exact x.isUnset_bare
    simp only [bare, directArgCount, Operand.allBare_eq_map, List.filter_map, hunset,
      List.length_map]
  | _ => rfl

/-- The operands of a node without cells are its operands, without cells. -/
theorem values_bare (p : Predicate) :
    p.bare.values.map Operand.allBare = p.values.map Operand.allBare := by
  cases p with
  | property _ filter =>
    cases filter with
    | none => rfl
    | some x => simp [bare, values, Except.map, Operand.allBare, Operand.bare]
  | _ => simp [bare, values, Except.map, Operand.allBare, Operand.allBare_allBare]

end Predicate

/-! ## Source -/

@[simp] theorem needsParens_bare (operator : Precedence) (x : Operand) (position : Position) :
    needsParens operator x.bare position = needsParens operator x position := by
  simp only [needsParens, Operand.precedence_bare, Position.needsParens,
    Operand.isNegativeNumber_bare]

namespace Render

@[simp] theorem wrap_bare (operator : Precedence) (x : Operand) (position : Position)
    (text : String) : wrap operator x.bare position text = wrap operator x position text := by
  simp only [wrap, needsParens_bare]

@[simp] theorem onOwnNames_bare (p : Predicate) (body : Naming String) :
    onOwnNames p.bare body = onOwnNames p body := by
  simp only [onOwnNames, Predicate.argCount_bare, Predicate.precedence_bare]

mutual

theorem operand_bare (s : Store) (hint : String) : ∀ x : Operand,
    operand s hint x.bare = operand s hint x
  | .unset => rfl
  | .nested p => by simp only [Operand.bare, operand, predicate_bare s p]
  | .literal _ => rfl

/-- A tree is written without a look at its cells. -/
theorem predicate_bare (s : Store) : ∀ p : Predicate, predicate s p.bare = predicate s p
  | .unary op x => by
    cases op <;> simp only [Predicate.bare, predicate, operand_bare s _ x, wrap_bare]
  | .binary op left right => by
    cases op <;> simp only [Predicate.bare, predicate, operand_bare s _ left,
      operand_bare s _ right, wrap_bare]
  | .boolean op [] => rfl
  | .boolean op (x :: rest) => by
    have hchain := chain_bare s op.precedence (x :: rest)
    rw [Operand.allBare] at hchain
    simp only [Predicate.bare, Operand.allBare, predicate, hchain]
  | .property name none => rfl
  | .property name (some .unset) => rfl
  | .property name (some (.literal _)) => rfl
  | .property name (some (.nested p)) => by
    simp only [Predicate.bare, Operand.bare, predicate, predicate_bare s p, onOwnNames_bare]
  | .shift count x => by simp only [Predicate.bare, predicate, operand_bare s _ x]
  | .charset .. => rfl
  | .regex .. => rfl
  | .unset => rfl
  | .type _ => rfl
  | .string _ => rfl
  | .compare .. => rfl
  | .member _ => rfl
  | .function .. => rfl

theorem chain_bare (s : Store) (operator : Precedence) : ∀ xs : List Operand,
    chain s operator (Operand.allBare xs) = chain s operator xs
  | [] => rfl
  | x :: rest => by
    simp only [Operand.allBare, chain, operand_bare s _ x, chain_bare s operator rest, wrap_bare]

end

end Render

namespace Predicate

@[simp] theorem toSource_bare (s : Store) (p : Predicate) : p.bare.toSource s = p.toSource s := by
  rw [toSource, toSource, Render.onOwnNames_bare, Render.predicate_bare]

@[simp] theorem toSourceOn_bare (s : Store) (p : Predicate) :
    p.bare.toSourceOn s = p.toSourceOn s := by
  simp only [toSourceOn, Render.predicate_bare, precedence_bare]

end Predicate

end Criteria
