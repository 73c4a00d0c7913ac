import Criteria.Proofs.Render.Body
import Criteria.Proofs.Render.Capacity
import Criteria.Proofs.Render.Splice

/-!
# Functions under a header

A function without source text is written by its name, and the parameters of a header are named by their
places alone. A function whose name is one of the first letter names is taken for an argument: the header
binds its name.

* `Predicate.callees` — the functions that a tree writes by name to call them or to test against them.
* `Occurs` — a text stands somewhere in another one.

Principal results:

* `callee_mem_letterNames_iff` — the functions whose names are letter names.
* `Predicate.occurs_callee` — the functions that a tree writes by name do stand in its body.
* `eval_passing_iff` — when a function that hands its arguments on calls what is outside of it.
* `header_captures_iff` — which functions a header binds, and what its words refer to.
* `header_captures_native` — a function that is called on itself.
-/

set_option autoImplicit false

namespace Criteria

open Grammar Naming ParamNames Render

variable {s : Store}

/-! ## Functions that are written by name -/

/-- The value if it is a function without source. -/
def Value.native : Value → List Function
  | .function f => if f.source.isNone then [f] else []
  | _ => []

mutual

/-- The functions that an operand writes by name. -/
def Operand.callees : Operand → List Function
  | .unset => []
  | .nested p => p.callees
  | .literal v => v.native

/-- The functions that a tree writes by name: as the callable of a node, as an operand, as a filter, or as
a constructor. Those in filters that are trees are not among them. -/
def Predicate.callees : Predicate → List Function
  | .unary _ x => x.callees
  | .binary _ left right => left.callees ++ right.callees
  | .boolean _ xs => Operand.allCallees xs
  | .compare .instanceOf stored => stored.native
  | .property _ (some (.literal v)) => v.native
  | .shift _ x => x.callees
  | .function f _ _ => (Value.function f).native
  | _ => []

/-- The functions that some operands write by name. -/
def Operand.allCallees : List Operand → List Function
  | [] => []
  | x :: rest => x.callees ++ Operand.allCallees rest

end

/-- The functions that are written by name anywhere in a tree, filters included. -/
def Predicate.natives (p : Predicate) : List Function := (p :: p.filterTrees).flatMap callees

theorem Value.source_of_mem_native {v : Value} {f : Function} (h : f ∈ v.native) :
    v = .function f ∧ f.source = none := by
  cases v with
  | function g =>
    rw [native] at h
    split at h
    · rename_i hnone
      rw [List.mem_singleton.1 h]
      exact ⟨rfl, Option.isNone_iff_eq_none.1 hnone⟩
    · cases h
  | _ => cases h

mutual

theorem Operand.source_of_mem_callees : ∀ {x : Operand} {f : Function}, f ∈ x.callees →
    f.source = none
  | .unset, _, h => nomatch h
  | .nested _, _, h => by
    rw [Operand.callees] at h
    exact Predicate.source_of_mem_callees h
  | .literal _, _, h => (Value.source_of_mem_native h).2

theorem Predicate.source_of_mem_callees : ∀ {p : Predicate} {f : Function}, f ∈ p.callees →
    f.source = none
  | .unary _ _, _, h | .shift _ _, _, h => by
    rw [Predicate.callees] at h
    exact Operand.source_of_mem_callees h
  | .binary _ _ _, _, h => by
    rw [Predicate.callees, List.mem_append] at h
    exact h.elim Operand.source_of_mem_callees Operand.source_of_mem_callees
  | .boolean _ _, _, h => by
    rw [Predicate.callees] at h
    exact Operand.source_of_mem_allCallees h
  | .compare .instanceOf _, _, h | .property _ (some (.literal _)), _, h =>
    (Value.source_of_mem_native h).2
  | .function f _ _, _, h => (Value.source_of_mem_native (v := .function f) h).2
  | .unset, _, h | .type _, _, h | .charset .., _, h | .string _, _, h | .regex .., _, h
  | .compare .equal _, _, h | .compare .prototypeIs _, _, h | .property _ none, _, h
  | .property _ (some .unset), _, h | .property _ (some (.nested _)), _, h | .member _, _, h =>
    nomatch h

theorem Operand.source_of_mem_allCallees : ∀ {xs : List Operand} {f : Function},
    f ∈ Operand.allCallees xs → f.source = none
  | [], _, h => nomatch h
  | _ :: _, _, h => by
    rw [Operand.allCallees, List.mem_append] at h
    exact h.elim Operand.source_of_mem_callees Operand.source_of_mem_allCallees

end

theorem Predicate.source_of_mem_natives {p : Predicate} {f : Function} (h : f ∈ p.natives) :
    f.source = none := by
  obtain ⟨q, -, hf⟩ := List.mem_flatMap.1 h
  exact source_of_mem_callees hf

/-! ## Names that are letter names -/

theorem letterName_ne_empty (i : Nat) : letterName i ≠ "" := by
  intro h
  have hlist := congrArg String.toList h
  rw [toList_letterName] at hlist
  cases hlist

theorem letterName_ne_anonymous (i : Nat) : letterName i ≠ "anonymous" := by
  intro h
  have hlist := congrArg String.toList h
  have hword : "anonymous".toList = 'a' :: 'n' :: "onymous".toList := rfl
  rw [toList_letterName, hword, List.cons.injEq] at hlist
  obtain ⟨-, hround⟩ := hlist
  split at hround
  · cases hround
  · have hn : 'n' ∈ Nat.toDigits 10 (i / 26) := hround ▸ List.mem_cons_self
    exact absurd (Nat.isDigit_of_mem_toDigits (by decide) (by decide) hn) (by decide)

/-- The word that stands for a function without source is a letter name when its name is. -/
theorem callee_eq_letterName_iff {f : Function} (hf : f.source = none) (i : Nat) :
    callee f = letterName i ↔ f.name = letterName i := by
  rw [callee, hf]
  dsimp only
  split
  · rename_i hempty
    have hname : f.name = "" := String.isEmpty_iff.1 hempty
    rw [hname]
    exact iff_of_false (letterName_ne_anonymous i).symm (letterName_ne_empty i).symm
  · exact Iff.rfl

/-- Which functions a header of letter names binds. -/
theorem callee_mem_letterNames_iff {f : Function} (hf : f.source = none) (n : Nat) :
    callee f ∈ letterNames n ↔ ∃ i < n, f.name = letterName i := by
  simp only [letterNames, List.mem_map, List.mem_range, ← callee_eq_letterName_iff hf, eq_comm]

theorem bindParams_letterName {V : Type} (env : String → V) {n i : Nat} (hi : i < n)
    (args : Nat → V) : bindParams env (letterNames n) args (letterName i) = args i := by
  have hlength : i < (letterNames n).length := by
    rwa [length_letterNames]
  have hget : (letterNames n)[i] = letterName i := by
    simp only [letterNames, List.getElem_map, List.getElem_range]
  have hindex := (nodup_letterNames n).idxOf_getElem i hlength
  rw [hget] at hindex
  rw [bindParams, if_pos (hget ▸ List.getElem_mem hlength), hindex]

/-- A word refers to what it refers to outside of a header exactly when the header does not bind it. -/
theorem bindParams_eq_iff {xs : List String} {x : String} :
    (∀ (V : Type) (env : String → V) (args : Nat → V), bindParams env xs args x = env x) ↔ x ∉ xs := by
  constructor
  · intro h hx
    have hsame := h Bool (fun _ => true) fun _ => false
    rw [bindParams, if_pos hx] at hsame
    cases hsame
  · intro hx V env args
    exact bindParams_of_notMem hx

/-! ## The names in the body -/

/-- The text stands somewhere in another one. -/
def Occurs (part text : String) : Prop := ∃ before after, text = before ++ (part ++ after)

namespace Occurs

variable {part text : String}

theorem refl (part : String) : Occurs part part := ⟨"", "", by simp⟩

theorem append_left (h : Occurs part text) (l : String) : Occurs part (l ++ text) := by
  obtain ⟨before, after, rfl⟩ := h
  exact ⟨l ++ before, after, by simp [String.append_assoc]⟩

theorem append_right (h : Occurs part text) (r : String) : Occurs part (text ++ r) := by
  obtain ⟨before, after, rfl⟩ := h
  exact ⟨before, after ++ r, by simp [String.append_assoc]⟩

theorem wrapped (h : Occurs part text) (operator : Precedence) (x : Operand) (position : Position) :
    Occurs part (Render.wrapped operator x position text) := by
  rw [Render.wrapped]
  split
  · exact (h.append_left _).append_right _
  · exact h

theorem intercalate {parts : List String} (hmem : text ∈ parts) (h : Occurs part text)
    (sep : String) : Occurs part (String.intercalate sep parts) := by
  induction parts with
  | nil => cases hmem
  | cons first rest ih =>
    cases rest with
    | nil =>
      rw [List.mem_singleton.1 hmem] at h
      rwa [String.intercalate_singleton]
    | cons second rest =>
      rw [String.intercalate_cons_cons]
      rcases List.mem_cons.1 hmem with rfl | hmem
      · exact (h.append_right _).append_right _
      · exact (ih hmem).append_left _

end Occurs

mutual

theorem Operand.occurs_callee : ∀ {x : Operand} {f : Function}, f ∈ x.callees → ∀ names,
    Occurs (callee f) (x.body s names)
  | .unset, _, h, _ => nomatch h
  | .nested _, _, h, names => by
    rw [Operand.callees] at h
    exact Predicate.occurs_callee h names
  | .literal _, _, h, names => by
    obtain ⟨rfl, -⟩ := Value.source_of_mem_native h
    exact (Occurs.refl _).append_right _

/-- A function that a tree writes by name stands in its body. -/
theorem Predicate.occurs_callee : ∀ {p : Predicate} {f : Function}, f ∈ p.callees → ∀ names,
    Occurs (callee f) (p.body s names)
  | .unary op x, _, h, names => by
    rw [Predicate.callees] at h
    have hx := Operand.occurs_callee h names
    cases op with
    | sqrt => exact (hx.append_left _).append_right _
    | _ => exact (hx.wrapped _ _ _).append_left _
  | .binary op left right, _, h, names => by
    rw [Predicate.callees, List.mem_append] at h
    rcases h with h | h
    · have hl := Operand.occurs_callee h names
      cases op with
      | atan2 => exact (((hl.append_left _).append_right _).append_right _).append_right _
      | _ => exact ((((hl.wrapped _ _ _).append_right _).append_right _).append_right _).append_right _
    · have hr := Operand.occurs_callee h (names.drop left.slots)
      cases op with
      | atan2 => exact (hr.append_left _).append_right _
      | _ => exact (hr.wrapped _ _ _).append_left _
  | .boolean op (x :: rest), _, h, names => by
    rw [Predicate.callees] at h
    obtain ⟨text, htext, hoccurs⟩ := Operand.occurs_allCallees op.precedence h names
    exact hoccurs.intercalate htext _
  | .compare .instanceOf _, _, h, _ => by
    obtain ⟨rfl, -⟩ := Value.source_of_mem_native h
    exact (Occurs.refl _).append_left _
  | .property _ (some (.literal _)), f, h, names => by
    obtain ⟨rfl, hsource⟩ := Value.source_of_mem_native h
    rw [Predicate.body, appliedFunction, hsource]
    exact (((Occurs.refl _).append_right _).append_right _).append_right _
  | .shift count x, _, h, names => by
    rw [Predicate.callees] at h
    exact Operand.occurs_callee h (names.drop count)
  | .function f receiver arity, _, h, names => by
    obtain ⟨hf, -⟩ := Value.source_of_mem_native (v := .function f) h
    cases hf
    rw [Predicate.body, functionCall]
    split
    · exact (((Occurs.refl _).append_right _).append_right _).append_right _
    · exact (((Occurs.refl _).append_right _).append_right _).append_right _
  | .unset, _, h, _ | .type _, _, h, _ | .charset .., _, h, _ | .string _, _, h, _
  | .regex .., _, h, _ | .boolean _ [], _, h, _ | .compare .equal _, _, h, _
  | .compare .prototypeIs _, _, h, _ | .property _ none, _, h, _ | .property _ (some .unset), _, h, _
  | .property _ (some (.nested _)), _, h, _ | .member _, _, h, _ => nomatch h

theorem Operand.occurs_allCallees (operator : Precedence) : ∀ {xs : List Operand} {f : Function},
    f ∈ Operand.allCallees xs → ∀ names,
      ∃ text ∈ Operand.bodies s operator xs names, Occurs (callee f) text
  | [], _, h, _ => nomatch h
  | x :: rest, _, h, names => by
    rw [Operand.allCallees, List.mem_append] at h
    rw [Operand.bodies]
    rcases h with h | h
    · exact ⟨_, List.mem_cons_self, (Operand.occurs_callee h names).wrapped _ _ _⟩
    · obtain ⟨text, htext, hoccurs⟩ := Operand.occurs_allCallees operator h (names.drop x.slots)
      exact ⟨text, List.mem_cons_of_mem _ htext, hoccurs⟩

end

/-! ## The source of a function node -/

namespace Grammar

/-- A name alone. -/
def Phrase.ofName (x : String) : Phrase := .chain (.last (.atom (.name x)))

/-- The function that passes its arguments on to another one, under a header of names. -/
def Phrase.passing (callee : String) (xs : List String) : Phrase :=
  .arrow (.listed xs) (.chain (.last (.atom (.call (.name callee) (xs.map .ofName)))))

theorem Phrase.allTokens_ofName : ∀ xs : List String,
    Phrase.allTokens (xs.map .ofName) = Params.list xs
  | [] => rfl
  | [_] => rfl
  | x :: y :: rest => by
    have hrest := Phrase.allTokens_ofName (y :: rest)
    rw [List.map_cons] at hrest
    rw [List.map_cons, List.map_cons, Phrase.allTokens, hrest, Params.list_cons_cons]
    rfl

theorem allValues_ofName {V : Type} (I : Interpretation V) (xs : List String) (env : String → V) :
    Phrase.allValues I (xs.map .ofName) env = xs.map env := by
  induction xs with
  | nil => rfl
  | cons x rest ih =>
    rw [List.map_cons, Phrase.allValues, ih]
    rfl

theorem Params.list_ne_nil (x : String) (xs : List String) : Params.list (x :: xs) ≠ [] := by
  cases xs with
  | nil => exact List.cons_ne_nil _ _
  | cons y rest => rw [list_cons_cons]; exact List.cons_ne_nil _ _

/-- Names with commas between them are read as such. -/
theorem reads_list : ∀ {xs : List String}, (∀ x ∈ xs, isName x) → ∀ {k : List Char}, EndsWord k →
    Reads ((String.intercalate ", " xs).toList ++ k) (Params.list xs) k
  | [], _, k, _ => .nil k
  | [x], hxs, k, hk => by
    rw [String.intercalate_singleton]
    exact .one (Access.read_name (hxs x (List.mem_singleton_self x)) hk)
  | x :: y :: rest, hxs, k, hk => by
    rw [List.forall_mem_cons] at hxs
    have hrest := reads_list hxs.2 hk
    have htext : (String.intercalate ", " (x :: y :: rest)).toList ++ k =
        x.toList ++ ',' :: ([' '] ++ ((String.intercalate ", " (y :: rest)).toList ++ k)) := by
      rw [String.intercalate_cons_cons]
      simp [String.toList_append]
    have hname := Access.read_name hxs.1
      (k := ',' :: ([' '] ++ ((String.intercalate ", " (y :: rest)).toList ++ k)))
      (by intro c hc; cases hc; decide)
    rw [htext, Params.list_cons_cons]
    exact .cons hname (.cons rfl (hrest.blank_append isBlank_space (Params.list_ne_nil y rest)))

/-- A function that passes its arguments on is read as one. -/
theorem readsAs_passing {callee : String} (hcallee : isName callee) {xs : List String}
    (hxs : ∀ x ∈ xs, isName x) :
    ReadsAs ("(" ++ String.intercalate ", " xs ++ ") => " ++
      (callee ++ "(" ++ String.intercalate ", " xs ++ ")")) (.passing callee xs) := by
  refine ⟨[], ?_, rfl⟩
  have hargs : Reads ((String.intercalate ", " xs).toList ++ [')']) (Params.list xs) [')'] :=
    reads_list hxs (by intro c hc; cases hc; decide)
  have hcall : Reads (callee.toList ++ '(' :: ((String.intercalate ", " xs).toList ++ [')']))
      (.name callee :: .symbol "(" :: (Params.list xs ++ [.symbol ")"])) [] :=
    .cons (Access.read_name hcallee (by intro c hc; cases hc; decide))
      (.cons rfl (hargs.append (.one rfl)))
  have hheader := reads_list hxs (k := ") => ".toList ++ (callee.toList ++ '(' ::
    ((String.intercalate ", " xs).toList ++ [')']))) (by intro c hc; cases hc; decide)
  have htext : ("(" ++ String.intercalate ", " xs ++ ") => " ++
      (callee ++ "(" ++ String.intercalate ", " xs ++ ")")).toList =
      '(' :: ((String.intercalate ", " xs).toList ++ (") => ".toList ++ (callee.toList ++ '(' ::
        ((String.intercalate ", " xs).toList ++ [')'])))) := by
    simp [String.toList_append]
  have hspace := hcall.blank_append isBlank_space (List.cons_ne_nil _ _)
  rw [htext, Phrase.passing, Phrase.tokens, Phrase.tokens, Chain.tokens, Factor.tokens, Atom.tokens,
    Atom.tokens, Phrase.allTokens_ofName, Params.tokens, ← Params.list, List.cons_append,
    List.append_assoc]
  exact .cons rfl (hheader.append (.cons rfl (.cons rfl hspace)))

/-- It calls what its callee refers to under the header. -/
theorem eval_passing {V : Type} (I : Interpretation V) (callee : String) (n : Nat)
    (env : String → V) : (Phrase.passing callee (letterNames n)).eval I env = I.lambda n fun args =>
      I.call (bindParams env (letterNames n) args callee) ((List.range n).map args) := by
  have hargs : ∀ args : Nat → V, (letterNames n).map (bindParams env (letterNames n) args) =
      (List.range n).map args := by
    intro args
    rw [letterNames, List.map_map]
    refine List.map_congr_left fun i hi => ?_
    exact bindParams_letterName env (List.mem_range.1 hi) args
  rw [Phrase.passing, Phrase.eval, Params.names, length_letterNames]
  refine congrArg (I.lambda n) (funext fun args => ?_)
  rw [← hargs args, ← allValues_ofName I]
  rfl

/-- It calls the callee of the surroundings exactly when the header does not bind it. -/
theorem eval_passing_iff (callee : String) (n : Nat) :
    (∀ (V : Type) (I : Interpretation V) (env : String → V),
      (Phrase.passing callee (letterNames n)).eval I env =
        I.lambda n fun args => I.call (env callee) ((List.range n).map args)) ↔
      callee ∉ letterNames n := by
  rw [← bindParams_eq_iff]
  constructor
  · intro h V env args
    -- A call gives the callee itself, and a function is called on the arguments at hand.
    let I : Interpretation V := ⟨fun _ => env callee, fun _ => env callee, fun v _ => v, fun v _ => v,
      fun v _ => v, fun _ v => v, fun _ _ => env callee, fun _ f => f args⟩
    have hcall := h V I env
    rw [eval_passing] at hcall
    exact hcall
  · intro h V I env
    rw [eval_passing]
    refine congrArg (I.lambda n) (funext fun args => ?_)
    rw [h]

end Grammar

/-- The source of a node that calls a function without source on its arguments. -/
theorem Predicate.toSource_functionNode {f : Function} (hf : f.source = none) (hname : isName f.name)
    {n : Nat} {src : Source} (h : (Predicate.function f .undefined n).toSource s = .ok src) :
    callee f = f.name ∧ ReadsAs src.text (.passing f.name (letterNames n)) := by
  have hcallee : callee f = f.name := by
    rw [callee, hf]
    dsimp only
    split
    · rename_i hempty
      rw [String.isEmpty_iff.1 hempty] at hname
      exact absurd hname (by decide)
    · rfl
  refine ⟨hcallee, ?_⟩
  have harrow := toSource_eq_arrow (p := .function f .undefined n) rfl h
  have htake : (letterNames n).take n = letterNames n :=
    List.take_of_length_le (Nat.le_of_eq (length_letterNames n))
  have htext : src.text = "(" ++ String.intercalate ", " (letterNames n) ++ ") => " ++
      (f.name ++ "(" ++ String.intercalate ", " (letterNames n) ++ ")") := by
    have hparts : (Predicate.function f .undefined n).arrow s =
        ⟨letterNames n, functionCall s f .undefined ((letterNames n).take n), .memberAccess⟩ := rfl
    rw [harrow, hparts, htake, ← hcallee]
    rfl
  rw [htext]
  exact readsAs_passing hname fun x hx => isName_of_mem_letterNames hx

/-- **Which functions a header binds.** The parameters of a source are the first letter names, one for
each argument, whatever the functions in the tree are called. So a function that is written by name is
bound exactly when its name is one of these letter names, and then the word in the body is an argument;
any other word refers to what is outside. The source of a function node calls the function exactly when
its name is not bound. -/
theorem header_captures_iff (s : Store) (t : Predicate) (ht : t.isComplete) (src : Source)
    (hsrc : t.toSource s = .ok src) : ∃ count, t.argCount = .ok count ∧
      (∀ f ∈ t.callees, Occurs (callee f) src.body) ∧
      (∀ f ∈ t.natives, callee f ∈ src.params ↔ ∃ i < count, f.name = letterName i) ∧
      (∀ i < count, ∀ (V : Type) (env : String → V) (args : Nat → V),
        bindParams env src.params args (letterName i) = args i) ∧
      (∀ f ∈ t.natives, (∀ (V : Type) (env : String → V) (args : Nat → V),
        bindParams env src.params args (callee f) = env (callee f)) ↔ callee f ∉ src.params) ∧
      ∀ f n, t = .function f .undefined n → f.source = none → isName f.name →
        ∃ e, (∀ e', ReadsAs src.text e' ↔ e' = e) ∧
          ((∀ (V : Type) (I : Interpretation V) (env : String → V), e.eval I env =
            I.lambda n fun args => I.call (env (callee f)) ((List.range n).map args)) ↔
            callee f ∉ src.params) := by
  obtain ⟨hcount, hparams, -⟩ := Predicate.toSource_params ht hsrc
  have harrow := Predicate.toSource_eq_arrow ht hsrc
  rw [hparams]
  refine ⟨t.slots, hcount, fun f hf => ?_, fun f hf => ?_, fun i hi V env args => ?_,
    fun f _ => bindParams_eq_iff, ?_⟩
  · rw [harrow]
    exact Predicate.occurs_callee hf _
  · exact callee_mem_letterNames_iff (Predicate.source_of_mem_natives hf) _
  · exact bindParams_letterName env hi args
  · rintro f n rfl hf hname
    obtain ⟨hcallee, hreads⟩ := Predicate.toSource_functionNode hf hname hsrc
    refine ⟨_, fun e' => hreads.iff_eq, ?_⟩
    rw [hcallee]
    exact eval_passing_iff f.name n

/-- A function named `b` in a filter. The header of the filter has one parameter and does not bind it, so
the filter alone calls the function; the header around it has two parameters, and the second is `b`. -/
theorem header_captures_iff_filter :
    let f : Function := ⟨"b", 1, ⟨0⟩, none, none⟩
    let filter : Predicate := .function f .undefined 1
    let t : Predicate := .binary .add (.nested (.property (some "x") (some (.nested filter)))) .unset
    t.isComplete ∧ t.argCount = .ok 2 ∧ f ∈ t.natives ∧
      t.toSource {} = .ok ⟨["a", "b"], "((a) => b(a))(a.x) + b", .additive⟩ ∧
      callee f ∈ ["a", "b"] ∧ filter.toSource {} = .ok ⟨["a"], "b(a)", .memberAccess⟩ ∧
      callee f ∉ ["a"] ∧ ∃ e, (∀ e', ReadsAs "(a) => b(a)" e' ↔ e' = e) ∧
        ∀ (V : Type) (I : Interpretation V) (env : String → V),
          e.eval I env = I.lambda 1 fun args => I.call (env "b") [args 0] := by
  intro f filter t
  have hsrc : (Predicate.binary .add (.nested (.property (some "x") (some (.nested
      (.function ⟨"b", 1, ⟨0⟩, none, none⟩ .undefined 1))))) .unset).toSource {} =
      .ok ⟨["a", "b"], "((a) => b(a))(a.x) + b", .additive⟩ := by decide +kernel
  have hfilter : filter.toSource {} = .ok ⟨["a"], "b(a)", .memberAccess⟩ := by rfl
  have hmem : f ∈ t.natives := List.mem_flatMap.2 ⟨filter, by simp [t, Predicate.filterTrees,
    Operand.filterTrees], List.mem_singleton_self f⟩
  obtain ⟨_, hcount, -, hcaptured, -⟩ := header_captures_iff {} t rfl _ hsrc
  cases hcount
  obtain ⟨_, -, -, -, -, -, hnode⟩ := header_captures_iff {} filter rfl _ hfilter
  obtain ⟨e, hreads, hcalls⟩ := hnode f 1 rfl rfl (by decide)
  have hfree : callee f ∉ ["a"] := by decide
  exact ⟨rfl, rfl, hmem, hsrc, (hcaptured f hmem).2 ⟨1, by decide, rfl⟩, hfilter, hfree, e, hreads,
    hcalls.2 hfree⟩

/-- **A function that is called on itself.** The name of the function is the name of its argument: the
source calls its argument, whatever the name refers to elsewhere. Under another name the same function is
called on the argument. -/
theorem header_captures_native :
    let node (name : String) : Predicate := .function ⟨name, 1, ⟨0⟩, none, none⟩ .undefined 1
    let e : Phrase := .passing "a" ["a"]
    (node "a").toSource {} = .ok ⟨["a"], "a(a)", .memberAccess⟩ ∧
      (node "f").toSource {} = .ok ⟨["a"], "f(a)", .memberAccess⟩ ∧
      callee ⟨"a", 1, ⟨0⟩, none, none⟩ ∈ ["a"] ∧ ReadsAs "(a) => a(a)" e ∧
      ReadsAs "(a) => f(a)" (.passing "f" ["a"]) ∧
      (∀ (V : Type) (I : Interpretation V) (env : String → V),
        e.eval I env = I.lambda 1 fun args => I.call (args 0) [args 0]) ∧
      ¬∀ (V : Type) (I : Interpretation V) (env : String → V),
        e.eval I env = I.lambda 1 fun args => I.call (env "a") [args 0] := by
  intro node e
  have hown : ReadsAs "(a) => a(a)" e := @readsAs_passing "a" (by decide) ["a"] (by decide)
  have hother : ReadsAs "(a) => f(a)" (.passing "f" ["a"]) :=
    @readsAs_passing "f" (by decide) ["a"] (by decide)
  refine ⟨by rfl, by rfl, by decide, hown, hother, fun V I env => eval_passing I "a" 1 env,
    fun h => ?_⟩
  exact (eval_passing_iff "a" 1).1 h (by decide)

end Criteria
