import Criteria.Proofs.Render.Parameters
import Criteria.Proofs.Render.Shows

/-!
# Reading undoes writing

* `shows_predicate` — the source of a formula is read as the expression of the formula, at the level
  of its outermost operator.
* `succeeds_predicate` — writing a formula succeeds where there are names enough.
* `parses_toSource` — the body of the source of a formula is that expression and no other.
-/

set_option autoImplicit false

namespace Criteria

open Grammar Naming ParamNames

/-! ## Writing a formula -/

theorem ParamNames.Advance.since_zero {n : Nat} {ns ns' : ParamNames} (h : Advance n ns ns') :
    ns.since 0 <+: ns'.since 0 := by
  unfold ParamNames.since
  rw [List.drop_zero, List.drop_zero, List.prefix_take_iff, List.length_take, h.position]
  exact ⟨(List.take_prefix _ _).trans h.names, by omega⟩

/-- The name that is handed out stands at the position. -/
theorem Naming.getElem?_next {hint name : String} {ns ns' : ParamNames} (hns : ns.Valid)
    (h : (next hint).run ns = .ok name ns') : (ns'.since 0)[ns.position]? = some name := by
  unfold ParamNames.since
  rcases Nat.eq_or_lt_of_le hns.position with hend | hlt
  · rw [run_next_of_eq hint hend] at h
    split at h <;> cases h
    simp [hend]
  · rw [run_next_of_lt hint hlt] at h
    cases h
    simp [hlt]

theorem run_wrap {operator q : Precedence} {x : Operand} (hq : x.precedence = .ok q)
    (position : Position) (text : String) (ns : ParamNames) :
    (Render.wrap operator x position text).run ns =
      .ok (atPosition operator x position q text) ns := by
  have hneeds : needsParens operator x position = .ok (position.needsParens operator q x) := by
    unfold needsParens
    rw [hq]
    rfl
  unfold Render.wrap atPosition
  have hrun : (Naming.ofExcept (.ok (position.needsParens operator q x))).run ns =
      .ok (position.needsParens operator q x) ns := rfl
  rw [hneeds, run_bind_ok hrun]
  split <;> rfl

/-- Parentheses take no name. -/
theorem names_of_wrap {operator : Precedence} {x : Operand} {position : Position}
    {text text' : String} {ns ns' : ParamNames}
    (h : (Render.wrap operator x position text).run ns = .ok text' ns') : ns' = ns := by
  unfold Render.wrap at h
  obtain ⟨needed, ns₁, hneeded, h⟩ := ok_of_bind h
  have hnames : ns₁ = ns := by
    cases hx : needsParens operator x position <;> rw [hx] at hneeded <;> cases hneeded
    rfl
  rw [← hnames]
  split at h <;> cases h <;> rfl

theorem text_of_wrap {operator q : Precedence} {x : Operand} (hq : x.precedence = .ok q)
    {position : Position} {text text' : String} {ns ns' : ParamNames}
    (h : (Render.wrap operator x position text).run ns = .ok text' ns') :
    text' = atPosition operator x position q text := by
  rw [run_wrap hq] at h
  cases h
  rfl

theorem predicate_unary (s : Store) {op : UnaryOp} (hop : op ≠ .sqrt) (x : Operand) :
    Render.predicate s (.unary op x) = (do
      let text ← Render.operand s "value" x
      return op.symbol ++ (← Render.wrap .unary x .operand text)) := by
  cases op <;> first | rfl | exact absurd rfl hop

theorem predicate_binary (s : Store) {op : BinaryOp} (hop : op ≠ .atan2) (left right : Operand) :
    Render.predicate s (.binary op left right) = (do
      let l ← Render.wrap op.precedence left .left (← Render.operand s "value" left)
      let r ← Render.wrap op.precedence right .right (← Render.operand s "value" right)
      return l ++ " " ++ op.symbol ++ " " ++ r) := by
  cases op <;> first | rfl | exact absurd rfl hop

theorem isName_next {all : List String} (hall : ∀ name ∈ all, isName name) {hint name : String}
    {ns ns' : ParamNames} (hns : ns.Valid) (hall' : ns'.since 0 <+: all)
    (h : (next hint).run ns = .ok name ns') :
    isName name ∧ (all.drop ns.position).headD "" = name := by
  have hname := getElem?_next hns h
  obtain ⟨rest, hrest⟩ := hall'
  have hget : all[ns.position]? = some name := by
    rw [← hrest, List.getElem?_append_left, hname]
    exact (List.getElem?_eq_some_iff.mp hname).1
  refine ⟨hall name (List.mem_of_getElem? hget), ?_⟩
  rw [List.headD_eq_head?_getD, List.head?_drop, hget]
  rfl

mutual

/-- The text of a slot of a formula. -/
theorem shows_operand (s : Store) {all : List String} (hall : ∀ name ∈ all, isName name) :
    ∀ {x : Operand}, x.isFormula → ∀ {ns ns' : ParamNames} {text : String}, ns.Valid →
    ns'.since 0 <+: all → (Render.operand s "value" x).run ns = .ok text ns' →
    ∃ q, x.precedence = .ok q ∧ Shows text (x.level q) (x.written (all.drop ns.position))
  | .unset, _, ns, ns', text, hns, hall', h => by
    rw [Render.operand] at h
    obtain ⟨hname, hhead⟩ := isName_next hall hns hall' h
    rw [Operand.written, hhead]
    exact ⟨_, rfl, .atom (.slot hname) _⟩
  | .nested p, hp, ns, ns', text, hns, hall', h => by
    rw [Operand.isFormula] at hp
    rw [Render.operand] at h
    rw [Operand.precedence, Operand.written]
    exact shows_predicate s hall hp hns hall' h
  | .literal v, hv, ns, ns', text, hns, hall', h => by
    have hrun : (Render.operand s "value" (.literal v)).run ns = .ok (s.literal v) ns := by
      cases v <;> first | rfl | cases hv
    rw [hrun] at h
    cases h
    exact ⟨_, rfl, shows_literal s hv⟩

/-- The source of a formula is read as its expression. -/
theorem shows_predicate (s : Store) {all : List String} (hall : ∀ name ∈ all, isName name) :
    ∀ {p : Predicate}, p.isFormula → ∀ {ns ns' : ParamNames} {text : String}, ns.Valid →
    ns'.since 0 <+: all → (Render.predicate s p).run ns = .ok text ns' →
    ∃ q, p.precedence = .ok q ∧ Shows text q (p.written (all.drop ns.position))
  | .type mask, _, ns, ns', text, hns, hall', h => by
    rw [Render.predicate] at h
    obtain ⟨name, _, hnext, h⟩ := ok_of_bind h
    cases h
    obtain ⟨hname, hhead⟩ := isName_next hall hns hall' hnext
    rw [Predicate.written, hhead]
    exact shows_type hname mask
  | .unary op x, hx, ns, ns', text, hns, hall', h => by
    rw [Predicate.isFormula] at hx
    by_cases hop : op = .sqrt
    · subst hop
      rw [Render.predicate] at h
      obtain ⟨t, _, hrun, h⟩ := ok_of_bind h
      cases h
      obtain ⟨q, -, hshows⟩ := shows_operand s hall hx hns hall' hrun
      have hsqrt : Render.isDotName "sqrt" := rfl
      exact ⟨_, rfl, .atom (hshows.expr.mathCall_one hsqrt (by decide)) _⟩
    · rw [predicate_unary s hop] at h
      obtain ⟨t, ns₁, hrun, h⟩ := ok_of_bind h
      obtain ⟨t', ns₂, hwrap, h⟩ := ok_of_bind h
      cases h
      cases names_of_wrap hwrap
      obtain ⟨q, hq, hshows⟩ := shows_operand s hall hx hns hall' hrun
      rw [text_of_wrap hq hwrap]
      have hprec : (Predicate.unary op x).precedence = .ok .unary := by
        cases op <;> first | rfl | exact absurd rfl hop
      refine ⟨_, hprec, .single (prints_unary hop hshows.expr) fun op' => ?_⟩
      cases op' <;> decide
  | .binary op left right, hlr, ns, ns', text, hns, hall', h => by
    rw [Predicate.isFormula, Bool.and_eq_true] at hlr
    have hvalue : "value" ∈ hints := by decide
    cases ho : op.infixOp? with
    | none =>
      have hop : op = .atan2 := by cases op <;> first | rfl | cases ho
      subst hop
      rw [Render.predicate] at h
      obtain ⟨l, ns₁, hl, h⟩ := ok_of_bind h
      obtain ⟨r, ns₂, hr, h⟩ := ok_of_bind h
      cases h
      have hadv := (Render.takes_operand s hvalue left).ok hns hl
      have hadv' := (Render.takes_operand s hvalue right).ok hadv.valid hr
      obtain ⟨ql, -, hleft⟩ := shows_operand s hall hlr.1 hns (hadv'.since_zero.trans hall') hl
      obtain ⟨qr, -, hright⟩ := shows_operand s hall hlr.2 hadv.valid hall' hr
      have hatan2 : Render.isDotName "atan2" := rfl
      have hcall := hleft.expr.mathCall_two hatan2 (by decide) hright.expr
      simp only [← String.append_assoc] at hcall
      rw [Predicate.written, List.drop_drop, ← hadv.position]
      exact ⟨_, rfl, .atom hcall _⟩
    | some o =>
      have hop : op ≠ .atan2 := by rintro rfl; cases ho
      rw [predicate_binary s hop] at h
      obtain ⟨l, ns₁, hl, h⟩ := ok_of_bind h
      obtain ⟨l', ns₂, hwrapl, h⟩ := ok_of_bind h
      obtain ⟨r, ns₃, hr, h⟩ := ok_of_bind h
      obtain ⟨r', ns₄, hwrapr, h⟩ := ok_of_bind h
      cases h
      cases names_of_wrap hwrapl
      cases names_of_wrap hwrapr
      have hadv := (Render.takes_operand s hvalue left).ok hns hl
      have hadv' := (Render.takes_operand s hvalue right).ok hadv.valid hr
      obtain ⟨ql, hql, hleft⟩ := shows_operand s hall hlr.1 hns (hadv'.since_zero.trans hall') hl
      obtain ⟨qr, hqr, hright⟩ := shows_operand s hall hlr.2 hadv.valid hall' hr
      rw [text_of_wrap hql hwrapl, text_of_wrap hqr hwrapr, Predicate.written, BinaryOp.expr, ho,
        List.drop_drop, ← hadv.position]
      exact ⟨_, rfl, .single (prints_binary ho hleft.expr hright.expr) op.precedence_ne⟩
  | .boolean op xs, hxs, ns, ns', text, hns, hall', h => by
    rw [Predicate.isFormula] at hxs
    rw [Predicate.written]
    cases xs with
    | nil =>
      rw [Render.predicate] at h
      cases h
      exact ⟨_, rfl, shows_empty op⟩
    | cons x rest =>
      have hne := List.cons_ne_nil x rest
      rw [Render.predicate] at h
      · obtain ⟨parts, ns₁, hparts, h⟩ := ok_of_bind h
        cases h
        have hchain := shows_chain s hall op hxs hne hns hall' hparts
        rw [op.symbol_infixOp] at hchain
        exact ⟨_, rfl, .chain hchain _⟩
      · exact hne

/-- The text of a chain is read as its links. -/
theorem shows_chain (s : Store) {all : List String} (hall : ∀ name ∈ all, isName name)
    (op : BooleanOp) : ∀ {xs : List Operand}, Operand.allFormulas xs → xs ≠ [] →
    ∀ {ns ns' : ParamNames} {parts : List String}, ns.Valid → ns'.since 0 <+: all →
      (Render.chain s op.precedence xs).run ns = .ok parts ns' →
      PrintsLinks (String.intercalate (" " ++ op.infixOp.symbol ++ " ") parts) op.infixOp
        (Operand.links op.infixOp (all.drop ns.position) xs)
  | [], _, hne, _, _, _, _, _, _ => absurd rfl hne
  | x :: rest, hxs, _, ns, ns', parts, hns, hall', h => by
    rw [Operand.allFormulas, Bool.and_eq_true] at hxs
    rw [Render.chain] at h
    obtain ⟨t, ns₁, hrun, h⟩ := ok_of_bind h
    obtain ⟨t', ns₂, hwrap, h⟩ := ok_of_bind h
    obtain ⟨parts', ns₃, hparts, h⟩ := ok_of_bind h
    cases h
    cases names_of_wrap hwrap
    have hadv := (Render.takes_operand s (by decide : "value" ∈ hints) x).ok hns hrun
    have hadv' := (Render.takes_chain s op.precedence rest).ok hadv.valid hparts
    obtain ⟨q, hq, hshows⟩ := shows_operand s hall hxs.1 hns (hadv'.since_zero.trans hall') hrun
    have hlink := hshows.link op
    rw [← text_of_wrap hq hwrap] at hlink
    rw [Operand.links, List.drop_drop, ← hadv.position]
    cases rest with
    | nil =>
      cases hparts
      rw [String.intercalate_singleton, Operand.links, List.append_nil]
      exact hlink
    | cons y others =>
      have hrest := shows_chain s hall op hxs.2 (List.cons_ne_nil y others) hadv.valid hall' hparts
      have hne : parts' ≠ [] := by
        rw [Render.chain] at hparts
        obtain ⟨_, _, -, hparts⟩ := ok_of_bind hparts
        obtain ⟨_, _, -, hparts⟩ := ok_of_bind hparts
        obtain ⟨_, _, -, hparts⟩ := ok_of_bind hparts
        cases hparts
        exact List.cons_ne_nil _ _
      exact hlink.cons hne hrest

end

/-! ## Names enough -/

theorem precedence_of_isFormula {p : Predicate} (h : p.isFormula) : ∃ q, p.precedence = .ok q := by
  cases p with
  | type mask =>
    unfold Predicate.precedence
    split <;> exact ⟨_, rfl⟩
  | unary | binary | boolean => exact ⟨_, rfl⟩
  | _ => cases h

theorem Operand.precedence_of_isFormula {x : Operand} (h : x.isFormula) :
    ∃ q, x.precedence = .ok q := by
  cases x with
  | nested p => exact Criteria.precedence_of_isFormula h
  | _ => exact ⟨_, rfl⟩

/-- The step hands out `n` names and succeeds, wherever the list has so many left. -/
def Naming.Succeeds {α : Type} (n : Nat) (x : Naming α) : Prop :=
  ∀ ns : ParamNames, ns.position + n ≤ ns.names.size →
    ∃ a, x.run ns = .ok a { ns with position := ns.position + n }

theorem Naming.Succeeds.bind {α β : Type} {n k : Nat} {x : Naming α} {f : α → Naming β}
    (hx : x.Succeeds n) (hf : ∀ a, (f a).Succeeds k) : (x >>= f).Succeeds (n + k) := by
  intro ns hns
  obtain ⟨a, ha⟩ := hx ns (by omega)
  obtain ⟨b, hb⟩ := hf a { ns with position := ns.position + n } (by simp only; omega)
  refine ⟨b, ?_⟩
  rw [run_bind_ok ha, hb, Nat.add_assoc]

theorem Naming.Succeeds.pure {α : Type} (a : α) : Succeeds 0 (Pure.pure a : Naming α) :=
  fun _ _ => ⟨a, rfl⟩

theorem Naming.Succeeds.map {α β : Type} {n : Nat} {x : Naming α} (hx : x.Succeeds n) (f : α → β) :
    (do let a ← x; return f a : Naming β).Succeeds n :=
  hx.bind (k := 0) fun a => .pure (f a)

theorem Naming.Succeeds.noneBind {α β : Type} {n : Nat} {x : Naming α} {f : α → Naming β}
    (hx : x.Succeeds 0) (hf : ∀ a, (f a).Succeeds n) : (x >>= f).Succeeds n := by
  have h := hx.bind hf
  rwa [Nat.zero_add] at h

theorem Naming.succeeds_next (hint : String) : (next hint).Succeeds 1 :=
  fun _ hns => ⟨_, run_next_of_lt hint hns⟩

theorem succeeds_wrap {x : Operand} (hx : x.isFormula) (operator : Precedence) (position : Position)
    (text : String) : (Render.wrap operator x position text).Succeeds 0 := by
  obtain ⟨q, hq⟩ := x.precedence_of_isFormula hx
  exact fun ns _ => ⟨_, run_wrap hq position text ns⟩

mutual

theorem succeeds_operand (s : Store) : ∀ {x : Operand}, x.isFormula →
    (Render.operand s "value" x).Succeeds x.slots
  | .unset, _ => by
    rw [Render.operand, Operand.slots]
    exact succeeds_next _
  | .nested p, hp => by
    rw [Operand.isFormula] at hp
    rw [Render.operand, Operand.slots]
    exact succeeds_predicate s hp
  | .literal v, _ => by
    rw [Operand.slots]
    cases v <;> exact .pure _

/-- Writing a formula succeeds where there are names enough. -/
theorem succeeds_predicate (s : Store) : ∀ {p : Predicate}, p.isFormula →
    (Render.predicate s p).Succeeds p.slots
  | .type mask, _ => (succeeds_next _).map _
  | .unary op x, hx => by
    rw [Predicate.isFormula] at hx
    rw [Predicate.slots]
    by_cases hop : op = .sqrt
    · subst hop
      exact (succeeds_operand s hx).map _
    · rw [predicate_unary s hop]
      exact (succeeds_operand s hx).bind (k := 0) fun _ => (succeeds_wrap hx _ _ _).map _
  | .binary op left right, hlr => by
    rw [Predicate.isFormula, Bool.and_eq_true] at hlr
    rw [Predicate.slots]
    have hl := succeeds_operand s hlr.1
    have hr := succeeds_operand s hlr.2
    by_cases hop : op = .atan2
    · subst hop
      exact hl.bind fun _ => hr.map _
    · rw [predicate_binary s hop]
      exact hl.bind fun _ => (succeeds_wrap hlr.1 _ _ _).noneBind fun _ =>
        hr.bind (k := 0) fun _ => (succeeds_wrap hlr.2 _ _ _).map _
  | .boolean op xs, hxs => by
    rw [Predicate.isFormula] at hxs
    rw [Predicate.slots]
    cases xs with
    | nil => exact .pure _
    | cons x rest => exact (succeeds_chain s op.precedence hxs).map _

theorem succeeds_chain (s : Store) (operator : Precedence) : ∀ {xs : List Operand},
    Operand.allFormulas xs → (Render.chain s operator xs).Succeeds (Operand.slotSum xs)
  | [], _ => .pure []
  | x :: rest, h => by
    rw [Operand.allFormulas, Bool.and_eq_true] at h
    rw [Render.chain, Operand.slotSum]
    exact (succeeds_operand s h.1).bind fun _ => (succeeds_wrap h.1 _ _ _).noneBind fun _ =>
      (succeeds_chain s operator h.2).map _

end

/-! ## Reading undoes writing -/

theorem isIdentChar_of_isDigit {c : Char} (h : c.isDigit) : Render.isIdentChar c := by
  simp [Render.isIdentChar, Char.isAlphanum, h]

/-- A word with a number after it is the name of a slot. -/
theorem isName_append_toString {word : String} (h : Render.isDotName word) (n : Nat) :
    isName (word ++ toString n) := by
  obtain ⟨c, rest, hword, hstart, hall⟩ := exists_cons_of_isDotName h
  have hdigits : ∀ d ∈ Nat.toDigits 10 n, d.isDigit :=
    fun d hd => Nat.isDigit_of_mem_toDigits (by decide) (by decide) hd
  have htext : (word ++ toString n).toList = c :: (rest ++ Nat.toDigits 10 n) := by
    rw [String.toList_append, toList_toString, hword, List.cons_append]
  have hdot : Render.isDotName (word ++ toString n) := by
    unfold Render.isDotName
    rw [htext]
    simp only [hstart, Bool.true_and, List.all_append, Bool.and_eq_true, List.all_eq_true]
    exact ⟨fun d hd => hall d (List.mem_cons_of_mem c hd),
      fun d hd => isIdentChar_of_isDigit (hdigits d hd)⟩
  -- The other words of generated source have no digits.
  have hother : otherWords.all fun other => other.toList.all fun d => !d.isDigit := by rfl
  obtain ⟨d, others, hd⟩ := List.exists_cons_of_ne_nil (l := Nat.toDigits 10 n) (by simp)
  rw [isName, hdot, Bool.true_and, Bool.not_eq_true', ← Bool.not_eq_true, List.contains_iff_mem]
  intro hmem
  have hdigit : d ∈ (word ++ toString n).toList := by
    rw [htext, hd]
    simp
  have hplain := List.all_eq_true.mp (List.all_eq_true.mp hother _ hmem) d hdigit
  rw [hdigits d (hd ▸ List.mem_cons_self ..)] at hplain
  cases hplain

/-- Generated names are names of slots. -/
theorem isName_letterName (i : Nat) : isName (letterName i) := by
  have hletters : ∀ k < 26, isName (String.singleton (Char.ofNat ('a'.toNat + k))) := by decide
  have hletter := hletters (i % 26) (Nat.mod_lt i (by omega))
  unfold letterName
  split
  · exact hletter
  · rw [isName, Bool.and_eq_true] at hletter
    exact isName_append_toString hletter.1 _

theorem isName_of_mem_letterNames {name : String} {count : Nat} (h : name ∈ letterNames count) :
    isName name := by
  rw [letterNames, List.mem_map] at h
  obtain ⟨i, -, rfl⟩ := h
  exact isName_letterName i

theorem isName_of_isMade {name : String} (h : IsMade name) : isName name := by
  obtain ⟨hint, hhint, h⟩ := h
  have hhints : ∀ hint ∈ hints, isName hint := by decide
  have hname := hhints hint hhint
  rcases h with rfl | ⟨n, rfl⟩
  · exact hname
  · rw [isName, Bool.and_eq_true] at hname
    exact isName_append_toString hname.1 n

/-- The source of a formula, on a list of its own: there is one unless it has more slots than a list
can have names. -/
theorem Predicate.toSource_isFormula (s : Store) {t : Predicate} (ht : t.isFormula) :
    (nameCapacity < t.slots ∧ t.toSource s = .error (.allocation (capCount t.slots))) ∨
      ∃ src, t.toSource s = .ok src := by
  have hcomplete := Predicate.isComplete_of_isFormula ht
  have hcount := Predicate.argCount_eq hcomplete
  obtain ⟨q, hq⟩ := precedence_of_isFormula ht
  unfold toSource Render.onOwnNames
  rw [hcount, hq]
  obtain ⟨hcap, herr⟩ | ⟨hcap, ns, hok, hfirst⟩ := seeded_names (capCount t.slots)
  · simp only [herr]
    exact .inl ⟨Nat.lt_of_lt_of_le hcap (capCount_le _), trivial⟩
  · have hall := congrArg List.length hfirst.names
    rw [Array.length_toList, length_letterNames] at hall
    have hslots : capCount t.slots = t.slots := by
      unfold capCount at hcap ⊢
      have hlimit : nameCapacity < countLimit := by decide
      omega
    obtain ⟨text, hrun⟩ := succeeds_predicate s ht ns (by rw [hfirst.position]; omega)
    simp only [hok, hrun]
    exact .inr ⟨_, rfl⟩

/-- The text of a formula written on a list of names is read as one expression. -/
theorem Predicate.parses_body {s : Store} {t : Predicate} (ht : t.isFormula) {ns ns' : ParamNames}
    {body : String} (hns : ns.Valid) (hnames : ∀ name ∈ ns.names.toList, isName name)
    (h : (Render.predicate s t).run ns = .ok body ns') (e : Expr) :
    Parses body e ↔ e = t.expr (ns'.since ns.position) := by
  have hadv := (Render.takes_predicate s t).ok hns h
  have hall : ∀ name ∈ ns'.since 0, isName name := by
    intro name hname
    rw [ParamNames.since, List.drop_zero] at hname
    rcases hadv.made name (List.mem_of_mem_take hname) with hold | hmade
    · exact hnames name hold
    · exact isName_of_isMade hmade
  obtain ⟨q, -, hshows⟩ := shows_predicate s hall ht hns (List.prefix_refl _) h
  have hdrop : (ns'.since 0).drop ns.position = ns'.since ns.position := by
    rw [ParamNames.since, ParamNames.since, List.drop_zero]
  rw [hdrop] at hshows
  exact hshows.expr.parses_iff e

/-- The body of the source of a formula on a list of its own is read as one expression. -/
theorem Predicate.parses_of_toSource {s : Store} {t : Predicate} (ht : t.isFormula) {src : Source}
    (h : t.toSource s = .ok src) (e : Expr) : Parses src.body e ↔ e = t.expr src.params := by
  obtain ⟨count, ns, ns', -, hseeded, hrun, hparams, -⟩ := toSource_ok h
  obtain ⟨-, herr⟩ | ⟨hcap, ns₀, hok, hfirst⟩ := seeded_names count
  · rw [herr] at hseeded; cases hseeded
  rw [hok] at hseeded
  cases hseeded
  have hnames : ∀ name ∈ ns.names.toList, isName name :=
    fun name hname => isName_of_mem_letterNames (hfirst.names ▸ hname)
  have hparses := parses_body ht (hfirst.valid hcap) hnames hrun e
  rw [hfirst.position, ← hparams] at hparses
  exact hparses

/-- **Reading undoes writing.** The body of the source of a formula is read as one expression, which
is that of the formula with its slots named by the parameters from left to right. On a list of its own
a formula has a source unless there are too many slots; the names of a given list have to be names. -/
theorem parses_toSource (s : Store) (t : Predicate) (ht : t.isFormula) :
    (match t.toSource s with
      | .ok src => ∀ e, Parses src.body e ↔ e = t.expr src.params
      | .error f => nameCapacity < t.slots ∧ f = .allocation (capCount t.slots)) ∧
    ∀ ns src ns', ns.Valid → (∀ name ∈ ns.names.toList, isName name) →
      (t.toSourceOn s).run ns = .ok src ns' → ∀ e, Parses src.body e ↔ e = t.expr src.params := by
  constructor
  · rcases t.toSource_isFormula s ht with ⟨hcap, herr⟩ | ⟨src, hsrc⟩
    · rw [herr]
      exact ⟨hcap, rfl⟩
    · rw [hsrc]
      exact Predicate.parses_of_toSource ht hsrc
  · intro ns src ns' hns hnames hrun
    obtain ⟨hbody, hparams, -⟩ := Predicate.toSourceOn_ok hrun
    rw [hparams]
    exact Predicate.parses_body ht hns hnames hbody

/-- A type test in a chain, and an exponentiation with a negative base. -/
theorem parses_toSource_negative_base :
    let t : Predicate := .boolean .or [.nested (.type (.ofList [.int, .string])),
      .nested (.binary .pow (.literal (.int (-2))) .unset)]
    t.isFormula ∧ ∃ src, t.toSource {} = .ok src ∧
      src.body = "typeof a == \"int\" || typeof a == \"string\" || (-2) ** b" ∧
      ∀ e, Parses src.body e ↔
        e = .infixed .or (.infixed .or (typeTest "a" "int") (typeTest "a" "string"))
          (.infixed .pow (.prefixed .minus (.number 2)) (.name "b")) := by
  have hsrc : Predicate.toSource {} (.boolean .or [.nested (.type (.ofList [.int, .string])),
      .nested (.binary .pow (.literal (.int (-2))) .unset)]) = .ok ⟨["a", "b"],
        "typeof a == \"int\" || typeof a == \"string\" || (-2) ** b", .logicalOr⟩ := by rfl
  have hparses := (parses_toSource {} (.boolean .or [.nested (.type (.ofList [.int, .string])),
      .nested (.binary .pow (.literal (.int (-2))) .unset)]) rfl).1
  rw [hsrc] at hparses
  exact ⟨rfl, _, hsrc, rfl, hparses⟩

end Criteria
