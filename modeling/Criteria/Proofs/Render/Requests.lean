import Criteria.Proofs.Faults

/-!
# What writing a tree asks for

Writing a tree comes to requests, made one after the other: for a name, for room for some names, and
for the source of a filter, which is written on a list of its own. The first request that fails ends
the writing.

* `Predicate.requests` — the requests of a tree, read off its nodes.
* `Naming.ComesTo` — a step does with the list what some requests do, and fails as they do.
* `ParamNames.HandsOut.size` — how long a list is after some names were handed out.

Principal results:

* `comesTo_predicate` — writing a complete tree comes to its requests.
* `performAll_error_iff` — requests fail when one of them does, and leave the list as those before it
  left it.
-/

set_option autoImplicit false

namespace Criteria

open Naming ParamNames

variable {α β : Type}

/-- A request that is made while a tree is written. -/
inductive NameRequest where
  /-- A name, made from the hint when the list is used up. -/
  | name (hint : String)
  /-- Room for so many names from the position on. -/
  | room (count : Nat)
  /-- The source of a filter, on names of its own. -/
  | filter (p : Predicate)

namespace NameRequest

def isName : NameRequest → Bool
  | name _ => true
  | _ => false

/-- Makes the request. -/
def perform (s : Store) : NameRequest → Naming Unit
  | name hint => do let _ ← Naming.next hint
  | room count => Naming.reserve count
  | filter p =>
    match p.toSource s with
    | .ok _ => pure ()
    | .error e => throw e

/-- Makes requests one after the other, up to one that fails. -/
def performAll (s : Store) (rs : List NameRequest) : Naming Unit := rs.forM (perform s)

/-- How many names are asked for. -/
def drawn (rs : List NameRequest) : Nat := rs.countP isName

end NameRequest

/-- The requests of reading a property of an argument. -/
def NameRequest.ofAccess : Option String → List NameRequest
  | some _ => [.name "object"]
  | none => [.name "object", .name "key"]

/-- The requests of piping a property through a filter. -/
def NameRequest.ofFilter : Option Operand → List NameRequest
  | some (.nested p) => [.filter p]
  | _ => []

mutual

/-- The requests that writing an operand makes. -/
def Operand.requests (hint : String) : Operand → List NameRequest
  | .unset => [.name hint]
  | .nested p => p.requests
  | .literal _ => []

/-- The requests that writing a tree makes, in order. -/
def Predicate.requests : Predicate → List NameRequest
  | .unset => []
  | .type _ => [.name "value"]
  | .charset .. => [.name "chars"]
  | .string _ => [.name "string"]
  | .unary _ x => x.requests "value"
  | .binary _ left right => left.requests "value" ++ right.requests "value"
  | .boolean _ xs => Operand.allRequests xs
  | .regex .. => [.name "input"]
  | .compare op _ => [.name (if op = .equal then "value" else "object")]
  | .property name filter => NameRequest.ofAccess name ++ NameRequest.ofFilter filter
  | .member _ => [.name "key"]
  | .shift count x => .room count :: (List.replicate count (.name "skip") ++ x.requests "value")
  | .function _ _ arity => .room arity :: List.replicate arity (.name "arg")

/-- The requests that writing some operands makes. -/
def Operand.allRequests : List Operand → List NameRequest
  | [] => []
  | x :: rest => x.requests "value" ++ Operand.allRequests rest

end

namespace NameRequest

variable {s : Store} {r : NameRequest} {rs rs' : List NameRequest} {ns ns' : ParamNames}
  {e : RenderFailure}

/-! ## Requests one after the other -/

theorem performAll_cons (s : Store) (r : NameRequest) (rs : List NameRequest) :
    performAll s (r :: rs) = r.perform s >>= fun _ => performAll s rs := rfl

theorem performAll_append (s : Store) (rs rs' : List NameRequest) :
    performAll s (rs ++ rs') = performAll s rs >>= fun _ => performAll s rs' := by
  induction rs with
  | nil => rfl
  | cons r rs ih => rw [List.cons_append, performAll_cons, ih, performAll_cons, bind_assoc]

theorem drawn_cons (r : NameRequest) (rs : List NameRequest) :
    drawn (r :: rs) = drawn rs + if r.isName then 1 else 0 :=
  List.countP_cons

theorem drawn_append (rs rs' : List NameRequest) : drawn (rs ++ rs') = drawn rs + drawn rs' :=
  List.countP_append

theorem drawn_replicate (count : Nat) (hint : String) :
    drawn (List.replicate count (name hint)) = count := by
  rw [drawn, List.countP_replicate, isName, if_pos rfl]

/-- A request that fails leaves the list as it is. -/
theorem perform_error (h : (r.perform s).run ns = .error e ns') : ns' = ns := by
  cases r with
  | name hint =>
    rcases error_of_bind h with h | ⟨_, _, _, h⟩
    · rw [run_next] at h
      split at h <;> cases h
      rfl
    · cases h
  | room count =>
    rw [perform, run_reserve] at h
    split at h <;> cases h
    rfl
  | filter p =>
    rw [perform] at h
    split at h <;> cases h
    rfl

/-- Requests fail when one of them fails. The list is then as those before it left it. -/
theorem performAll_error_iff : (performAll s rs).run ns = .error e ns' ↔
    ∃ before r after, rs = before ++ r :: after ∧ (performAll s before).run ns = .ok () ns' ∧
      (r.perform s).run ns' = .error e ns' := by
  constructor
  · intro h
    induction rs generalizing ns with
    | nil => cases h
    | cons r rs ih =>
      rcases error_of_bind h with hfail | ⟨_, mid, hok, hrest⟩
      · obtain rfl := perform_error hfail
        exact ⟨[], r, rs, rfl, rfl, hfail⟩
      · obtain ⟨before, r', after, rfl, hbefore, hfail⟩ := ih hrest
        exact ⟨r :: before, r', after, rfl, (run_bind_ok hok).trans hbefore, hfail⟩
  · rintro ⟨before, r, after, rfl, hbefore, hfail⟩
    rw [performAll_append, run_bind_ok hbefore]
    exact run_bind_error hfail

end NameRequest

/-! ## Names that are handed out -/

namespace ParamNames.HandsOut

variable {ns ns' : ParamNames} {names : List String}

/-- Names are added only past the end of the list. -/
theorem size (h : HandsOut ns names ns') (hns : ns.WellFormed) :
    ns'.names.size = max ns.names.size (ns.position + names.length) := by
  induction h with
  | none ns =>
    have hposition := hns.position
    simp only [List.length_nil]
    omega
  | @next hint _ _ ns mid _ hnext _ ih =>
    obtain ⟨hwf, hposition, -, -⟩ := wellFormed_next hns hnext
    have hmid : mid.names.size = max ns.names.size (ns.position + 1) := by
      rcases Nat.eq_or_lt_of_le hns.position with hend | hlt
      · rw [run_next_of_eq hint hend] at hnext
        split at hnext <;> cases hnext
        rw [Array.size_push]
        omega
      · rw [run_next_of_lt hint hlt] at hnext
        cases hnext
        exact (Nat.max_eq_left hlt).symm
    rw [ih hwf, hmid, hposition, List.length_cons]
    omega

end ParamNames.HandsOut

/-- Requests that succeed hand out as many names as are asked for. -/
theorem NameRequest.handsOut_performAll {s : Store} {rs : List NameRequest} {ns ns' : ParamNames}
    (h : (performAll s rs).run ns = .ok () ns') :
    ∃ names, HandsOut ns names ns' ∧ names.length = drawn rs := by
  induction rs generalizing ns with
  | nil =>
    cases h
    exact ⟨[], .none _, rfl⟩
  | cons r rs ih =>
    obtain ⟨_, mid, hr, hrest⟩ := ok_of_bind h
    obtain ⟨names, hnames, hlength⟩ := ih hrest
    rw [drawn_cons]
    cases r with
    | name hint =>
      obtain ⟨name, _, hnext, hdone⟩ := ok_of_bind hr
      cases hdone
      exact ⟨name :: names, .next hnext hnames, by rw [List.length_cons, hlength]; rfl⟩
    | room count =>
      rw [perform, run_reserve] at hr
      split at hr <;> cases hr
      exact ⟨names, hnames, hlength⟩
    | filter p =>
      rw [perform] at hr
      split at hr <;> cases hr
      exact ⟨names, hnames, hlength⟩

/-! ## Steps that come to requests -/

/-- The step does with the list what the requests do, and fails as they do. -/
structure Naming.ComesTo (s : Store) (rs : List NameRequest) (x : Naming α) : Prop where
  ok : ∀ {ns a ns'}, x.run ns = .ok a ns' → (NameRequest.performAll s rs).run ns = .ok () ns'
  error : ∀ {ns e ns'}, x.run ns = .error e ns' →
    (NameRequest.performAll s rs).run ns = .error e ns'

namespace Naming.ComesTo

variable {s : Store} {rs rs' : List NameRequest} {x : Naming α} {f : α → Naming β}

theorem pure (a : α) : ComesTo s [] (Pure.pure a : Naming α) := by
  constructor <;> intro _ _ _ h <;> cases h
  rfl

theorem bind (hx : ComesTo s rs x) (hf : ∀ a, ComesTo s rs' (f a)) :
    ComesTo s (rs ++ rs') (x >>= f) := by
  constructor
  · intro ns b ns'' h
    obtain ⟨a, ns', ha, hb⟩ := ok_of_bind h
    rw [NameRequest.performAll_append, run_bind_ok (hx.ok ha)]
    exact (hf a).ok hb
  · intro ns e ns'' h
    rw [NameRequest.performAll_append]
    rcases error_of_bind h with he | ⟨a, ns', ha, he⟩
    · exact run_bind_error (hx.error he)
    · rw [run_bind_ok (hx.ok ha)]
      exact (hf a).error he

/-- What follows may ask for nothing. -/
theorem map (hx : ComesTo s rs x) (hf : ∀ a, ComesTo s [] (f a)) : ComesTo s rs (x >>= f) := by
  have h := hx.bind hf
  rwa [List.append_nil] at h

/-- A step may ask for nothing. -/
theorem after (hx : ComesTo s [] x) (hf : ∀ a, ComesTo s rs (f a)) : ComesTo s rs (x >>= f) :=
  hx.bind hf

/-- A request, and what follows it. -/
theorem request {r : NameRequest} (hx : ComesTo s [r] x) (hf : ∀ a, ComesTo s rs (f a)) :
    ComesTo s (r :: rs) (x >>= f) :=
  hx.bind hf

theorem next (hint : String) : ComesTo s [.name hint] (Naming.next hint) := by
  constructor
  · intro ns a ns' h
    rw [NameRequest.performAll_cons, NameRequest.perform, bind_assoc, run_bind_ok h]
    rfl
  · intro ns e ns' h
    rw [NameRequest.performAll_cons, NameRequest.perform, bind_assoc, run_bind_error h]

theorem reserve (count : Nat) : ComesTo s [.room count] (Naming.reserve count) := by
  constructor
  · intro ns a ns' h
    rw [NameRequest.performAll_cons, NameRequest.perform, run_bind_ok h]
    rfl
  · intro ns e ns' h
    rw [NameRequest.performAll_cons, NameRequest.perform, run_bind_error h]

theorem nextMany (hint : String) :
    ∀ count, ComesTo s (List.replicate count (.name hint)) (Naming.nextMany hint count)
  | 0 => .pure []
  | count + 1 => (next hint).request fun _ => (nextMany hint count).map fun _ => .pure _

end Naming.ComesTo

namespace Render

variable {s : Store}

theorem comesTo_wrap {x : Operand} (hx : x.isComplete) (operator : Precedence) (position : Position)
    (text : String) : ComesTo s [] (wrap operator x position text) := by
  obtain ⟨needed, hneeded⟩ := Operand.needsParens_of_isComplete hx operator position
  rw [wrap, hneeded]
  refine (ComesTo.pure needed).after fun needed => ?_
  cases needed <;> exact .pure _

theorem comesTo_access (name : Option String) :
    ComesTo s (NameRequest.ofAccess name) (access name) := by
  cases name with
  | some name => exact (ComesTo.next _).map fun _ => .pure _
  | none => exact (ComesTo.next _).request fun _ => (ComesTo.next _).map fun _ => .pure _

/-- A filter that has source is spliced or called. -/
theorem filtered_nested_ok {p : Predicate} {source : Source} (h : p.toSource s = .ok source)
    (access : String) :
    filtered s (some (.nested p)) access = Pure.pure (spliceOrCall source.text access) := by
  have hown : onOwnNames p (predicate s p) = .ok source := h
  rw [filtered, hown]

theorem filtered_nested_error {p : Predicate} {e : RenderFailure} (h : p.toSource s = .error e)
    (access : String) : filtered s (some (.nested p)) access = throw e := by
  have hown : onOwnNames p (predicate s p) = .error e := h
  rw [filtered, hown]

theorem comesTo_filtered_nested (p : Predicate) (access : String) :
    ComesTo s [.filter p] (filtered s (some (.nested p)) access) := by
  cases hsource : p.toSource s with
  | ok source =>
    have hperform : (NameRequest.filter p).perform s = Pure.pure () := by
      rw [NameRequest.perform, hsource]
    rw [filtered_nested_ok hsource]
    constructor <;> intro ns _ ns' h <;> cases h
    rw [NameRequest.performAll_cons, hperform]
    rfl
  | error e =>
    have hperform : (NameRequest.filter p).perform s = throw e := by
      rw [NameRequest.perform, hsource]
    rw [filtered_nested_error hsource]
    constructor <;> intro ns _ ns' h <;> cases h
    rw [NameRequest.performAll_cons, hperform]
    rfl

theorem comesTo_filtered (filter : Option Operand) (access : String) :
    ComesTo s (NameRequest.ofFilter filter) (filtered s filter access) := by
  cases filter with
  | none => exact .pure _
  | some x =>
    cases x with
    | unset => exact .pure _
    | nested p => exact comesTo_filtered_nested p access
    | literal v =>
      cases v with
      | function f =>
        rw [filtered]
        cases f.source <;> exact .pure _
      | _ => exact .pure _

mutual

theorem comesTo_operand (hint : String) :
    ∀ {x : Operand}, x.isComplete → ComesTo s (x.requests hint) (operand s hint x)
  | .unset, _ => by
    rw [operand, Operand.requests]
    exact .next hint
  | .nested p, h => by
    rw [Operand.isComplete] at h
    rw [operand, Operand.requests]
    exact comesTo_predicate h
  | .literal v, _ => by
    rw [Operand.requests]
    cases v <;> exact .pure _

/-- Writing a complete tree comes to its requests. -/
theorem comesTo_predicate : ∀ {p : Predicate}, p.isComplete → ComesTo s p.requests (predicate s p)
  | .type mask, _ => (ComesTo.next _).map fun _ => .pure _
  | .charset _ set, _ => (ComesTo.next _).map fun _ => .pure _
  | .string start, _ => (ComesTo.next _).map fun _ => .pure _
  | .regex _ source flags, _ => (ComesTo.next _).map fun _ => .pure _
  | .compare op stored, _ => (ComesTo.next _).map fun _ => .pure _
  | .member target, _ => (ComesTo.next _).map fun _ => .pure _
  | .unary op x, h => by
    rw [Predicate.isComplete] at h
    have hx := comesTo_operand "value" h
    rw [Predicate.requests]
    cases op with
    | sqrt => exact hx.map fun _ => .pure _
    | not | notNot | bitNot =>
      exact hx.map fun _ => (comesTo_wrap h _ _ _).after fun _ => .pure _
  | .binary op left right, h => by
    rw [Predicate.isComplete, Bool.and_eq_true] at h
    have hl := comesTo_operand "value" h.1
    have hr := comesTo_operand "value" h.2
    rw [Predicate.requests]
    cases op with
    | atan2 => exact hl.bind fun _ => hr.map fun _ => .pure _
    | _ =>
      exact hl.bind fun _ => (comesTo_wrap h.1 _ _ _).after fun _ => hr.map fun _ =>
        (comesTo_wrap h.2 _ _ _).after fun _ => .pure _
  | .boolean op xs, h => by
    rw [Predicate.isComplete] at h
    rw [Predicate.requests]
    cases xs with
    | nil => exact .pure _
    | cons x rest => exact (comesTo_chain op.precedence h).map fun _ => .pure _
  | .property name filter, h => by
    rw [predicate_property, Predicate.requests]
    exact (comesTo_access name).bind fun _ => comesTo_filtered filter _
  | .shift count x, h => by
    rw [Predicate.isComplete] at h
    rw [predicate, Predicate.requests]
    exact (ComesTo.reserve count).request fun _ => (ComesTo.nextMany _ count).bind fun _ =>
      comesTo_operand "value" h
  | .function f receiver arity, _ => by
    rw [predicate, Predicate.requests]
    exact (ComesTo.reserve arity).request fun _ => (ComesTo.nextMany _ arity).map fun _ => .pure _

theorem comesTo_chain (operator : Precedence) :
    ∀ {xs : List Operand}, Operand.allComplete xs →
      ComesTo s (Operand.allRequests xs) (chain s operator xs)
  | [], _ => .pure []
  | x :: rest, h => by
    rw [Operand.allComplete, Bool.and_eq_true] at h
    rw [chain, Operand.allRequests]
    exact (comesTo_operand "value" h.1).bind fun _ =>
      (comesTo_wrap h.1 _ _ _).after fun _ => (comesTo_chain operator h.2).map fun _ => .pure _

end

end Render

theorem Predicate.comesTo_toSourceOn {s : Store} {p : Predicate} (h : p.isComplete) :
    ComesTo s p.requests (p.toSourceOn s) := by
  have hget : ComesTo s [] (get : Naming ParamNames) := by
    constructor <;> intro _ _ _ h <;> cases h
    rfl
  obtain ⟨precedence, hprecedence⟩ := precedence_of_isComplete h
  rw [toSourceOn, hprecedence]
  exact hget.after fun _ => (Render.comesTo_predicate h).map fun _ =>
    hget.after fun _ => (ComesTo.pure precedence).after fun _ => .pure _

end Criteria
