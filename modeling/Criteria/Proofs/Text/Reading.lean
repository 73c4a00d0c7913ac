import Criteria.Proofs.Number
import Criteria.Proofs.Render.Lexing
import Mathlib.Data.List.Forall2

/-!
# Texts one behind another

What a longer text starts with can be told when the texts that it may start with end in sight: a run of
characters ends where another character stands, a quoted text at its quotation mark, and the texts of a
list at the separators between them.

* `TellsApart` — of two written things, followed by something each, which one it is.
* `TellsApart.seq` — one text behind another.
* `tellsApart_run`, `tellsApart_nat`, `tellsApart_int`, `tellsApart_quote` — words, numerals and quotes.
* `tellsApart_list` — lists.
-/

set_option autoImplicit false

namespace Criteria.Text

variable {α β : Type} {follows : List Char → Prop} {k k' : List Char}

/-- If the texts start alike, with something that may follow behind each, then the things written are
related and what follows is the same. -/
def TellsApart (follows : List Char → Prop) (text text' : String) (related : Prop) : Prop :=
  ∀ k k', follows k → follows k' → text.toList ++ k = text'.toList ++ k' → related ∧ k = k'

namespace TellsApart

variable {mid : List Char → Prop} {text text' rest rest' : String} {p q : Prop}

theorem imp (h : TellsApart follows text text' p) (hpq : p → q) : TellsApart follows text text' q :=
  fun k k' hk hk' htext => (h k k' hk hk' htext).imp_left hpq

theorem mono (h : TellsApart mid text text' p) (hmid : ∀ k, follows k → mid k) :
    TellsApart follows text text' p := fun k k' hk hk' htext => h k k' (hmid k hk) (hmid k' hk') htext

/-- Texts that end in sight are told apart by themselves. -/
theorem of_eq (h : TellsApart follows text text' p) (hnil : follows []) (htext : text = text') : p :=
  (h [] [] hnil hnil (by rw [htext])).1

theorem refl (text : String) : TellsApart follows text text True :=
  fun _ _ _ _ htext => ⟨trivial, List.append_cancel_left htext⟩

/-- One text behind another: the first one is read first, and what it tells may help with the second. -/
theorem seq (h : TellsApart mid text text' p) (hrest : p → TellsApart follows rest rest' q)
    (hmid : ∀ k, follows k → mid (rest.toList ++ k)) (hmid' : ∀ k, follows k → mid (rest'.toList ++ k)) :
    TellsApart follows (text ++ rest) (text' ++ rest') (p ∧ q) := by
  intro k k' hk hk' htext
  rw [String.toList_append, String.toList_append, List.append_assoc, List.append_assoc] at htext
  obtain ⟨hp, hkk⟩ := h _ _ (hmid k hk) (hmid' k' hk') htext
  exact (hrest hp k k' hk hk' hkk).imp_left fun hq => ⟨hp, hq⟩

theorem behind (before : String) (h : TellsApart follows text text' p) :
    TellsApart follows (before ++ text) (before ++ text') p :=
  have hbefore : TellsApart (fun _ => True) before before True := refl before
  (hbefore.seq (fun _ => h) (fun _ _ => trivial) fun _ _ => trivial).imp And.right

theorem before (follows : List Char → Prop) (after : String) (h : TellsApart mid text text' p)
    (hmid : ∀ k, follows k → mid (after.toList ++ k)) :
    TellsApart follows (text ++ after) (text' ++ after) p :=
  (h.seq (fun _ => refl after) hmid hmid).imp And.left

end TellsApart

/-! ## Words and numerals -/

/-- A word ends where a character does not belong to it. -/
theorem tellsApart_run {f : Char → Bool} (hfollows : ∀ k, follows k → ∀ c ∈ k.head?, f c = false)
    {text text' : String} (htext : ∀ c ∈ text.toList, f c) (htext' : ∀ c ∈ text'.toList, f c) :
    TellsApart follows text text' (text = text') := by
  intro k k' hk hk' h
  have hspan := span_append htext (hfollows k hk)
  have hspan' := span_append htext' (hfollows k' hk')
  rw [h, hspan'.1, hspan'.2] at hspan
  exact ⟨String.toList_inj.1 hspan.1.symm, hspan.2.symm⟩

/-- A numeral starts with a digit. -/
theorem exists_digit (n : Nat) : ∃ c cs, (toString n).toList = c :: cs ∧ c.isDigit := by
  rw [ParamNames.toList_toString]
  exact Number.exists_digit n

section Numerals

variable (hdigit : ∀ k, follows k → ∀ c ∈ k.head?, c.isDigit = false)
include hdigit

/-- A numeral ends where no digit stands. -/
theorem tellsApart_nat (n m : Nat) : TellsApart follows (toString n) (toString m) (n = m) := by
  have hdigits : ∀ n : Nat, ∀ c ∈ (toString n).toList, c.isDigit := by
    intro n c hc
    rw [ParamNames.toList_toString] at hc
    exact Number.isDigit_toDigits n c hc
  refine (tellsApart_run hdigit (hdigits n) (hdigits m)).imp fun h => ParamNames.toDigits_injective ?_
  rw [← ParamNames.toList_toString, ← ParamNames.toList_toString, h]

theorem tellsApart_int (i j : Int) : TellsApart follows (toString i) (toString j) (i = j) := by
  have hneg : ∀ n : Nat, (toString (Int.negSucc n)).toList = '-' :: (toString (n + 1)).toList :=
    fun n => String.toList_append
  have hminus : ∀ (n : Nat) (k us : List Char), (toString n).toList ++ k ≠ '-' :: us := by
    intro n k us h
    obtain ⟨c, cs, hdigits, hc⟩ := exists_digit n
    rw [hdigits] at h
    rw [(List.cons.inj h).1] at hc
    exact absurd hc (by decide)
  intro k k' hk hk' h
  cases i with
  | ofNat n =>
    cases j with
    | ofNat m => exact (tellsApart_nat hdigit n m).imp (congrArg Int.ofNat) k k' hk hk' h
    | negSucc m =>
      rw [hneg] at h
      exact absurd h (hminus n k _)
  | negSucc n =>
    cases j with
    | ofNat m =>
      rw [hneg] at h
      exact absurd h.symm (hminus m k' _)
    | negSucc m =>
      rw [hneg, hneg] at h
      have htold := tellsApart_nat hdigit (n + 1) (m + 1) k k' hk hk' (List.cons.inj h).2
      exact htold.imp_left fun hnm => by rw [Nat.succ.inj hnm]

end Numerals

/-! ## Quotes -/

/-- A text in double quotes ends where the quotes do. -/
theorem tellsApart_quote (s t : String) : TellsApart follows (quote s) (quote t) (s = t) := by
  intro k k' _ _ h
  rw [Grammar.toList_quote_append, Grammar.toList_quote_append] at h
  have hbody := congrArg Grammar.readQuoted (List.cons.inj h).2
  rw [Grammar.readQuoted_quoteBody, Grammar.readQuoted_quoteBody, Option.some.injEq, Prod.mk.injEq,
    String.toList_inj] at hbody
  exact hbody

/-! ## Lists -/

section Lists

variable {sep : String} {text : α → String} {text' : β → String} {related : α → β → Prop}

/-- The texts of a list, each with the separator before it. -/
def behindSeparators (sep : String) (text : α → String) (xs : List α) : List Char :=
  xs.flatMap fun x => sep.toList ++ (text x).toList

theorem toList_intercalate_cons (sep : String) (text : α → String) (x : α) (xs : List α) :
    (String.intercalate sep ((x :: xs).map text)).toList =
      (text x).toList ++ behindSeparators sep text xs := by
  induction xs generalizing x with
  | nil => simp [behindSeparators]
  | cons y ys ih =>
    rw [List.map_cons, List.map_cons, String.intercalate_cons_cons, ← List.map_cons,
      String.toList_append, String.toList_append, ih]
    simp [behindSeparators]

variable {c d : Char} {ds : List Char} (hsep : sep.toList = d :: ds) (hcd : c ≠ d)
  (hclose : ∀ k, follows (c :: k)) (hseparate : ∀ k, follows (d :: k))

include hsep hclose hseparate in
theorem follows_behindSeparators (xs : List α) (k : List Char) :
    follows (behindSeparators sep text xs ++ c :: k) := by
  cases xs with
  | nil => exact hclose k
  | cons x xs =>
    rw [behindSeparators, List.flatMap_cons, hsep]
    exact hseparate _

include hsep hcd hclose hseparate in
theorem forall₂_of_behindSeparators {xs : List α} {ys : List β}
    (htold : ∀ x ∈ xs, ∀ y ∈ ys, TellsApart follows (text x) (text' y) (related x y))
    (h : behindSeparators sep text xs ++ c :: k = behindSeparators sep text' ys ++ c :: k') :
    List.Forall₂ related xs ys ∧ k = k' := by
  induction xs generalizing ys with
  | nil =>
    cases ys with
    | nil => exact ⟨.nil, (List.cons.inj h).2⟩
    | cons y ys =>
      rw [behindSeparators, behindSeparators, List.flatMap_cons, hsep] at h
      exact absurd (List.cons.inj h).1 hcd
  | cons x xs ih =>
    cases ys with
    | nil =>
      rw [behindSeparators, behindSeparators, List.flatMap_cons, hsep] at h
      exact absurd (List.cons.inj h).1.symm hcd
    | cons y ys =>
      have hafter : (text x).toList ++ (behindSeparators sep text xs ++ c :: k) =
          (text' y).toList ++ (behindSeparators sep text' ys ++ c :: k') := by
        refine (List.append_right_inj sep.toList).1 ?_
        simpa only [behindSeparators, List.flatMap_cons, List.append_assoc] using h
      obtain ⟨hxy, hrest⟩ := htold x List.mem_cons_self y List.mem_cons_self _ _
        (follows_behindSeparators hsep hclose hseparate xs k)
        (follows_behindSeparators hsep hclose hseparate ys k') hafter
      obtain ⟨hall, hk⟩ := ih (fun x hx y hy => htold x (List.mem_cons_of_mem _ hx) y
        (List.mem_cons_of_mem _ hy)) hrest
      exact ⟨.cons hxy hall, hk⟩

variable (sep) in
include hsep hcd hclose hseparate in
/-- The texts of a list end where `c` stands, which starts neither an element nor the separator. -/
theorem tellsApart_list {xs : List α} {ys : List β}
    (hxs : ∀ x ∈ xs, ∀ k us, (text x).toList ++ k ≠ c :: us)
    (hys : ∀ y ∈ ys, ∀ k us, (text' y).toList ++ k ≠ c :: us)
    (htold : ∀ x ∈ xs, ∀ y ∈ ys, TellsApart follows (text x) (text' y) (related x y)) :
    TellsApart (fun k => k.head? = some c) (String.intercalate sep (xs.map text))
      (String.intercalate sep (ys.map text')) (List.Forall₂ related xs ys) := by
  intro k k' hk hk' h
  obtain ⟨k, rfl⟩ := List.head?_eq_some_iff.1 hk
  obtain ⟨k', rfl⟩ := List.head?_eq_some_iff.1 hk'
  cases xs with
  | nil =>
    cases ys with
    | nil => exact ⟨.nil, h⟩
    | cons y ys =>
      rw [toList_intercalate_cons, List.append_assoc] at h
      exact absurd h.symm (hys y List.mem_cons_self _ _)
  | cons x xs =>
    cases ys with
    | nil =>
      rw [toList_intercalate_cons, List.append_assoc] at h
      exact absurd h (hxs x List.mem_cons_self _ _)
    | cons y ys =>
      rw [toList_intercalate_cons, toList_intercalate_cons, List.append_assoc,
        List.append_assoc] at h
      obtain ⟨hxy, hrest⟩ := htold x List.mem_cons_self y List.mem_cons_self _ _
        (follows_behindSeparators hsep hclose hseparate xs k)
        (follows_behindSeparators hsep hclose hseparate ys k') h
      obtain ⟨hall, hk⟩ := forall₂_of_behindSeparators hsep hcd hclose hseparate
        (fun x hx y hy => htold x (List.mem_cons_of_mem _ hx) y (List.mem_cons_of_mem _ hy)) hrest
      exact ⟨.cons hxy hall, by rw [hk]⟩

end Lists

end Criteria.Text
