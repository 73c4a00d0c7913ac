import Criteria.Proofs.Eval.Effects
import Criteria.Proofs.Render.Lexing
import Criteria.Proofs.Render.Parser
import Criteria.Proofs.Text.Utf8
import Criteria.Render.Source

/-!
# Tests of the start of a text

A string node compares bytes. Its source is a call of `startsWith`, which compares characters.

* `startsTest` — the expression that the source of a string node is.
* `Expr.startsWith?` — the value of this expression.
* `Store.startsWith` — whether a value starts with a text.
* `string_test` — a string node made of a text tests the characters of its argument, as the source does,
  and the bytes of a byte buffer.
-/

set_option autoImplicit false

namespace Criteria

open Eval Grammar Interpreter

/-! ## The source -/

/-- The test of the start of a text, on a name. -/
def Grammar.startsTest (x p : String) : Expr := .call (.member (.name x) "startsWith") [.text p]

/-- The value of the test of the start of a text, with texts for the names. -/
def Grammar.Expr.startsWith? (look : String → String) : Expr → Option Bool
  | .call (.member (.name x) "startsWith") [.text p] =>
    some (p.toList.isPrefixOf (look x).toList)
  | _ => none

/-- The body of the source of a string node. -/
def Render.startsText (x p : String) : String := x ++ ".startsWith(" ++ Text.quote p ++ ")"

namespace Grammar

/-- The tokens of the test, and how they are put together. -/
theorem parses_startsText (p : String) : Parses (Render.startsText "a" p) (startsTest "a" p) := by
  have hname : Derives .memberAccess [.name "a"] (.name "a") := .name "a"
  have hargs : DerivesArgs [.text p] [.text p] := .last ((Derives.text p).loosen (by decide))
  have hcall : Derives .memberAccess
      [.name "a", .symbol ".", .name "startsWith", .symbol "(", .text p, .symbol ")"]
      (startsTest "a" p) :=
    (hname.member "startsWith").call hargs
  have htext : (Render.startsText "a" p).toList =
      "a.startsWith(".toList ++ ((Text.quote p).toList ++ [')']) := by
    simp [Render.startsText, String.toList_append]
  have hclose : Reads [')'] [.symbol ")"] [] := .one rfl
  refine ⟨_, [], ?_, rfl, hcall.loosen (by decide)⟩
  rw [htext]
  exact .cons rfl (.cons rfl (.cons rfl (.cons rfl (.cons (read_quote p [')']) hclose))))

theorem parses_startsText_iff (p : String) (e : Expr) :
    Parses (Render.startsText "a" p) e ↔ e = startsTest "a" p := by
  constructor
  · intro h
    exact h.unique (parses_startsText p)
  · rintro rfl
    exact parses_startsText p

end Grammar

/-- A string node made of a text is written as the test for this text. -/
theorem Predicate.toSource_string (s : Store) (p : String) :
    (Predicate.string (Text.Utf8.encode p.toList)).toSource s =
      .ok ⟨["a"], Render.startsText "a" p, .memberAccess⟩ := by
  have hbytes : ∀ start, (Predicate.string start).toSource s =
      .ok ⟨["a"], Render.startsText "a" (String.ofList (Text.Utf8.decodeLossy start)),
        .memberAccess⟩ := fun start => rfl
  rw [hbytes, Text.Utf8.decodeLossy_encode, String.ofList_toList]

/-! ## The evaluation -/

/-- The bytes of a text are compared like its characters. -/
theorem isPrefixOf_encode (p t : List Char) :
    (Text.Utf8.encode p).isPrefixOf (Text.Utf8.encode t) = p.isPrefixOf t := by
  apply Bool.eq_iff_iff.2
  rw [List.isPrefixOf_iff_prefix, List.isPrefixOf_iff_prefix]
  exact Text.Utf8.encode_prefix_iff p t

theorem run_string (i : Interpreter) (start : List UInt8) (m : Machine) :
    (i.eval (.string start)).run m = match m.cursor.shift with
      | (.ok v, d) => .ok (.bool (start.isPrefixOf (m.world.store.inputBytes v))) ⟨d, m.world⟩
      | (.error e, d) => .error (.error e) ⟨d, m.world⟩ := by
  have hshift := run_shift m
  rw [eval]
  cases hd : m.cursor.shift with
  | mk r d =>
    rw [hd] at hshift
    cases r with
    | ok v =>
      rw [run_bind_ok hshift]
      rfl
    | error e => rw [run_bind_error hshift]

/-- Whether a value starts with a text: a byte buffer with its bytes, any other value, as a text, with
its characters. -/
def Store.startsWith (s : Store) (p : String) : Value → Bool
  | .bytes data => (Text.Utf8.encode p.toList).isPrefixOf data
  | v => p.toList.isPrefixOf (s.text v).toList

theorem Store.isPrefixOf_inputBytes (s : Store) (p : String) (v : Value) :
    (Text.Utf8.encode p.toList).isPrefixOf (s.inputBytes v) = s.startsWith p v := by
  cases v with
  | bytes data => rfl
  | _ => exact isPrefixOf_encode p.toList _

/-- A string is its own text. -/
theorem Store.text_str (s : Store) (t : String) : s.text (.str t) = t := by
  rw [text, datum, unfold, Datum.text]

/-- A string node made of a text, for any text and any machine: it takes an argument, and tells whether
the characters of the text are the first of those of the argument's text, which a string is itself. Of a
byte buffer the first bytes are compared. The source of the node is read as one expression, whose value
on a text is the same. -/
theorem string_test (p : String) :
    (∀ (i : Interpreter) (m : Machine),
      (i.eval (.string (Text.Utf8.encode p.toList))).run m = match m.cursor.shift with
        | (.ok v, d) => .ok (.bool (m.world.store.startsWith p v)) ⟨d, m.world⟩
        | (.error e, d) => .error (.error e) ⟨d, m.world⟩) ∧
    (∀ s : Store, (Predicate.string (Text.Utf8.encode p.toList)).toSource s =
      .ok ⟨["a"], "a.startsWith(" ++ Text.quote p ++ ")", .memberAccess⟩) ∧
    (∀ e : Expr, Parses ("a.startsWith(" ++ Text.quote p ++ ")") e ↔ e = startsTest "a" p) ∧
    ∀ (s : Store) (t : String), s.text (.str t) = t ∧
      (startsTest "a" p).startsWith? (fun _ => t) = some (s.startsWith p (.str t)) := by
  refine ⟨fun i m => ?_, fun s => Predicate.toSource_string s p, parses_startsText_iff p,
    fun s t => ⟨s.text_str t, ?_⟩⟩
  · rw [run_string]
    simp only [Store.isPrefixOf_inputBytes]
  · rw [Store.startsWith, s.text_str]
    · rfl
    · intro data h
      cases h

end Criteria
