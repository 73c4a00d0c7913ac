import Criteria.Proofs.Render.Nodes
import Criteria.Proofs.Store.Equality
import Criteria.Proofs.Text.Reading

/-!
# What a literal denotes

The literal of a value tells the value: it has no other reading, whatever stands behind it. That holds
of all data, which is every value but doubles, symbols and functions, as far as no container contains
itself. Only which cells the containers are is not told.

* `Store.IsData` — the value and everything that is reached from it is data.
* `Store.Alike` — values with the same contents, of one store or of two.
* `literalType_literal` — the first characters of a literal tell the type.
* `tellsApart_literal` — a literal and what follows it are read in one way.
* `literal_eq_iff_alike` — values with the same literal.
-/

set_option autoImplicit false

namespace Criteria

open Relation Text

/-- Whether the literal of the value tells it: a double may be shown as an integer, and a symbol or a
function shows no identity. -/
def Value.isData : Value → Bool
  | .float _ => false
  | .symbol .. => false
  | .function _ => false
  | _ => true

namespace Store

variable {s t : Store} {v w : Value}

/-- The value is data, and so is everything that is reached from it. -/
def IsData (s : Store) (v : Value) : Prop := ∀ w, ReflTransGen s.Contains v w → w.isData

theorem IsData.self (h : s.IsData v) : v.isData := h v .refl

theorem IsData.contents (h : s.IsData v) (hw : w ∈ s.contents v) : s.IsData w :=
  fun u hu => h u (hu.head hw)

theorem isData_of_contents_eq_nil (h : s.contents v = []) (hv : v.isData) : s.IsData v := by
  intro w hw
  rwa [eq_of_contents_eq_nil h hw]

/-- A value of one store and a value of another have the same contents: the same elements, and the
same keys in the same order with the same values. -/
inductive Alike (s t : Store) : Value → Value → Prop
  | undefined : Alike s t .undefined .undefined
  | null : Alike s t .null .null
  | bool (b : Bool) : Alike s t (.bool b) (.bool b)
  | int (n : Int64) : Alike s t (.int n) (.int n)
  | str (x : String) : Alike s t (.str x) (.str x)
  | bytes (data : List UInt8) : Alike s t (.bytes data) (.bytes data)
  | array {a b : ArrayRef} (hitems : List.Forall₂ (Alike s t) (s.items a) (t.items b)) :
      Alike s t (.array a) (.array b)
  | object {o p : ObjectRef} (hkeys : (s.entries o).keys = (t.entries p).keys)
      (hvalues : List.Forall₂ (Alike s t) ((s.entries o).map Prod.snd) ((t.entries p).map Prod.snd)) :
      Alike s t (.object o) (.object p)

end Store

/-! ## Values with the same contents -/

section Entries

variable {related : Value → Value → Prop} {es fs : Entries}

theorem forall₂_entries_iff :
    List.Forall₂ (fun e f => e.1 = f.1 ∧ related e.2 f.2) es fs ↔
      es.keys = fs.keys ∧ List.Forall₂ related (es.map Prod.snd) (fs.map Prod.snd) := by
  induction es generalizing fs with
  | nil => cases fs <;> simp [Entries.keys]
  | cons e es ih =>
    cases fs with
    | nil => simp [Entries.keys]
    | cons f fs =>
      simp only [List.forall₂_cons, ih, Entries.keys, List.map_cons, List.cons.injEq]
      tauto

theorem rel_get? (h : List.Forall₂ (fun e f => e.1 = f.1 ∧ related e.2 f.2) es fs)
    (key : String) : Option.Rel related (es.get? key) (fs.get? key) := by
  induction h with
  | nil => exact .none
  | @cons e f es fs hef _ ih =>
    rw [Entries.get?, Entries.get?, hef.1]
    split
    · exact .some hef.2
    · exact ih

end Entries

namespace Store

variable {s t : Store} {v w : Value}

theorem alike_array_iff {a b : ArrayRef} :
    Alike s t (.array a) (.array b) ↔ List.Forall₂ (Alike s t) (s.items a) (t.items b) :=
  ⟨fun h => by cases h; assumption, .array⟩

theorem alike_object_iff {o p : ObjectRef} : Alike s t (.object o) (.object p) ↔
    List.Forall₂ (fun e f => e.1 = f.1 ∧ Alike s t e.2 f.2) (s.entries o) (t.entries p) := by
  rw [forall₂_entries_iff]
  exact ⟨fun h => by cases h; exact ⟨‹_›, ‹_›⟩, fun h => .object h.1 h.2⟩

/-- Values of one store with the same contents are equal. -/
theorem Alike.same (hs : s.WellKeyed) (hv : s.Acyclic v) (hw : s.Acyclic w)
    (h : Alike s s v w) : s.same v w = true := by
  refine hv.induction (P := fun v => ∀ w, s.Acyclic w → Alike s s v w → s.same v w = true) ?_ w hw h
  intro v hv ih w hw h
  have hplain : (∀ x, v ≠ .float x) → s.same v v = true :=
    fun hfloat => ((same_laws hs).2.1 v).2 fun x hx => absurd hx (hfloat x)
  cases v with
  | array a =>
    cases w with
    | array b =>
      refine (same_array_iff hv hw).2 (.inr (forall₂_imp_of_mem (alike_array_iff.1 h) ?_))
      exact fun v hv' w hw' => ih v hv' w (hw.contents hw')
    | _ => cases h
  | object o =>
    cases w with
    | object p =>
      refine (same_object_iff hs hv hw).2 (.inr (rel_get? ?_))
      refine forall₂_imp_of_mem (alike_object_iff.1 h) fun e he f hf hef => ⟨hef.1, ?_⟩
      exact ih e.2 (List.mem_map_of_mem he) f.2 (hw.contents (List.mem_map_of_mem hf)) hef.2
    | _ => cases h
  | _ =>
    cases h <;> exact hplain (by rintro x ⟨⟩)

end Store

/-! ## Literals of containers -/

namespace Datum

/-- A key as it stands in an object. -/
def keyLiteral (key : String) : String := if isBareKey key then key else quote key

theorem itemLiterals_eq_map (ds : List Datum) : itemLiterals ds = ds.map literal := by
  induction ds with
  | nil => rfl
  | cons d ds ih => rw [itemLiterals, ih, List.map_cons]

theorem entryLiterals_eq_map (es : List (String × Datum)) :
    entryLiterals es = es.map fun e => keyLiteral e.1 ++ ": " ++ e.2.literal := by
  induction es with
  | nil => rfl
  | cons e es ih =>
    obtain ⟨key, d⟩ := e
    rw [entryLiterals, ih, List.map_cons]
    rfl

end Datum

namespace Store

variable {s t : Store} {v w : Value}

/-- An entry as it stands in an object. -/
def entryLiteral (s : Store) (e : String × Value) : String :=
  Datum.keyLiteral e.1 ++ ": " ++ s.literal e.2

theorem literal_array {a : ArrayRef} (h : s.Acyclic (.array a)) :
    s.literal (.array a) = "[" ++ String.intercalate ", " ((s.items a).map s.literal) ++ "]" := by
  have hitems : Datum.itemLiterals ((s.items a).map s.datum) = (s.items a).map s.literal := by
    rw [Datum.itemLiterals_eq_map, List.map_map]
    rfl
  rw [literal, datum_array h, ← hitems]
  rfl

theorem literal_object {o : ObjectRef} (h : s.Acyclic (.object o)) :
    s.literal (.object o) = if s.entries o = [] then "\x7b\x7d" else
      "\x7b " ++ String.intercalate ", " ((s.entries o).map s.entryLiteral) ++ " \x7d" := by
  rw [literal, datum_object h]
  cases s.entries o with
  | nil => rfl
  | cons e es =>
    have hentries : Datum.entryLiterals ((e :: es).map fun e => (e.1, s.datum e.2)) =
        (e :: es).map s.entryLiteral := by
      rw [Datum.entryLiterals_eq_map, List.map_map]
      rfl
    rw [if_neg (List.cons_ne_nil e es), ← hentries]
    rfl

/-- What contains nothing has its literal at no depth. -/
theorem literal_of_contents_eq_nil (h : s.contents v = []) :
    s.literal v = (s.unfold 0 v).literal := by
  rw [literal, datum, unfold_of_contents_eq_nil h s.size 0]

theorem literal_undefined : s.literal .undefined = "undefined" :=
  literal_of_contents_eq_nil rfl

theorem literal_null : s.literal .null = "null" :=
  literal_of_contents_eq_nil rfl

theorem literal_int (n : Int64) : s.literal (.int n) = toString n.toInt :=
  literal_of_contents_eq_nil rfl

theorem literal_str (x : String) : s.literal (.str x) = quote x :=
  literal_of_contents_eq_nil rfl

theorem literal_bool (b : Bool) : s.literal (.bool b) = if b then "true" else "false" := by
  rw [literal_of_contents_eq_nil rfl]
  cases b <;> rfl

theorem literal_bytes (data : List UInt8) : s.literal (.bytes data) = "new Uint8Array([" ++
    String.intercalate ", " (data.map fun b => toString b.toNat) ++ "]).buffer" :=
  literal_of_contents_eq_nil rfl

/-! ## The type of a literal -/

/-- The type that the first characters of a literal show. -/
def literalType : List Char → String
  | 'u' :: _ => "undefined"
  | 'n' :: 'u' :: _ => "null"
  | 'n' :: _ => "arraybuffer"
  | 't' :: _ => "boolean"
  | 'f' :: _ => "boolean"
  | '"' :: _ => "string"
  | '[' :: _ => "array"
  | '\x7b' :: _ => "object"
  | c :: _ => if c.isDigit || c == '-' then "number" else ""
  | [] => ""

theorem literalType_digit {c : Char} (hc : c.isDigit) (cs : List Char) :
    literalType (c :: cs) = "number" := by
  unfold literalType
  split <;> simp_all

theorem literalType_int (i : Int) (k : List Char) :
    literalType ((toString i).toList ++ k) = "number" := by
  cases i with
  | ofNat n =>
    obtain ⟨c, cs, hdigits, hc⟩ := exists_digit n
    have hnat : (toString (Int.ofNat n)).toList = c :: cs := hdigits
    rw [hnat]
    exact literalType_digit hc _
  | negSucc n =>
    have hminus : (toString (Int.negSucc n)).toList = '-' :: (toString (n + 1)).toList :=
      String.toList_append
    rw [hminus]
    rfl

/-- The literal of data shows its type, whatever follows. -/
theorem literalType_literal (hv : s.Acyclic v) (hdata : v.isData) (k : List Char) :
    literalType ((s.literal v).toList ++ k) = v.typeName := by
  cases v with
  | undefined =>
    rw [literal_undefined]
    rfl
  | null =>
    rw [literal_null]
    rfl
  | bool b =>
    rw [literal_bool]
    cases b <;> rfl
  | int n =>
    rw [literal_int]
    exact literalType_int n.toInt k
  | str x =>
    rw [literal_str, Grammar.toList_quote]
    rfl
  | bytes data =>
    rw [literal_bytes, String.toList_append, String.toList_append]
    rfl
  | array a =>
    rw [literal_array hv, String.toList_append, String.toList_append]
    rfl
  | object o =>
    rw [literal_object hv]
    split
    · rfl
    · rw [String.toList_append, String.toList_append]
      rfl
  | float | symbol | function => cases hdata

/-- What ends a list or stands before the end of an object starts no literal. -/
theorem literal_append_ne (hv : s.Acyclic v) (hdata : v.isData) {c : Char}
    (hc : ∀ us, literalType (c :: us) = "") (k us : List Char) : (s.literal v).toList ++ k ≠ c :: us := by
  intro h
  have htype := literalType_literal hv hdata k
  rw [h, hc] at htype
  cases v <;> simp [Value.typeName] at htype

/-! ## Keys -/

/-- Whether a character may stand in a key without quotes. -/
def isKeyChar (c : Char) : Bool := Grammar.isWordStart c || Grammar.isWordChar c

theorem isKeyChar_of_isBareKey {key : String} (h : Datum.isBareKey key) :
    (∃ c cs, key.toList = c :: cs ∧ Grammar.isWordStart c) ∧ ∀ c ∈ key.toList, isKeyChar c := by
  unfold Datum.isBareKey at h
  split at h
  · cases h
  · rename_i c cs hkey
    rw [Bool.and_eq_true, List.all_eq_true] at h
    have hstart : Grammar.isWordStart c := h.1
    rw [hkey]
    refine ⟨⟨c, cs, rfl, hstart⟩, List.forall_mem_cons.2 ⟨?_, fun d hd => ?_⟩⟩
    · rw [isKeyChar, hstart, Bool.true_or]
    · have hchar : Grammar.isWordChar d := h.2 d hd
      rw [isKeyChar, hchar, Bool.or_true]

/-- A key without quotes is no key with quotes. -/
theorem bareKey_append_ne {key : String} (h : Datum.isBareKey key) (other : String)
    (k k' : List Char) : key.toList ++ k ≠ (quote other).toList ++ k' := by
  obtain ⟨⟨c, cs, hkey, hc⟩, -⟩ := isKeyChar_of_isBareKey h
  intro heq
  rw [hkey, Grammar.toList_quote] at heq
  rw [(List.cons.inj heq).1] at hc
  exact absurd hc (by decide)

/-- A key ends at the colon behind it. -/
theorem tellsApart_key (key key' : String) : TellsApart (fun k => k.head? = some ':')
    (Datum.keyLiteral key) (Datum.keyLiteral key') (key = key') := by
  have hcolon : ∀ k : List Char, k.head? = some ':' → ∀ c ∈ k.head?, isKeyChar c = false := by
    intro k hk c hc
    rw [hk] at hc
    cases hc
    rfl
  unfold Datum.keyLiteral
  by_cases hkey : Datum.isBareKey key <;> by_cases hkey' : Datum.isBareKey key'
  · rw [if_pos hkey, if_pos hkey']
    exact tellsApart_run hcolon (isKeyChar_of_isBareKey hkey).2 (isKeyChar_of_isBareKey hkey').2
  · rw [if_pos hkey, if_neg hkey']
    exact fun k k' _ _ h => absurd h (bareKey_append_ne hkey key' k k')
  · rw [if_neg hkey, if_pos hkey']
    exact fun k k' _ _ h => absurd h.symm (bareKey_append_ne hkey' key k' k)
  · rw [if_neg hkey, if_neg hkey']
    exact tellsApart_quote key key'

/-! ## Reading a literal -/

theorem separated_cons {c : Char} (h : Grammar.isSeparator c) (k : List Char) :
    Grammar.Separated (c :: k) := by
  intro d hd
  cases hd
  exact h

theorem isDigit_of_separated (k : List Char) (h : Grammar.Separated k) :
    ∀ c ∈ k.head?, c.isDigit = false :=
  fun c hc => (Grammar.separator_spec (h c hc)).2.2.1

/-- An entry is read as its key and its value. -/
theorem tellsApart_entry {e f : String × Value} {related : Prop}
    (h : TellsApart Grammar.Separated (s.literal e.2) (t.literal f.2) related) :
    TellsApart Grammar.Separated (s.entryLiteral e) (t.entryLiteral f) (e.1 = f.1 ∧ related) :=
  ((tellsApart_key e.1 f.1).before (fun _ => True) ": " fun _ _ => rfl).seq
    (fun _ => h) (fun _ _ => trivial) fun _ _ => trivial

theorem entryLiteral_append_ne (e : String × Value) (k us : List Char) :
    (s.entryLiteral e).toList ++ k ≠ ' ' :: us := by
  intro h
  simp only [entryLiteral, String.toList_append, List.append_assoc] at h
  unfold Datum.keyLiteral at h
  split at h
  · rename_i hkey
    obtain ⟨⟨c, cs, hcs, hc⟩, -⟩ := isKeyChar_of_isBareKey hkey
    rw [hcs] at h
    rw [(List.cons.inj h).1] at hc
    exact absurd hc (by decide)
  · rw [Grammar.toList_quote] at h
    cases h

theorem tellsApart_array {a b : ArrayRef} (ha : s.Acyclic (.array a)) (hb : t.Acyclic (.array b))
    (hda : s.IsData (.array a)) (hdb : t.IsData (.array b))
    (h : ∀ v ∈ s.items a, ∀ w ∈ t.items b,
      TellsApart Grammar.Separated (s.literal v) (t.literal w) (Alike s t v w)) :
    TellsApart Grammar.Separated (s.literal (.array a)) (t.literal (.array b))
      (Alike s t (.array a) (.array b)) := by
  rw [literal_array ha, literal_array hb]
  have hall := tellsApart_list ", " (c := ']') rfl (by decide) (separated_cons rfl)
    (separated_cons rfl)
    (fun v hv => literal_append_ne (ha.contents hv) (hda.contents hv).self fun _ => rfl)
    (fun w hw => literal_append_ne (hb.contents hw) (hdb.contents hw).self fun _ => rfl) h
  exact ((hall.behind "[").before _ "]" fun _ _ => rfl).imp .array

theorem tellsApart_object {o p : ObjectRef} (ho : s.Acyclic (.object o)) (hp : t.Acyclic (.object p))
    (h : ∀ e ∈ s.entries o, ∀ f ∈ t.entries p,
      TellsApart Grammar.Separated (s.literal e.2) (t.literal f.2) (Alike s t e.2 f.2)) :
    TellsApart Grammar.Separated (s.literal (.object o)) (t.literal (.object p))
      (Alike s t (.object o) (.object p)) := by
  have hall := tellsApart_list ", " (c := ' ') rfl (by decide) (separated_cons rfl)
    (separated_cons rfl) (fun e _ => entryLiteral_append_ne e) (fun f _ => entryLiteral_append_ne f)
    (fun e he f hf => tellsApart_entry (h e he f hf))
  have htold : TellsApart Grammar.Separated _ _ _ :=
    ((hall.behind "\x7b ").before _ " \x7d" fun _ _ => rfl).imp alike_object_iff.2
  intro k k' hk hk' htext
  rw [literal_object ho, literal_object hp] at htext
  by_cases hnil : s.entries o = [] <;> by_cases hnil' : t.entries p = []
  · rw [if_pos hnil, if_pos hnil'] at htext
    exact ⟨alike_object_iff.2 (by rw [hnil, hnil']; exact .nil), List.append_cancel_left htext⟩
  · rw [if_pos hnil, if_neg hnil'] at htext
    simp [String.toList_append] at htext
  · rw [if_neg hnil, if_pos hnil'] at htext
    simp [String.toList_append] at htext
  · rw [if_neg hnil, if_neg hnil'] at htext
    exact htold k k' hk hk' htext

theorem toString_append_ne (n : Nat) {c : Char} (hc : c.isDigit = false) (k us : List Char) :
    (toString n).toList ++ k ≠ c :: us := by
  intro h
  obtain ⟨d, ds, hdigits, hd⟩ := exists_digit n
  rw [hdigits] at h
  rw [(List.cons.inj h).1, hc] at hd
  cases hd

theorem tellsApart_bytes (data data' : List UInt8) : TellsApart Grammar.Separated
    (s.literal (.bytes data)) (t.literal (.bytes data')) (data = data') := by
  rw [literal_bytes, literal_bytes]
  have hbyte : ∀ b ∈ data, ∀ b' ∈ data', TellsApart Grammar.Separated (toString b.toNat)
      (toString b'.toNat) (b = b') := fun b _ b' _ =>
    (tellsApart_nat isDigit_of_separated b.toNat b'.toNat).imp UInt8.toNat_inj.1
  have hdigit : ∀ bytes : List UInt8, ∀ b ∈ bytes, ∀ k us,
      (toString b.toNat).toList ++ k ≠ ']' :: us := fun _ b _ => toString_append_ne b.toNat rfl
  have hall := tellsApart_list ", " rfl (by decide) (separated_cons rfl)
    (separated_cons rfl) (hdigit data) (hdigit data') hbyte
  rw [List.forall₂_eq_eq_eq] at hall
  exact (hall.behind "new Uint8Array([").before _ "]).buffer" fun _ _ => rfl

theorem tellsApart_bool {follows : List Char → Prop} (b c : Bool) :
    TellsApart follows (s.literal (.bool b)) (t.literal (.bool c)) (b = c) := by
  intro k k' _ _ htext
  rw [literal_bool, literal_bool] at htext
  cases b <;> cases c <;> simp at htext ⊢ <;> exact htext

/-- What may stand behind a literal tells where it ends, so that the literal has one reading. -/
theorem tellsApart_literal (hv : s.Acyclic v) (hw : t.Acyclic w) (hdv : s.IsData v)
    (hdw : t.IsData w) :
    TellsApart Grammar.Separated (s.literal v) (t.literal w) (Alike s t v w) := by
  refine hv.induction (P := fun v => ∀ w, t.Acyclic w → s.IsData v → t.IsData w →
    TellsApart Grammar.Separated (s.literal v) (t.literal w) (Alike s t v w)) ?_ w hw hdv hdw
  intro v hv ih w hw hdv hdw k k' hk hk' htext
  have htype : v.typeName = w.typeName := by
    rw [← literalType_literal hv hdv.self k, htext, literalType_literal hw hdw.self k']
  -- the type is read off the first characters, so that only values of one type are left
  cases v with
  | undefined =>
    cases w with
    | undefined =>
      rw [literal_undefined, literal_undefined] at htext
      exact ⟨.undefined, List.append_cancel_left htext⟩
    | _ => simp [Value.typeName] at htype
  | null =>
    cases w with
    | null =>
      rw [literal_null, literal_null] at htext
      exact ⟨.null, List.append_cancel_left htext⟩
    | _ => simp [Value.typeName] at htype
  | bool b =>
    cases w with
    | bool c =>
      obtain ⟨rfl, hk⟩ := tellsApart_bool b c k k' hk hk' htext
      exact ⟨.bool b, hk⟩
    | _ => simp [Value.typeName] at htype
  | int n =>
    cases w with
    | int m =>
      rw [literal_int, literal_int] at htext
      obtain ⟨hn, hk⟩ := tellsApart_int isDigit_of_separated _ _ k k' hk hk' htext
      obtain rfl := Int64.toInt_inj.1 hn
      exact ⟨.int n, hk⟩
    | float => cases hdw.self
    | _ => simp [Value.typeName] at htype
  | str x =>
    cases w with
    | str y =>
      rw [literal_str, literal_str] at htext
      obtain ⟨rfl, hk⟩ := tellsApart_quote x y k k' hk hk' htext
      exact ⟨.str x, hk⟩
    | _ => simp [Value.typeName] at htype
  | bytes data =>
    cases w with
    | bytes data' =>
      obtain ⟨rfl, hk⟩ := tellsApart_bytes data data' k k' hk hk' htext
      exact ⟨.bytes data, hk⟩
    | _ => simp [Value.typeName] at htype
  | array a =>
    cases w with
    | array b =>
      exact tellsApart_array hv hw hdv hdw (fun v hv' w hw' => ih v hv' w (hw.contents hw')
        (hdv.contents hv') (hdw.contents hw')) k k' hk hk' htext
    | _ => simp [Value.typeName] at htype
  | object o =>
    cases w with
    | object p =>
      refine tellsApart_object hv hw (fun e he f hf => ?_) k k' hk hk' htext
      have he' : e.2 ∈ s.contents (.object o) := List.mem_map_of_mem he
      have hf' : f.2 ∈ t.contents (.object p) := List.mem_map_of_mem hf
      exact ih e.2 he' f.2 (hw.contents hf') (hdv.contents he') (hdw.contents hf')
    | _ => simp [Value.typeName] at htype
  | float | symbol | function => cases hdv.self

/-- Values with the same contents have the same literal. -/
theorem Alike.literal_eq (hv : s.Acyclic v) (hw : t.Acyclic w) (h : Alike s t v w) :
    s.literal v = t.literal w := by
  refine hv.induction (P := fun v => ∀ w, t.Acyclic w → Alike s t v w →
    s.literal v = t.literal w) ?_ w hw h
  intro v hv ih w hw h
  cases v with
  | array a =>
    cases w with
    | array b =>
      have hitems : (s.items a).map s.literal = (t.items b).map t.literal := by
        rw [← List.forall₂_eq_eq_eq, List.forall₂_map_left_iff, List.forall₂_map_right_iff]
        exact forall₂_imp_of_mem (alike_array_iff.1 h) fun v hv' w hw' =>
          ih v hv' w (hw.contents hw')
      rw [literal_array hv, literal_array hw, hitems]
    | _ => cases h
  | object o =>
    cases w with
    | object p =>
      have hall := alike_object_iff.1 h
      have hentries : (s.entries o).map s.entryLiteral = (t.entries p).map t.entryLiteral := by
        rw [← List.forall₂_eq_eq_eq, List.forall₂_map_left_iff, List.forall₂_map_right_iff]
        refine forall₂_imp_of_mem hall fun e he f hf hef => ?_
        rw [entryLiteral, entryLiteral, hef.1, ih e.2 (List.mem_map_of_mem he) f.2
          (hw.contents (List.mem_map_of_mem hf)) hef.2]
      have hnil : s.entries o = [] ↔ t.entries p = [] := by
        rw [← List.length_eq_zero_iff, ← List.length_eq_zero_iff, hall.length_eq]
      simp only [literal_object hv, literal_object hw, hentries, hnil]
    | _ => cases h
  | _ =>
    cases h <;> simp only [literal_undefined, literal_null, literal_bool, literal_int, literal_str,
      literal_bytes]

end Store

/-- **Literals have one reading.** Values without cycles that are data have the same literal only if
they have the same contents, down to every depth: the same elements, and the same keys in the same
order with the same values. This holds of values of two stores, such as one store at two times. In one
store, values with the same literal are equal. -/
theorem literal_eq_iff_alike {s t : Store} {v w : Value} (hv : s.Acyclic v) (hw : t.Acyclic w)
    (hdv : s.IsData v) (hdw : t.IsData w) :
    (s.literal v = t.literal w ↔ s.Alike t v w) ∧
      (s = t → s.WellKeyed → s.literal v = t.literal w → s.same v w = true) := by
  have halike : s.literal v = t.literal w ↔ s.Alike t v w :=
    ⟨(Store.tellsApart_literal hv hw hdv hdw).of_eq (by rintro c ⟨⟩), (·.literal_eq hv hw)⟩
  refine ⟨halike, fun hst hs htext => ?_⟩
  subst hst
  exact (halike.1 htext).same hs hv hw

/-- Two objects with arrays in them, whose texts hold what stands between elements. -/
theorem literal_eq_iff_alike_nested :
    let cs : List Store.Change :=
      [.newArray [.int 1, .str "\", 2]"], .newArray [.int 1, .str "\", 2]"],
        .newObject [("x y", .array ⟨0⟩), ("b", .null)] none,
        .newObject [("x y", .array ⟨1⟩), ("b", .null)] none]
    let s := Store.afterChanges {} cs
    s.literal (.object ⟨0⟩) = s.literal (.object ⟨1⟩) ∧
      s.same (.object ⟨0⟩) (.object ⟨1⟩) = true := by
  intro cs s
  have hs : s.WellKeyed := Store.wellKeyed_afterChanges (by decide)
  let rank : Value → Nat := fun | .object _ => 2 | .array _ => 1 | _ => 0
  have hcontents : ∀ v w, s.Contains v w → w.isData ∧ rank w < rank v := by
    intro v w hw
    cases v with
    | array a =>
      obtain ⟨_ | _ | i⟩ := a
      iterate 2
        have hmem : w ∈ [.int 1, .str "\", 2]"] := hw
        rcases List.mem_pair.1 hmem with rfl | rfl <;> exact ⟨rfl, by decide⟩
      cases hw
    | object o =>
      obtain ⟨_ | _ | i⟩ := o
      · have hmem : w ∈ [.array ⟨0⟩, .null] := hw
        rcases List.mem_pair.1 hmem with rfl | rfl <;> exact ⟨rfl, by decide⟩
      · have hmem : w ∈ [.array ⟨1⟩, .null] := hw
        rcases List.mem_pair.1 hmem with rfl | rfl <;> exact ⟨rfl, by decide⟩
      · cases hw
    | _ => cases hw
  have hacyclic : ∀ v, s.Acyclic v := Store.acyclic_of_rank rank fun v w hw => (hcontents v w hw).2
  have hdata : ∀ o, s.IsData (.object o) := by
    intro o w hw
    rcases hw.cases_tail with rfl | ⟨u, -, huw⟩
    · rfl
    · exact (hcontents u w huw).1
  have halike : s.Alike s (.object ⟨0⟩) (.object ⟨1⟩) := by
    refine .object rfl (.cons (.array (.cons (.int 1) (.cons (.str _) .nil))) (.cons .null .nil))
  obtain ⟨hiff, hsame⟩ :=
    literal_eq_iff_alike (hacyclic _) (hacyclic _) (hdata ⟨0⟩) (hdata ⟨1⟩)
  exact ⟨hiff.2 halike, hsame rfl hs (hiff.2 halike)⟩

end Criteria
