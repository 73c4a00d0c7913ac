import Criteria.Proofs.Render.Operands
import Criteria.Proofs.Text.Reading
import Criteria.Render.Dump

/-!
# What stands between the quotes of a dump

Byte strings and members of character sets are written between single quotes, each with escapes of its
own. Both end at the closing quote and at no other place, and are read back from what stands before it.
The name of a property has no escapes: it ends at its closing quote only if no quote within looks like
that one.

* `tellsApart_bytes`, `tellsApart_setMember` — bytes and members.
* `hidesEnd` — whether a name has a quote in it that could be the closing one.
* `tellsApart_name_iff` — a name is told from all others if it has none.
-/

set_option autoImplicit false

namespace Criteria.Dump

open Text

variable {c : Char} {k k' : List Char}

/-! ## Hexadecimal digits -/

theorem hexDigit_plain : ∀ n < 16, hexDigit n ≠ '\'' ∧ hexDigit n ≠ '\\' ∧ hexDigit n ≠ '\x7b' := by
  decide

theorem plain_of_mem_hexFixed {d : Char} {width n : Nat} (h : d ∈ hexFixed width n) :
    d ≠ '\'' ∧ d ≠ '\\' ∧ d ≠ '\x7b' := by
  induction width generalizing n with
  | zero => cases h
  | succ width ih =>
    rw [hexFixed, List.mem_append, List.mem_singleton] at h
    rcases h with h | rfl
    · exact ih h
    · exact hexDigit_plain _ (Nat.mod_lt n (by decide))

/-! ## Bytes -/

/-- Reads a byte back. -/
def readByte : List Char → Option (UInt8 × List Char)
  | '\\' :: '\'' :: k => some (0x27, k)
  | '\\' :: '\\' :: k => some (0x5c, k)
  | '\\' :: 'n' :: k => some (0x0a, k)
  | '\\' :: 'r' :: k => some (0x0d, k)
  | '\\' :: 't' :: k => some (0x09, k)
  | '\\' :: 'x' :: a :: b :: k => (hex? [a, b]).map fun n => (UInt8.ofNat n, k)
  | c :: k => if c = '\'' then none else some (UInt8.ofNat c.toNat, k)
  | [] => none

theorem readByte_plain (hquote : c ≠ '\'') (hslash : c ≠ '\\') (k : List Char) :
    readByte (c :: k) = some (UInt8.ofNat c.toNat, k) := by
  rw [readByte.eq_def]
  split <;> simp_all

theorem toNat_ofNat_byte : ∀ n < 256, (Char.ofNat n).toNat = n := by decide +kernel

/-- A byte is read back, whatever follows. -/
theorem readByte_stringByte (b : UInt8) (k : List Char) :
    readByte (stringByte b ++ k) = some (b, k) := by
  unfold stringByte
  split
  · subst b; rfl
  split
  · subst b; rfl
  split
  · subst b; rfl
  split
  · subst b; rfl
  split
  · subst b; rfl
  split
  · rename_i hquote hslash _ _ _ _
    have hnat : (Char.ofNat b.toNat).toNat = b.toNat := toNat_ofNat_byte b.toNat b.toNat_lt
    have hother : ∀ d : Char, b ≠ UInt8.ofNat d.toNat → Char.ofNat b.toNat ≠ d := by
      rintro d hd rfl
      exact hd (by rw [hnat, UInt8.ofNat_toNat])
    rw [List.singleton_append, readByte_plain (hother _ hquote) (hother _ hslash), hnat,
      UInt8.ofNat_toNat]
  · have hhex : hex? (hexFixed 2 b.toNat) = some b.toNat := hex?_hexFixed (by decide) b.toNat_lt
    simp only [hexFixed, List.nil_append, List.cons_append] at hhex ⊢
    rw [readByte, hhex, Option.map_some, UInt8.ofNat_toNat]

theorem stringBytes_append_inj {xs ys : List UInt8}
    (h : stringBytes xs ++ '\'' :: k = stringBytes ys ++ '\'' :: k') : xs = ys ∧ k = k' := by
  induction xs generalizing ys with
  | nil =>
    cases ys with
    | nil => exact ⟨rfl, (List.cons.inj h).2⟩
    | cons b ys =>
      have hread : readByte ('\'' :: k) = readByte (stringBytes (b :: ys) ++ '\'' :: k') :=
        congrArg readByte h
      rw [stringBytes, List.append_assoc, readByte_stringByte] at hread
      cases hread
  | cons a xs ih =>
    have hread := congrArg readByte h
    rw [stringBytes, List.append_assoc, readByte_stringByte] at hread
    cases ys with
    | nil => cases hread
    | cons b ys =>
      rw [stringBytes, List.append_assoc, readByte_stringByte, Option.some.injEq,
        Prod.mk.injEq] at hread
      obtain ⟨hxs, hk⟩ := ih hread.2
      exact ⟨by rw [hread.1, hxs], hk⟩

/-- Bytes between quotes. -/
def bytesQuoted (bytes : List UInt8) : String := String.ofList ('\'' :: stringBytes bytes ++ ['\''])

/-- Bytes end at the closing quote. -/
theorem tellsApart_bytes {follows : List Char → Prop} (xs ys : List UInt8) :
    TellsApart follows (bytesQuoted xs) (bytesQuoted ys) (xs = ys) := by
  have hquoted : ∀ (xs : List UInt8) (k : List Char),
      (bytesQuoted xs).toList ++ k = '\'' :: (stringBytes xs ++ '\'' :: k) := by simp [bytesQuoted]
  intro k k' _ _ h
  rw [hquoted, hquoted] at h
  exact stringBytes_append_inj (List.cons.inj h).2

/-! ## Members of a set -/

/-- A member between its quotes. -/
def memberBody (c : Char) : List Char :=
  if c.toNat < 0x80 then escapeAscii c
  else '\\' :: 'u' :: hexFixed (if c.toNat < 0x10000 then 4 else 6) c.toNat

theorem toList_setMember (c : Char) (k : List Char) :
    (setMember c).toList ++ k = '\'' :: (memberBody c ++ '\'' :: k) := by
  simp [setMember, memberBody]

/-- A number behind `\u` does not end the quotes. -/
theorem quotedBody_numbered {ds : List Char} (hds : ∀ d ∈ ds, d ≠ '\'' ∧ d ≠ '\\')
    (rest : List Char) : Grammar.quotedBody '\'' false ('\\' :: 'u' :: ds ++ rest) =
      (Grammar.quotedBody '\'' false rest).map (Prod.map ('\\' :: 'u' :: ds ++ ·) id) := by
  rw [List.cons_append, List.cons_append, Grammar.quotedBody_escaped (by decide),
    Grammar.quotedBody_plain hds, Option.map_map]
  rfl

theorem digits_plain : ∀ n < 0x80,
    (Nat.toDigits 16 n).all (fun d => d != '\'' && d != '\\') = true := by decide +kernel

theorem quotedBody_escapeAscii (hc : c.toNat < 0x80) (rest : List Char) :
    Grammar.quotedBody '\'' false (escapeAscii c ++ rest) =
      (Grammar.quotedBody '\'' false rest).map (Prod.map (escapeAscii c ++ ·) id) := by
  unfold escapeAscii
  repeat' split
  all_goals first | exact Grammar.quotedBody_escaped (by decide) _ rest | skip
  · have hplain : ∀ d ∈ '\x7b' :: (Nat.toDigits 16 c.toNat ++ ['\x7d']), d ≠ '\'' ∧ d ≠ '\\' := by
      have hdigits := digits_plain c.toNat hc
      simp only [List.all_eq_true, Bool.and_eq_true, bne_iff_ne] at hdigits
      simpa [or_imp, forall_and] using hdigits
    exact quotedBody_numbered hplain rest
  · rename_i hquote _ hslash _
    have hplain : ∀ d ∈ [c], d ≠ '\'' ∧ d ≠ '\\' := by simp [hquote, hslash]
    exact Grammar.quotedBody_plain hplain rest

/-- A member does not end before its closing quote. -/
theorem quotedBody_memberBody (c : Char) (k : List Char) :
    Grammar.quotedBody '\'' false (memberBody c ++ '\'' :: k) = some (memberBody c, k) := by
  have hclose : Grammar.quotedBody '\'' false ('\'' :: k) = some ([], k) := rfl
  unfold memberBody
  split
  · rename_i hc
    rw [quotedBody_escapeAscii hc, hclose, Option.map_some, Prod.map_apply, List.append_nil]
    rfl
  · rw [quotedBody_numbered fun d hd => (plain_of_mem_hexFixed hd).imp_right And.left, hclose,
      Option.map_some, Prod.map_apply, List.append_nil]
    rfl

/-- Reads the number of a character, in curly brackets or not. -/
def readNumber (ds : List Char) : Option Nat :=
  if ds.head? = some '\x7b' then hex? ds.tail.dropLast else hex? ds

/-- The character that stands behind a backslash for another one. -/
def readLetter (c : Char) : Char :=
  if c = 't' then '\t' else if c = 'r' then '\r' else if c = 'n' then '\n' else c

/-- Reads a member back from what stands between its quotes. -/
def readMember : List Char → Option Char
  | '\\' :: 'u' :: ds => (readNumber ds).map Char.ofNat
  | ['\\', c] => some (readLetter c)
  | [c] => some c
  | _ => none

theorem readMember_escapeAscii : ∀ n < 0x80,
    readMember (escapeAscii (Char.ofNat n)) = some (Char.ofNat n) := by decide +kernel

theorem readMember_numbered (ds : List Char) :
    readMember ('\\' :: 'u' :: ds) = (readNumber ds).map Char.ofNat := rfl

theorem readMember_memberBody (c : Char) : readMember (memberBody c) = some c := by
  unfold memberBody
  split
  · rename_i hc
    have hread := readMember_escapeAscii c.toNat hc
    rwa [Char.ofNat_toNat] at hread
  · generalize hwidth : (if c.toNat < 0x10000 then 4 else 6) = width
    have hn : c.toNat < 16 ^ width := by
      subst hwidth
      have hvalid : c.toNat.isValidChar := c.valid
      simp only [Nat.isValidChar] at hvalid
      split <;> norm_num <;> omega
    have hpos : 0 < width := by
      subst hwidth
      split <;> decide
    have hplain : (hexFixed width c.toNat).head? ≠ some '\x7b' := fun hhead =>
      (plain_of_mem_hexFixed (List.mem_of_mem_head? hhead)).2.2 rfl
    rw [readMember_numbered, readNumber, if_neg hplain, hex?_hexFixed hpos hn, Option.map_some,
      Char.ofNat_toNat]

/-- A member ends at the closing quote. -/
theorem tellsApart_setMember {follows : List Char → Prop} (c d : Char) :
    TellsApart follows (setMember c) (setMember d) (c = d) := by
  intro k k' _ _ h
  rw [toList_setMember, toList_setMember] at h
  have hbody := congrArg (Grammar.quotedBody '\'' false) (List.cons.inj h).2
  rw [quotedBody_memberBody, quotedBody_memberBody, Option.some.injEq, Prod.mk.injEq] at hbody
  have hread := congrArg readMember hbody.1
  rw [readMember_memberBody, readMember_memberBody, Option.some.injEq] at hread
  exact ⟨hread, hbody.2⟩

/-! ## Names -/

/-- What may follow the closing quote of a name. -/
def followsName : List Char → Bool
  | ')' :: _ => true
  | ',' :: ' ' :: _ => true
  | _ => false

/-- Whether a name has a quote in it that could be the closing one. -/
def hidesEnd : List Char → Bool
  | [] => false
  | c :: cs => (c == '\'' && followsName cs) || hidesEnd cs

/-- A name between its quotes. -/
def nameQuoted (name : String) : String := "'" ++ name ++ "'"

theorem toList_nameQuoted (name : String) (k : List Char) :
    (nameQuoted name).toList ++ k = '\'' :: (name.toList ++ '\'' :: k) := by
  simp [nameQuoted, String.toList_append]

theorem followsName_append {cs : List Char} (h : followsName cs) (k : List Char) :
    followsName (cs ++ k) := by
  unfold followsName at h
  split at h
  · rfl
  · rfl
  · cases h

/-- The closing quote is no part of what may follow a name. -/
theorem followsName_of_append {cs : List Char} (h : followsName (cs ++ '\'' :: k)) :
    followsName cs := by
  match cs with
  | [] => cases h
  | [c] =>
    unfold followsName at h
    split at h
    · rename_i heq
      obtain rfl := (List.cons.inj heq).1
      rfl
    · rename_i heq
      cases (List.cons.inj (List.cons.inj heq).2).1
    · cases h
  | c :: d :: cs =>
    unfold followsName at h
    split at h
    · rename_i heq
      obtain rfl := (List.cons.inj heq).1
      rfl
    · rename_i heq
      obtain rfl := (List.cons.inj heq).1
      obtain rfl := (List.cons.inj (List.cons.inj heq).2).1
      rfl
    · cases h

theorem hidesEnd_cons_eq_false {cs : List Char} :
    hidesEnd (c :: cs) = false ↔ ¬(c = '\'' ∧ followsName cs) ∧ hidesEnd cs = false := by
  rw [hidesEnd, Bool.or_eq_false_iff, Bool.and_eq_false_iff, beq_eq_false_iff_ne, not_and_or,
    Bool.not_eq_true]

theorem name_append_inj {cs ds : List Char} (hcs : hidesEnd cs = false) (hds : hidesEnd ds = false)
    (hk : followsName k) (hk' : followsName k') (h : cs ++ '\'' :: k = ds ++ '\'' :: k') :
    cs = ds ∧ k = k' := by
  induction cs generalizing ds with
  | nil =>
    cases ds with
    | nil => exact ⟨rfl, (List.cons.inj h).2⟩
    | cons d ds =>
      obtain ⟨hd, rfl⟩ := List.cons.inj h
      exact absurd ⟨hd.symm, followsName_of_append hk⟩ (hidesEnd_cons_eq_false.1 hds).1
  | cons c cs ih =>
    cases ds with
    | nil =>
      obtain ⟨hc, rfl⟩ := List.cons.inj h
      exact absurd ⟨hc, followsName_of_append hk'⟩ (hidesEnd_cons_eq_false.1 hcs).1
    | cons d ds =>
      obtain ⟨rfl, htail⟩ := List.cons.inj h
      obtain ⟨rfl, hrest⟩ := ih (hidesEnd_cons_eq_false.1 hcs).2 (hidesEnd_cons_eq_false.1 hds).2 htail
      exact ⟨rfl, hrest⟩

/-- A name that hides an end starts with another name, its closing quote, and what may follow. -/
theorem exists_of_hidesEnd {cs : List Char} (h : hidesEnd cs) :
    ∃ ds k, cs = ds ++ '\'' :: k ∧ hidesEnd ds = false ∧ followsName k := by
  induction cs with
  | nil => cases h
  | cons c cs ih =>
    by_cases hfirst : c = '\'' ∧ followsName cs
    · exact ⟨[], cs, by rw [hfirst.1]; rfl, rfl, hfirst.2⟩
    · have hrest : hidesEnd cs = true := by
        by_contra hno
        rw [Bool.not_eq_true] at hno
        rw [hidesEnd_cons_eq_false.2 ⟨hfirst, hno⟩] at h
        cases h
      obtain ⟨ds, k, rfl, hds, hk⟩ := ih hrest
      refine ⟨c :: ds, k, rfl, hidesEnd_cons_eq_false.2 ⟨fun hc => hfirst ⟨hc.1, ?_⟩, hds⟩, hk⟩
      exact followsName_append hc.2 _

/-- A name is told from those that hide no end if and only if it hides none. -/
theorem tellsApart_name_iff (name : String) :
    (∀ other : String, hidesEnd other.toList = false →
      TellsApart (fun k => followsName k) (nameQuoted name) (nameQuoted other) (name = other)) ↔
      hidesEnd name.toList = false := by
  constructor
  · intro htold
    by_contra hends
    rw [Bool.not_eq_false] at hends
    obtain ⟨ds, k, hname, hds, hk⟩ := exists_of_hidesEnd hends
    have htext : (nameQuoted name).toList ++ [')'] =
        (nameQuoted (String.ofList ds)).toList ++ (k ++ ['\'', ')']) := by
      rw [toList_nameQuoted, toList_nameQuoted, hname, String.toList_ofList]
      simp
    have hsame := (htold (String.ofList ds) (by rwa [String.toList_ofList]) _ _ rfl
      (followsName_append hk _) htext).1
    rw [hsame, String.toList_ofList] at hname
    simp at hname
  · intro hname other hother k k' hk hk' h
    rw [toList_nameQuoted, toList_nameQuoted] at h
    rw [← String.toList_inj]
    exact name_append_inj hname hother hk hk' (List.cons.inj h).2

end Criteria.Dump
