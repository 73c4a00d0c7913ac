import Criteria.Text.Utf8

/-!
# UTF-8 is read back

The first byte of a character says how many bytes it has, so the bytes of a text fall apart into those
of its characters in one way only, and a prefix of the bytes that is a text is a prefix of the text.

* `scan_encodeChar` — the bytes of a character, whatever follows them, are read as this character.
* `encode_prefix_iff` — the bytes of a text start with those of another exactly when the text does.
* `decodeLossy_encode` — decoding the bytes of a text gives the text.
-/

set_option autoImplicit false

namespace Criteria.Text.Utf8

open String (utf8EncodeChar)

/-! ## First bytes -/

theorem ofByte?_one : ∀ n < 0x80,
    Lead.ofByte? (UInt8.ofNat n) = some { bits := n, tails := 0 } := by
  decide

theorem ofByte?_two : ∀ n < 32, 2 ≤ n →
    Lead.ofByte? (UInt8.ofNat (n + 0xc0)) = some { bits := n, tails := 1 } := by
  decide

/-- The tail byte after `0xe0` is bounded from below, that after `0xed` from above. -/
theorem ofByte?_three : ∀ n < 16, Lead.ofByte? (UInt8.ofNat (n + 0xe0)) =
    some { bits := n, tails := 2, low := if n = 0 then 0xa0 else 0x80
           high := if n = 13 then 0x9f else 0xbf } := by
  decide

/-- The tail byte after `0xf0` is bounded from below, that after `0xf4` from above. -/
theorem ofByte?_four : ∀ n < 5, Lead.ofByte? (UInt8.ofNat (n + 0xf0)) =
    some { bits := n, tails := 3, low := if n = 0 then 0x90 else 0x80
           high := if n = 4 then 0x8f else 0xbf } := by
  decide

/-! ## Tail bytes -/

theorem toNat_tail {t : Nat} (h : t < 64) : (UInt8.ofNat (t + 0x80)).toNat = t + 0x80 := by
  rw [UInt8.toNat_ofNat']
  omega

/-- A tail byte within the bounds adds its six bits. -/
theorem scanTails_cons {bits tails t : Nat} {low high : UInt8} (ht : t < 64)
    (hlow : low.toNat ≤ t + 0x80) (hhigh : t + 0x80 ≤ high.toNat) (rest : List UInt8) :
    scanTails bits (tails + 1) low high (UInt8.ofNat (t + 0x80) :: rest) =
      scanTails (64 * bits + t) tails 0x80 0xbf rest := by
  have hbyte := toNat_tail ht
  have hmem : low ≤ UInt8.ofNat (t + 0x80) ∧ UInt8.ofNat (t + 0x80) ≤ high := by
    rw [UInt8.le_iff_toNat_le, UInt8.le_iff_toNat_le, hbyte]
    exact ⟨hlow, hhigh⟩
  have hbits : (t + 0x80) % 64 = t := by omega
  rw [scanTails, if_pos hmem, hbyte, hbits]

/-- The bounds of a tail byte that is not the first one hold of every tail byte. -/
theorem scanTails_later {bits tails t : Nat} (ht : t < 64) (rest : List UInt8) :
    scanTails bits (tails + 1) 0x80 0xbf (UInt8.ofNat (t + 0x80) :: rest) =
      scanTails (64 * bits + t) tails 0x80 0xbf rest := by
  have hlow : (0x80 : UInt8).toNat ≤ t + 0x80 := Nat.le_add_left 0x80 t
  have hhigh : t + 0x80 ≤ (0xbf : UInt8).toNat :=
    Nat.add_le_add_right (Nat.le_of_lt_succ ht) 0x80
  exact scanTails_cons ht hlow hhigh rest

/-! ## Characters -/

/-- A character is no surrogate and not past the last code point. -/
theorem toNat_bounds (c : Char) : c.toNat < 0xd800 ∨ 0xdfff < c.toNat ∧ c.toNat < 0x110000 :=
  c.valid

/-- What is left to read of a character when its first byte has been read. -/
theorem scan_cons {b : UInt8} {lead : Lead} (h : Lead.ofByte? b = some lead) (rest : List UInt8) :
    scan b rest = scanTails lead.bits lead.tails lead.low lead.high rest := by
  rw [scan, h]

/-- The bytes of a character, with whatever follows them, are read as this character. -/
theorem scan_encodeChar (c : Char) (rest : List UInt8) :
    ∃ b tail, utf8EncodeChar c = b :: tail ∧ scan b (tail ++ rest) = (some c, rest) := by
  have hbounds := toNat_bounds c
  have hread : ∀ n, n = c.toNat → scanTails n 0 0x80 0xbf rest = (some c, rest) := by
    rintro n rfl
    rw [scanTails, Char.ofNat_toNat]
  simp only [utf8EncodeChar, Char.toNat_val]
  generalize c.toNat = v at hbounds hread
  have hsix : ∀ n, n % 64 < 64 := fun n => Nat.mod_lt n (by decide)
  split
  · refine ⟨_, _, rfl, ?_⟩
    rw [scan_cons (ofByte?_one v (by omega))]
    exact hread v rfl
  split
  · refine ⟨_, _, rfl, ?_⟩
    have hlead : v / 64 % 32 = v / 64 := by omega
    rw [hlead, scan_cons (ofByte?_two (v / 64) (by omega) (by omega))]
    simp only [List.cons_append, List.nil_append, scanTails_later (hsix _)]
    exact hread _ (by omega)
  split
  · refine ⟨_, _, rfl, ?_⟩
    have hlead : v / 4096 % 16 = v / 4096 := by omega
    rw [hlead, scan_cons (ofByte?_three (v / 4096) (by omega))]
    have hlow : (if v / 4096 = 0 then 0xa0 else 0x80 : UInt8).toNat ≤ v / 64 % 64 + 0x80 := by
      split
      · show 0xa0 ≤ _
        omega
      · exact Nat.le_add_left _ _
    have hhigh : v / 64 % 64 + 0x80 ≤ (if v / 4096 = 13 then 0x9f else 0xbf : UInt8).toNat := by
      split
      · show _ ≤ 0x9f
        omega
      · show _ ≤ 0xbf
        omega
    simp only [List.cons_append, List.nil_append]
    rw [scanTails_cons (hsix _) hlow hhigh, scanTails_later (hsix _)]
    exact hread _ (by omega)
  · refine ⟨_, _, rfl, ?_⟩
    have hlead : v / 262144 % 8 = v / 262144 := by omega
    rw [hlead, scan_cons (ofByte?_four (v / 262144) (by omega))]
    have hlow : (if v / 262144 = 0 then 0x90 else 0x80 : UInt8).toNat ≤ v / 4096 % 64 + 0x80 := by
      split
      · show 0x90 ≤ _
        omega
      · exact Nat.le_add_left _ _
    have hhigh : v / 4096 % 64 + 0x80 ≤ (if v / 262144 = 4 then 0x8f else 0xbf : UInt8).toNat := by
      split
      · show _ ≤ 0x8f
        omega
      · show _ ≤ 0xbf
        omega
    simp only [List.cons_append, List.nil_append]
    rw [scanTails_cons (hsix _) hlow hhigh, scanTails_later (hsix _), scanTails_later (hsix _)]
    exact hread _ (by omega)

/-! ## Texts -/

theorem encode_cons (c : Char) (cs : List Char) : encode (c :: cs) = utf8EncodeChar c ++ encode cs :=
  List.flatMap_cons

/-- Bytes that start with the same text of one character start with the same character. -/
theorem encodeChar_append_inj {c d : Char} {bytes bytes' : List UInt8}
    (h : utf8EncodeChar c ++ bytes = utf8EncodeChar d ++ bytes') : c = d ∧ bytes = bytes' := by
  obtain ⟨b, tail, hc, hscan⟩ := scan_encodeChar c bytes
  obtain ⟨b', tail', hd, hscan'⟩ := scan_encodeChar d bytes'
  rw [hc, hd, List.cons_append, List.cons_append] at h
  obtain ⟨rfl, htails⟩ := List.cons.inj h
  rw [htails, hscan'] at hscan
  obtain ⟨hchar, hrest⟩ := Prod.mk.inj hscan
  exact ⟨(Option.some.inj hchar).symm, hrest.symm⟩

/-- The bytes of a text start with those of another exactly when the text does. -/
theorem encode_prefix_iff : ∀ p t : List Char, encode p <+: encode t ↔ p <+: t
  | [], t => by simp [encode]
  | c :: p, [] => by
    have hne : encode (c :: p) ≠ [] := by
      simp [encode_cons, String.utf8EncodeChar_ne_nil]
    have hnil : encode [] = [] := rfl
    rw [hnil, List.prefix_nil, List.prefix_nil]
    exact iff_of_false hne (List.cons_ne_nil c p)
  | c :: p, d :: t => by
    rw [List.cons_prefix_cons, ← encode_prefix_iff p t, encode_cons, encode_cons]
    constructor
    · rintro ⟨rest, h⟩
      rw [List.append_assoc] at h
      obtain ⟨rfl, hrest⟩ := encodeChar_append_inj h
      exact ⟨rfl, rest, hrest⟩
    · rintro ⟨rfl, rest, h⟩
      exact ⟨rest, by rw [List.append_assoc, h]⟩

/-- A text is decoded from its bytes, with any fuel that its characters do not exceed. -/
theorem decodeUpTo_encode : ∀ (cs : List Char) {fuel : Nat}, cs.length ≤ fuel →
    decodeUpTo fuel (encode cs) = cs
  | [], 0, _ => rfl
  | [], _ + 1, _ => rfl
  | c :: cs, fuel + 1, h => by
    obtain ⟨b, tail, hc, hscan⟩ := scan_encodeChar c (encode cs)
    have hrest := decodeUpTo_encode cs (Nat.le_of_succ_le_succ h)
    rw [encode_cons, hc, List.cons_append, decodeUpTo, hscan]
    simp only [Option.getD_some, hrest]

theorem length_le_length_encode (cs : List Char) : cs.length ≤ (encode cs).length := by
  induction cs with
  | nil => exact Nat.le_refl 0
  | cons c cs ih =>
    have hpos := c.utf8Size_pos
    rw [encode_cons, List.length_append, String.length_utf8EncodeChar, List.length_cons]
    omega

/-- Decoding the bytes of a text gives the text. -/
theorem decodeLossy_encode (cs : List Char) : decodeLossy (encode cs) = cs :=
  decodeUpTo_encode cs (length_le_length_encode cs)

end Criteria.Text.Utf8
