import ViewAudit.Proofs.Text.Utf8

/-!
Well-formed UTF-8, said of the bytes alone: which bytes may stand in the sequence of one
character, and that a text is one sequence after the other. These are exactly the bytes
that texts are written in.
-/

namespace ViewAudit.Utf8

/-- Whether a byte is one of those after the first of a sequence. -/
def IsTail (byte : UInt8) : Prop := 0x80 ≤ byte ∧ byte ≤ 0xBF

instance (byte : UInt8) : Decidable (IsTail byte) := inferInstanceAs (Decidable (_ ∧ _))

/-- The bytes of one character. A sequence is no longer than needed, and stands neither for
a surrogate nor for anything above U+10FFFF; how many bytes it has shows in the first. -/
inductive IsCharacter : List UInt8 → Prop
  | one {a : UInt8} (ha : a ≤ 0x7F) : IsCharacter [a]
  | two {a b : UInt8} (ha : 0xC2 ≤ a ∧ a ≤ 0xDF) (hb : IsTail b) : IsCharacter [a, b]
  | three {a b c : UInt8} (ha : 0xE0 ≤ a ∧ a ≤ 0xEF) (hb : IsTail b) (hc : IsTail c)
      (hshortest : a = 0xE0 → 0xA0 ≤ b) (hsurrogate : a = 0xED → b ≤ 0x9F) :
      IsCharacter [a, b, c]
  | four {a b c d : UInt8} (ha : 0xF0 ≤ a ∧ a ≤ 0xF4) (hb : IsTail b) (hc : IsTail c)
      (hd : IsTail d) (hshortest : a = 0xF0 → 0x90 ≤ b) (hlast : a = 0xF4 → b ≤ 0x8F) :
      IsCharacter [a, b, c, d]

/-- Bytes that are the sequences of characters, one after the other. -/
inductive IsWellFormed : List UInt8 → Prop
  | nil : IsWellFormed []
  | append {bytes rest : List UInt8} (h : IsCharacter bytes) (hrest : IsWellFormed rest) :
      IsWellFormed (bytes ++ rest)

theorem isTail_ofNat {n : Nat} (h : n < 64) : IsTail (UInt8.ofNat (n + 0x80)) := by
  have hbyte := UInt8.toNat_ofNat_of_lt' (show n + 0x80 < 256 by omega)
  rw [IsTail, UInt8.le_iff_toNat_le, UInt8.le_iff_toNat_le, hbyte]
  exact ⟨Nat.le_add_left _ _, by simp; omega⟩

/-- The bytes of a character are as they may be. -/
theorem isCharacter_encodeChar (c : Char) : IsCharacter (String.utf8EncodeChar c) := by
  have hvalid : c.toNat < 0xD800 ∨ 0xDFFF < c.toNat ∧ c.toNat < 0x110000 := c.valid
  have hsequence := sequence_encodeChar c
  generalize String.utf8EncodeChar c = bytes at hsequence
  cases hsequence with
  | one h =>
      refine .one ?_
      rw [UInt8.le_iff_toNat_le, UInt8.toNat_ofNat_of_lt' (show c.toNat < 256 by omega)]
      exact Nat.le_of_lt_succ h
  | two lead low hc hlow hlead hleast =>
      refine .two ?_ (isTail_ofNat hlow)
      rw [UInt8.le_iff_toNat_le, UInt8.le_iff_toNat_le,
        UInt8.toNat_ofNat_of_lt' (show lead + 0xC0 < 256 by omega)]
      simp only [UInt8.reduceToNat]
      omega
  | three lead middle low hc hmiddle hlow hlead hleast =>
      refine .three ?_ (isTail_ofNat hmiddle) (isTail_ofNat hlow) ?_ ?_ <;>
        simp only [UInt8.le_iff_toNat_le, ← UInt8.toNat_inj, UInt8.reduceToNat,
          UInt8.toNat_ofNat_of_lt' (show lead + 0xE0 < 256 by omega),
          UInt8.toNat_ofNat_of_lt' (show middle + 0x80 < 256 by omega)] <;>
        omega
  | four lead high middle low hc hhigh hmiddle hlow hlead hleast =>
      refine .four ?_ (isTail_ofNat hhigh) (isTail_ofNat hmiddle) (isTail_ofNat hlow) ?_ ?_ <;>
        simp only [UInt8.le_iff_toNat_le, ← UInt8.toNat_inj, UInt8.reduceToNat,
          UInt8.toNat_ofNat_of_lt' (show lead + 0xF0 < 256 by omega),
          UInt8.toNat_ofNat_of_lt' (show high + 0x80 < 256 by omega)] <;>
        omega

theorem IsTail.eq_ofNat {byte : UInt8} (h : IsTail byte) :
    byte = UInt8.ofNat (byte.toNat - 0x80 + 0x80) ∧ byte.toNat - 0x80 < 64 := by
  obtain ⟨hleast, hlast⟩ := h
  rw [UInt8.le_iff_toNat_le] at hleast hlast
  simp only [UInt8.reduceToNat] at hleast hlast
  exact ⟨eq_ofNat_add hleast, by omega⟩

/-- There are no other bytes of characters. -/
theorem IsCharacter.exists_char {bytes : List UInt8} (h : IsCharacter bytes) :
    ∃ c, String.utf8EncodeChar c = bytes := by
  cases h with
  | @one a ha =>
      rw [UInt8.le_iff_toNat_le] at ha
      simp only [UInt8.reduceToNat] at ha
      obtain ⟨char, hscalar⟩ := exists_scalar (Nat.zero_le a.toNat) (.inl (by omega))
      obtain ⟨hchar, -⟩ := scalar?_eq_some_iff.mp hscalar
      refine ⟨char, ?_⟩
      rw [encodeChar_one (by omega), hchar, UInt8.ofNat_toNat]
  | @two a b ha hb =>
      obtain ⟨hbyte, hlow⟩ := hb.eq_ofNat
      simp only [UInt8.le_iff_toNat_le, UInt8.reduceToNat] at ha
      obtain ⟨char, hscalar⟩ := exists_scalar
        (show 0x80 ≤ (a.toNat - 0xC0) * 64 + (b.toNat - 0x80) by omega) (.inl (by omega))
      obtain ⟨hchar, hleast⟩ := scalar?_eq_some_iff.mp hscalar
      refine ⟨char, (encodeChar_two hchar hlow (by omega) (hchar ▸ hleast)).trans ?_⟩
      rw [← hbyte, ← eq_ofNat_add (by omega)]
  | @three a b c ha hb hc hshortest hsurrogate =>
      obtain ⟨hbyte, hmiddle⟩ := hb.eq_ofNat
      obtain ⟨hlast, hlow⟩ := hc.eq_ofNat
      simp only [UInt8.le_iff_toNat_le, ← UInt8.toNat_inj, UInt8.reduceToNat]
        at ha hshortest hsurrogate
      obtain ⟨char, hscalar⟩ := exists_scalar
        (show 0x800 ≤ ((a.toNat - 0xE0) * 64 + (b.toNat - 0x80)) * 64 + (c.toNat - 0x80) by omega)
        (by unfold Nat.isValidChar; omega)
      obtain ⟨hchar, hleast⟩ := scalar?_eq_some_iff.mp hscalar
      refine ⟨char, (encodeChar_three hchar hmiddle hlow (by omega) (hchar ▸ hleast)).trans ?_⟩
      rw [← hbyte, ← hlast, ← eq_ofNat_add (by omega)]
  | @four a b c d ha hb hc hd hshortest hlast =>
      obtain ⟨hsecond, hhigh⟩ := hb.eq_ofNat
      obtain ⟨hthird, hmiddle⟩ := hc.eq_ofNat
      obtain ⟨hfourth, hlow⟩ := hd.eq_ofNat
      simp only [UInt8.le_iff_toNat_le, ← UInt8.toNat_inj, UInt8.reduceToNat] at ha hshortest hlast
      obtain ⟨char, hscalar⟩ := exists_scalar
        (show 0x10000 ≤ (((a.toNat - 0xF0) * 64 + (b.toNat - 0x80)) * 64 + (c.toNat - 0x80)) * 64 +
          (d.toNat - 0x80) by omega) (by unfold Nat.isValidChar; omega)
      obtain ⟨hchar, hleast⟩ := scalar?_eq_some_iff.mp hscalar
      refine ⟨char, (encodeChar_four hchar hhigh hmiddle hlow (hchar ▸ hleast)).trans ?_⟩
      rw [← hsecond, ← hthird, ← hfourth, ← eq_ofNat_add (by omega)]

theorem isWellFormed_encode (text : List Char) : IsWellFormed (encode text) := by
  induction text with
  | nil => exact .nil
  | cons c text ih =>
      rw [encode_cons]
      exact .append (isCharacter_encodeChar c) ih

/-- Bytes are well-formed exactly if they are those of a text. -/
theorem isWellFormed_iff {encoded : List UInt8} :
    IsWellFormed encoded ↔ ∃ text, bytes text = encoded := by
  constructor
  · intro h
    induction h with
    | nil => exact ⟨"", rfl⟩
    | append h hrest ih =>
        obtain ⟨c, rfl⟩ := h.exists_char
        obtain ⟨text, rfl⟩ := ih
        refine ⟨String.ofList (c :: text.toList), ?_⟩
        rw [bytes, String.toList_ofList, encode_cons, bytes]
  · rintro ⟨text, rfl⟩
    exact isWellFormed_encode text.toList

end ViewAudit.Utf8
