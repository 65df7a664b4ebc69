import ViewAudit.Text.Utf8

/-!
UTF-8 in both directions: a text is read back from its bytes, and bytes that
can be read are those of the text. The order of the bytes is that of the code
points, since a lead byte is the greater the longer its sequence is.
-/

namespace ViewAudit.Utf8

theorem toNat_lt_of_char (c : Char) : c.toNat < 0x110000 := by
  rcases c.valid with h | h
  · exact Nat.lt_trans h (by decide)
  · exact h.2

/-! ## Parts of a sequence -/

theorem continuation?_eq_some_iff {byte : UInt8} {n : Nat} :
    continuation? byte = some n ↔ byte = UInt8.ofNat (n + 0x80) ∧ n < 0x40 := by
  have hbyte := byte.toNat_lt
  unfold continuation?
  simp only [UInt8.le_iff_toNat_le, UInt8.lt_iff_toNat_lt]
  split
  case isTrue h =>
    change 128 ≤ byte.toNat ∧ byte.toNat < 192 at h
    rw [Option.some.injEq, ← UInt8.toNat_inj, UInt8.toNat_ofNat']
    omega
  case isFalse h =>
    change ¬ (128 ≤ byte.toNat ∧ byte.toNat < 192) at h
    constructor
    · intro hnone
      cases hnone
    · rintro ⟨rfl, hn⟩
      rw [UInt8.toNat_ofNat_of_lt' (Nat.lt_trans (Nat.add_lt_add_right hn _) (by decide))] at h
      omega

theorem scalar?_eq_some_iff {least value : Nat} {c : Char} :
    scalar? least value = some c ↔ c.toNat = value ∧ least ≤ value := by
  unfold scalar?
  constructor
  · intro h
    split at h
    case isTrue hvalid =>
      cases h
      refine ⟨?_, hvalid.1⟩
      rw [Char.ofNat, dif_pos hvalid.2]
      rfl
    case isFalse => cases h
  · rintro ⟨rfl, hleast⟩
    rw [if_pos ⟨hleast, c.valid⟩, Char.ofNat_toNat]

theorem exists_scalar {least value : Nat} (hleast : least ≤ value) (h : value.isValidChar) :
    ∃ c, scalar? least value = some c := ⟨_, if_pos ⟨hleast, h⟩⟩

/-! ## Sequences by their length -/

section Sequences

variable {c : Char} {lead high middle low : Nat}

theorem encodeChar_one (h : c.toNat < 0x80) : String.utf8EncodeChar c = [UInt8.ofNat c.toNat] := by
  have hle : c.val.toNat ≤ 127 := Nat.le_of_lt_succ h
  simp only [String.utf8EncodeChar, hle, if_true]
  rfl

theorem encodeChar_two (hc : c.toNat = lead * 64 + low) (hlow : low < 64) (hlead : lead < 32)
    (hleast : 0x80 ≤ c.toNat) :
    String.utf8EncodeChar c = [UInt8.ofNat (lead + 0xC0), UInt8.ofNat (low + 0x80)] := by
  have hval : c.val.toNat = c.toNat := rfl
  have h1 : ¬ c.toNat ≤ 127 := by omega
  have h2 : c.toNat ≤ 2047 := by omega
  have hfirst : c.toNat / 64 % 32 = lead := by omega
  have hsecond : c.toNat % 64 = low := by omega
  simp only [String.utf8EncodeChar, hval, h1, h2, if_true, if_false, hfirst, hsecond]

theorem encodeChar_three (hc : c.toNat = (lead * 64 + middle) * 64 + low) (hmiddle : middle < 64)
    (hlow : low < 64) (hlead : lead < 16) (hleast : 0x800 ≤ c.toNat) :
    String.utf8EncodeChar c =
      [UInt8.ofNat (lead + 0xE0), UInt8.ofNat (middle + 0x80), UInt8.ofNat (low + 0x80)] := by
  have hval : c.val.toNat = c.toNat := rfl
  have h1 : ¬ c.toNat ≤ 127 := by omega
  have h2 : ¬ c.toNat ≤ 2047 := by omega
  have h3 : c.toNat ≤ 65535 := by omega
  have hfirst : c.toNat / 4096 % 16 = lead := by omega
  have hsecond : c.toNat / 64 % 64 = middle := by omega
  have hthird : c.toNat % 64 = low := by omega
  simp only [String.utf8EncodeChar, hval, h1, h2, h3, if_true, if_false, hfirst, hsecond, hthird]

theorem encodeChar_four (hc : c.toNat = ((lead * 64 + high) * 64 + middle) * 64 + low)
    (hhigh : high < 64) (hmiddle : middle < 64) (hlow : low < 64) (hleast : 0x10000 ≤ c.toNat) :
    String.utf8EncodeChar c =
      [UInt8.ofNat (lead + 0xF0), UInt8.ofNat (high + 0x80), UInt8.ofNat (middle + 0x80),
        UInt8.ofNat (low + 0x80)] := by
  have hval : c.val.toNat = c.toNat := rfl
  have hmax := toNat_lt_of_char c
  have h1 : ¬ c.toNat ≤ 127 := by omega
  have h2 : ¬ c.toNat ≤ 2047 := by omega
  have h3 : ¬ c.toNat ≤ 65535 := by omega
  have hfirst : c.toNat / 262144 % 8 = lead := by omega
  have hsecond : c.toNat / 4096 % 64 = high := by omega
  have hthird : c.toNat / 64 % 64 = middle := by omega
  have hfourth : c.toNat % 64 = low := by omega
  simp only [String.utf8EncodeChar, hval, h1, h2, h3, if_false, hfirst, hsecond, hthird, hfourth]

theorem decode?_one (h : c.toNat < 0x80) (rest : List UInt8) :
    decode? (UInt8.ofNat c.toNat :: rest) = (decode? rest).map (c :: ·) := by
  have hbyte := UInt8.toNat_ofNat_of_lt' (Nat.lt_trans h (by decide))
  have hlead : UInt8.ofNat c.toNat < 0x80 := by
    rw [UInt8.lt_iff_toNat_lt, hbyte]
    exact h
  rw [decode?.eq_def]
  simp only [hlead, if_true, hbyte, Char.ofNat_toNat]

theorem decode?_two (hc : c.toNat = lead * 64 + low) (hlow : low < 64) (hlead : lead < 32)
    (hleast : 0x80 ≤ c.toNat) (rest : List UInt8) :
    decode? (UInt8.ofNat (lead + 0xC0) :: UInt8.ofNat (low + 0x80) :: rest) =
      (decode? rest).map (c :: ·) := by
  have hbyte := UInt8.toNat_ofNat_of_lt' (show lead + 0xC0 < 256 by omega)
  have h1 : ¬ lead + 0xC0 < 0x80 := by omega
  have h2 : ¬ lead + 0xC0 < 0xC0 := by omega
  have h3 : lead + 0xC0 < 0xE0 := by omega
  have hlast := continuation?_eq_some_iff.mpr ⟨rfl, hlow⟩
  have hscalar := scalar?_eq_some_iff.mpr ⟨hc, hc ▸ hleast⟩
  rw [decode?.eq_def]
  simp only [UInt8.lt_iff_toNat_lt, hbyte, UInt8.reduceToNat, h1, h2, h3, if_true, if_false,
    Nat.add_sub_cancel, hlast, hscalar, Option.bind_eq_bind, Option.bind_some]
  cases decode? rest <;> rfl

theorem decode?_three (hc : c.toNat = (lead * 64 + middle) * 64 + low) (hmiddle : middle < 64)
    (hlow : low < 64) (hlead : lead < 16) (hleast : 0x800 ≤ c.toNat) (rest : List UInt8) :
    decode? (UInt8.ofNat (lead + 0xE0) :: UInt8.ofNat (middle + 0x80) ::
        UInt8.ofNat (low + 0x80) :: rest) =
      (decode? rest).map (c :: ·) := by
  have hbyte := UInt8.toNat_ofNat_of_lt' (show lead + 0xE0 < 256 by omega)
  have h1 : ¬ lead + 0xE0 < 0x80 := by omega
  have h2 : ¬ lead + 0xE0 < 0xC0 := by omega
  have h3 : ¬ lead + 0xE0 < 0xE0 := by omega
  have h4 : lead + 0xE0 < 0xF0 := by omega
  have hsecond := continuation?_eq_some_iff.mpr ⟨rfl, hmiddle⟩
  have hthird := continuation?_eq_some_iff.mpr ⟨rfl, hlow⟩
  have hscalar := scalar?_eq_some_iff.mpr ⟨hc, hc ▸ hleast⟩
  rw [decode?.eq_def]
  simp only [UInt8.lt_iff_toNat_lt, hbyte, UInt8.reduceToNat, h1, h2, h3, h4, if_true, if_false,
    Nat.add_sub_cancel, hsecond, hthird, hscalar, Option.bind_eq_bind, Option.bind_some]
  cases decode? rest <;> rfl

theorem decode?_four (hc : c.toNat = ((lead * 64 + high) * 64 + middle) * 64 + low)
    (hhigh : high < 64) (hmiddle : middle < 64) (hlow : low < 64) (hleast : 0x10000 ≤ c.toNat)
    (rest : List UInt8) :
    decode? (UInt8.ofNat (lead + 0xF0) :: UInt8.ofNat (high + 0x80) ::
        UInt8.ofNat (middle + 0x80) :: UInt8.ofNat (low + 0x80) :: rest) =
      (decode? rest).map (c :: ·) := by
  have hmax := toNat_lt_of_char c
  have hbyte := UInt8.toNat_ofNat_of_lt' (show lead + 0xF0 < 256 by omega)
  have h1 : ¬ lead + 0xF0 < 0x80 := by omega
  have h2 : ¬ lead + 0xF0 < 0xC0 := by omega
  have h3 : ¬ lead + 0xF0 < 0xE0 := by omega
  have h4 : ¬ lead + 0xF0 < 0xF0 := by omega
  have hsecond := continuation?_eq_some_iff.mpr ⟨rfl, hhigh⟩
  have hthird := continuation?_eq_some_iff.mpr ⟨rfl, hmiddle⟩
  have hfourth := continuation?_eq_some_iff.mpr ⟨rfl, hlow⟩
  have hscalar := scalar?_eq_some_iff.mpr ⟨hc, hc ▸ hleast⟩
  rw [decode?.eq_def]
  simp only [UInt8.lt_iff_toNat_lt, hbyte, UInt8.reduceToNat, h1, h2, h3, h4, if_false,
    Nat.add_sub_cancel, hsecond, hthird, hfourth, hscalar, Option.bind_eq_bind, Option.bind_some]
  cases decode? rest <;> rfl

end Sequences

/-! ## Reading what was written -/

/-- The bytes of a character, by how many they are. -/
inductive Sequence (c : Char) : List UInt8 → Prop where
  | one (h : c.toNat < 0x80) : Sequence c [UInt8.ofNat c.toNat]
  | two (lead low : Nat) (hc : c.toNat = lead * 64 + low) (hlow : low < 64) (hlead : lead < 32)
      (hleast : 0x80 ≤ c.toNat) :
      Sequence c [UInt8.ofNat (lead + 0xC0), UInt8.ofNat (low + 0x80)]
  | three (lead middle low : Nat) (hc : c.toNat = (lead * 64 + middle) * 64 + low)
      (hmiddle : middle < 64) (hlow : low < 64) (hlead : lead < 16) (hleast : 0x800 ≤ c.toNat) :
      Sequence c
        [UInt8.ofNat (lead + 0xE0), UInt8.ofNat (middle + 0x80), UInt8.ofNat (low + 0x80)]
  | four (lead high middle low : Nat)
      (hc : c.toNat = ((lead * 64 + high) * 64 + middle) * 64 + low) (hhigh : high < 64)
      (hmiddle : middle < 64) (hlow : low < 64) (hlead : lead < 8) (hleast : 0x10000 ≤ c.toNat) :
      Sequence c
        [UInt8.ofNat (lead + 0xF0), UInt8.ofNat (high + 0x80), UInt8.ofNat (middle + 0x80),
          UInt8.ofNat (low + 0x80)]

theorem sequence_encodeChar (c : Char) : Sequence c (String.utf8EncodeChar c) := by
  have hmax := toNat_lt_of_char c
  by_cases hone : c.toNat < 0x80
  · rw [encodeChar_one hone]
    exact .one hone
  by_cases htwo : c.toNat < 0x800
  · have hc : c.toNat = c.toNat / 64 * 64 + c.toNat % 64 := by omega
    have hlow : c.toNat % 64 < 64 := by omega
    have hlead : c.toNat / 64 < 32 := by omega
    have hleast : 0x80 ≤ c.toNat := by omega
    rw [encodeChar_two hc hlow hlead hleast]
    exact .two _ _ hc hlow hlead hleast
  by_cases hthree : c.toNat < 0x10000
  · have hc : c.toNat = (c.toNat / 4096 * 64 + c.toNat / 64 % 64) * 64 + c.toNat % 64 := by omega
    have hmiddle : c.toNat / 64 % 64 < 64 := by omega
    have hlow : c.toNat % 64 < 64 := by omega
    have hlead : c.toNat / 4096 < 16 := by omega
    have hleast : 0x800 ≤ c.toNat := by omega
    rw [encodeChar_three hc hmiddle hlow hlead hleast]
    exact .three _ _ _ hc hmiddle hlow hlead hleast
  · have hc : c.toNat = ((c.toNat / 262144 * 64 + c.toNat / 4096 % 64) * 64 +
        c.toNat / 64 % 64) * 64 + c.toNat % 64 := by omega
    have hhigh : c.toNat / 4096 % 64 < 64 := by omega
    have hmiddle : c.toNat / 64 % 64 < 64 := by omega
    have hlow : c.toNat % 64 < 64 := by omega
    have hleast : 0x10000 ≤ c.toNat := by omega
    rw [encodeChar_four hc hhigh hmiddle hlow hleast]
    exact .four _ _ _ _ hc hhigh hmiddle hlow (by omega) hleast

theorem decode?_encodeChar_append (c : Char) (rest : List UInt8) :
    decode? (String.utf8EncodeChar c ++ rest) = (decode? rest).map (c :: ·) := by
  have hsequence := sequence_encodeChar c
  generalize String.utf8EncodeChar c = bytes at hsequence
  cases hsequence with
  | one h => exact decode?_one h rest
  | two lead low hc hlow hlead hleast => exact decode?_two hc hlow hlead hleast rest
  | three lead middle low hc hmiddle hlow hlead hleast =>
      exact decode?_three hc hmiddle hlow hlead hleast rest
  | four lead high middle low hc hhigh hmiddle hlow hlead hleast =>
      exact decode?_four hc hhigh hmiddle hlow hleast rest

theorem encode_cons (c : Char) (text : List Char) :
    encode (c :: text) = String.utf8EncodeChar c ++ encode text := rfl

theorem encode_append (first second : List Char) :
    encode (first ++ second) = encode first ++ encode second := List.flatMap_append

theorem decode?_encode (text : List Char) : decode? (encode text) = some text := by
  induction text with
  | nil => rfl
  | cons c text ih => rw [encode_cons, decode?_encodeChar_append, ih, Option.map_some]

/-! ## Writing what was read -/

theorem eq_ofNat_add {byte : UInt8} {base : Nat} (h : base ≤ byte.toNat) :
    byte = UInt8.ofNat (byte.toNat - base + base) := by
  rw [Nat.sub_add_cancel h, UInt8.ofNat_toNat]

theorem encode_of_decode? {bytes : List UInt8} {text : List Char} (h : decode? bytes = some text) :
    encode text = bytes := by
  induction bytes using decode?.induct generalizing text with
  | case1 =>
      cases h
      rfl
  | case2 a rest hone ih =>
      rw [decode?.eq_def] at h
      simp only [hone, if_true] at h
      obtain ⟨more, hmore, rfl⟩ := Option.map_eq_some_iff.mp h
      have hbyte : a.toNat < 0x80 := UInt8.lt_iff_toNat_lt.mp hone
      have hscalar : scalar? 0 a.toNat = some (Char.ofNat a.toNat) :=
        if_pos ⟨Nat.zero_le _, .inl (Nat.lt_trans hbyte (by decide))⟩
      have hc := (scalar?_eq_some_iff.mp hscalar).1
      have hlt : (Char.ofNat a.toNat).toNat < 0x80 := by rwa [hc]
      rw [encode_cons, encodeChar_one hlt, hc, UInt8.ofNat_toNat, ih hmore]
      rfl
  | case3 a hone =>
      rw [decode?.eq_def] at h
      simp only [hone, if_false, reduceCtorEq] at h
  | case4 a hone b rest h1 =>
      rw [decode?.eq_def] at h
      simp only [hone, h1, if_true, if_false, reduceCtorEq] at h
  | case5 a hone b rest h1 h2 ih =>
      rw [decode?.eq_def] at h
      simp only [hone, h1, h2, if_true, if_false, Option.bind_eq_bind,
        Option.bind_eq_some_iff] at h
      obtain ⟨low, hb, c, hscalar, more, hmore, heq⟩ := h
      cases heq
      obtain ⟨rfl, hlow⟩ := continuation?_eq_some_iff.mp hb
      obtain ⟨hc, hleast⟩ := scalar?_eq_some_iff.mp hscalar
      have ha := Nat.not_lt.mp (mt UInt8.lt_iff_toNat_lt.mpr h1)
      have ha' := UInt8.lt_iff_toNat_lt.mp h2
      simp only [UInt8.reduceToNat] at ha ha'
      rw [encode_cons, encodeChar_two hc hlow (by omega) (by omega), ih hmore, ← eq_ofNat_add ha]
      rfl
  | case6 a hone b h1 h2 =>
      rw [decode?.eq_def] at h
      simp only [hone, h1, h2, if_false, reduceCtorEq] at h
  | case7 a hone b h1 h2 c rest h3 ih =>
      rw [decode?.eq_def] at h
      simp only [hone, h1, h2, h3, if_true, if_false, Option.bind_eq_bind,
        Option.bind_eq_some_iff] at h
      obtain ⟨middle, hb, low, hc, char, hscalar, more, hmore, heq⟩ := h
      cases heq
      obtain ⟨rfl, hmiddle⟩ := continuation?_eq_some_iff.mp hb
      obtain ⟨rfl, hlow⟩ := continuation?_eq_some_iff.mp hc
      obtain ⟨hchar, hleast⟩ := scalar?_eq_some_iff.mp hscalar
      have ha := Nat.not_lt.mp (mt UInt8.lt_iff_toNat_lt.mpr h2)
      have ha' := UInt8.lt_iff_toNat_lt.mp h3
      simp only [UInt8.reduceToNat] at ha ha'
      rw [encode_cons, encodeChar_three hchar hmiddle hlow (by omega) (by omega), ih hmore,
        ← eq_ofNat_add ha]
      rfl
  | case8 a hone b h1 h2 c h3 =>
      rw [decode?.eq_def] at h
      simp only [hone, h1, h2, h3, if_false, reduceCtorEq] at h
  | case9 a hone b h1 h2 c h3 d rest ih =>
      rw [decode?.eq_def] at h
      simp only [hone, h1, h2, h3, if_false, Option.bind_eq_bind, Option.bind_eq_some_iff] at h
      obtain ⟨high, hb, middle, hc, low, hd, char, hscalar, more, hmore, heq⟩ := h
      cases heq
      obtain ⟨rfl, hhigh⟩ := continuation?_eq_some_iff.mp hb
      obtain ⟨rfl, hmiddle⟩ := continuation?_eq_some_iff.mp hc
      obtain ⟨rfl, hlow⟩ := continuation?_eq_some_iff.mp hd
      obtain ⟨hchar, hleast⟩ := scalar?_eq_some_iff.mp hscalar
      have ha := Nat.not_lt.mp (mt UInt8.lt_iff_toNat_lt.mpr h3)
      simp only [UInt8.reduceToNat] at ha
      rw [encode_cons, encodeChar_four hchar hhigh hmiddle hlow (by omega), ih hmore,
        ← eq_ofNat_add ha]
      rfl

theorem decode?_eq_some_iff {bytes : List UInt8} {text : List Char} :
    decode? bytes = some text ↔ bytes = encode text := by
  constructor
  · intro h
    exact (encode_of_decode? h).symm
  · rintro rfl
    exact decode?_encode text

/-! ## Order -/

/-- The bytes of a lesser character are less, whatever comes after them. -/
theorem encodeChar_append_lt {c d : Char} (h : c < d) (first second : List UInt8) :
    String.utf8EncodeChar c ++ first < String.utf8EncodeChar d ++ second := by
  have hlt : c.toNat < d.toNat := h
  have hc := sequence_encodeChar c
  have hd := sequence_encodeChar d
  generalize String.utf8EncodeChar c = bytes at hc
  generalize String.utf8EncodeChar d = others at hd
  -- Either the lead bytes decide, or the sequences are equally long and the first bytes
  -- that differ do.
  cases hc <;> cases hd <;>
    simp only [List.cons_append, List.nil_append, List.cons_lt_cons_iff, UInt8.lt_iff_toNat_lt,
      ← UInt8.toNat_inj, UInt8.toNat_ofNat'] <;>
    omega

theorem encode_lt_encode {first second : List Char} (h : first < second) :
    encode first < encode second := by
  induction first generalizing second with
  | nil =>
      cases second with
      | nil => exact absurd h (List.lt_irrefl [])
      | cons d ds =>
          have hbytes := String.utf8EncodeChar_ne_nil (c := d)
          obtain ⟨byte, bytes, hbytes⟩ := List.exists_cons_of_ne_nil hbytes
          rw [encode_cons, hbytes]
          exact List.nil_lt_cons _ _
  | cons c cs ih =>
      cases second with
      | nil => exact absurd h (List.not_lt_nil _)
      | cons d ds =>
          rw [encode_cons, encode_cons]
          rcases List.cons_lt_cons_iff.mp h with hlt | ⟨rfl, hlt⟩
          · exact encodeChar_append_lt hlt _ _
          · exact List.append_left_lt (ih hlt)

/-- Texts are ordered by code points as their encodings are by bytes. -/
theorem encode_lt_encode_iff {first second : List Char} :
    encode first < encode second ↔ first < second := by
  constructor
  · intro h
    refine Classical.byContradiction fun hnot => ?_
    by_cases hgt : second < first
    · exact List.lt_asymm h (encode_lt_encode hgt)
    · obtain rfl : first = second := List.le_antisymm hgt hnot
      exact List.lt_irrefl _ h
  · exact encode_lt_encode

/-! ## Strings -/

theorem text?_bytes (text : String) : text? (bytes text) = some text := by
  rw [text?, bytes, decode?_encode, Option.map_some, String.ofList_toList]

theorem text?_eq_some_iff {encoded : List UInt8} {text : String} :
    text? encoded = some text ↔ encoded = bytes text := by
  constructor
  · intro h
    obtain ⟨chars, hchars, rfl⟩ := Option.map_eq_some_iff.mp h
    rw [bytes, String.toList_ofList]
    exact decode?_eq_some_iff.mp hchars
  · rintro rfl
    exact text?_bytes text

theorem bytes_append (first second : String) :
    bytes (first ++ second) = bytes first ++ bytes second := by
  rw [bytes, String.toList_append, encode_append, bytes, bytes]

theorem bytes_lt_bytes_iff {first second : String} :
    bytes first < bytes second ↔ first < second := by
  rw [String.lt_iff]
  exact encode_lt_encode_iff

end ViewAudit.Utf8
