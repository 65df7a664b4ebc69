import Mathlib.Data.List.Induction
import ViewAudit.Time.Rfc3339

/-!
Numbers and fractions as digits: what is written of them is what is read, and
the other way around.
-/

namespace ViewAudit.Stamp

/-! ## Numbers -/

@[simp]
theorem length_padded (width n : Nat) : (padded width n).length = width := by
  induction width generalizing n with
  | zero => rfl
  | succ width ih => simp [padded, ih]

theorem isDigit_of_mem_padded {width n : Nat} {c : Char} (h : c ∈ padded width n) :
    c.isDigit = true := by
  induction width generalizing n with
  | zero => cases h
  | succ width ih =>
      rw [padded, List.mem_append, List.mem_singleton] at h
      rcases h with h | rfl
      · exact ih h
      · rw [Nat.isDigit_digitChar, decide_eq_true_eq]
        omega

theorem ofDigitChars_padded (width n : Nat) :
    Nat.ofDigitChars 10 (padded width n) 0 = n % Nat.pow 10 width := by
  induction width generalizing n with
  | zero => exact (Nat.mod_one n).symm
  | succ width ih =>
      have hdigit : n % 10 < 10 := Nat.mod_lt n (by decide)
      have hpow : Nat.pow 10 (width + 1) = 10 * Nat.pow 10 width := Nat.pow_succ'
      rw [padded, Nat.ofDigitChars_append, ih, Nat.ofDigitChars_cons_digitChar_of_lt_ten hdigit,
        Nat.ofDigitChars_nil, hpow, Nat.mod_mul]
      omega

/-- A number of few enough digits is read back, and what follows is left. -/
theorem digits?_padded (width : Nat) {n : Nat} (h : n < Nat.pow 10 width) (rest : List Char) :
    digits? width (padded width n ++ rest) = some (n, rest) := by
  have htake : (padded width n ++ rest).take width = padded width n := by
    rw [List.take_append_of_le_length (by simp), List.take_of_length_le (by simp)]
  have hdrop : (padded width n ++ rest).drop width = rest := by
    rw [List.drop_append_of_le_length (by simp), List.drop_of_length_le (by simp), List.nil_append]
  have hdigits : (padded width n).all Char.isDigit = true :=
    List.all_eq_true.mpr fun c hc => isDigit_of_mem_padded hc
  have hvalue : Nat.ofDigitChars 10 (padded width n) 0 = n := by
    rw [ofDigitChars_padded, Nat.mod_eq_of_lt h]
  simp [digits?, htake, hdrop, hdigits, hvalue]

@[simp]
theorem skip?_cons (mark : Char) (rest : List Char) : skip? mark (mark :: rest) = some rest :=
  if_pos rfl

theorem digitChar_toNat_sub {c : Char} (h : c.isDigit = true) :
    Nat.digitChar (c.toNat - '0'.toNat) = c ∧ c.toNat - '0'.toNat < 10 := by
  have hrange : 48 ≤ c.toNat ∧ c.toNat ≤ 57 := by
    simpa [Char.isDigit, UInt32.le_iff_toNat_le] using h
  change Nat.digitChar (c.toNat - 48) = c ∧ c.toNat - 48 < 10
  have hlt : c.toNat - 48 < 10 := by omega
  refine ⟨?_, hlt⟩
  apply Char.toNat_inj.mp
  rw [Nat.toNat_digitChar_of_lt_ten hlt]
  omega

/-- Digits are what is written of their value. -/
theorem padded_ofDigitChars {digits : List Char} (h : ∀ c ∈ digits, c.isDigit = true) :
    padded digits.length (Nat.ofDigitChars 10 digits 0) = digits ∧
      Nat.ofDigitChars 10 digits 0 < Nat.pow 10 digits.length := by
  induction digits using List.reverseRecOn with
  | nil => exact ⟨rfl, by decide⟩
  | append_singleton digits last ih =>
      rw [List.forall_mem_append, List.forall_mem_singleton] at h
      obtain ⟨hpadded, hlt⟩ := ih h.1
      obtain ⟨hlast, hlast_lt⟩ := digitChar_toNat_sub h.2
      have hpow : Nat.pow 10 (digits.length + 1) = 10 * Nat.pow 10 digits.length := Nat.pow_succ'
      rw [Nat.ofDigitChars_append, Nat.ofDigitChars_cons, Nat.ofDigitChars_nil, List.length_append,
        List.length_singleton, padded, hpow]
      generalize Nat.ofDigitChars 10 digits 0 = front at hpadded hlt ⊢
      generalize last.toNat - '0'.toNat = digit at hlast hlast_lt ⊢
      have hdiv : (10 * front + digit) / 10 = front := by omega
      have hmod : (10 * front + digit) % 10 = digit := by omega
      refine ⟨?_, by omega⟩
      rw [hdiv, hmod, hpadded, hlast]

theorem digits?_eq_some_iff {width n : Nat} {text rest : List Char} :
    digits? width text = some (n, rest) ↔ n < Nat.pow 10 width ∧ text = padded width n ++ rest := by
  constructor
  · intro h
    simp only [digits?, Bool.and_eq_true, decide_eq_true_eq, List.all_eq_true] at h
    split at h
    case isTrue hdigits =>
      cases h
      obtain ⟨hlength, hall⟩ := hdigits
      obtain ⟨hpadded, hlt⟩ := padded_ofDigitChars hall
      rw [hlength] at hpadded hlt
      exact ⟨hlt, by rw [hpadded, List.take_append_drop]⟩
    case isFalse => cases h
  · rintro ⟨hlt, rfl⟩
    exact digits?_padded width hlt rest

theorem skip?_eq_some_iff {mark : Char} {text rest : List Char} :
    skip? mark text = some rest ↔ text = mark :: rest := by
  cases text with
  | nil => simp [skip?]
  | cons c text =>
      rw [skip?]
      split
      case isTrue h => simp [h]
      case isFalse h => simp [h]

theorem skipSeparator?_eq_some_iff {text rest : List Char} :
    skipSeparator? text = some rest ↔ ∃ mark : Char, mark.toNat < 0x80 ∧ text = mark :: rest := by
  cases text with
  | nil => simp [skipSeparator?]
  | cons c text =>
      rw [skipSeparator?]
      constructor
      · intro h
        split at h
        case isTrue hascii =>
          cases h
          exact ⟨c, hascii, rfl⟩
        case isFalse => cases h
      · rintro ⟨mark, hascii, heq⟩
        obtain ⟨rfl, rfl⟩ := List.cons.inj heq
        exact if_pos hascii

/-! ## Fractions -/

theorem exists_withoutTrailingZeros_append (digits : List Char) :
    ∃ count, digits = withoutTrailingZeros digits ++ List.replicate count '0' := by
  let zeros := digits.reverse.takeWhile (· == '0')
  have hzeros : zeros = List.replicate zeros.length '0' := by
    apply List.eq_replicate_of_mem
    intro c hc
    exact beq_iff_eq.mp (List.all_eq_true.mp List.all_takeWhile c hc)
  refine ⟨zeros.length, ?_⟩
  calc digits = (zeros ++ digits.reverse.dropWhile (· == '0')).reverse := by
        rw [List.takeWhile_append_dropWhile, List.reverse_reverse]
    _ = withoutTrailingZeros digits ++ zeros.reverse := List.reverse_append
    _ = withoutTrailingZeros digits ++ List.replicate zeros.length '0' := by
        rw [hzeros, List.reverse_replicate, List.length_replicate]

/-- Zeros at the end, as many as there are digits, give the digits back. -/
theorem take_withoutTrailingZeros {digits : List Char} {width : Nat}
    (hwidth : digits.length = width) :
    (withoutTrailingZeros digits ++ List.replicate width '0').take width = digits := by
  obtain ⟨count, hdigits⟩ := exists_withoutTrailingZeros_append digits
  have hlength := congrArg List.length hdigits
  rw [List.length_append, List.length_replicate] at hlength
  have hzeros : List.replicate width '0' =
      List.replicate count '0' ++ List.replicate (width - count) '0' := by
    rw [List.replicate_append_replicate]
    congr 1
    omega
  rw [hzeros, ← List.append_assoc, ← hdigits, List.take_append_of_le_length (by omega),
    List.take_of_length_le (by omega)]

theorem isDigit_of_mem_withoutTrailingZeros {width n : Nat} {c : Char}
    (h : c ∈ withoutTrailingZeros (padded width n)) : c.isDigit = true := by
  obtain ⟨count, hpadded⟩ := exists_withoutTrailingZeros_append (padded width n)
  have hmem : c ∈ padded width n := by
    rw [hpadded]
    exact List.mem_append_left _ h
  exact isDigit_of_mem_padded hmem

theorem withoutTrailingZeros_padded_ne_nil {width n : Nat} (hpos : 0 < n)
    (h : n < Nat.pow 10 width) : withoutTrailingZeros (padded width n) ≠ [] := by
  intro hnil
  obtain ⟨count, hpadded⟩ := exists_withoutTrailingZeros_append (padded width n)
  have hvalue := ofDigitChars_padded width n
  rw [hpadded, hnil, List.nil_append, Nat.ofDigitChars_replicate_zero, Nat.mul_zero,
    Nat.mod_eq_of_lt h] at hvalue
  omega

theorem length_withoutTrailingZeros_le (digits : List Char) :
    (withoutTrailingZeros digits).length ≤ digits.length := by
  obtain ⟨count, hdigits⟩ := exists_withoutTrailingZeros_append digits
  have hlength := congrArg List.length hdigits
  rw [List.length_append] at hlength
  omega

theorem getLast?_withoutTrailingZeros (digits : List Char) :
    (withoutTrailingZeros digits).getLast? ≠ some '0' := by
  intro h
  have hhead := List.head?_dropWhile_not (· == '0') digits.reverse
  rw [withoutTrailingZeros, List.getLast?_reverse] at h
  rw [h] at hhead
  cases hhead

/-- The digits of a fraction are read up to the first character that is none. -/
theorem fraction?_cons {digits : List Char} (hdigits : ∀ c ∈ digits, c.isDigit = true)
    (hne : digits ≠ []) {mark : Char} (hmark : mark.isDigit = false) (rest : List Char) :
    fraction? ('.' :: (digits ++ mark :: rest)) =
      some (Nat.ofDigitChars 10 ((digits ++ List.replicate 9 '0').take 9) 0, mark :: rest) := by
  have hwhile : (digits ++ mark :: rest).takeWhile Char.isDigit = digits := by
    rw [List.takeWhile_append_of_pos hdigits, List.takeWhile_cons_of_neg (by simp [hmark]),
      List.append_nil]
  have hrest : (digits ++ mark :: rest).dropWhile Char.isDigit = mark :: rest := by
    rw [List.dropWhile_append_of_pos hdigits, List.dropWhile_cons_of_neg (by simp [hmark])]
  have hnonempty : digits.isEmpty = false := List.isEmpty_eq_false_iff.mpr hne
  simp only [fraction?, hwhile, hrest, hnonempty]
  rfl

end ViewAudit.Stamp
