import ViewAudit.Proofs.Text.Search
import ViewAudit.Text.Blank
import ViewAudit.Text.Word

/-!
Runs of blanks. No blank belongs to a word, lower case leaves blanks as they
are and makes no new ones, and trimming takes runs of blanks off the ends of a
text.
-/

namespace ViewAudit

/-- A run of blanks, which may be empty. -/
def IsBlankRun (text : List Char) : Prop := ∀ c ∈ text, isBlank c = true

instance (text : List Char) : Decidable (IsBlankRun text) :=
  List.decidableBAll (fun c => isBlank c = true) text

theorem isBlankRun_nil : IsBlankRun [] := by simp [IsBlankRun]

theorem isBlankRun_cons {c : Char} {text : List Char} :
    IsBlankRun (c :: text) ↔ isBlank c = true ∧ IsBlankRun text :=
  List.forall_mem_cons

/-! ## Tables -/

theorem CharRanges.exists_of_holds {ranges : CharRanges} {n : Nat}
    (h : ranges.holds n = true) : ∃ range ∈ ranges, range.1 ≤ n ∧ n ≤ range.2 := by
  induction ranges with
  | nil => cases h
  | cons range rest ih =>
      obtain ⟨low, high⟩ := range
      rw [CharRanges.holds] at h
      split at h
      case isTrue => cases h
      case isFalse hlow =>
        rcases Bool.or_eq_true_iff.mp h with hhigh | hrest
        · exact ⟨_, List.mem_cons_self, Nat.not_lt.mp hlow, of_decide_eq_true hhigh⟩
        · obtain ⟨found, hmem, hfound⟩ := ih hrest
          exact ⟨found, List.mem_cons_of_mem _ hmem, hfound⟩

/-- The code points of blanks one by one. -/
def blankCodePoints : List Nat :=
  blankRanges.flatMap fun (low, high) => List.range' low (high + 1 - low)

theorem exists_blankCodePoint {c : Char} (h : isBlank c = true) :
    ∃ n ∈ blankCodePoints, c = Char.ofNat n := by
  obtain ⟨⟨low, high⟩, hmem, hlow, hhigh⟩ := CharRanges.exists_of_holds h
  refine ⟨c.toNat, List.mem_flatMap.mpr ⟨_, hmem, ?_⟩, (Char.ofNat_toNat c).symm⟩
  rw [List.mem_range'_1]
  omega

/-- What is true of every single blank in the table is true of all blanks. -/
theorem forall_blank {P : Char → Prop} (h : ∀ n ∈ blankCodePoints, P (Char.ofNat n)) {c : Char}
    (hc : isBlank c = true) : P c := by
  obtain ⟨n, hmem, rfl⟩ := exists_blankCodePoint hc
  exact h n hmem

theorem isWordChar_of_isBlank {c : Char} (h : isBlank c = true) : isWordChar c = false :=
  forall_blank (P := (isWordChar · = false)) (by decide +kernel) h

/-! ## Lower case -/

theorem lowerForm_of_isBlank {c : Char} (h : isBlank c = true) : lowerForm c = [c] :=
  forall_blank (P := fun c => lowerForm c = [c]) (by decide +kernel) h

theorem lowerText_of_isBlankRun {text : List Char} (h : IsBlankRun text) :
    lowerText text = text := by
  induction text with
  | nil => rfl
  | cons c rest ih =>
      obtain ⟨hc, hrest⟩ := isBlankRun_cons.mp h
      rw [lowerText_cons, lowerForm_of_isBlank hc, ih hrest]
      rfl

/-! ## Trimming -/

theorem exists_append_trimStart (text : List Char) :
    ∃ blanks, IsBlankRun blanks ∧ text = blanks ++ trimStart text := by
  refine ⟨text.takeWhile isBlank, ?_, (List.takeWhile_append_dropWhile).symm⟩
  intro c hc
  exact List.all_eq_true.mp List.all_takeWhile c hc

theorem exists_append_trimEnd (text : List Char) :
    ∃ blanks, IsBlankRun blanks ∧ text = trimEnd text ++ blanks := by
  induction text with
  | nil => exact ⟨[], isBlankRun_nil, rfl⟩
  | cons c rest ih =>
      obtain ⟨blanks, hblanks, heq⟩ := ih
      rw [trimEnd]
      split
      case h_1 hrest =>
        obtain rfl : rest = blanks := by
          rw [hrest] at heq
          exact heq
        split
        case isTrue hc => exact ⟨c :: rest, isBlankRun_cons.mpr ⟨hc, hblanks⟩, rfl⟩
        case isFalse => exact ⟨rest, hblanks, rfl⟩
      case h_2 => exact ⟨blanks, hblanks, congrArg (c :: ·) heq⟩

end ViewAudit
