import ViewAudit.Proofs.Text.Blank

/-!
What trimming leaves of a text: the one part of it that neither begins nor ends
with a blank and has nothing but blanks around it. More blanks at the ends of a
text, or fewer of them, make no difference.
-/

namespace ViewAudit

/-- A text that neither begins nor ends with a blank. -/
structure IsTrimmed (text : List Char) : Prop where
  head : text.head?.any isBlank = false
  last : text.getLast?.any isBlank = false

/-- A text consists of another one, which is trimmed, and of blanks around it. -/
structure TrimsTo (text core : List Char) : Prop where
  isTrimmed : IsTrimmed core
  exists_runs : ∃ front back, IsBlankRun front ∧ IsBlankRun back ∧ text = front ++ core ++ back

/-! ## Runs at the ends -/

theorem trimEnd_of_isBlankRun {run : List Char} (hrun : IsBlankRun run) : trimEnd run = [] := by
  induction run with
  | nil => rfl
  | cons c rest ih =>
      obtain ⟨hc, hrest⟩ := isBlankRun_cons.mp hrun
      rw [trimEnd, ih hrest]
      exact if_pos hc

theorem trimEnd_append_run (text : List Char) {run : List Char} (hrun : IsBlankRun run) :
    trimEnd (text ++ run) = trimEnd text := by
  induction text with
  | nil => exact trimEnd_of_isBlankRun hrun
  | cons c rest ih => rw [List.cons_append, trimEnd, trimEnd, ih]

theorem trim_run_append {run : List Char} (hrun : IsBlankRun run) (text : List Char) :
    trim (run ++ text) = trim text := by
  have hstart : trimStart (run ++ text) = trimStart text := List.dropWhile_append_of_pos hrun
  rw [trim, trim, hstart]

theorem trim_of_isBlankRun {run : List Char} (hrun : IsBlankRun run) : trim run = [] := by
  rw [← List.append_nil run]
  exact trim_run_append hrun []

theorem trim_append_run (text : List Char) {run : List Char} (hrun : IsBlankRun run) :
    trim (text ++ run) = trim text := by
  induction text with
  | nil => exact trim_of_isBlankRun hrun
  | cons c rest ih =>
      cases hc : isBlank c with
      | true =>
          have hone : IsBlankRun [c] := by simp [IsBlankRun, hc]
          calc trim (c :: rest ++ run) = trim (rest ++ run) := trim_run_append hone _
            _ = trim rest := ih
            _ = trim (c :: rest) := (trim_run_append hone rest).symm
      | false =>
          have hkeep (text : List Char) : trim (c :: text) = trimEnd (c :: text) := by
            rw [trim, trimStart, List.dropWhile_cons_of_neg (by simp [hc])]
          rw [List.cons_append, hkeep, hkeep, ← List.cons_append]
          exact trimEnd_append_run _ hrun

theorem trim_between {front back : List Char} (hfront : IsBlankRun front)
    (hback : IsBlankRun back) (core : List Char) : trim (front ++ core ++ back) = trim core := by
  rw [trim_append_run _ hback, trim_run_append hfront]

/-! ## Trimmed texts -/

theorem trimEnd_eq_self {text : List Char} (h : text.getLast?.any isBlank = false) :
    trimEnd text = text := by
  induction text with
  | nil => rfl
  | cons c rest ih =>
      cases rest with
      | nil =>
          have hc : isBlank c = false := h
          simp [trimEnd, hc]
      | cons d rest =>
          rw [List.getLast?_cons_cons] at h
          rw [trimEnd, ih h]

theorem trim_of_isTrimmed {text : List Char} (h : IsTrimmed text) : trim text = text := by
  have hstart : trimStart text = text := by
    cases text with
    | nil => rfl
    | cons c rest =>
        have hc : isBlank c = false := h.head
        exact List.dropWhile_cons_of_neg (by simp [hc])
  rw [trim, hstart, trimEnd_eq_self h.last]

theorem any_getLast?_trimEnd (text : List Char) :
    (trimEnd text).getLast?.any isBlank = false := by
  induction text with
  | nil => rfl
  | cons c rest ih =>
      rw [trimEnd]
      split
      case h_1 =>
        split
        case isTrue => rfl
        case isFalse hc => simpa using hc
      case h_2 hne =>
        obtain ⟨d, kept, hkept⟩ := List.exists_cons_of_ne_nil hne
        rw [hkept] at ih ⊢
        rwa [List.getLast?_cons_cons]

theorem any_head?_trimStart (text : List Char) :
    (trimStart text).head?.any isBlank = false := by
  have h := List.head?_dropWhile_not isBlank text
  rw [trimStart]
  cases hhead : (text.dropWhile isBlank).head? with
  | none => rfl
  | some c =>
      rw [hhead] at h
      simpa using h

/-- Trimming the end of a text leaves its first character, or nothing at all. -/
theorem any_head?_trimEnd {text : List Char} (h : text.head?.any isBlank = false) :
    (trimEnd text).head?.any isBlank = false := by
  obtain ⟨blanks, -, heq⟩ := exists_append_trimEnd text
  cases hkept : trimEnd text with
  | nil => rfl
  | cons c kept =>
      rw [heq, hkept] at h
      exact h

theorem trimsTo_trim (text : List Char) : TrimsTo text (trim text) where
  isTrimmed :=
    { head := any_head?_trimEnd (any_head?_trimStart text)
      last := any_getLast?_trimEnd (trimStart text) }
  exists_runs := by
    obtain ⟨front, hfront, htext⟩ := exists_append_trimStart text
    obtain ⟨back, hback, hstart⟩ := exists_append_trimEnd (trimStart text)
    refine ⟨front, back, hfront, hback, ?_⟩
    rw [trim, List.append_assoc, ← hstart]
    exact htext

/-- A text trims to one text only. -/
theorem trim_eq_iff {text core : List Char} : trim text = core ↔ TrimsTo text core := by
  constructor
  · rintro rfl
    exact trimsTo_trim text
  · rintro ⟨htrimmed, front, back, hfront, hback, rfl⟩
    rw [trim_between hfront hback, trim_of_isTrimmed htrimmed]

theorem trim_isInfix (text : List Char) : trim text <:+: text := by
  obtain ⟨front, back, -, -, heq⟩ := (trimsTo_trim text).exists_runs
  exact ⟨front, back, heq.symm⟩

end ViewAudit
