import Mathlib.Data.List.Infix
import ViewAudit.Report.Plain

/-!
What is left of lines in the text that they were joined to. A line with no
newline in it is a piece of the text; from there on it is told by the mark at its
start.
-/

namespace ViewAudit

/-- The pieces that the newlines cut a text into. -/
def piecesOf (text : String) : List String := (text.toList.splitOn '\n').map String.ofList

/-- What comes after a mark at the start of a line. -/
def afterMark? (mark line : String) : Option String :=
  (mark.toList.isPrefixOf? line.toList).map String.ofList

/-- What comes before a mark at the end of a line. -/
def beforeMark? (mark line : String) : Option String :=
  (mark.toList.isSuffixOf? line.toList).map String.ofList

theorem piecesOf_joinLines_append {lines : List String} (h : ∀ line ∈ lines, '\n' ∉ line.toList)
    (more : List String) :
    piecesOf (joinLines (lines ++ more)) = lines ++ piecesOf (joinLines more) := by
  induction lines with
  | nil => rfl
  | cons line rest ih =>
      obtain ⟨hline, hrest⟩ := List.forall_mem_cons.mp h
      have hchars : (joinLines (line :: rest ++ more)).toList =
          line.toList ++ '\n' :: (joinLines (rest ++ more)).toList := by
        simp [joinLines]
      rw [piecesOf, hchars, List.splitOn_append_cons_self, List.splitOn_eq_singleton hline,
        List.map_append, List.map_singleton, String.ofList_toList, ← piecesOf, ih hrest]
      rfl

theorem piecesOf_joinLines {lines : List String} (h : ∀ line ∈ lines, '\n' ∉ line.toList) :
    piecesOf (joinLines lines) = lines ++ [""] := by
  rw [← List.append_nil lines, piecesOf_joinLines_append h, List.append_nil]
  rfl

theorem afterMark?_eq_some_iff {mark line rest : String} :
    afterMark? mark line = some rest ↔ line = mark ++ rest := by
  rw [afterMark?, Option.map_eq_some_iff, ← String.toList_inj, String.toList_append]
  constructor
  · rintro ⟨chars, hchars, rfl⟩
    rw [String.toList_ofList, List.isPrefixOf?_eq_some_iff_append_eq.mp hchars]
  · intro hline
    exact ⟨rest.toList, List.isPrefixOf?_eq_some_iff_append_eq.mpr hline.symm,
      String.ofList_toList⟩

theorem beforeMark?_eq_some_iff {mark line rest : String} :
    beforeMark? mark line = some rest ↔ line = rest ++ mark := by
  rw [beforeMark?, Option.map_eq_some_iff, ← String.toList_inj, String.toList_append]
  constructor
  · rintro ⟨chars, hchars, rfl⟩
    rw [String.toList_ofList, List.isSuffixOf?_eq_some_iff_append_eq.mp hchars]
  · intro hline
    exact ⟨rest.toList, List.isSuffixOf?_eq_some_iff_append_eq.mpr hline.symm,
      String.ofList_toList⟩

theorem afterMark?_append (mark rest : String) : afterMark? mark (mark ++ rest) = some rest :=
  afterMark?_eq_some_iff.mpr rfl

/-- Lines that begin with different characters are different. -/
theorem ne_of_head?_ne {line other : String} (h : line.toList.head? ≠ other.toList.head?) :
    line ≠ other := by
  rintro rfl
  exact h rfl

/-- A mark is not at the start of a line that begins with another character. -/
theorem afterMark?_eq_none {mark line : String} (hmark : mark ≠ "")
    (h : line.toList.head? ≠ mark.toList.head?) : afterMark? mark line = none := by
  rw [Option.eq_none_iff_forall_not_mem]
  intro rest hrest
  have hchars : mark.toList ≠ [] := fun hnil => hmark (String.toList_inj.mp hnil)
  obtain ⟨c, chars, hcons⟩ := List.exists_cons_of_ne_nil hchars
  rw [afterMark?_eq_some_iff.mp hrest, String.toList_append, hcons] at h
  exact h rfl

end ViewAudit
