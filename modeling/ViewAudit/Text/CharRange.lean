/-!
Sets of characters given by tables of code point ranges. A table lists its
ranges in increasing order, so a search stops at the first range above the
character it looks for.
-/

namespace ViewAudit

/-- Inclusive ranges of code points, in increasing order and disjoint. -/
abbrev CharRanges := List (Nat × Nat)

/-- Whether a range of the table holds the code point `n`. -/
def CharRanges.holds : CharRanges → Nat → Bool
  | [], _ => false
  | (low, high) :: rest, n =>
      if n < low then false else decide (n ≤ high) || holds rest n

/-- Whether a table is in order: no range is empty or touches the next one. -/
def CharRanges.inOrder : CharRanges → Bool
  | [] => true
  | [(low, high)] => decide (low ≤ high)
  | (low, high) :: (next, last) :: rest =>
      decide (low ≤ high) && decide (high + 1 < next) && inOrder ((next, last) :: rest)

/-- The number of code points in a table. -/
def CharRanges.count (ranges : CharRanges) : Nat :=
  ranges.foldl (fun total (low, high) => total + (high + 1 - low)) 0

end ViewAudit
