import ViewAudit.Scan.Construct
import ViewAudit.Text.Search

/-!
Signals are the yes-or-no facts about a text that the checks are made of.
-/

namespace ViewAudit

/-- A fact about a text. -/
inductive Signal where
  /-- A construct is present. -/
  | present (construct : Construct)
  /-- The word "accessibility" occurs, in any case. -/
  | mentionsAccessibility
  /-- A color is used. -/
  | usesColor
  /-- The text is longer than a fragment. -/
  | exceedsFragmentLength
  deriving DecidableEq, Repr

/-- Words of which each shows that a color is used. -/
def colorIndicators : List String := ["color:", "foregroundColor", "background(Color"]

/-- The number of characters up to which a text counts as a fragment. -/
def defaultFragmentLength : Nat := 100

namespace Signal

/-- Whether a signal holds of a text, where a fragment has up to
`fragmentLength` characters. -/
def holds (fragmentLength : Nat) (text : List Char) : Signal → Bool
  | present construct => construct.isPresent text
  | mentionsAccessibility => occursIn "accessibility".toList (lowerText text)
  | usesColor => colorIndicators.any fun word => occursIn word.toList text
  | exceedsFragmentLength => decide (fragmentLength < text.length)

def name : Signal → String
  | present construct => "present:" ++ construct.name
  | mentionsAccessibility => "mentions_accessibility"
  | usesColor => "uses_color"
  | exceedsFragmentLength => "exceeds_fragment_length"

end Signal

end ViewAudit
