import ViewAudit.Finding
import ViewAudit.Scan.Signal

/-!
The accessibility checks. A check fires on a text if the signal that triggers
it holds and none of the signals that suppress it does.
-/

namespace ViewAudit

/-- One kind of accessibility problem. -/
inductive Check where
  | unlabeledImages
  | unlabeledControls
  | noTextContent
  | inaccessibleGestures
  | colorOnlyInformation
  deriving DecidableEq, Repr

namespace Check

/-- Every check, in the order of evaluation. -/
def all : List Check :=
  [unlabeledImages, unlabeledControls, noTextContent, inaccessibleGestures,
    colorOnlyInformation]

theorem mem_all (check : Check) : check ∈ all := by
  cases check <;> decide

/-- The name of what is checked. -/
def id : Check → String
  | unlabeledImages => "a11y.unlabeled_images"
  | unlabeledControls => "a11y.unlabeled_controls"
  | noTextContent => "a11y.no_text_content"
  | inaccessibleGestures => "a11y.inaccessible_gestures"
  | colorOnlyInformation => "a11y.color_only_information"

/-- The name of what is found if the check fires. -/
def code : Check → String
  | unlabeledImages => "image_missing_label"
  | unlabeledControls => "button_missing_accessibility"
  | noTextContent => "view_without_text"
  | inaccessibleGestures => "gesture_missing_action"
  | colorOnlyInformation => "color_without_indicator"

def severity : Check → Severity
  | unlabeledImages | noTextContent => .issue
  | unlabeledControls | inaccessibleGestures | colorOnlyInformation => .warning

/-- The signal that a check fires on. -/
def trigger : Check → Signal
  | unlabeledImages => .present .imageInstantiation
  | unlabeledControls => .present .buttonInstantiation
  | noTextContent => .exceedsFragmentLength
  | inaccessibleGestures => .present .customGesture
  | colorOnlyInformation => .usesColor

/-- The signals of which any one keeps a check from firing. -/
def suppressors : Check → List Signal
  | unlabeledImages => [.present .accessibilityLabel]
  | unlabeledControls => [.mentionsAccessibility]
  | noTextContent => [.present .textElement, .present .labelElement]
  | inaccessibleGestures => [.present .accessibilityAction]
  | colorOnlyInformation => [.present .shapeOrIcon]

def message : Check → String
  | unlabeledImages => "Images detected without .accessibilityLabel()"
  | unlabeledControls => "Buttons detected without accessibility modifiers"
  | noTextContent => "No Text() elements found in view"
  | inaccessibleGestures => "Custom gestures detected without .accessibilityAction()"
  | colorOnlyInformation => "Color usage detected"

/-- How to remedy what is found. -/
def help : Check → String
  | unlabeledImages => "Add descriptive labels for screen readers"
  | unlabeledControls => "Consider adding .accessibilityLabel() or .accessibilityHint()"
  | noTextContent => "Screen readers may have no content to announce"
  | inaccessibleGestures => "Make gestures accessible via VoiceOver"
  | colorOnlyInformation => "Ensure information is not conveyed by color alone"

/-- Where to read on, whatever is found. -/
def guidanceUrl : String := "https://developer.apple.com/accessibility/"

/-- What a scan reports if the check fires. -/
def finding (check : Check) : Finding where
  severity := check.severity
  checkId := check.id
  code := check.code
  message := check.message
  help := some check.help
  url := some guidanceUrl

/-- Whether a check fires on a text, where a fragment has up to
`fragmentLength` characters. -/
def fires (fragmentLength : Nat) (text : List Char) (check : Check) : Bool :=
  check.trigger.holds fragmentLength text &&
    !check.suppressors.any (·.holds fragmentLength text)

/-- The checks that fire on a text, in the order of evaluation. -/
def firing (fragmentLength : Nat) (text : List Char) : List Check :=
  all.filter (·.fires fragmentLength text)

end Check

end ViewAudit
