/-!
What each check looks for, why that matters and how to remedy it. An
explanation is found by the name of a check and by the code of its finding. The
names are listed here apart from the checks; that both agree is a theorem.
-/

namespace ViewAudit

/-- What there is to know about a check. -/
structure Explanation where
  title : String
  /-- What the check looks for and why it matters. -/
  description : String
  /-- How to fix what is found. -/
  remediation : String
  /-- Source that is shown as flagged. -/
  before : String
  /-- Source that is shown as passing. -/
  after : String
  deriving DecidableEq, Repr

/-- Lines as one text, without a newline at its end. -/
def textOfLines (lines : List String) : String := String.intercalate "\n" lines

namespace Check

def unlabeledImagesExplanation : Explanation where
  title := "Unlabeled Images"
  description := textOfLines
    ["Detects views that instantiate an `Image(...)` while no accessibility label is",
     "attached anywhere in the same source text.",
     "",
     "VoiceOver reads an unlabeled image as its asset name, or skips it entirely.",
     "Either way the user loses whatever the image was meant to convey.",
     "",
     "The check is a textual co-occurrence heuristic: a single `.accessibilityLabel(`",
     "anywhere in the file satisfies it, even if it belongs to a different view."]
  remediation := textOfLines
    ["Attach a short, descriptive label to every meaningful image:",
     "",
     "    Image(\"chart\").accessibilityLabel(\"Sales grew 12% this quarter\")",
     "",
     "Purely decorative images should be hidden instead:",
     "",
     "    Image(decorative: \"divider\")",
     "    Image(\"divider\").accessibilityHidden(true)"]
  before := textOfLines
    ["Image(\"profile-photo\")",
     "    .resizable()",
     "    .frame(width: 48, height: 48)"]
  after := textOfLines
    ["Image(\"profile-photo\")",
     "    .resizable()",
     "    .frame(width: 48, height: 48)",
     "    .accessibilityLabel(\"Profile photo of Jordan\")"]

def unlabeledControlsExplanation : Explanation where
  title := "Buttons Without Accessibility Context"
  description := textOfLines
    ["Detects `Button(...)` instantiations in source text that never mentions",
     "accessibility at all.",
     "",
     "Buttons built from icons or custom views often have no spoken name. The check is",
     "deliberately coarse: any occurrence of the word \"accessibility\" (any case)",
     "anywhere in the text suppresses it."]
  remediation := textOfLines
    ["Give icon-only and custom buttons a label, and a hint where the outcome is not",
     "obvious:",
     "",
     "    Button(action: share) \x7b Image(systemName: \"square.and.arrow.up\") \x7d",
     "        .accessibilityLabel(\"Share\")",
     "        .accessibilityHint(\"Opens the share sheet\")"]
  before := textOfLines
    ["Button(action: toggleFavorite) \x7b",
     "    Image(systemName: \"star\")",
     "\x7d"]
  after := textOfLines
    ["Button(action: toggleFavorite) \x7b",
     "    Image(systemName: \"star\")",
     "\x7d",
     ".accessibilityLabel(\"Favorite\")"]

def noTextContentExplanation : Explanation where
  title := "No Textual Content"
  description := textOfLines
    ["Detects view source longer than 100 characters that contains neither a",
     "`Text(...)` nor a `Label(...)` element.",
     "",
     "A view without any text may give screen readers nothing to announce. Short",
     "fragments are exempt because they are usually partial snippets rather than",
     "whole views."]
  remediation := textOfLines
    ["Make sure the view exposes readable content, either as visible `Text`/`Label`",
     "elements or through accessibility labels on the container:",
     "",
     "    VStack \x7b ... \x7d",
     "        .accessibilityElement(children: .combine)",
     "        .accessibilityLabel(\"Battery at 80 percent\")"]
  before := textOfLines
    ["HStack \x7b",
     "    Circle().fill(Color.green).frame(width: 12, height: 12)",
     "    Rectangle().frame(width: 80, height: 4)",
     "\x7d"]
  after := textOfLines
    ["HStack \x7b",
     "    Circle().fill(Color.green).frame(width: 12, height: 12)",
     "    Text(\"Online\")",
     "\x7d"]

def inaccessibleGesturesExplanation : Explanation where
  title := "Inaccessible Custom Gestures"
  description := textOfLines
    ["Detects `.onTapGesture` or `.gesture(...)` modifiers when no",
     "`.accessibilityAction(...)` is attached anywhere in the source text.",
     "",
     "Custom gestures are invisible to VoiceOver and Switch Control unless the same",
     "behaviour is exposed as an accessibility action."]
  remediation := textOfLines
    ["Expose the gesture's effect as an accessibility action, or prefer a `Button`",
     "which is accessible by default:",
     "",
     "    card",
     "        .onTapGesture \x7b open() \x7d",
     "        .accessibilityAction \x7b open() \x7d"]
  before := textOfLines
    ["CardView(item: item)",
     "    .onTapGesture \x7b open(item) \x7d"]
  after := textOfLines
    ["CardView(item: item)",
     "    .onTapGesture \x7b open(item) \x7d",
     "    .accessibilityAction \x7b open(item) \x7d"]

def colorOnlyInformationExplanation : Explanation where
  title := "Color-Only Information"
  description := textOfLines
    ["Detects color usage (`color:`, `foregroundColor`, `background(Color`) in source",
     "text that contains no shape or icon indicator (`Image`, `SF`, `Symbol`,",
     "`Circle`, `Rectangle`, `shape`).",
     "",
     "Users with color vision deficiencies cannot rely on hue alone to tell states",
     "apart."]
  remediation := textOfLines
    ["Pair color with a second cue: an SF Symbol, a shape, or text.",
     "",
     "    HStack \x7b",
     "        Image(systemName: \"exclamationmark.triangle.fill\")",
     "        Text(\"Overdue\")",
     "    \x7d",
     "    .foregroundColor(.red)"]
  before := textOfLines
    ["Text(item.title)",
     "    .foregroundColor(item.isOverdue ? .red : .primary)"]
  after := textOfLines
    ["HStack \x7b",
     "    if item.isOverdue \x7b Image(systemName: \"exclamationmark.circle\") \x7d",
     "    Text(item.title)",
     "\x7d",
     ".foregroundColor(item.isOverdue ? .red : .primary)"]

/-- The explanation of an image without a label is that of the check, under a title of
its own. -/
def missingLabelExplanation : Explanation :=
  { unlabeledImagesExplanation with title := "Image Missing Accessibility Label" }

/-- What goes by each name: first the names of checks, then the codes of findings. All codes
but one share the explanation of the check. -/
def registry : List (String × Explanation) :=
  [("a11y.unlabeled_images", unlabeledImagesExplanation),
    ("a11y.unlabeled_controls", unlabeledControlsExplanation),
    ("a11y.no_text_content", noTextContentExplanation),
    ("a11y.inaccessible_gestures", inaccessibleGesturesExplanation),
    ("a11y.color_only_information", colorOnlyInformationExplanation),
    ("image_missing_label", missingLabelExplanation),
    ("button_missing_accessibility", unlabeledControlsExplanation),
    ("view_without_text", noTextContentExplanation),
    ("gesture_missing_action", inaccessibleGesturesExplanation),
    ("color_without_indicator", colorOnlyInformationExplanation)]

/-- The explanation that goes by a name of a check or a code of a finding. -/
def lookup? (identifier : String) : Option Explanation := registry.lookup identifier

/-- The names of all checks, in the order of evaluation. -/
def ids : List String :=
  ["a11y.unlabeled_images", "a11y.unlabeled_controls", "a11y.no_text_content",
    "a11y.inaccessible_gestures", "a11y.color_only_information"]

/-- The codes of all findings. -/
def codes : List String :=
  ["image_missing_label", "button_missing_accessibility", "view_without_text",
    "gesture_missing_action", "color_without_indicator"]

end Check

end ViewAudit
