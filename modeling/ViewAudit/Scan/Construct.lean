import ViewAudit.Scan.Pattern

/-!
The constructs of view source that the checks look for, each given by its name
and its pattern.
-/

namespace ViewAudit

/-- A construct that may be present in view source. -/
inductive Construct where
  | imageInstantiation
  | accessibilityLabel
  | buttonInstantiation
  | textElement
  | labelElement
  | customGesture
  | accessibilityAction
  | shapeOrIcon
  deriving DecidableEq, Repr

namespace Construct

/-- Every construct, in the order of the reference table. -/
def all : List Construct :=
  [imageInstantiation, accessibilityLabel, buttonInstantiation, textElement, labelElement,
    customGesture, accessibilityAction, shapeOrIcon]

def name : Construct → String
  | imageInstantiation => "image_instantiation"
  | accessibilityLabel => "accessibility_label"
  | buttonInstantiation => "button_instantiation"
  | textElement => "text_element"
  | labelElement => "label_element"
  | customGesture => "custom_gesture"
  | accessibilityAction => "accessibility_action"
  | shapeOrIcon => "shape_or_icon"

/-- Words that show information by a shape or an icon. -/
def shapeWords : List String :=
  ["Image", "SF", "Symbol", "Circle", "Rectangle", "shape"]

def pattern : Construct → Pattern
  | imageInstantiation => [[.word "Image", .blanks, .word "("]]
  | accessibilityLabel =>
      [[.word ".accessibilityLabel", .blanks, .word "("],
        [.word ".accessibility", .blanks, .word "(", .blanks, .word "label:"]]
  | buttonInstantiation => [[.word "Button", .blanks, .word "("]]
  | textElement => [[.edge, .word "Text", .blanks, .word "("]]
  | labelElement => [[.edge, .word "Label", .blanks, .word "("]]
  | customGesture => [[.word ".onTapGesture"], [.word ".gesture("]]
  | accessibilityAction => [[.word ".accessibilityAction("]]
  | shapeOrIcon => [[.edge, .oneOf shapeWords, .edge]]

example : accessibilityLabel.pattern.source =
    "\\.accessibilityLabel\\s*\\(|\\.accessibility\\s*\\(\\s*label:" := by decide +kernel

/-- Whether a construct is present in a text. -/
def isPresent (construct : Construct) (text : List Char) : Bool :=
  construct.pattern.occurs text

end Construct

end ViewAudit
