import ViewAudit.Explain.Registry
import ViewAudit.Text.Blank

/-!
Answers to the question what a name of a check or a code stands for, and their
text.
-/

namespace ViewAudit

inductive ExplainAnswer where
  | found (explanation : Explanation)
  /-- Nothing goes by the name; these names would have been known. -/
  | notFound (identifier : String) (ids codes : List String)
  deriving DecidableEq, Repr

/-- Looks up a name without regard to the blanks around it. -/
def ExplainAnswer.of (identifier : String) : ExplainAnswer :=
  let identifier := String.ofList (trim identifier.toList)
  match Check.lookup? identifier with
  | some explanation => found explanation
  | none => notFound identifier Check.ids Check.codes

/-- A title with a rule of the same length below it. -/
def headingText (title : String) (rule : Char) : String :=
  title ++ "\n" ++ String.ofList (List.replicate title.toList.length rule) ++ "\n\n"

/-- A text without the blanks at its end. -/
def withoutTrailingBlanks (text : String) : String := String.ofList (trimEnd text.toList)

/-- A piece of source under a label. -/
def sourceBlock (label source : String) : String :=
  label ++ "\n```swift\n" ++ withoutTrailingBlanks source ++ "\n```\n"

def Explanation.text (explanation : Explanation) : String :=
  headingText explanation.title '=' ++
    withoutTrailingBlanks explanation.description ++ "\n\n" ++
    headingText "How to fix" '-' ++
    withoutTrailingBlanks explanation.remediation ++ "\n\n" ++
    headingText "Example" '-' ++
    sourceBlock "Flagged:" explanation.before ++ "\n" ++
    sourceBlock "Passes:" explanation.after

/-- Names under a label, one on each line. -/
def availableText (label : String) (names : List String) : String :=
  "\nAvailable " ++ label ++ ":\n" ++ String.join (names.map fun name => "  - " ++ name ++ "\n")

/-- The text for a name that nothing goes by. -/
def notFoundText (identifier : String) (ids codes : List String) : String :=
  "Unknown check_id or code: " ++ identifier ++ "\n" ++
    availableText "check_ids" ids ++ availableText "codes" codes

def ExplainAnswer.text : ExplainAnswer → String
  | found explanation => explanation.text
  | notFound identifier ids codes => notFoundText identifier ids codes

end ViewAudit
