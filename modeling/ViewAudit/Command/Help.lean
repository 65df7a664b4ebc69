import ViewAudit.Command.Arguments

/-!
The text that explains the command line of a tool: what the tool is for, and a
line for each option.
-/

namespace ViewAudit

/-- An option as it is written on a command line, and what it is for. -/
structure OptionHelp where
  spelling : String
  description : String

namespace ValueOption

/-- What stands for the value of an option. -/
def placeholder : ValueOption → String
  | file => "FILE"
  | format => "FORMAT"
  | explain => "ID"
  | root => "ROOT"

def description (tool : Tool) : ValueOption → String
  | file =>
      match tool with
      | .accessibilityCheck => "File to check (reads standard input when omitted)"
      | .guidelineAdvisor => "File to analyze (reads standard input when omitted)"
  | format =>
      "Output format [default: " ++ OutputFormat.standard.name ++ "] [possible values: " ++
        String.intercalate ", " ([OutputFormat.text, .json].map OutputFormat.name) ++ "]"
  | explain =>
      "Explain a check_id (e.g. \"a11y.unlabeled_images\") or code " ++
        "(e.g. \"image_missing_label\") instead of scanning"
  | root =>
      "Directory holding the guide documents (`" ++ guidePattern ++ "`) [default: " ++
        defaultGuideRoot ++ "]"

def help (tool : Tool) (option : ValueOption) : OptionHelp :=
  ⟨"    --" ++ option.name ++ " <" ++ option.placeholder ++ ">", option.description tool⟩

end ValueOption

/-- The line of an option; descriptions begin in one column. -/
def OptionHelp.line (width : Nat) (option : OptionHelp) : String :=
  "  " ++ option.spelling ++ String.ofList (.replicate (width - option.spelling.length) ' ') ++
    "  " ++ option.description ++ "\n"

namespace Tool

def purpose : Tool → String
  | accessibilityCheck => "Quick accessibility scan for SwiftUI code"
  | guidelineAdvisor => "Suggest Human Interface Guidelines for SwiftUI code"

/-- The form of a command line. -/
def usage (tool : Tool) : String := "Usage: " ++ tool.name ++ " [OPTIONS]\n"

/-- All options of a tool. Those without a value have a letter each. -/
def documentedOptions (tool : Tool) : List OptionHelp :=
  tool.valueOptions.map (ValueOption.help tool) ++
    [⟨"-v, --verbose", "Log debug diagnostics to stderr"⟩,
      ⟨"-h, --help", "Print help"⟩,
      ⟨"-V, --version", "Print version"⟩]

def helpText (tool : Tool) : String :=
  let width := (tool.documentedOptions.map (·.spelling.length)).foldl max 0
  tool.purpose ++ "\n\n" ++ tool.usage ++ "\nOptions:\n" ++
    String.join (tool.documentedOptions.map (·.line width))

end Tool

end ViewAudit
