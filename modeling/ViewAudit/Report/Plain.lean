import ViewAudit.Report.Basic

/-!
Reports as text for a person to read. Each is a list of lines, every one of
which is ended by a newline.
-/

namespace ViewAudit

/-- Lines as one text. -/
def joinLines (lines : List String) : String :=
  String.ofList (lines.flatMap fun line => line.toList ++ ['\n'])

/-- The line between the parts of a report. -/
def separator : String := "=================================================="

/-- What stands before a finding. The warning sign is narrow, so a blank
follows it. -/
def Severity.glyph : Severity → String
  | issue => "🚨"
  | warning => "⚠️ "

namespace ScanReport

def manualChecks : List String :=
  ["Test with VoiceOver", "Verify Dynamic Type support", "Check color contrast ratios"]

def findingLines (finding : Finding) : List String :=
  ["", finding.severity.glyph ++ " " ++ finding.message] ++
    finding.help.toList.map ("   → " ++ ·)

/-- The findings of a tier under its title; no line for an empty tier. -/
def tierLines (title : String) (findings : List Finding) : List String :=
  if findings.isEmpty then [] else ["", title] ++ findings.flatMap findingLines

/-- The lines on a text with nothing to find. -/
def cleanLines : List String :=
  ["✅ No obvious accessibility issues detected!", "",
    "💡 Manual checks still recommended:"] ++ manualChecks.map ("   • " ++ ·)

def plainLines (report : ScanReport) : List String :=
  ["♿ A11y Quick Scan", separator] ++
    if report.issues.isEmpty && report.warnings.isEmpty then cleanLines
    else
      tierLines "🔴 ISSUES (high priority):" report.issues ++
        tierLines "🟡 WARNINGS (should review):" report.warnings ++
        ["", separator, "📖 Learn more: " ++ Check.guidanceUrl]

def plain (report : ScanReport) : String := joinLines report.plainLines

end ScanReport

namespace AdviceReport

def entryLines : AdviceEntry → List String
  | .generalNotice =>
      ["🔍 No specific keywords detected. Providing general HIG recommendations:"]
  | .guideHeader guide => ["", "📘 From " ++ guide ++ ".md:"]
  | .point _ text => ["  " ++ text]

def bodyLines (entries : List AdviceEntry) : List String :=
  if entries.isEmpty then ["✅ No specific recommendations. Code looks good!"]
  else entries.flatMap entryLines

def plainLines (report : AdviceReport) : List String :=
  ["🎨 HIG Advisor Analysis", separator] ++ bodyLines report.recommendations ++
    ["", separator, "📚 Loaded guides: " ++ String.intercalate ", " report.loadedGuides]

def plain (report : AdviceReport) : String := joinLines report.plainLines

end AdviceReport

end ViewAudit
