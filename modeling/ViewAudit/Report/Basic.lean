import ViewAudit.Guide.Advice
import ViewAudit.Scan
import ViewAudit.Time.Stamp

/-!
Reports: what a scan or an advice run gives out, together with the tool that
was run and the time that it took.
-/

namespace ViewAudit

/-- The tool that made a report. -/
structure ToolMeta where
  name : String
  version : String
  deriving DecidableEq, Repr

/-- When a report was made. -/
structure RunMeta where
  startedAt : Stamp
  endedAt : Option Stamp
  durationMs : Option UInt64
  deriving DecidableEq, Repr

/-- The tools of this library. -/
inductive Tool where
  /-- Scans a text for accessibility problems. -/
  | accessibilityCheck
  /-- Gives advice on a text from guides. -/
  | guidelineAdvisor
  deriving DecidableEq, Repr

namespace Tool

def version : String := "0.1.0"

def name : Tool → String
  | accessibilityCheck => "a11y-check"
  | guidelineAdvisor => "hig-advisor"

/-- The identifier of the reports of a tool, with the version of their form. -/
def reportSchema : Tool → String
  | accessibilityCheck => "uiguard.a11y.v1"
  | guidelineAdvisor => "uiguard.advice.v1"

def about (tool : Tool) : ToolMeta := ⟨tool.name, version⟩

end Tool

structure ScanReport where
  schema : String
  tool : ToolMeta
  run : RunMeta
  verdict : Verdict
  issues : List Finding
  warnings : List Finding
  deriving DecidableEq, Repr

structure AdviceReport where
  schema : String
  tool : ToolMeta
  run : RunMeta
  topics : List String
  general : Bool
  recommendations : List AdviceEntry
  recommendationsTotal : UInt32
  truncated : Bool
  loadedGuides : List String
  deriving DecidableEq, Repr

/-- The report on the scan of a text. -/
def ScanReport.ofText (text : String) (run : RunMeta) : ScanReport :=
  let scan := Scan.ofText text
  { schema := Tool.accessibilityCheck.reportSchema
    tool := Tool.accessibilityCheck.about
    run
    verdict := scan.verdict
    issues := scan.issues
    warnings := scan.warnings }

/-- The report on the advice that a corpus has on a text. -/
def AdviceReport.ofText (text : String) (corpus : Corpus) (run : RunMeta) : AdviceReport :=
  let advice := Advice.ofText text corpus
  { schema := Tool.guidelineAdvisor.reportSchema
    tool := Tool.guidelineAdvisor.about
    run
    topics := advice.found.names
    general := advice.found.isGeneral
    recommendations := advice.entries
    recommendationsTotal := .ofNat advice.total
    truncated := advice.isTruncated
    loadedGuides := corpus.names }

end ViewAudit
