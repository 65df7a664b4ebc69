import ViewAudit.Json.Value
import ViewAudit.Report.Basic
import ViewAudit.Time.Rfc3339

/-!
Reports as JSON values, written and read. Members are written in the order of
the fields and optional ones only if there is something to write; they are read
in any order, and members of other names are passed over. A record is also read
from the array of its members' values, and a name from an object whose only
member has it and holds null.
-/

namespace ViewAudit

/-- A member for a field that may be empty. -/
def optionalMember {α : Type} (name : String) (write : α → Json) :
    Option α → List (String × Json)
  | none => []
  | some value => [(name, write value)]

/-- The one of some values that is named. -/
def named? {α : Type} (name : α → String) (values : List α) : Json → Option α
  | .string text | .object [(text, .null)] => values.find? (name · == text)
  | _ => none

namespace Severity

def all : List Severity := [issue, warning]

def name : Severity → String
  | issue => "issue"
  | warning => "warning"

def ofJson? : Json → Option Severity := named? name all

end Severity

namespace VerdictStatus

def all : List VerdictStatus := [pass, warn, fail]

def name : VerdictStatus → String
  | pass => "pass"
  | warn => "warn"
  | fail => "fail"

def ofJson? : Json → Option VerdictStatus := named? name all

end VerdictStatus

/-- A count of 32 bits. -/
def count? (value : Json) : Option UInt32 := (value.natural? (UInt32.size - 1)).map .ofNat

namespace Finding

def toJson (finding : Finding) : Json :=
  .object <|
    [("severity", .string finding.severity.name),
      ("check_id", .string finding.checkId),
      ("code", .string finding.code),
      ("message", .string finding.message)] ++
    optionalMember "help" .string finding.help ++
    optionalMember "url" .string finding.url

def ofJson? (value : Json) : Option Finding := do
  let members ←
    value.record? ["severity", "check_id", "code", "message", "help", "url"]
  some
    { severity := ← Json.required? Severity.ofJson? "severity" members
      checkId := ← Json.required? Json.text? "check_id" members
      code := ← Json.required? Json.text? "code" members
      message := ← Json.required? Json.text? "message" members
      help := ← Json.optional? Json.text? "help" members
      url := ← Json.optional? Json.text? "url" members }

end Finding

namespace AdviceEntry

def toJson : AdviceEntry → Json
  | generalNotice => .object [("kind", .string "general_notice")]
  | guideHeader guide =>
      .object [("kind", .string "guide_header"), ("guide", .string guide)]
  | point guide text =>
      .object [("kind", .string "point"), ("guide", .string guide), ("text", .string text)]

/-- Reads an entry, whose kind says which other members it has. -/
def ofJson? (value : Json) : Option AdviceEntry := do
  let (kind, rest) ← value.tagged? "kind"
  if kind = "general_notice" then (rest.record? []).map fun _ => generalNotice
  else if kind = "guide_header" then do
    let members ← rest.record? ["guide"]
    some (guideHeader (← Json.required? Json.text? "guide" members))
  else if kind = "point" then do
    let members ← rest.record? ["guide", "text"]
    some (point (← Json.required? Json.text? "guide" members)
      (← Json.required? Json.text? "text" members))
  else none

end AdviceEntry

namespace VerdictCounts

def toJson (counts : VerdictCounts) : Json :=
  .object [("issues", .natural counts.issues.toNat), ("warnings", .natural counts.warnings.toNat)]

def ofJson? (value : Json) : Option VerdictCounts := do
  let members ← value.record? ["issues", "warnings"]
  some
    { issues := ← Json.required? count? "issues" members
      warnings := ← Json.required? count? "warnings" members }

end VerdictCounts

namespace Verdict

def toJson (verdict : Verdict) : Json :=
  .object [("status", .string verdict.status.name), ("counts", verdict.counts.toJson)]

def ofJson? (value : Json) : Option Verdict := do
  let members ← value.record? ["status", "counts"]
  some
    { status := ← Json.required? VerdictStatus.ofJson? "status" members
      counts := ← Json.required? VerdictCounts.ofJson? "counts" members }

end Verdict

namespace ToolMeta

def toJson (tool : ToolMeta) : Json :=
  .object [("name", .string tool.name), ("version", .string tool.version)]

def ofJson? (value : Json) : Option ToolMeta := do
  let members ← value.record? ["name", "version"]
  some
    { name := ← Json.required? Json.text? "name" members
      version := ← Json.required? Json.text? "version" members }

end ToolMeta

namespace RunMeta

def stamp? (value : Json) : Option Stamp := do Stamp.read? (← value.text?)

def duration? (value : Json) : Option UInt64 := (value.natural? (UInt64.size - 1)).map .ofNat

/-- Fails on a time that has no written form; the start is written first. -/
def toJson (run : RunMeta) : Except Stamp.FormatError Json := do
  let startedAt ← run.startedAt.write
  let endedAt ← run.endedAt.mapM Stamp.write
  return .object <|
    [("started_at", .string startedAt)] ++
    optionalMember "ended_at" .string endedAt ++
    optionalMember "duration_ms" (fun ms => .natural ms.toNat) run.durationMs

def ofJson? (value : Json) : Option RunMeta := do
  let members ← value.record? ["started_at"] ["ended_at", "duration_ms"]
  some
    { startedAt := ← Json.required? stamp? "started_at" members
      endedAt := ← Json.optional? stamp? "ended_at" members
      durationMs := ← Json.optional? duration? "duration_ms" members }

end RunMeta

namespace ScanReport

def toJson (report : ScanReport) : Except Stamp.FormatError Json := do
  let run ← report.run.toJson
  return .object
    [("schema", .string report.schema),
      ("tool", report.tool.toJson),
      ("run", run),
      ("verdict", report.verdict.toJson),
      ("issues", .array (report.issues.map Finding.toJson)),
      ("warnings", .array (report.warnings.map Finding.toJson))]

def ofJson? (value : Json) : Option ScanReport := do
  let members ←
    value.record? ["schema", "tool", "run", "verdict", "issues", "warnings"]
  some
    { schema := ← Json.required? Json.text? "schema" members
      tool := ← Json.required? ToolMeta.ofJson? "tool" members
      run := ← Json.required? RunMeta.ofJson? "run" members
      verdict := ← Json.required? Verdict.ofJson? "verdict" members
      issues := ← Json.required? (Json.list? Finding.ofJson?) "issues" members
      warnings := ← Json.required? (Json.list? Finding.ofJson?) "warnings" members }

end ScanReport

namespace AdviceReport

def toJson (report : AdviceReport) : Except Stamp.FormatError Json := do
  let run ← report.run.toJson
  return .object
    [("schema", .string report.schema),
      ("tool", report.tool.toJson),
      ("run", run),
      ("topics", .strings report.topics),
      ("general", .bool report.general),
      ("recommendations", .array (report.recommendations.map AdviceEntry.toJson)),
      ("recommendations_total", .natural report.recommendationsTotal.toNat),
      ("truncated", .bool report.truncated),
      ("loaded_guides", .strings report.loadedGuides)]

def ofJson? (value : Json) : Option AdviceReport := do
  let members ←
    value.record?
      ["schema", "tool", "run", "topics", "general", "recommendations", "recommendations_total",
        "truncated", "loaded_guides"]
  some
    { schema := ← Json.required? Json.text? "schema" members
      tool := ← Json.required? ToolMeta.ofJson? "tool" members
      run := ← Json.required? RunMeta.ofJson? "run" members
      topics := ← Json.required? (Json.list? Json.text?) "topics" members
      general := ← Json.required? Json.bool? "general" members
      recommendations := ←
        Json.required? (Json.list? AdviceEntry.ofJson?) "recommendations" members
      recommendationsTotal := ← Json.required? count? "recommendations_total" members
      truncated := ← Json.required? Json.bool? "truncated" members
      loadedGuides := ← Json.required? (Json.list? Json.text?) "loaded_guides" members }

end AdviceReport

end ViewAudit
