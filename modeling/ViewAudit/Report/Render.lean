import ViewAudit.Json.Write
import ViewAudit.Report.Plain
import ViewAudit.Report.Record

/-!
Reports in the format that was asked for.
-/

namespace ViewAudit

inductive OutputFormat where
  | text
  | json
  deriving DecidableEq, Repr

/-- A name that no output format has. -/
structure UnknownFormat where
  name : String
  deriving DecidableEq, Repr

def UnknownFormat.message (error : UnknownFormat) : String :=
  "unknown format '" ++ error.name ++ "' (expected text or json)"

namespace OutputFormat

def standard : OutputFormat := text

def name : OutputFormat → String
  | text => "text"
  | json => "json"

def ofName (name : String) : Except UnknownFormat OutputFormat :=
  if name = "text" then .ok text
  else if name = "json" then .ok json
  else .error ⟨name⟩

end OutputFormat

/-- A report that holds a time without a written form cannot be rendered. -/
structure RenderError where
  cause : Stamp.FormatError
  deriving DecidableEq, Repr

def RenderError.message (error : RenderError) : String :=
  "serialize report: " ++ error.cause.message

/-- A value on lines of its own. -/
def jsonText (value : Except Stamp.FormatError Json) : Except RenderError String :=
  match value with
  | .error cause => .error ⟨cause⟩
  | .ok value => .ok (value.pretty ++ "\n")

/-- A report in a format, from its plain text and its value. -/
def renderAs (plain : String) (value : Except Stamp.FormatError Json) :
    OutputFormat → Except RenderError String
  | .text => .ok plain
  | .json => jsonText value

def ScanReport.render (report : ScanReport) : OutputFormat → Except RenderError String :=
  renderAs report.plain report.toJson

def AdviceReport.render (report : AdviceReport) : OutputFormat → Except RenderError String :=
  renderAs report.plain report.toJson

end ViewAudit
