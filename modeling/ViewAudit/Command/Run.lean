import ViewAudit.Command.Help
import ViewAudit.Explain.Answer
import ViewAudit.Log.Filter
import ViewAudit.Source

/-!
Runs of the tools, from the command line to what they print. A run ends with
code 0 and a text on standard output, with code 1 and a diagnostic on standard
error, or with code 2 if the command line is not well-formed. What it logs goes
to standard error too and is kept apart here.
-/

namespace ViewAudit

/-- What a run depends on besides its command line. -/
structure Surroundings where
  files : Files
  standardInput : List UInt8
  /-- The log filter that was set, if there is one. -/
  logSetting : Option String
  /-- The times of the run. -/
  run : RunMeta

/-- What a run leaves behind. -/
structure Outcome where
  exitCode : Nat
  standardOutput : String
  /-- Standard error, apart from the log. -/
  diagnostics : String
  log : List LogEvent
  deriving DecidableEq, Repr

namespace Outcome

def success (output : String) (events : List LogEvent) : Outcome := ⟨0, output, "", events⟩

def failure (diagnostics : String) (events : List LogEvent) : Outcome :=
  ⟨1, "", diagnostics, events⟩

def usageError (tool : Tool) : Outcome :=
  ⟨2, "", "error: invalid arguments\n\n" ++ tool.usage, []⟩

/-- An outcome with a report, if it can be rendered. -/
def ofReport (report : Except RenderError String) (events : List LogEvent) : Outcome :=
  match report with
  | .ok text => success text events
  | .error error => failure ("Error: " ++ error.message ++ "\n") events

/-- Leaves out of the log what a filter does not let through. -/
def filterLog (outcome : Outcome) (filter : LogFilter) : Outcome :=
  { outcome with log := outcome.log.filter filter.allows }

end Outcome

def LoadError.diagnostic : LoadError → String
  | error@(.directoryNotFound _) => "❌ Error: " ++ error.message ++ "\n"
  | error@(.empty _) => "⚠️  Warning: " ++ error.message ++ "\n"

def SourceError.diagnostic (error : SourceError) : String := "❌ " ++ error.message ++ "\n"

/-- The event after a text was read. -/
def readEvent (path : Option String) (text : String) : LogEvent :=
  LogTarget.input.debug
    ("read " ++ (Utf8.bytes text).length.repr ++ " bytes from " ++ path.getD "stdin")

/-- The event after a text was scanned. -/
def Verdict.event (verdict : Verdict) : LogEvent :=
  LogTarget.scanning.debug
    ("scan found " ++ verdict.counts.issues.toNat.repr ++ " issues and " ++
      verdict.counts.warnings.toNat.repr ++ " warnings")

/-- The events after advice was put together. -/
def Advice.events (advice : Advice) : List LogEvent :=
  LogTarget.advising.debug
    ("matched topics [" ++ String.intercalate ", " advice.found.names ++ "]" ++
      if advice.found.isGeneral then " (general)" else "") ::
  if advice.isTruncated then
    [LogTarget.advising.debug
      ("kept " ++ advice.entries.length.repr ++ " of " ++ advice.total.repr ++
        " recommendation entries")]
  else []

namespace Tool

def explainRun (identifier : String) : Outcome :=
  match ExplainAnswer.of identifier with
  | answer@(.found _) => .success answer.text []
  | answer@(.notFound _ _ _) => .failure answer.text []

def scanRun (options : Options) (around : Surroundings) : Outcome :=
  match readSource around.files around.standardInput options.file with
  | .error error => .failure error.diagnostic []
  | .ok text =>
      let report := ScanReport.ofText text around.run
      .ofReport (report.render options.outputFormat)
        [readEvent options.file text, report.verdict.event]

def adviceRun (options : Options) (around : Surroundings) : Outcome :=
  let events := loadingEvents around.files options.guideRoot
  match loadGuides around.files options.guideRoot with
  | .error error => .failure error.diagnostic events
  | .ok loaded =>
      match readSource around.files around.standardInput options.file with
      | .error error => .failure error.diagnostic events
      | .ok text =>
          .ofReport
            ((AdviceReport.ofText text loaded.corpus around.run).render options.outputFormat)
            (events ++ readEvent options.file text :: (Advice.ofText text loaded.corpus).events)

/-- Runs a tool with well-formed options; guides are loaded before the text is
read, and an explanation needs neither. -/
def runWith (tool : Tool) (options : Options) (around : Surroundings) : Outcome :=
  match tool, options.explain with
  | .accessibilityCheck, some identifier => explainRun identifier
  | .accessibilityCheck, none => scanRun options around
  | .guidelineAdvisor, _ => adviceRun options around

/-- Whether a run consults standard input: it needs a text, no file is named
for it, and the guides are there if the text needs them. -/
def consultsInput (tool : Tool) (options : Options) (files : Files) : Bool :=
  options.file.isNone &&
    match tool with
    | .accessibilityCheck => options.explain.isNone
    | .guidelineAdvisor => (loadGuides files options.guideRoot).isOk

/-- The version of a tool, as it prints it. -/
def versionText (tool : Tool) : String := tool.name ++ " " ++ version ++ "\n"

def all : List Tool := [accessibilityCheck, guidelineAdvisor]

def ofName? (name : String) : Option Tool := all.find? (·.name == name)

/-- Runs a tool with some arguments. -/
def run (tool : Tool) (arguments : List String) (around : Surroundings) : Outcome :=
  match Invocation.ofArguments tool arguments with
  | .usageError => .usageError tool
  | .help => .success tool.helpText []
  | .version => .success tool.versionText []
  | .run options =>
      (tool.runWith options around).filterLog
        (LogFilter.ofSetting around.logSetting options.verbose)

end Tool

end ViewAudit
