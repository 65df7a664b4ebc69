import ViewAudit.Files.Basic

/-!
The text that a run is about: the contents of a file, or else all of standard
input.
-/

namespace ViewAudit

/-- Why there is no text. -/
inductive SourceError where
  | file (path : String) (cause : ReadError)
  | standardInput (cause : ReadError)
  deriving DecidableEq, Repr

def SourceError.message : SourceError → String
  | file path cause => "Error reading file " ++ path ++ ": " ++ cause.message
  | standardInput cause => "Error reading standard input: " ++ cause.message

def readStandardInput (input : List UInt8) : Except SourceError String :=
  (textOf input).mapError .standardInput

/-- The text of the file at a path, if one is given, or of standard input. -/
def readSource (files : Files) (input : List UInt8) : (path : Option String) →
    Except SourceError String
  | some path => (files.readText path).mapError (.file path)
  | none => readStandardInput input

end ViewAudit
