import ViewAudit.Text.Utf8

/-!
What a run can see of a file system: the bytes of a file and the names in a
directory. Paths are texts; names of files are bytes, since a file system does
not ask for well-formed text.
-/

namespace ViewAudit

/-- The name of a file in its directory. -/
abbrev FileName := List UInt8

/-- Why a file cannot be read as text. -/
inductive ReadError where
  | missing
  | notADirectory
  | isADirectory
  | nameTooLong
  | tooManyLinks
  | nulInPath
  | invalidText
  /-- Another failure, in the words of the system. -/
  | system (text : String)
  deriving DecidableEq, Repr

def ReadError.message : ReadError → String
  | missing => "No such file or directory (os error 2)"
  | notADirectory => "Not a directory (os error 20)"
  | isADirectory => "Is a directory (os error 21)"
  | nameTooLong => "File name too long (os error 36)"
  | tooManyLinks => "Too many levels of symbolic links (os error 40)"
  | nulInPath => "file name contained an unexpected NUL byte"
  | invalidText => "stream did not contain valid UTF-8"
  | system text => text

/-- The reason for a failure, by the number and the words of the system. -/
def ReadError.ofSystem (number : Nat) (details : String) : ReadError :=
  match number with
  | 2 => missing
  | 20 => notADirectory
  | 21 => isADirectory
  | 36 => nameTooLong
  | 40 => tooManyLinks
  | number => system (details ++ " (os error " ++ number.repr ++ ")")

/-- Access to files by path. -/
structure Files where
  /-- The contents of a file. -/
  read : String → Except ReadError (List UInt8)
  /-- The names in a directory, in any order, as far as they can be listed. There
  is no list for a path that leads nowhere, and an empty one for what is not a
  directory or may not be listed. -/
  list : String → Option (List FileName)
  /-- What could not be listed of a directory, in the words of the system. -/
  listFailures : String → List String := fun _ => []

/-- The text that some bytes encode. -/
def textOf (bytes : List UInt8) : Except ReadError String :=
  match Utf8.text? bytes with
  | some text => .ok text
  | none => .error .invalidText

/-- The contents of a file as text. -/
def Files.readText (files : Files) (path : String) : Except ReadError String := do
  textOf (← files.read path)

end ViewAudit
