/-!
Events that a run may log, each with a level and the part of the program that
it comes from. Control characters that a terminal may act on are written out in
a log, so that a message cannot change how the log looks.
-/

namespace ViewAudit

inductive LogLevel where
  | error
  | warn
  | info
  | debug
  | trace
  deriving DecidableEq, Repr

namespace LogLevel

def all : List LogLevel := [error, warn, info, debug, trace]

def name : LogLevel → String
  | error => "ERROR"
  | warn => "WARN"
  | info => "INFO"
  | debug => "DEBUG"
  | trace => "TRACE"

/-- The number of a level; less urgent levels have greater numbers. -/
def rank : LogLevel → Nat
  | error => 1
  | warn => 2
  | info => 3
  | debug => 4
  | trace => 5

end LogLevel

structure LogEvent where
  level : LogLevel
  /-- The part of the program that the event comes from. -/
  target : String
  message : String
  deriving DecidableEq, Repr

namespace LogEvent

/-- The name of the one field of an event, which holds its message. -/
def messageField : String := "message"

/-- The control characters below U+0080 that a terminal may act on, apart from
those of plain text. -/
def terminalControls : List Char := ['\x07', '\x08', '\x0c', '\x1b', '\x7f']

def hexDigits (c : Char) : List Char :=
  [Nat.digitChar (c.toNat / 16), Nat.digitChar (c.toNat % 16)]

/-- A character as it stands in a log. -/
def logChar (c : Char) : List Char :=
  if c ∈ terminalControls then '\\' :: 'x' :: hexDigits c
  else if 0x80 ≤ c.toNat ∧ c.toNat ≤ 0x9f then
    '\\' :: 'u' :: '\x7b' :: hexDigits c ++ ['\x7d']
  else [c]

/-- The line of an event in a log, without its time. -/
def line (event : LogEvent) : String :=
  event.level.name ++ " " ++ String.ofList (event.message.toList.flatMap logChar)

example : line ⟨.warn, "", "a\x1bb\u009bc\x0b"⟩ = "WARN a\\x1bb\\u\x7b9b\x7dc\x0b" := by
  decide +kernel

end LogEvent

/-- The parts of the program that have events, by their names in filters. -/
structure LogTarget where
  name : String

namespace LogTarget

def loading : LogTarget := ⟨"uiguard_guides"⟩

def discovery : LogTarget := ⟨"uiguard_guides::discover"⟩

def scanning : LogTarget := ⟨"uiguard_app::scan"⟩

def advising : LogTarget := ⟨"uiguard_app::advise"⟩

def input : LogTarget := ⟨"uiguard_cli"⟩

/-- The names that cover all targets. -/
def families : List String := ["uiguard_app", "uiguard_guides", "uiguard_cli"]

def debug (target : LogTarget) (message : String) : LogEvent := ⟨.debug, target.name, message⟩

def warn (target : LogTarget) (message : String) : LogEvent := ⟨.warn, target.name, message⟩

end LogTarget

end ViewAudit
