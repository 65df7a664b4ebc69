import ViewAudit.Json.Value

/-!
Writing JSON, with every part on a line of its own or all on one line. Strings
escape quotes, backslashes and the characters below U+0020, and nothing else.
-/

namespace ViewAudit.Json

/-- A character as it stands in a string. -/
def escapeChar (c : Char) : List Char :=
  match c with
  | '"' => ['\\', '"']
  | '\\' => ['\\', '\\']
  | '\x08' => ['\\', 'b']
  | '\t' => ['\\', 't']
  | '\n' => ['\\', 'n']
  | '\x0c' => ['\\', 'f']
  | '\r' => ['\\', 'r']
  | c =>
      if c.toNat < 0x20 then
        ['\\', 'u', '0', '0', Nat.digitChar (c.toNat / 16), Nat.digitChar (c.toNat % 16)]
      else [c]

def writeString (text : String) : List Char :=
  '"' :: text.toList.flatMap escapeChar ++ ['"']

def writeNatural (n : Nat) : List Char := Nat.toDigits 10 n

def writeInteger : Int → List Char
  | .ofNat n => writeNatural n
  | .negSucc n => '-' :: writeNatural (n + 1)

def writeNumber : JsonNumber → List Char
  | .integer value => writeInteger value
  | .decimal negative digits exponent =>
      (if negative then ['-'] else []) ++ writeNatural digits ++ 'e' :: writeInteger exponent

/-- What stands between the parts of containers. -/
structure Layout where
  /-- The break before a part at a depth, and before the end of a container. -/
  lineBreak : Nat → List Char
  afterColon : List Char

/-- Every part on a line of its own, indented by two blanks for each
container. -/
def Layout.indented : Layout where
  lineBreak depth := '\n' :: List.replicate (2 * depth) ' '
  afterColon := [' ']

/-- Everything on one line. -/
def Layout.compact : Layout where
  lineBreak _ := []
  afterColon := []

mutual

/-- A value as text, at a depth of containers. -/
def write (layout : Layout) (depth : Nat) : Json → List Char
  | .null => "null".toList
  | .bool true => "true".toList
  | .bool false => "false".toList
  | .number value => writeNumber value
  | .string value => writeString value
  | .array [] => ['[', ']']
  | .array (item :: rest) =>
      '[' :: layout.lineBreak (depth + 1) ++ write layout (depth + 1) item ++
        writeItems layout (depth + 1) rest ++ layout.lineBreak depth ++ [']']
  | .object [] => ['{', '}']
  | .object ((name, value) :: rest) =>
      '{' :: layout.lineBreak (depth + 1) ++
        writeString name ++ ':' :: layout.afterColon ++ write layout (depth + 1) value ++
        writeMembers layout (depth + 1) rest ++ layout.lineBreak depth ++ ['}']

/-- The further items of an array. -/
def writeItems (layout : Layout) (depth : Nat) : List Json → List Char
  | [] => []
  | item :: rest =>
      ',' :: layout.lineBreak depth ++ write layout depth item ++ writeItems layout depth rest

/-- The further members of an object. -/
def writeMembers (layout : Layout) (depth : Nat) : List (String × Json) → List Char
  | [] => []
  | (name, value) :: rest =>
      ',' :: layout.lineBreak depth ++
        writeString name ++ ':' :: layout.afterColon ++ write layout depth value ++
        writeMembers layout depth rest

end

/-- A value as a text of many lines. -/
def pretty (value : Json) : String := String.ofList (value.write .indented 0)

/-- A value as a text of one line. -/
def line (value : Json) : String := String.ofList (value.write .compact 0)

example : line (.array [.natural 1, .string "a\n\x01é"]) = "[1,\"a\\n\\u0001é\"]" := by
  decide +kernel

end ViewAudit.Json
