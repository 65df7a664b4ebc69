import ViewAudit.Expression.Basic
import ViewAudit.Text.Hex

/-!
What a backslash stands for in a regular expression, and what of it has a place
outside and inside of sets.
-/

namespace ViewAudit.Expression

/-- A part of an expression that has no parts itself. -/
inductive Primitive where
  /-- A character; whether it was written as a byte. -/
  | character (code : Nat) (isByte : Bool)
  | anyCharacter
  /-- Digits, blanks or word characters, or all but those. -/
  | charClass (negated : Bool)
  /-- The characters of a general category. -/
  | category
  /-- The start or the end of a text or a line. -/
  | anchor
  | wordBoundary
  deriving DecidableEq, Repr

/-- Whether a primitive may stand outside of sets. All that is matched is UTF-8,
so of single bytes only ASCII can be named; word boundaries are those of ASCII. -/
def Primitive.fits (mode : Mode) : Primitive → Bool
  | character code isByte => mode.unicode || !isByte || decide (code < 0x80)
  | charClass negated => mode.unicode || !negated
  | anyCharacter | category => mode.unicode
  | anchor => true
  | wordBoundary => !mode.unicode

/-- Whether a primitive may be a member of a set, which is one of bytes unless
characters are matched. -/
def Primitive.fitsSet (mode : Mode) : Primitive → Bool
  | character code _ => mode.unicode || decide (code < 0x80)
  | charClass negated => mode.unicode || !negated
  | category => mode.unicode
  | anyCharacter | anchor | wordBoundary => false

/-- The number that some hexadecimal digits stand for, and the rest. -/
def hexDigits? (mode : Mode) : Nat → Nat → List Char → Option (Nat × List Char)
  | 0, value, text => some (value, text)
  | missing + 1, value, text =>
      match mode.skip text with
      | [] => none
      | c :: rest => do hexDigits? mode missing (value * 16 + (← hexDigit? c)) rest

/-- The character with the code of exactly `digits` hexadecimal digits. -/
def coded? (mode : Mode) (digits : Nat) (isByte : Bool) (text : List Char) :
    Option (Primitive × List Char) := do
  let (code, rest) ← hexDigits? mode digits 0 text
  if code.isValidChar then some (.character code isByte, rest) else none

/-- The letters of general categories. -/
def categoryLetters : List Char := ['c', 'l', 'm', 'n', 'p', 's', 'z']

def category? (mode : Mode) (text : List Char) : Option (Primitive × List Char) :=
  match mode.skip text with
  | [] => none
  | c :: rest => if c.toLower ∈ categoryLetters then some (.category, rest) else none

/-- The primitive that a text after a backslash begins with, and the rest.
Letters and digits stand for what is listed here and nothing else. -/
def escape? (mode : Mode) : List Char → Option (Primitive × List Char)
  | [] => none
  | c :: rest =>
      match c with
      | 'x' => coded? mode 2 true rest
      | 'u' => coded? mode 4 false rest
      | 'U' => coded? mode 8 false rest
      | 'p' | 'P' => category? mode rest
      | 'd' | 's' | 'w' => some (.charClass false, rest)
      | 'D' | 'S' | 'W' => some (.charClass true, rest)
      | 'A' | 'z' => some (.anchor, rest)
      | 'b' | 'B' | '<' | '>' => some (.wordBoundary, rest)
      | 'a' => some (.character 0x07 false, rest)
      | 't' => some (.character 0x09 false, rest)
      | 'n' => some (.character 0x0A false, rest)
      | 'v' => some (.character 0x0B false, rest)
      | 'f' => some (.character 0x0C false, rest)
      | 'r' => some (.character 0x0D false, rest)
      | c =>
          if c.isAlphanum || 0x80 ≤ c.toNat then none
          else some (.character c.toNat false, rest)

end ViewAudit.Expression
