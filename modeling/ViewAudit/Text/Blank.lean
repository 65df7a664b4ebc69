import ViewAudit.Text.CharRange

/-!
White space, and trimming it from the ends of a text. A blank is a character
with the Unicode property White_Space; the zero width characters U+200B and
U+FEFF are not among them.
-/

namespace ViewAudit

/-- The code points with the property White_Space. -/
def blankRanges : CharRanges :=
  [(0x09, 0x0D), (0x20, 0x20), (0x85, 0x85), (0xA0, 0xA0), (0x1680, 0x1680),
    (0x2000, 0x200A), (0x2028, 0x2029), (0x202F, 0x202F), (0x205F, 0x205F),
    (0x3000, 0x3000)]

example : blankRanges.inOrder = true ∧ blankRanges.count = 25 := by decide

/-- Whether a character is white space. -/
def isBlank (c : Char) : Bool := blankRanges.holds c.toNat

/-- A text without the blanks at its start. -/
def trimStart (text : List Char) : List Char := text.dropWhile isBlank

/-- A text without the blanks at its end. -/
def trimEnd : List Char → List Char
  | [] => []
  | c :: rest =>
      match trimEnd rest with
      | [] => if isBlank c then [] else [c]
      | kept => c :: kept

/-- A text without the blanks at either end. -/
def trim (text : List Char) : List Char := trimEnd (trimStart text)

end ViewAudit
