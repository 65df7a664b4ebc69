import ViewAudit.Text.Blank

/-!
Regular expressions as texts: the mode that their flags set, the layout that
some modes pass over, and how deep their parts nest. The other modules of this
folder say which texts are well-formed.
-/

namespace ViewAudit.Expression

/-- What flags say about the form of the text after them. -/
structure Mode where
  /-- Characters are matched, not bytes. -/
  unicode : Bool := true
  /-- Blanks and comments are passed over. -/
  spaced : Bool := false
  deriving DecidableEq, Repr

/-! ## Layout -/

/-- A text without the blanks and comments at its start; whether the start is
within a comment, which ends with its line. -/
def withoutLayout : Bool → List Char → List Char
  | _, [] => []
  | true, c :: rest => withoutLayout (c != '\n') rest
  | false, c :: rest =>
      if isBlank c then withoutLayout false rest
      else if c = '#' then withoutLayout true rest
      else c :: rest

/-- A text from where its next part begins. -/
def Mode.skip (mode : Mode) (text : List Char) : List Char :=
  if mode.spaced then withoutLayout false text else text

/-- The first character that is neither a blank nor the mark of a comment; what
the comment says is not passed over. -/
def firstInk? : Bool → List Char → Option Char
  | _, [] => none
  | marked, c :: rest =>
      if isBlank c then firstInk? marked rest
      else if c = '#' && !marked then firstInk? true rest
      else some c

/-- The character that decides whether a dash before it begins the end of a
range. -/
def Mode.peek? (mode : Mode) (text : List Char) : Option Char :=
  if mode.spaced then firstInk? false text else text.head?

/-! ## Nesting -/

/-- The parts of a whole: their number, and how deep they nest at most. -/
structure Extent where
  count : Nat := 0
  depth : Nat := 0
  deriving DecidableEq, Repr

/-- One more part, which nests as deep as `depth` says. -/
def Extent.add (extent : Extent) (depth : Nat) : Extent :=
  ⟨extent.count + 1, max extent.depth depth⟩

/-- How deep a whole nests. It counts only if it joins several parts. -/
def Extent.height (extent : Extent) : Nat :=
  if extent.count ≤ 1 then extent.depth else extent.depth + 1

/-- How deep an expression may nest. -/
def nestingLimit : Nat := 250

end ViewAudit.Expression
