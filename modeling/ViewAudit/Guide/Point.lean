import ViewAudit.Text.Blank

/-!
The points of a guide: its lines that are items of a list. Points are written
as they stand in the guide, without the blanks around them.
-/

namespace ViewAudit

/-- A line without the carriage return at its end, if there is one. -/
def withoutReturn (line : List Char) : List Char :=
  if line.getLast? = some '\r' then line.dropLast else line

/-- The lines of a text. A newline ends a line, together with a carriage return
right before it; what comes after the last newline is a line of its own unless
it is empty. -/
def linesOf (text : List Char) : List (List Char) :=
  let pieces := text.splitOn '\n'
  pieces.dropLast.map withoutReturn ++ pieces.getLast?.toList.filter (!·.isEmpty)

def isBullet (c : Char) : Bool := c ∈ ['-', '*', '•']

def endsItemNumber (c : Char) : Bool := c ∈ ['.', ')', ':']

/-- Whether a line is an item of a list: it begins with a bullet, or with a
digit, the end of an item's number and at least one more character. -/
def isAdvisoryLine : List Char → Bool
  | [] => false
  | c :: rest =>
      isBullet c ||
        match rest with
        | d :: _ :: _ => c.isDigit && endsItemNumber d
        | _ => false

/-- The points of a guide, in the order of its lines. -/
def pointsOf (guide : List Char) : List (List Char) :=
  ((linesOf guide).map trim).filter isAdvisoryLine

/-- The first points of a guide, up to a limit if there is one. -/
def extractPoints (guide : String) (limit : Option Nat := none) : List String :=
  let points := (pointsOf guide.toList).map String.ofList
  match limit with
  | none => points
  | some limit => points.take limit

example : extractPoints "# T\r\n - a \n1.\n2) b" = ["- a", "2) b"] := by decide +kernel

end ViewAudit
