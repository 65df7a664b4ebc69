import ViewAudit.Expression.Bracket
import ViewAudit.Text.Letter

/-!
Which texts are regular expressions. An expression is read part by part; the
groups that are open say which flags hold and what there is to repeat. Counts of
repetitions are no part of these expressions.
-/

namespace ViewAudit.Expression

/-! ## Groups -/

/-- A group whose end has not been read, or the whole expression. -/
structure OpenGroup where
  mode : Mode := {}
  /-- The alternatives before the one that is read. -/
  alternatives : Extent := {}
  /-- The items of the alternative that is read. -/
  items : Extent := {}
  /-- How deep the last item nests, if it can be repeated. -/
  last : Option Nat := none

namespace OpenGroup

def addItem (group : OpenGroup) (depth : Nat) : OpenGroup :=
  { group with items := group.items.add depth, last := some depth }

/-- Flags hold to the end of their group and cannot be repeated. -/
def addFlags (group : OpenGroup) (mode : Mode) : OpenGroup :=
  { group with mode, items := group.items.add 0, last := none }

def addAlternative (group : OpenGroup) : OpenGroup :=
  { group with
    alternatives := group.alternatives.add group.items.height, items := {}, last := none }

/-- Makes the last item a repetition. -/
def repeat? (group : OpenGroup) : Option OpenGroup :=
  group.last.map fun depth =>
    { group with
      items := ⟨group.items.count, max group.items.depth (depth + 1)⟩, last := some (depth + 1) }

/-- How deep the alternatives nest. -/
def height (group : OpenGroup) : Nat := (group.alternatives.add group.items.height).height

end OpenGroup

/-- An expression up to some part of it. -/
structure Reading where
  innermost : OpenGroup := {}
  around : List OpenGroup := []
  /-- The names of groups so far. -/
  names : List (List Char) := []

/-! ## Flags and names -/

def flagLetters : List Char := ['i', 'm', 's', 'U', 'u', 'R', 'x']

/-- Whether some characters are flags, those after a dash to be unset: each at
most once, and a dash not at the end. -/
def areFlags (flags : List Char) : Bool :=
  flags.all (fun c => c = '-' || c ∈ flagLetters) && decide flags.Nodup &&
    flags.getLast? != some '-'

/-- What some flags say of one of them, if they say anything. -/
def flagValue? (flags : List Char) (flag : Char) : Option Bool :=
  if flag ∈ flags.takeWhile (· != '-') then some true
  else if flag ∈ flags then some false
  else none

/-- The mode that flags make of another. -/
def Mode.setFlags (mode : Mode) (flags : List Char) : Mode :=
  ⟨(flagValue? flags 'u').getD mode.unicode, (flagValue? flags 'x').getD mode.spaced⟩

/-- Whether some characters are the name of a group. -/
def isGroupName : List Char → Bool
  | [] => false
  | first :: rest =>
      (first = '_' || isLetter first) &&
        rest.all fun c => isLetterOrNumber c || c ∈ ['_', '.', '[', ']']

/-! ## Parts -/

/-- Opens a group in which a mode holds. -/
def Reading.openGroup (reading : Reading) (mode : Mode) : Reading :=
  { reading with innermost := { mode }, around := reading.innermost :: reading.around }

/-- Opens a group with a name that no other has, and gives the rest after the
name. -/
def openNamed? (reading : Reading) (text : List Char) : Option (Reading × List Char) :=
  let name := text.takeWhile (· != '>')
  match text.dropWhile (· != '>') with
  | _ :: rest =>
      if isGroupName name && name ∉ reading.names then
        some
          ({ reading.openGroup reading.innermost.mode with names := name :: reading.names }, rest)
      else none
  | [] => none

/-- Reads what follows a parenthesis and a question mark: flags for a group or
for the rest of this one. -/
def openFlagged? (reading : Reading) (text : List Char) : Option (Reading × List Char) :=
  let isFlag (c : Char) : Bool := c != ':' && c != ')'
  let flags := text.takeWhile isFlag
  let mode := reading.innermost.mode.setFlags flags
  if !areFlags flags then none
  else
    match text.dropWhile isFlag with
    | ':' :: rest => some (reading.openGroup mode, rest)
    | ')' :: rest =>
        if flags.isEmpty then none
        else some ({ reading with innermost := reading.innermost.addFlags mode }, rest)
    | _ => none

/-- Reads what follows a parenthesis. -/
def openGroup? (reading : Reading) (text : List Char) : Option (Reading × List Char) :=
  match reading.innermost.mode.skip text with
  | '?' :: 'P' :: '<' :: rest | '?' :: '<' :: rest => openNamed? reading rest
  | '?' :: rest => openFlagged? reading rest
  | rest => some (reading.openGroup reading.innermost.mode, rest)

/-- Adds an item to the innermost group. -/
def Reading.addItem (reading : Reading) (depth : Nat) : Reading :=
  { reading with innermost := reading.innermost.addItem depth }

/-- Adds a primitive, if it has a place outside of sets. -/
def Reading.addPrimitive? (reading : Reading) (primitive : Primitive) : Option Reading :=
  if primitive.fits reading.innermost.mode then some (reading.addItem 0) else none

/-- Closes the innermost group, if it is not the whole expression. -/
def Reading.closeGroup? (reading : Reading) : Option Reading :=
  match reading.around with
  | [] => none
  | outer :: around =>
      some { reading with
        innermost := outer.addItem (reading.innermost.height + 1), around }

/-- Reads the next part of an expression, which begins with `c`. -/
def readPart? (reading : Reading) (c : Char) (rest : List Char) :
    Option (Reading × List Char) :=
  match c with
  | '(' => openGroup? reading rest
  | ')' => reading.closeGroup?.map (·, rest)
  | '|' => some ({ reading with innermost := reading.innermost.addAlternative }, rest)
  | '[' => do
      let (depth, rest) ← set? reading.innermost.mode rest
      some (reading.addItem depth, rest)
  | '*' | '+' | '?' => do
      let innermost ← reading.innermost.repeat?
      some ({ reading with innermost }, if rest.head? = some '?' then rest.drop 1 else rest)
  | '\x7b' => none
  | '\\' => do
      let (primitive, rest) ← escape? reading.innermost.mode rest
      some (← reading.addPrimitive? primitive, rest)
  | '.' => (reading.addPrimitive? .anyCharacter).map (·, rest)
  | '^' | '$' => (reading.addPrimitive? .anchor).map (·, rest)
  | c => (reading.addPrimitive? (.character c.toNat false)).map (·, rest)

/-- Reads to the end of a text, in as many steps as there are characters at
most. -/
def readFrom? : Nat → Reading → List Char → Option Reading
  | steps, reading, text =>
      match reading.innermost.mode.skip text, steps with
      | [], _ => some reading
      | _ :: _, 0 => none
      | c :: rest, steps + 1 => do
          let (reading, rest) ← readPart? reading c rest
          readFrom? steps reading rest

/-- Whether a text is a regular expression: all its parts are well-formed, its
groups are closed, and it does not nest too deep. -/
def isWellFormed (text : List Char) : Bool :=
  match readFrom? text.length {} text with
  | some reading =>
      reading.around.isEmpty && decide (reading.innermost.height ≤ nestingLimit)
  | none => false

/-- Groups, sets, repetitions and comments. -/
example :
    (["", "a|(b[^x-z\\d]*)+?", "[]a]", "[a--b]", "(?i-s:x)", "(?x)a # (", "(?-u:\\b)"].all
      fun text => isWellFormed text.toList) = true := by
  decide +kernel

/-- A group, a set and a comment without end, nothing to repeat, ranges without
order or ends, and what needs characters where bytes are matched. -/
example :
    (["(", "[a", "(?x:a#)", "*", "(?i)*", "[z-a]", "[\\d-z]", "\\b", "(?-u:.)"].any
      fun text => isWellFormed text.toList) = false := by
  decide +kernel

end ViewAudit.Expression
