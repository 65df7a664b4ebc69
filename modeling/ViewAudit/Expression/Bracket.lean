import ViewAudit.Expression.Escape

/-!
Sets in regular expressions, from one bracket to the other. A set lists
characters, ranges, classes and other sets, and `&&`, `--` and `~~` join such
lists.
-/

namespace ViewAudit.Expression

/-- A set whose end has not been read. -/
structure OpenSet where
  /-- The members since the bracket or the last operator. -/
  members : Extent := {}
  /-- How deep what stands before the last operator nests. -/
  left : Option Nat := none
  /-- Whether only the bracket and dashes have been read. -/
  isFresh : Bool := true

namespace OpenSet

/-- How deep the members and what they are joined to nest. -/
def height (set : OpenSet) : Nat :=
  match set.left with
  | none => set.members.height
  | some left => max left set.members.height + 1

def addMember (set : OpenSet) (depth : Nat) : OpenSet :=
  { set with members := set.members.add depth, isFresh := false }

/-- A dash right after the bracket is a member whatever follows it. -/
def addDash (set : OpenSet) : OpenSet := { set with members := set.members.add 0 }

def addOperator (set : OpenSet) : OpenSet := ⟨{}, some set.height, false⟩

end OpenSet

/-- What a step in a set leads to. -/
inductive SetProgress where
  | within (innermost : OpenSet) (around : List OpenSet) (rest : List Char)
  /-- The whole set has been read. -/
  | closed (depth : Nat) (rest : List Char)

/-- The names of classes of ASCII. -/
def asciiClassNames : List String :=
  ["alnum", "alpha", "ascii", "blank", "cntrl", "digit", "graph", "lower", "print", "punct",
    "space", "upper", "word", "xdigit"]

/-- Reads a class of ASCII after its bracket: whether it is negated, and the
rest. -/
def asciiClass? : List Char → Option (Bool × List Char)
  | ':' :: text =>
      let (negated, text) :=
        match text with
        | '^' :: text => (true, text)
        | text => (false, text)
      let name := text.takeWhile (· != ':')
      match text.dropWhile (· != ':') with
      | ':' :: ']' :: rest =>
          if asciiClassNames.any (·.toList == name) then some (negated, rest) else none
      | _ => none
  | _ => none

/-- Reads the start of a set after its bracket. A set that is negated has members
beyond ASCII, so it must be one of characters. -/
def afterBracket? (mode : Mode) (text : List Char) : Option (List Char) :=
  match mode.skip text with
  | '^' :: rest => if mode.unicode then some rest else none
  | text => some text

/-- The character or escape that a text begins with, and the rest. -/
def member? (mode : Mode) : List Char → Option (Primitive × List Char)
  | [] => none
  | '\\' :: rest => escape? mode rest
  | c :: rest => some (.character c.toNat false, rest)

/-- Whether two primitives are the ends of a range. -/
def isRange (mode : Mode) : Primitive → Primitive → Bool
  | low@(.character lowCode _), high@(.character highCode _) =>
      low.fitsSet mode && high.fitsSet mode && decide (lowCode ≤ highCode)
  | _, _ => false

/-- The rest after a member that is no set: a range or a primitive. A dash
before the end of the set or before another dash begins no range. -/
def afterMember? (mode : Mode) (text : List Char) : Option (List Char) := do
  let (low, rest) ← member? mode text
  match mode.skip rest with
  | [] => none
  | '-' :: after =>
      if mode.peek? after ∈ [some ']', some '-'] then
        if low.fitsSet mode then some ('-' :: after) else none
      else do
        let (high, rest) ← member? mode (mode.skip after)
        if isRange mode low high then some rest else none
  | rest => if low.fitsSet mode then some rest else none

/-- Reads the next part of a set. -/
def stepSet? (mode : Mode) (set : OpenSet) (around : List OpenSet) (text : List Char) :
    Option SetProgress :=
  match mode.skip text with
  | [] => none
  | '[' :: rest =>
      match asciiClass? rest with
      | some (negated, rest) =>
          if mode.unicode || !negated then some (.within (set.addMember 0) around rest) else none
      | none => (afterBracket? mode rest).map (.within {} (set :: around))
  | ']' :: rest =>
      if set.isFresh && set.members.count = 0 then some (.within (set.addMember 0) around rest)
      else
        match around with
        | [] => some (.closed (set.height + 1) rest)
        | outer :: around => some (.within (outer.addMember (set.height + 1)) around rest)
  | text@('-' :: rest) =>
      if set.isFresh then some (.within set.addDash around rest)
      else
        match rest with
        | '-' :: rest => some (.within set.addOperator around rest)
        | _ => (afterMember? mode text).map (.within (set.addMember 0) around)
  | '&' :: '&' :: rest | '~' :: '~' :: rest => some (.within set.addOperator around rest)
  | text => (afterMember? mode text).map (.within (set.addMember 0) around)

/-- Reads to the end of a set, in as many steps as there are characters at
most. -/
def setFrom? (mode : Mode) : Nat → SetProgress → Option (Nat × List Char)
  | _, .closed depth rest => some (depth, rest)
  | 0, .within _ _ _ => none
  | steps + 1, .within set around rest => do
      setFrom? mode steps (← stepSet? mode set around rest)

/-- How deep the set nests that a text after a bracket begins with, and the
rest. -/
def set? (mode : Mode) (text : List Char) : Option (Nat × List Char) := do
  setFrom? mode text.length (.within {} [] (← afterBracket? mode text))

end ViewAudit.Expression
