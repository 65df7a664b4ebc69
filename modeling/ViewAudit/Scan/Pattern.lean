import ViewAudit.Text.Blank
import ViewAudit.Text.Word

/-!
The patterns that a scan looks for: short sequences of words, runs of white
space and word edges, with alternatives. Matching lists every place at which a
match may end, so nothing depends on the order in which choices are tried.
-/

namespace ViewAudit

/-- A place in a text: the character before it, if any, and the text after it. -/
structure Place where
  before : Option Char
  after : List Char

/-- Whether a word begins or ends at a place. -/
def Place.isEdge (place : Place) : Bool :=
  place.before.any isWordChar != place.after.head?.any isWordChar

/-- The place after a word, if the text goes on with that word. -/
def Place.skip? (place : Place) : List Char → Option Place
  | [] => some place
  | c :: word =>
      match place.after with
      | [] => none
      | d :: rest => if c = d then Place.skip? ⟨some d, rest⟩ word else none

/-- The places within and at the end of the run of blanks at a place, the
place itself first. -/
def placesInBlanks (before : Option Char) : List Char → List Place
  | [] => [⟨before, []⟩]
  | c :: rest =>
      ⟨before, c :: rest⟩ :: (if isBlank c then placesInBlanks (some c) rest else [])

/-- One step of a pattern. -/
inductive Piece where
  /-- These characters, in this order and case. -/
  | word (text : String)
  /-- One of these words. -/
  | oneOf (words : List String)
  /-- A run of white space, which may be empty. -/
  | blanks
  /-- The beginning or the end of a word. -/
  | edge
  deriving DecidableEq, Repr

/-- The places at which a step may end that starts at `place`. -/
def Piece.ends (place : Place) : Piece → List Place
  | .word text => (place.skip? text.toList).toList
  | .oneOf words => words.filterMap fun text => place.skip? text.toList
  | .blanks => placesInBlanks place.before place.after
  | .edge => if place.isEdge then [place] else []

/-- The places at which steps in a row may end that start at `place`. -/
def endsOf : List Piece → Place → List Place
  | [], place => [place]
  | piece :: rest, place => (piece.ends place).flatMap (endsOf rest)

/-- A pattern is a choice between sequences of steps. -/
abbrev Pattern := List (List Piece)

/-- Whether a match of the pattern starts at a place. -/
def Pattern.startsAt (pattern : Pattern) (place : Place) : Bool :=
  pattern.any fun pieces => !(endsOf pieces place).isEmpty

/-- Whether a match starts at a place or at a later one. -/
def Pattern.occursFrom (pattern : Pattern) (before : Option Char) : List Char → Bool
  | [] => pattern.startsAt ⟨before, []⟩
  | c :: rest =>
      pattern.startsAt ⟨before, c :: rest⟩ || pattern.occursFrom (some c) rest

/-- Whether a pattern matches somewhere in a text. -/
def Pattern.occurs (pattern : Pattern) (text : List Char) : Bool :=
  pattern.occursFrom none text

/-- A word as it is written in a regular expression. -/
def escapeWord (text : String) : String :=
  String.join (text.toList.map fun c =>
    if c ∈ ['.', '('] then String.ofList ['\\', c] else c.toString)

/-- A step as it is written in a regular expression. -/
def Piece.source : Piece → String
  | .word text => escapeWord text
  | .oneOf words => "(?:" ++ String.intercalate "|" (words.map escapeWord) ++ ")"
  | .blanks => "\\s*"
  | .edge => "\\b"

/-- A pattern as a regular expression. -/
def Pattern.source (pattern : Pattern) : String :=
  String.intercalate "|" (pattern.map fun pieces => String.join (pieces.map Piece.source))

end ViewAudit
