/-!
Searching a text for a word, with regard to case and without. Texts are lists
of characters.
-/

namespace ViewAudit

/-- Whether a word occurs in a text as consecutive characters. -/
def occursIn (word : List Char) : List Char → Bool
  | [] => word.isEmpty
  | c :: rest => word.isPrefixOf (c :: rest) || occursIn word rest

/-- The lower-case form of a character, as far as ASCII letters are concerned.
Besides the capital letters of ASCII only U+0130, an `i` with a combining dot
above, and the Kelvin sign U+212A have an ASCII letter in theirs; the rest is
left alone, since a search for words of ASCII letters cannot tell. -/
def lowerForm (c : Char) : List Char :=
  if c = '\u0130' then ['i', '\u0307']
  else if c = '\u212a' then ['k']
  else [c.toLower]

/-- A text as it is searched for words without regard to case. -/
def lowerText (text : List Char) : List Char := text.flatMap lowerForm

end ViewAudit
