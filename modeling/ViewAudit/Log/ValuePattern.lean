import ViewAudit.Expression.Form

/-!
The values that a log filter may ask of a field: numbers and regular
expressions. Only their form is of interest here.
-/

namespace ViewAudit.ValuePattern

/-- Whether a text is an exponent, with or without a sign. -/
def isExponent : List Char → Bool
  | '+' :: digits | '-' :: digits | digits => !digits.isEmpty && digits.all Char.isDigit

/-- Whether a text is a number without sign: decimal digits with a point and an
exponent or without, or the name of a number that has no digits. -/
def isMagnitude (text : List Char) : Bool :=
  let whole := text.takeWhile Char.isDigit
  let rest := text.dropWhile Char.isDigit
  let (fraction, rest) :=
    match rest with
    | '.' :: rest => (rest.takeWhile Char.isDigit, rest.dropWhile Char.isDigit)
    | rest => ([], rest)
  let exponentFits :=
    match rest with
    | [] => true
    | 'e' :: exponent | 'E' :: exponent => isExponent exponent
    | _ => false
  let names := ["inf", "infinity", "nan"]
  (!(whole ++ fraction).isEmpty && exponentFits) ||
    names.any (·.toList == text.map Char.toLower)

/-- Whether a text is a number with a plus sign. Other numbers are well-formed
expressions anyway. -/
def isPositiveNumber : List Char → Bool
  | '+' :: magnitude => isMagnitude magnitude
  | _ => false

/-- Whether a text is a value that a filter may ask of a field. -/
def isWellFormed (text : List Char) : Bool :=
  isPositiveNumber text || Expression.isWellFormed text

/-- Numbers with a sign, and a sign that has nothing to repeat. -/
example : isWellFormed "+1.5e-3".toList = true ∧ isWellFormed "-1".toList = true ∧
    isWellFormed "+".toList = false := by
  decide +kernel

end ViewAudit.ValuePattern
