import ViewAudit.Json.Double
import ViewAudit.Json.Value
import ViewAudit.Text.Hex

/-!
Reading JSON, one character at a time. The lexical state tells what the next
character is part of, the progress tells what may follow in the value that is
read; a token passes from the one to the other. Objects keep members of equal
names, and containers nest at most `nestingLimit` deep.
-/

namespace ViewAudit.Json

/-! ## Tokens -/

inductive Token where
  | beginArray
  | endArray
  | beginObject
  | endObject
  | colon
  | comma
  /-- A number or one of the literals. -/
  | atom (value : Json)
  | text (value : String)

/-- The digits at the start of a word, and the rest. -/
def splitDigits (word : List Char) : List Char × List Char :=
  (word.takeWhile Char.isDigit, word.dropWhile Char.isDigit)

/-- The exponent that ends a number, if it is well-formed. -/
def exponent? : List Char → Option Int
  | [] => some 0
  | 'e' :: rest | 'E' :: rest =>
      let (negative, digits) :=
        match rest with
        | '-' :: digits => (true, digits)
        | '+' :: digits => (false, digits)
        | digits => (false, digits)
      if digits.isEmpty || !digits.all Char.isDigit then none
      else
        let value : Int := Nat.ofDigitChars 10 digits 0
        some (if negative then -value else value)
  | _ => none

/-- The number that digits stand for after the digits of `value`, as far as it
has 64 bits, and the digits that are left over. -/
def accumulate : Nat → List Char → Nat × List Char
  | value, [] => (value, [])
  | value, digit :: rest =>
      let next := Nat.ofDigitChars 10 [digit] value
      if next < UInt64.size then accumulate next rest else (value, digit :: rest)

/-- The decimal with a whole part, a fraction and an exponent. Digits that do not
fit into 64 bits are passed over. -/
def decimal? (negative : Bool) (whole fraction : List Char) (exponent : Int) :
    Option JsonNumber := do
  let (value, left) := accumulate 0 whole
  let (value, leftOfFraction) := accumulate value fraction
  let exponent := exponent + left.length - (fraction.length - leftOfFraction.length : Nat)
  let (digits, exponent) := (← Double.ofDecimal? value exponent).decimal
  some (.decimal negative digits exponent)

/-- The number without sign that a word stands for. The sign of zero is kept,
which makes a negative zero a decimal. -/
def magnitude? (negative : Bool) (word : List Char) : Option JsonNumber := do
  let (whole, rest) := splitDigits word
  if whole.isEmpty || (whole.head? == some '0' && whole.length != 1) then none
  else
    match rest with
    | [] =>
        let digits := Nat.ofDigitChars 10 whole 0
        if negative then
          if 0 < digits ∧ digits ≤ Int64.size / 2 then some (.integer (-digits))
          else decimal? true whole [] 0
        else if digits < UInt64.size then some (.integer digits)
        else decimal? false whole [] 0
    | '.' :: rest =>
        let (fraction, rest) := splitDigits rest
        if fraction.isEmpty then none else decimal? negative whole fraction (← exponent? rest)
    | rest => decimal? negative whole [] (← exponent? rest)

def number? : List Char → Option JsonNumber
  | '-' :: word => magnitude? true word
  | word => magnitude? false word

/-- The number or literal that a word stands for. -/
def atom? (word : List Char) : Option Json :=
  if word = "null".toList then some .null
  else if word = "true".toList then some (.bool true)
  else if word = "false".toList then some (.bool false)
  else (number? word).map .number

/-! ## Characters to tokens -/

/-- What the next character is part of. Characters read so far are listed last
first. -/
inductive Lexical where
  /-- White space, punctuation or the start of another token. -/
  | gap
  /-- A number or a literal. -/
  | word (seen : List Char)
  /-- A string. -/
  | text (seen : List Char)
  /-- What follows a backslash in a string. -/
  | escape (seen : List Char)
  /-- One of the `missing` hexadecimal digits of a code unit. `high` is the
  first half of a surrogate pair, if this is the second half. -/
  | unit (seen : List Char) (high : Option Nat) (missing value : Nat)
  /-- The backslash of the second half of a surrogate pair. -/
  | pair (seen : List Char) (high : Nat)
  /-- The letter of the second half of a surrogate pair. -/
  | pairEscape (seen : List Char) (high : Nat)

def isGap (c : Char) : Bool := c ∈ [' ', '\t', '\n', '\r']

def isWordPart (c : Char) : Bool := c.isAlphanum || c ∈ ['+', '-', '.']

/-- What a letter after a backslash stands for. -/
def escaped? : Char → Option Char
  | '"' => some '"'
  | '\\' => some '\\'
  | '/' => some '/'
  | 'b' => some '\x08'
  | 'f' => some '\x0c'
  | 'n' => some '\n'
  | 'r' => some '\r'
  | 't' => some '\t'
  | _ => none

/-- What follows a whole code unit: a surrogate must be half of a pair. -/
def afterUnit? (seen : List Char) (high : Option Nat) (value : Nat) : Option Lexical :=
  match high with
  | none =>
      if 0xD800 ≤ value ∧ value < 0xDC00 then some (.pair seen value)
      else if 0xDC00 ≤ value ∧ value < 0xE000 then none
      else some (.text (Char.ofNat value :: seen))
  | some high =>
      if 0xDC00 ≤ value ∧ value < 0xE000 then
        some (.text (Char.ofNat (0x10000 + (high - 0xD800) * 0x400 + (value - 0xDC00)) :: seen))
      else none

/-- Reads a character between tokens. -/
def readGap (c : Char) : Option (List Token × Lexical) :=
  match c with
  | '[' => some ([.beginArray], .gap)
  | ']' => some ([.endArray], .gap)
  | '{' => some ([.beginObject], .gap)
  | '}' => some ([.endObject], .gap)
  | ':' => some ([.colon], .gap)
  | ',' => some ([.comma], .gap)
  | '"' => some ([], .text [])
  | c =>
      if isGap c then some ([], .gap)
      else if isWordPart c then some ([], .word [c])
      else none

/-- Reads a character: the tokens that it completes, and what comes next. -/
def readChar : Lexical → Char → Option (List Token × Lexical)
  | .gap, c => readGap c
  | .word seen, c =>
      if isWordPart c then some ([], .word (c :: seen))
      else do
        let value ← atom? seen.reverse
        let (tokens, next) ← readGap c
        some (.atom value :: tokens, next)
  | .text seen, c =>
      if c = '"' then some ([.text (String.ofList seen.reverse)], .gap)
      else if c = '\\' then some ([], .escape seen)
      else if c.toNat < 0x20 then none
      else some ([], .text (c :: seen))
  | .escape seen, c =>
      if c = 'u' then some ([], .unit seen none 4 0)
      else (escaped? c).map fun char => ([], .text (char :: seen))
  | .unit seen high missing value, c => do
      let digit ← hexDigit? c
      let value := value * 16 + digit
      if missing ≤ 1 then (afterUnit? seen high value).map ([], ·)
      else some ([], .unit seen high (missing - 1) value)
  | .pair seen high, c => if c = '\\' then some ([], .pairEscape seen high) else none
  | .pairEscape seen high, c => if c = 'u' then some ([], .unit seen (some high) 4 0) else none

/-! ## Tokens to values -/

/-- A container whose end has not been read; its parts are listed last first. -/
inductive Container where
  | array (items : List Json)
  /-- The value of the member `key` comes next. -/
  | object (members : List (String × Json)) (key : String)

/-- What may come next in a value. `within` lists the open containers around
it, the innermost first. -/
inductive Progress where
  /-- A value. -/
  | value (within : List Container)
  /-- The first item of an array or its end. -/
  | firstItem (within : List Container)
  /-- The name of the first member of an object or its end. -/
  | firstKey (within : List Container)
  /-- The name of another member. -/
  | key (members : List (String × Json)) (within : List Container)
  /-- The colon after the name of a member. -/
  | colon (members : List (String × Json)) (key : String) (within : List Container)
  /-- What follows a whole value. -/
  | done (value : Json) (within : List Container)

/-- The number of containers that may be nested. -/
def nestingLimit : Nat := 127

/-- Reads the token that begins a value. -/
def beginValue (within : List Container) : Token → Option Progress
  | .atom value => some (.done value within)
  | .text value => some (.done (.string value) within)
  | .beginArray => if within.length < nestingLimit then some (.firstItem within) else none
  | .beginObject => if within.length < nestingLimit then some (.firstKey within) else none
  | _ => none

/-- Reads a token. -/
def readToken : Progress → Token → Option Progress
  | .value within, token => beginValue within token
  | .firstItem within, .endArray => some (.done (.array []) within)
  | .firstItem within, token => beginValue (.array [] :: within) token
  | .firstKey within, .endObject => some (.done (.object []) within)
  | .firstKey within, .text key => some (.colon [] key within)
  | .key members within, .text key => some (.colon members key within)
  | .colon members key within, .colon => some (.value (.object members key :: within))
  | .done value (.array items :: within), .comma =>
      some (.value (.array (value :: items) :: within))
  | .done value (.array items :: within), .endArray =>
      some (.done (.array (value :: items).reverse) within)
  | .done value (.object members key :: within), .comma =>
      some (.key ((key, value) :: members) within)
  | .done value (.object members key :: within), .endObject =>
      some (.done (.object ((key, value) :: members).reverse) within)
  | _, _ => none

/-! ## Whole texts -/

structure Reader where
  lexical : Lexical
  progress : Progress

def Reader.start : Reader := ⟨.gap, .value []⟩

def Reader.step (reader : Reader) (c : Char) : Option Reader := do
  let (tokens, lexical) ← readChar reader.lexical c
  let progress ← tokens.foldlM readToken reader.progress
  some ⟨lexical, progress⟩

/-- The value that has been read, if it is whole. -/
def Reader.finish? (reader : Reader) : Option Json := do
  let progress ←
    match reader.lexical with
    | .gap => some reader.progress
    | .word seen => do readToken reader.progress (.atom (← atom? seen.reverse))
    | _ => none
  match progress with
  | .done value [] => some value
  | _ => none

/-- The value that a text stands for. -/
def ofChars? (text : List Char) : Option Json := do
  (← text.foldlM Reader.step Reader.start).finish?

def ofText? (text : String) : Option Json := ofChars? text.toList

end ViewAudit.Json
