import ViewAudit.Time.Stamp

/-!
Points in time as RFC 3339 writes them. What is written has the fewest digits
after the second that keep the nanoseconds, and `Z` for UTC itself. What is
read may have more digits, a small `z`, a leap second and any ASCII character
between the date and the time of day.
-/

namespace ViewAudit.Stamp

/-! ## Writing -/

/-- Why a point in time has no written form. -/
inductive FormatError where
  | yearOutOfRange
  | offsetHourOutOfRange
  | offsetHasSeconds
  deriving DecidableEq, Repr

/-- The part of a time that a format error is about. -/
def FormatError.component : FormatError → String
  | yearOutOfRange => "year"
  | offsetHourOutOfRange => "offset_hour"
  | offsetHasSeconds => "offset_second"

def FormatError.message (error : FormatError) : String :=
  "The " ++ error.component ++ " component cannot be formatted into the requested format."

/-- The last `width` decimal digits of a number. -/
def padded : Nat → Nat → List Char
  | 0, _ => []
  | width + 1, n => padded width (n / 10) ++ [Nat.digitChar (n % 10)]

/-- Digits without the zeros at their end. -/
def withoutTrailingZeros (digits : List Char) : List Char :=
  (digits.reverse.dropWhile (· == '0')).reverse

/-- The fraction of a second, with the point before it. -/
def writeFraction (nanosecond : Nat) : List Char :=
  if nanosecond = 0 then [] else '.' :: withoutTrailingZeros (padded 9 nanosecond)

def writeOffset (offset : Int) : List Char :=
  if offset = 0 then ['Z']
  else
    (if offset < 0 then '-' else '+') ::
      padded 2 (offset.natAbs / 3600) ++ ':' :: padded 2 (offset.natAbs / 60 % 60)

/-- The reason why a point in time cannot be written, if there is one. -/
def formatError? (stamp : Stamp) : Option FormatError :=
  if stamp.date.year < 0 ∨ 9999 < stamp.date.year then some .yearOutOfRange
  else if 24 * 3600 ≤ stamp.offset.natAbs then some .offsetHourOutOfRange
  else if stamp.offset.natAbs % 60 ≠ 0 then some .offsetHasSeconds
  else none

/-- The characters of a point in time that can be written. -/
def writeChars (stamp : Stamp) : List Char :=
  padded 4 stamp.date.year.toNat ++ '-' :: padded 2 stamp.date.month ++
    '-' :: padded 2 stamp.date.day ++
    'T' :: padded 2 stamp.time.hour ++ ':' :: padded 2 stamp.time.minute ++
    ':' :: padded 2 stamp.time.second ++
    writeFraction stamp.time.nanosecond ++ writeOffset stamp.offset

def write (stamp : Stamp) : Except FormatError String :=
  match stamp.formatError? with
  | some error => .error error
  | none => .ok (String.ofList stamp.writeChars)

/-! ## Reading -/

/-- The number that exactly `width` digits stand for, and the rest. -/
def digits? : Nat → List Char → Option (Nat × List Char)
  | width, text =>
      let digits := text.take width
      if digits.length = width && digits.all Char.isDigit then
        some (Nat.ofDigitChars 10 digits 0, text.drop width)
      else none

/-- The rest after a character that a text must begin with. -/
def skip? (mark : Char) : List Char → Option (List Char)
  | [] => none
  | c :: rest => if c = mark then some rest else none

/-- The rest after the character between a date and a time of day, which may be
any of ASCII. -/
def skipSeparator? : List Char → Option (List Char)
  | [] => none
  | c :: rest => if c.toNat < 0x80 then some rest else none

/-- The nanoseconds of a fraction of a second, and the rest. Digits after the
ninth are passed over. -/
def fraction? : List Char → Option (Nat × List Char)
  | '.' :: text =>
      let digits := text.takeWhile Char.isDigit
      if digits.isEmpty then none
      else
        some (Nat.ofDigitChars 10 ((digits ++ List.replicate 9 '0').take 9) 0,
          text.dropWhile Char.isDigit)
  | text => some (0, text)

/-- The offset that a text consists of, in seconds. -/
def offset? : List Char → Option Int
  | ['Z'] | ['z'] => some 0
  | sign :: text => do
      let (hours, text) ← digits? 2 text
      let text ← skip? ':' text
      let (minutes, text) ← digits? 2 text
      if text ≠ [] ∨ 23 < hours ∨ 59 < minutes then none
      else
        let offset : Int := hours * 3600 + minutes * 60
        if sign = '+' then some offset
        else if sign = '-' then some (-offset)
        else none
  | [] => none

/-- Whether a leap second may follow a minute: in UTC it is the last one of a
month. -/
def endsMonth (date : Date) (hour minute : Nat) (offset : Int) : Bool :=
  let minuteOfDay : Int := hour * 60 + minute - offset / 60
  (minuteOfDay = 1439 && date.day = daysInMonth date.year date.month) ||
    (minuteOfDay = -1 && date.day = 1)

/-- The time of day with these parts. A leap second becomes the last nanosecond
before it. -/
def timeOfDay? (date : Date) (hour minute second nanosecond : Nat) (offset : Int) :
    Option TimeOfDay :=
  if hhour : hour < 24 then
    if hminute : minute < 60 then
      if hsecond : second < 60 then
        if hnano : nanosecond < 1000000000 then
          some ⟨⟨hour, hhour⟩, ⟨minute, hminute⟩, ⟨second, hsecond⟩, ⟨nanosecond, hnano⟩⟩
        else none
      else if second = 60 && endsMonth date hour minute offset then
        some ⟨⟨hour, hhour⟩, ⟨minute, hminute⟩, ⟨59, by decide⟩,
          ⟨999999999, by decide⟩⟩
      else none
    else none
  else none

def readChars? (text : List Char) : Option Stamp := do
  let (year, text) ← digits? 4 text
  let text ← skip? '-' text
  let (month, text) ← digits? 2 text
  let text ← skip? '-' text
  let (day, text) ← digits? 2 text
  let text ← skipSeparator? text
  let (hour, text) ← digits? 2 text
  let text ← skip? ':' text
  let (minute, text) ← digits? 2 text
  let text ← skip? ':' text
  let (second, text) ← digits? 2 text
  let (nanosecond, text) ← fraction? text
  let offset ← offset? text
  let date ← Date.of? year month day
  let time ← timeOfDay? date hour minute second nanosecond offset
  some ⟨date, time, offset⟩

/-- The point in time that a text stands for. -/
def read? (text : String) : Option Stamp := readChars? text.toList

/-- A leap second, read and written. -/
example : (read? "2016-12-31T23:59:60Z").map write =
    some (.ok "2016-12-31T23:59:59.999999999Z") := by rfl

/-- Small letters, other separators and needless digits are not written. -/
example : (read? "2026-01-02 03:04:05z").map write = some (.ok "2026-01-02T03:04:05Z") := by rfl

example : (read? "2026-01-02t03:04:05.1000-00:00").map write =
    some (.ok "2026-01-02T03:04:05.1Z") := by rfl

end ViewAudit.Stamp
