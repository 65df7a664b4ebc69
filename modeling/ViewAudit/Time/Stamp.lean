/-!
Points in time as a clock on the wall shows them: a date of the Gregorian
calendar, a time of day and the offset of that clock from UTC.
-/

namespace ViewAudit

/-- Whether a year has a 29th of February. -/
def isLeapYear (year : Int) : Bool :=
  year % 4 = 0 && (year % 100 != 0 || year % 400 = 0)

/-- The number of days of a month. -/
def daysInMonth (year : Int) (month : Nat) : Nat :=
  if month = 2 then if isLeapYear year then 29 else 28
  else if month ∈ [4, 6, 9, 11] then 30
  else 31

structure Date where
  year : Int
  month : Nat
  day : Nat
  month_valid : 1 ≤ month ∧ month ≤ 12
  day_valid : 1 ≤ day ∧ day ≤ daysInMonth year month
  deriving DecidableEq, Repr

/-- The date of a year, a month and a day, if the calendar has it. -/
def Date.of? (year : Int) (month day : Nat) : Option Date :=
  if hmonth : 1 ≤ month ∧ month ≤ 12 then
    if hday : 1 ≤ day ∧ day ≤ daysInMonth year month then
      some ⟨year, month, day, hmonth, hday⟩
    else none
  else none

/-- The date that is some days after the first of January 1970. Years are
counted from the first of March, so that a leap day is the last of its year,
and in eras of 400 years, each of which has 146097 days. -/
def Date.ofDays? (days : Int) : Option Date :=
  let shifted := days + 719468
  let era := shifted / 146097
  let dayOfEra := shifted % 146097
  let yearOfEra :=
    (dayOfEra - dayOfEra / 1460 + dayOfEra / 36524 - dayOfEra / 146096) / 365
  let dayOfYear := dayOfEra - (365 * yearOfEra + yearOfEra / 4 - yearOfEra / 100)
  let marchMonth := (5 * dayOfYear + 2) / 153
  let day := dayOfYear - (153 * marchMonth + 2) / 5 + 1
  let month := if marchMonth < 10 then marchMonth + 3 else marchMonth - 9
  let year := yearOfEra + era * 400 + (if month ≤ 2 then 1 else 0)
  Date.of? year month.toNat day.toNat

/-- A time of day. -/
structure TimeOfDay where
  hour : Fin 24
  minute : Fin 60
  second : Fin 60
  nanosecond : Fin 1000000000
  deriving DecidableEq, Repr

/-- A point in time on a clock that is `offset` seconds ahead of UTC. -/
structure Stamp where
  date : Date
  time : TimeOfDay
  offset : Int
  deriving DecidableEq, Repr

namespace Stamp

/-- The largest offset from UTC, in seconds, that a clock may have. -/
def offsetLimit : Int := 93599

/-- The last year of the calendar; its first year is the negative of it. -/
def yearLimit : Int := 9999

/-- The date that is some days after the first of January 1970, if its year is
one of the calendar. -/
def dateOfDays? (days : Int) : Option Date := do
  let date ← Date.ofDays? days
  if date.year < -yearLimit ∨ yearLimit < date.year then none else some date

/-- The point in time that is some seconds and nanoseconds after the beginning
of 1970 in UTC, on a clock with an offset of `offset` seconds. The calendar
must have its date in UTC as well as its date on the clock. -/
def ofUnix? (seconds nanoseconds offset : Int) : Option Stamp := do
  if offset < -offsetLimit ∨ offsetLimit < offset then none
  else
    let inUtc := seconds + nanoseconds / 1000000000
    let _ ← dateOfDays? (inUtc / 86400)
    let second := inUtc + offset
    let secondOfDay := (second % 86400).toNat
    let date ← dateOfDays? (second / 86400)
    some
      { date
        time :=
          { hour := Fin.ofNat 24 (secondOfDay / 3600)
            minute := Fin.ofNat 60 (secondOfDay / 60)
            second := Fin.ofNat 60 secondOfDay
            nanosecond := Fin.ofNat 1000000000 (nanoseconds % 1000000000).toNat }
        offset }

end Stamp

end ViewAudit
