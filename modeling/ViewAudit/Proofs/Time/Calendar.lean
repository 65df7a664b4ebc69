import Mathlib.Order.Monotone.Basic
import ViewAudit.Time.Rfc3339

/-!
Days counted one after the other, so that a date on a clock can be compared with
the date in UTC, and what this says of leap seconds.
-/

namespace ViewAudit

namespace Date

/-! ## Years and months -/

/-- The days from the beginning of the year 0 to that of a year. -/
def daysBeforeYear (year : Int) : Int :=
  365 * year + (year + 3) / 4 - (year + 99) / 100 + (year + 399) / 400

def daysInYear (year : Int) : Nat := if isLeapYear year then 366 else 365

theorem isLeapYear_iff {year : Int} :
    isLeapYear year = true ↔ year % 4 = 0 ∧ (year % 100 ≠ 0 ∨ year % 400 = 0) := by
  simp [isLeapYear]

theorem daysBeforeYear_succ (year : Int) :
    daysBeforeYear (year + 1) = daysBeforeYear year + daysInYear year := by
  unfold daysBeforeYear daysInYear
  split
  case isTrue h =>
    rw [isLeapYear_iff] at h
    omega
  case isFalse h =>
    rw [isLeapYear_iff] at h
    omega

theorem daysBeforeYear_add_daysInYear_le {first second : Int} (h : first < second) :
    daysBeforeYear first + daysInYear first ≤ daysBeforeYear second := by
  rw [← daysBeforeYear_succ]
  unfold daysBeforeYear
  omega

/-- The days of a year that are before a month. -/
def daysBeforeMonth (year : Int) : Nat → Nat
  | 0 | 1 => 0
  | month + 2 => daysBeforeMonth year (month + 1) + daysInMonth year (month + 1)

theorem daysBeforeMonth_succ (year : Int) {month : Nat} (h : 1 ≤ month) :
    daysBeforeMonth year (month + 1) = daysBeforeMonth year month + daysInMonth year month := by
  cases month with
  | zero => omega
  | succ month => rfl

theorem daysBeforeMonth_monotone (year : Int) : Monotone (daysBeforeMonth year) := by
  apply monotone_nat_of_le_succ
  intro month
  cases month with
  | zero => exact Nat.le_refl 0
  | succ month => exact Nat.le_add_right _ _

theorem daysBeforeMonth_thirteen (year : Int) : daysBeforeMonth year 13 = daysInYear year := by
  unfold daysInYear
  split <;> simp_all [daysBeforeMonth, daysInMonth]

theorem daysBeforeMonth_twelve (year : Int) :
    daysBeforeMonth year 12 + 31 = daysInYear year :=
  daysBeforeMonth_thirteen year

/-! ## Days -/

/-- The days from the beginning of the year 0 to a date. -/
def dayNumber (date : Date) : Int :=
  daysBeforeYear date.year + daysBeforeMonth date.year date.month + (date.day - 1)

theorem daysBeforeMonth_add_day_le (date : Date) :
    daysBeforeMonth date.year date.month + date.day ≤
      daysBeforeMonth date.year (date.month + 1) := by
  rw [daysBeforeMonth_succ date.year date.month_valid.1]
  exact Nat.add_le_add_left date.day_valid.2 _

theorem dayNumber_lt_of_year_lt {first second : Date} (h : first.year < second.year) :
    first.dayNumber < second.dayNumber := by
  have hyears := daysBeforeYear_add_daysInYear_le h
  have hday := daysBeforeMonth_add_day_le first
  have hmonth : first.month + 1 ≤ 13 := Nat.succ_le_succ first.month_valid.2
  have hmonths := daysBeforeMonth_monotone first.year hmonth
  rw [daysBeforeMonth_thirteen] at hmonths
  have hsecond := second.day_valid.1
  unfold dayNumber
  omega

theorem dayNumber_lt_of_month_lt {first second : Date} (hyear : first.year = second.year)
    (h : first.month < second.month) : first.dayNumber < second.dayNumber := by
  have hday := daysBeforeMonth_add_day_le first
  have hmonths : daysBeforeMonth first.year (first.month + 1) ≤
      daysBeforeMonth first.year second.month := daysBeforeMonth_monotone first.year h
  have hsecond := second.day_valid.1
  unfold dayNumber
  rw [← hyear]
  omega

theorem dayNumber_injective : Function.Injective dayNumber := by
  intro first second h
  have hyear : first.year = second.year := by
    rcases lt_trichotomy first.year second.year with hlt | heq | hlt
    · exact absurd h (dayNumber_lt_of_year_lt hlt).ne
    · exact heq
    · exact absurd h (dayNumber_lt_of_year_lt hlt).ne'
  have hmonth : first.month = second.month := by
    rcases lt_trichotomy first.month second.month with hlt | heq | hlt
    · exact absurd h (dayNumber_lt_of_month_lt hyear hlt).ne
    · exact heq
    · exact absurd h (dayNumber_lt_of_month_lt hyear.symm hlt).ne'
  have hday : first.day = second.day := by
    unfold dayNumber at h
    rw [hyear, hmonth] at h
    omega
  cases first
  cases second
  cases hyear
  cases hmonth
  cases hday
  rfl

def IsLastOfMonth (date : Date) : Prop := date.day = daysInMonth date.year date.month

theorem daysInMonth_pos (year : Int) (month : Nat) : 1 ≤ daysInMonth year month := by
  unfold daysInMonth
  split
  · split <;> decide
  · split <;> decide

/-- Whatever day comes before the first of a month is the last of one. -/
theorem exists_last_before {date : Date} (h : date.day = 1) :
    ∃ last : Date, last.IsLastOfMonth ∧ last.dayNumber + 1 = date.dayNumber := by
  obtain ⟨year, month, day, hmonth, hday⟩ := date
  cases h
  by_cases hfirst : month = 1
  · subst hfirst
    have hyear := daysBeforeYear_succ (year - 1)
    rw [Int.sub_add_cancel, ← daysBeforeMonth_twelve] at hyear
    have hjanuary : daysBeforeMonth year 1 = 0 := rfl
    refine ⟨⟨year - 1, 12, 31, by decide, by decide, Nat.le_refl 31⟩, rfl, ?_⟩
    simp only [dayNumber]
    omega
  · obtain ⟨before, rfl⟩ : ∃ before, month = before + 1 := ⟨month - 1, by omega⟩
    have hbefore : 1 ≤ before ∧ before ≤ 12 := by omega
    have hsucc := daysBeforeMonth_succ year hbefore.1
    refine ⟨⟨year, before, daysInMonth year before, hbefore, daysInMonth_pos _ _, Nat.le_refl _⟩,
      rfl, ?_⟩
    simp only [dayNumber]
    omega

/-- Whatever day comes after the last of a month is the first of one. -/
theorem exists_first_after {date : Date} (h : date.IsLastOfMonth) :
    ∃ first : Date, first.day = 1 ∧ first.dayNumber = date.dayNumber + 1 := by
  obtain ⟨year, month, day, hmonth, hday⟩ := date
  obtain rfl : day = daysInMonth year month := h
  by_cases hlast : month = 12
  · subst hlast
    have hyear := daysBeforeYear_succ year
    rw [← daysBeforeMonth_twelve] at hyear
    have hjanuary : daysBeforeMonth (year + 1) 1 = 0 := rfl
    have hdecember : daysInMonth year 12 = 31 := rfl
    refine ⟨⟨year + 1, 1, 1, by decide, by decide, daysInMonth_pos _ _⟩, rfl, ?_⟩
    simp only [dayNumber]
    omega
  · have hsucc := daysBeforeMonth_succ year hmonth.1
    refine ⟨⟨year, month + 1, 1, by omega, by decide, daysInMonth_pos _ _⟩, rfl, ?_⟩
    simp only [dayNumber]
    omega

end Date

namespace Stamp

/-! ## Leap seconds -/

/-- The seconds in UTC from the beginning of the year 0 to a minute on a clock. -/
def utcSeconds (date : Date) (hour minute : Nat) (offset : Int) : Int :=
  86400 * date.dayNumber + 3600 * hour + 60 * minute - offset

/-- Whether a minute on a clock is the last one of a month in UTC. -/
def EndsUtcMonth (date : Date) (hour minute : Nat) (offset : Int) : Prop :=
  ∃ utc : Date, utc.IsLastOfMonth ∧
    utcSeconds date hour minute offset = utcSeconds utc 23 59 0

/-- A clock is not a whole day off, so the date in UTC is the one on the clock or
one next to it. -/
theorem endsMonth_iff {date : Date} {hour minute : Nat} {offset : Int} (hhour : hour < 24)
    (hminute : minute < 60) (hoffset : offset.natAbs ≤ (23 * 60 + 59) * 60)
    (hminutes : offset.natAbs % 60 = 0) :
    endsMonth date hour minute offset = true ↔ EndsUtcMonth date hour minute offset := by
  unfold endsMonth EndsUtcMonth utcSeconds
  simp only [Bool.or_eq_true, Bool.and_eq_true, decide_eq_true_eq]
  constructor
  · rintro (⟨hminute, hlast⟩ | ⟨hminute, hfirst⟩)
    · refine ⟨date, hlast, ?_⟩
      omega
    · obtain ⟨utc, hutc, hday⟩ := Date.exists_last_before hfirst
      refine ⟨utc, hutc, ?_⟩
      omega
  · rintro ⟨utc, hutc, hseconds⟩
    by_cases hday : utc.dayNumber = date.dayNumber
    · obtain rfl := Date.dayNumber_injective hday
      exact Or.inl ⟨by omega, hutc⟩
    · obtain ⟨next, hfirst, hnext⟩ := Date.exists_first_after hutc
      have hdate : next.dayNumber = date.dayNumber := by omega
      obtain rfl := Date.dayNumber_injective hdate
      exact Or.inr ⟨by omega, hfirst⟩

end Stamp

end ViewAudit
