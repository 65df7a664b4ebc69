import ViewAudit.Proofs.Time.Calendar
import ViewAudit.Proofs.Time.Digits

/-!
All the ways in which a point in time may be spelled, and which point each of them
stands for. The reader accepts these spellings and no other text.
-/

namespace ViewAudit.Stamp

/-! ## Spellings -/

/-- What a spelling says of the offset from UTC. -/
inductive Zone where
  /-- The letter `Z`, or the small one. -/
  | letter (small : Bool)
  | signed (negative : Bool) (hours : Fin 24) (minutes : Fin 60)

namespace Zone

def chars : Zone → List Char
  | letter small => [if small then 'z' else 'Z']
  | signed negative hours minutes =>
      (if negative then '-' else '+') :: (padded 2 hours ++ ':' :: padded 2 minutes)

/-- The offset in seconds. -/
def offset : Zone → Int
  | letter _ => 0
  | signed negative hours minutes =>
      if negative then -(hours * 3600 + minutes * 60) else hours * 3600 + minutes * 60

/-- Whether a zone is UTC itself, be it as a letter or as `+00:00` or `-00:00`. -/
def IsUtc : Zone → Prop
  | letter _ => True
  | signed _ hours minutes => hours.val = 0 ∧ minutes.val = 0

theorem offset_eq_zero_iff {zone : Zone} : zone.offset = 0 ↔ zone.IsUtc := by
  cases zone with
  | letter small => exact ⟨fun _ => trivial, fun _ => rfl⟩
  | signed negative hours minutes =>
      rw [offset, IsUtc]
      split <;> omega

theorem offset_le (zone : Zone) : zone.offset.natAbs ≤ (23 * 60 + 59) * 60 := by
  cases zone with
  | letter small => exact Nat.zero_le _
  | signed negative hours minutes =>
      rw [offset]
      split <;> omega

theorem offset_minutes (zone : Zone) : zone.offset.natAbs % 60 = 0 := by
  cases zone with
  | letter small => rfl
  | signed negative hours minutes =>
      rw [offset]
      split <;> omega

end Zone

/-- The parts of a text that is laid out as RFC 3339 asks for. Nothing is said yet
of whether the calendar has the date and the day has the time. -/
structure Spelling where
  year : Fin 10000
  month : Fin 100
  day : Fin 100
  separator : Char
  hour : Fin 100
  minute : Fin 100
  second : Fin 100
  /-- The digits after the point; without any there is no point. -/
  fraction : List Char
  zone : Zone
  separator_ascii : separator.toNat < 0x80
  fraction_isDigit : ∀ digit ∈ fraction, digit.isDigit = true

namespace Spelling

def fractionChars (spelling : Spelling) : List Char :=
  if spelling.fraction = [] then [] else '.' :: spelling.fraction

def chars (spelling : Spelling) : List Char :=
  padded 4 spelling.year ++ '-' :: padded 2 spelling.month ++ '-' :: padded 2 spelling.day ++
    spelling.separator :: padded 2 spelling.hour ++ ':' :: padded 2 spelling.minute ++
    ':' :: padded 2 spelling.second ++ spelling.fractionChars ++ spelling.zone.chars

def text (spelling : Spelling) : String := String.ofList spelling.chars

/-- The first nine digits of the fraction, with zeros for those that are missing. -/
def nineDigits (spelling : Spelling) : List Char :=
  (spelling.fraction ++ List.replicate 9 '0').take 9

def nanosecond (spelling : Spelling) : Nat := Nat.ofDigitChars 10 spelling.nineDigits 0

/-- A spelling stands for a point in time: they agree in every part, or the spelling
is of a leap second at the end of a month in UTC, for which the last nanosecond
before it stands in. -/
structure Denotes (spelling : Spelling) (stamp : Stamp) : Prop where
  year : stamp.date.year = spelling.year
  month : stamp.date.month = spelling.month
  day : stamp.date.day = spelling.day
  hour : (stamp.time.hour : Nat) = spelling.hour
  minute : (stamp.time.minute : Nat) = spelling.minute
  second :
    ((stamp.time.second : Nat) = spelling.second ∧
      (stamp.time.nanosecond : Nat) = spelling.nanosecond) ∨
    (spelling.second = 60 ∧
      EndsUtcMonth stamp.date stamp.time.hour stamp.time.minute stamp.offset ∧
      (stamp.time.second : Nat) = 59 ∧ (stamp.time.nanosecond : Nat) = 999999999)
  offset : stamp.offset = spelling.zone.offset

end Spelling

/-! ## Reading -/

/-- A reader goes on with what its first part has read. -/
private theorem bind_of_eq_some {α β : Type} {first : Option α} {part : α} (h : first = some part)
    (next : α → Option β) : (first >>= next) = next part := by
  rw [h]
  rfl

theorem exists_of_fraction? {text rest : List Char} {n : Nat}
    (h : fraction? text = some (n, rest)) :
    ∃ fraction : List Char, (∀ digit ∈ fraction, digit.isDigit = true) ∧
      text = (if fraction = [] then [] else '.' :: fraction) ++ rest ∧
      n = Nat.ofDigitChars 10 ((fraction ++ List.replicate 9 '0').take 9) 0 := by
  unfold fraction? at h
  split at h
  case h_1 text =>
    dsimp only at h
    split at h
    case isTrue => cases h
    case isFalse hne =>
      cases h
      rw [List.isEmpty_iff] at hne
      refine ⟨text.takeWhile Char.isDigit, ?_, ?_, rfl⟩
      · exact List.all_eq_true.mp List.all_takeWhile
      · rw [if_neg hne, List.cons_append, List.takeWhile_append_dropWhile]
  case h_2 =>
    cases h
    exact ⟨[], List.forall_mem_nil _, rfl, rfl⟩

/-- A zone begins with no digit and no point, so that the fraction ends before it. -/
theorem Zone.exists_chars_eq_cons (zone : Zone) :
    ∃ mark rest, zone.chars = mark :: rest ∧ mark.isDigit = false ∧ mark ≠ '.' := by
  cases zone with
  | letter small => cases small <;> exact ⟨_, _, rfl, by decide, by decide⟩
  | signed negative hours minutes => cases negative <;> exact ⟨_, _, rfl, by decide, by decide⟩

theorem fraction?_chars (spelling : Spelling) :
    fraction? (spelling.fractionChars ++ spelling.zone.chars) =
      some (spelling.nanosecond, spelling.zone.chars) := by
  obtain ⟨mark, rest, hzone, hmark, hpoint⟩ := spelling.zone.exists_chars_eq_cons
  rw [hzone, Spelling.fractionChars, Spelling.nanosecond, Spelling.nineDigits]
  split
  case isTrue hnil =>
    rw [hnil, List.nil_append, fraction?]
    · rfl
    · rintro text heq
      exact hpoint (List.cons.inj heq).1
  case isFalse hne => exact fraction?_cons spelling.fraction_isDigit hne hmark rest

theorem offset?_signed {sign : Char} (hsign : sign = '+' ∨ sign = '-') {hours minutes : Nat}
    (hhours : hours ≤ 23) (hminutes : minutes ≤ 59) :
    offset? (sign :: (padded 2 hours ++ ':' :: padded 2 minutes)) =
      some (if sign = '+' then (hours * 3600 + minutes * 60 : Int)
        else -(hours * 3600 + minutes * 60)) := by
  have hhours_lt : hours < 100 := by omega
  have hminutes_lt : minutes < 100 := by omega
  have hlast : digits? 2 (padded 2 minutes) = some (minutes, []) := by
    rw [← List.append_nil (padded 2 minutes), digits?_padded 2 hminutes_lt]
  have hrange : ¬ (([] : List Char) ≠ [] ∨ 23 < hours ∨ 59 < minutes) := by
    rintro (h | h | h)
    · exact h rfl
    · omega
    · omega
  unfold offset?
  split
  case h_1 heq =>
    obtain ⟨rfl, -⟩ := List.cons.inj heq
    exact absurd hsign (by decide)
  case h_2 heq =>
    obtain ⟨rfl, -⟩ := List.cons.inj heq
    exact absurd hsign (by decide)
  case h_3 heq =>
    obtain ⟨rfl, rfl⟩ := List.cons.inj heq
    refine (bind_of_eq_some (digits?_padded 2 hhours_lt _) _).trans ?_
    refine (bind_of_eq_some (skip?_cons ':' _) _).trans ?_
    refine (bind_of_eq_some hlast _).trans ?_
    dsimp only
    rw [if_neg hrange]
    rcases hsign with rfl | rfl
    · rfl
    · rfl
  case h_4 heq => cases heq

theorem offset?_chars (zone : Zone) : offset? zone.chars = some zone.offset := by
  cases zone with
  | letter small => cases small <;> rfl
  | signed negative hours minutes =>
      have hhours : hours.val ≤ 23 := Nat.le_of_lt_succ hours.isLt
      have hminutes : minutes.val ≤ 59 := Nat.le_of_lt_succ minutes.isLt
      cases negative
      · exact offset?_signed (Or.inl rfl) hhours hminutes
      · exact offset?_signed (Or.inr rfl) hhours hminutes

theorem exists_of_offset? {text : List Char} {offset : Int} (h : offset? text = some offset) :
    ∃ zone : Zone, text = zone.chars ∧ offset = zone.offset := by
  unfold offset? at h
  split at h
  case h_1 => exact ⟨.letter false, rfl, (Option.some.inj h).symm⟩
  case h_2 => exact ⟨.letter true, rfl, (Option.some.inj h).symm⟩
  case h_3 sign text _ _ =>
    simp only [Option.bind_eq_bind, Option.bind_eq_some_iff, Prod.exists, digits?_eq_some_iff,
      skip?_eq_some_iff] at h
    obtain ⟨hours, _, ⟨-, rfl⟩, _, rfl, minutes, _, ⟨-, rfl⟩, h⟩ := h
    split at h
    case isTrue => cases h
    case isFalse hrange =>
      simp only [not_or, not_lt, ne_eq, not_not] at hrange
      obtain ⟨rfl, hhours, hminutes⟩ := hrange
      have hhours : hours < 24 := Nat.lt_succ_of_le hhours
      have hminutes : minutes < 60 := Nat.lt_succ_of_le hminutes
      split at h
      case isTrue hsign =>
        cases h
        exact ⟨.signed false ⟨hours, hhours⟩ ⟨minutes, hminutes⟩, by simp [Zone.chars, hsign], rfl⟩
      case isFalse =>
        split at h
        case isTrue hsign =>
          cases h
          exact ⟨.signed true ⟨hours, hhours⟩ ⟨minutes, hminutes⟩, by simp [Zone.chars, hsign], rfl⟩
        case isFalse => cases h
  case h_4 => cases h

theorem date_of?_fields (date : Date) : Date.of? date.year date.month date.day = some date := by
  rw [Date.of?, dif_pos date.month_valid, dif_pos date.day_valid]

theorem timeOfDay?_fields (date : Date) (time : TimeOfDay) (offset : Int) :
    timeOfDay? date time.hour time.minute time.second time.nanosecond offset = some time := by
  simp [timeOfDay?]

theorem date_of?_eq_some_iff {year : Int} {month day : Nat} {date : Date} :
    Date.of? year month day = some date ↔
      date.year = year ∧ date.month = month ∧ date.day = day := by
  constructor
  · intro h
    rw [Date.of?] at h
    split at h
    · split at h
      · cases h
        exact ⟨rfl, rfl, rfl⟩
      · cases h
    · cases h
  · rintro ⟨rfl, rfl, rfl⟩
    exact date_of?_fields date

theorem timeOfDay?_eq_some_iff {date : Date} {hour minute second nanosecond : Nat} {offset : Int}
    {time : TimeOfDay} :
    timeOfDay? date hour minute second nanosecond offset = some time ↔
      (time.hour : Nat) = hour ∧ (time.minute : Nat) = minute ∧
        (((time.second : Nat) = second ∧ (time.nanosecond : Nat) = nanosecond) ∨
          (second = 60 ∧ endsMonth date hour minute offset = true ∧
            (time.second : Nat) = 59 ∧ (time.nanosecond : Nat) = 999999999)) := by
  constructor
  · intro h
    rw [timeOfDay?] at h
    split at h
    case isFalse => cases h
    case isTrue hhour =>
      split at h
      case isFalse => cases h
      case isTrue hminute =>
        split at h
        case isTrue hsecond =>
          split at h
          case isFalse => cases h
          case isTrue hnanosecond =>
            cases h
            exact ⟨rfl, rfl, Or.inl ⟨rfl, rfl⟩⟩
        case isFalse hsecond =>
          split at h
          case isFalse => cases h
          case isTrue hleap =>
            cases h
            rw [Bool.and_eq_true, decide_eq_true_eq] at hleap
            exact ⟨rfl, rfl, Or.inr ⟨hleap.1, hleap.2, rfl, rfl⟩⟩
  · obtain ⟨_, _, stampSecond, stampNanosecond⟩ := time
    rintro ⟨rfl, rfl, ⟨rfl, rfl⟩ | ⟨rfl, hends, hsecond, hnanosecond⟩⟩
    · exact timeOfDay?_fields date _ offset
    · obtain rfl : stampSecond = 59 := Fin.ext hsecond
      obtain rfl : stampNanosecond = 999999999 := Fin.ext hnanosecond
      simp [timeOfDay?, hends]

theorem endsMonth_zone_iff {date : Date} {time : TimeOfDay} {zone : Zone} :
    endsMonth date time.hour time.minute zone.offset = true ↔
      EndsUtcMonth date time.hour time.minute zone.offset :=
  endsMonth_iff time.hour.isLt time.minute.isLt zone.offset_le zone.offset_minutes

theorem exists_of_readChars? {text : List Char} {stamp : Stamp}
    (h : readChars? text = some stamp) : ∃ spelling : Spelling, text = spelling.chars := by
  obtain ⟨⟨year, _⟩, hyear, h⟩ := Option.bind_eq_some_iff.mp h
  obtain ⟨_, hfirstDash, h⟩ := Option.bind_eq_some_iff.mp h
  obtain ⟨⟨month, _⟩, hmonth, h⟩ := Option.bind_eq_some_iff.mp h
  obtain ⟨_, hsecondDash, h⟩ := Option.bind_eq_some_iff.mp h
  obtain ⟨⟨day, _⟩, hday, h⟩ := Option.bind_eq_some_iff.mp h
  obtain ⟨_, hseparator, h⟩ := Option.bind_eq_some_iff.mp h
  obtain ⟨⟨hour, _⟩, hhour, h⟩ := Option.bind_eq_some_iff.mp h
  obtain ⟨_, hfirstColon, h⟩ := Option.bind_eq_some_iff.mp h
  obtain ⟨⟨minute, _⟩, hminute, h⟩ := Option.bind_eq_some_iff.mp h
  obtain ⟨_, hsecondColon, h⟩ := Option.bind_eq_some_iff.mp h
  obtain ⟨⟨second, _⟩, hsecond, h⟩ := Option.bind_eq_some_iff.mp h
  obtain ⟨⟨nanosecond, _⟩, hfraction, h⟩ := Option.bind_eq_some_iff.mp h
  obtain ⟨offset, hoffset, -⟩ := Option.bind_eq_some_iff.mp h
  -- From the end to the beginning, each rest is what the next reader has read.
  obtain ⟨zone, rfl, -⟩ := exists_of_offset? hoffset
  obtain ⟨fraction, hdigits, rfl, -⟩ := exists_of_fraction? hfraction
  obtain ⟨hsecond_lt, rfl⟩ := digits?_eq_some_iff.mp hsecond
  obtain rfl := skip?_eq_some_iff.mp hsecondColon
  obtain ⟨hminute_lt, rfl⟩ := digits?_eq_some_iff.mp hminute
  obtain rfl := skip?_eq_some_iff.mp hfirstColon
  obtain ⟨hhour_lt, rfl⟩ := digits?_eq_some_iff.mp hhour
  obtain ⟨separator, hascii, rfl⟩ := skipSeparator?_eq_some_iff.mp hseparator
  obtain ⟨hday_lt, rfl⟩ := digits?_eq_some_iff.mp hday
  obtain rfl := skip?_eq_some_iff.mp hsecondDash
  obtain ⟨hmonth_lt, rfl⟩ := digits?_eq_some_iff.mp hmonth
  obtain rfl := skip?_eq_some_iff.mp hfirstDash
  obtain ⟨hyear_lt, rfl⟩ := digits?_eq_some_iff.mp hyear
  refine ⟨⟨⟨year, hyear_lt⟩, ⟨month, hmonth_lt⟩, ⟨day, hday_lt⟩, separator, ⟨hour, hhour_lt⟩,
    ⟨minute, hminute_lt⟩, ⟨second, hsecond_lt⟩, fraction, zone, hascii, hdigits⟩, ?_⟩
  simp only [Spelling.chars, Spelling.fractionChars, List.append_assoc, List.cons_append]

theorem readChars?_chars (spelling : Spelling) :
    readChars? spelling.chars =
      (Date.of? spelling.year spelling.month spelling.day).bind fun date =>
        (timeOfDay? date spelling.hour spelling.minute spelling.second spelling.nanosecond
          spelling.zone.offset).bind fun time => some ⟨date, time, spelling.zone.offset⟩ := by
  have hseparator (rest : List Char) : skipSeparator? (spelling.separator :: rest) = some rest :=
    if_pos spelling.separator_ascii
  simp only [Spelling.chars, List.append_assoc, List.cons_append]
  refine (bind_of_eq_some (digits?_padded 4 spelling.year.isLt _) _).trans ?_
  refine (bind_of_eq_some (skip?_cons '-' _) _).trans ?_
  refine (bind_of_eq_some (digits?_padded 2 spelling.month.isLt _) _).trans ?_
  refine (bind_of_eq_some (skip?_cons '-' _) _).trans ?_
  refine (bind_of_eq_some (digits?_padded 2 spelling.day.isLt _) _).trans ?_
  refine (bind_of_eq_some (hseparator _) _).trans ?_
  refine (bind_of_eq_some (digits?_padded 2 spelling.hour.isLt _) _).trans ?_
  refine (bind_of_eq_some (skip?_cons ':' _) _).trans ?_
  refine (bind_of_eq_some (digits?_padded 2 spelling.minute.isLt _) _).trans ?_
  refine (bind_of_eq_some (skip?_cons ':' _) _).trans ?_
  refine (bind_of_eq_some (digits?_padded 2 spelling.second.isLt _) _).trans ?_
  refine (bind_of_eq_some (fraction?_chars spelling) _).trans ?_
  exact bind_of_eq_some (offset?_chars spelling.zone) _

/-- A spelling is read if the calendar has the date and the day has the time. -/
theorem read?_text_iff {spelling : Spelling} {stamp : Stamp} :
    read? spelling.text = some stamp ↔ spelling.Denotes stamp := by
  rw [read?, Spelling.text, String.toList_ofList, readChars?_chars]
  simp only [Option.bind_eq_some_iff, Option.some.injEq, date_of?_eq_some_iff,
    timeOfDay?_eq_some_iff]
  constructor
  · rintro ⟨date, ⟨hyear, hmonth, hday⟩, time, ⟨hhour, hminute, hsecond⟩, rfl⟩
    rw [← hhour, ← hminute, endsMonth_zone_iff] at hsecond
    refine ⟨hyear, hmonth, hday, hhour, hminute, ?_, rfl⟩
    exact hsecond.imp id (And.imp_left Fin.ext)
  · rintro ⟨hyear, hmonth, hday, hhour, hminute, hsecond, hoffset⟩
    refine ⟨stamp.date, ⟨hyear, hmonth, hday⟩, stamp.time, ⟨hhour, hminute, ?_⟩, ?_⟩
    · rw [← hhour, ← hminute, endsMonth_zone_iff, ← hoffset]
      exact hsecond.imp id (And.imp_left (congrArg Fin.val))
    · rw [← hoffset]

/-- A text is read if and only if it is a spelling, and as what it stands for. -/
theorem read?_eq_some_iff {text : String} {stamp : Stamp} :
    read? text = some stamp ↔
      ∃ spelling : Spelling, text = spelling.text ∧ spelling.Denotes stamp := by
  constructor
  · intro h
    obtain ⟨spelling, hchars⟩ := exists_of_readChars? h
    have htext : text = spelling.text := by rw [Spelling.text, ← hchars, String.ofList_toList]
    rw [htext] at h
    exact ⟨spelling, htext, read?_text_iff.mp h⟩
  · rintro ⟨spelling, rfl, h⟩
    exact read?_text_iff.mpr h

/-! ## Spellings of one time -/

namespace Spelling

variable {spelling other : Spelling} {stamp : Stamp}

/-- Spellings that differ in the separator, in the case of a letter, in how UTC is
written, in zeros at the end of the fraction and in digits after the ninth, at most. -/
structure Alike (spelling other : Spelling) : Prop where
  year : spelling.year = other.year
  month : spelling.month = other.month
  day : spelling.day = other.day
  hour : spelling.hour = other.hour
  minute : spelling.minute = other.minute
  second : spelling.second = other.second
  nineDigits : spelling.nineDigits = other.nineDigits
  zone : spelling.zone = other.zone ∨ spelling.zone.IsUtc ∧ other.zone.IsUtc

theorem Alike.read?_eq (h : spelling.Alike other) : read? spelling.text = read? other.text := by
  have hnanosecond : spelling.nanosecond = other.nanosecond := by
    rw [nanosecond, h.nineDigits, nanosecond]
  have hoffset : spelling.zone.offset = other.zone.offset := by
    rcases h.zone with hzone | ⟨hutc, hother⟩
    · rw [hzone]
    · rw [Zone.offset_eq_zero_iff.mpr hutc, Zone.offset_eq_zero_iff.mpr hother]
  rw [read?, read?, text, text, String.toList_ofList, String.toList_ofList, readChars?_chars,
    readChars?_chars, h.year, h.month, h.day, h.hour, h.minute, h.second, hnanosecond, hoffset]

end Spelling

end ViewAudit.Stamp
