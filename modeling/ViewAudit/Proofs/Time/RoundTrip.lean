import ViewAudit.Proofs.Time.Spelling

/-!
What RFC 3339 writes of a point in time is read as the same point on the same
clock: no nanosecond is lost, and the offset of the clock is kept. What is written
of a time that has been read is the normal one among its spellings.
-/

namespace ViewAudit.Stamp

/-- A point in time that RFC 3339 can write: the year on its clock has at most
four digits, and the clock is at most 23 hours and 59 minutes off, in whole
minutes. -/
structure IsWritable (stamp : Stamp) : Prop where
  year_nonneg : 0 ≤ stamp.date.year
  year_le : stamp.date.year ≤ 9999
  offset_le : stamp.offset.natAbs ≤ (23 * 60 + 59) * 60
  offset_minutes : stamp.offset.natAbs % 60 = 0

theorem formatError?_eq_none_iff {stamp : Stamp} :
    stamp.formatError? = none ↔ stamp.IsWritable := by
  unfold formatError?
  constructor
  · intro h
    split at h
    · cases h
    · split at h
      · cases h
      · split at h
        · cases h
        · exact ⟨by omega, by omega, by omega, by omega⟩
  · intro h
    obtain ⟨hnonneg, hyear, hoffset, hminutes⟩ := h
    rw [if_neg (by omega), if_neg (by omega), if_neg (by omega)]

instance (stamp : Stamp) : Decidable stamp.IsWritable :=
  decidable_of_iff (stamp.formatError? = none) formatError?_eq_none_iff

theorem write_of_isWritable {stamp : Stamp} (h : stamp.IsWritable) :
    stamp.write = .ok (String.ofList stamp.writeChars) := by
  rw [write, formatError?_eq_none_iff.mpr h]

theorem isWritable_of_write {stamp : Stamp} {text : String} (h : stamp.write = .ok text) :
    stamp.IsWritable := by
  rw [write] at h
  split at h
  case h_1 => cases h
  case h_2 hnone => exact formatError?_eq_none_iff.mp hnone

/-! ## The normal spelling -/

/-- The spelling that is written: with a `T`, with a `Z` for UTC, without needless
digits and without a leap second. -/
structure Spelling.IsNormal (spelling : Spelling) : Prop where
  separator : spelling.separator = 'T'
  second : spelling.second < 60
  fraction_length : spelling.fraction.length ≤ 9
  fraction_end : spelling.fraction.getLast? ≠ some '0'
  zone : spelling.zone.IsUtc → spelling.zone = .letter false

theorem exists_zone_of_writeOffset {offset : Int} (hle : offset.natAbs ≤ (23 * 60 + 59) * 60)
    (hminutes : offset.natAbs % 60 = 0) :
    ∃ zone : Zone, writeOffset offset = zone.chars ∧ zone.offset = offset ∧
      (zone.IsUtc → zone = .letter false) := by
  rw [writeOffset]
  split
  case isTrue hzero => exact ⟨.letter false, rfl, hzero.symm, fun _ => rfl⟩
  case isFalse hnonzero =>
    have hhour_lt : offset.natAbs / 3600 < 24 := by omega
    have hminute_lt : offset.natAbs / 60 % 60 < 60 := by omega
    let zone : Zone := .signed (offset < 0) ⟨_, hhour_lt⟩ ⟨_, hminute_lt⟩
    have hoffset : zone.offset = offset := by
      simp only [zone, Zone.offset, decide_eq_true_eq]
      split <;> omega
    refine ⟨zone, ?_, hoffset, ?_⟩
    · simp only [zone, Zone.chars, decide_eq_true_eq, List.cons_append]
    · intro hutc
      rw [Zone.offset_eq_zero_iff.mpr hutc] at hoffset
      exact absurd hoffset.symm hnonzero

theorem exists_fraction_of_writeFraction {nanosecond : Nat} (h : nanosecond < Nat.pow 10 9) :
    ∃ fraction : List Char, (∀ digit ∈ fraction, digit.isDigit = true) ∧
      writeFraction nanosecond = (if fraction = [] then [] else '.' :: fraction) ∧
      Nat.ofDigitChars 10 ((fraction ++ List.replicate 9 '0').take 9) 0 = nanosecond ∧
      fraction.length ≤ 9 ∧ fraction.getLast? ≠ some '0' := by
  rw [writeFraction]
  split
  case isTrue hzero =>
    exact ⟨[], List.forall_mem_nil _, rfl, hzero.symm, Nat.zero_le 9,
      (Option.some_ne_none '0').symm⟩
  case isFalse hnonzero =>
    have hne := withoutTrailingZeros_padded_ne_nil (Nat.pos_of_ne_zero hnonzero) h
    refine ⟨withoutTrailingZeros (padded 9 nanosecond), ?_, (if_neg hne).symm, ?_, ?_, ?_⟩
    · exact fun _ => isDigit_of_mem_withoutTrailingZeros
    · -- The reader fills the zeros up that the writer has left out.
      rw [take_withoutTrailingZeros (length_padded 9 nanosecond), ofDigitChars_padded,
        Nat.mod_eq_of_lt h]
    · rw [← length_padded 9 nanosecond]
      exact length_withoutTrailingZeros_le _
    · exact getLast?_withoutTrailingZeros _

theorem day_lt (date : Date) : date.day < 100 := by
  have hday := date.day_valid.2
  have hmonth : daysInMonth date.year date.month ≤ 31 := by
    unfold daysInMonth
    split
    · split <;> decide
    · split <;> decide
  omega

/-- Whatever can be written is written in the normal spelling. -/
theorem exists_isNormal_of_isWritable {stamp : Stamp} (h : stamp.IsWritable) :
    ∃ spelling : Spelling, stamp.write = .ok spelling.text ∧ spelling.Denotes stamp ∧
      spelling.IsNormal := by
  obtain ⟨zone, hzone, hoffset, hutc⟩ := exists_zone_of_writeOffset h.offset_le h.offset_minutes
  obtain ⟨fraction, hdigits, hfraction, hnanosecond, hlength, hend⟩ :=
    exists_fraction_of_writeFraction stamp.time.nanosecond.isLt
  have hnonneg := h.year_nonneg
  have hyear := h.year_le
  have hmonth := stamp.date.month_valid.2
  let spelling : Spelling :=
    { year := ⟨stamp.date.year.toNat, by omega⟩
      month := ⟨stamp.date.month, by omega⟩
      day := ⟨stamp.date.day, day_lt stamp.date⟩
      separator := 'T'
      hour := ⟨stamp.time.hour, by omega⟩
      minute := ⟨stamp.time.minute, by omega⟩
      second := ⟨stamp.time.second, by omega⟩
      fraction
      zone
      separator_ascii := by decide
      fraction_isDigit := hdigits }
  have hchars : stamp.writeChars = spelling.chars := by
    rw [writeChars, hfraction, hzone]
    rfl
  have hdenotes : spelling.Denotes stamp :=
    { year := (Int.toNat_of_nonneg hnonneg).symm
      month := rfl
      day := rfl
      hour := rfl
      minute := rfl
      second := Or.inl ⟨rfl, hnanosecond.symm⟩
      offset := hoffset.symm }
  refine ⟨spelling, ?_, hdenotes, rfl, stamp.time.second.isLt, hlength, hend, hutc⟩
  rw [write_of_isWritable h, hchars, Spelling.text]

/-- Whatever is written is read as what it was written from. -/
theorem read?_of_write {stamp : Stamp} {text : String} (h : stamp.write = .ok text) :
    read? text = some stamp := by
  obtain ⟨spelling, hwrite, hdenotes, -⟩ := exists_isNormal_of_isWritable (isWritable_of_write h)
  rw [h] at hwrite
  rw [Except.ok.inj hwrite]
  exact read?_text_iff.mpr hdenotes

/-! ## Times that have been read -/

theorem Spelling.Denotes.isWritable {spelling : Spelling} {stamp : Stamp}
    (h : spelling.Denotes stamp) : stamp.IsWritable := by
  have hyear := h.year
  have hlt := spelling.year.isLt
  refine ⟨by omega, by omega, ?_, ?_⟩
  · rw [h.offset]
    exact spelling.zone.offset_le
  · rw [h.offset]
    exact spelling.zone.offset_minutes

theorem isWritable_of_read? {text : String} {stamp : Stamp} (h : read? text = some stamp) :
    stamp.IsWritable := by
  obtain ⟨spelling, -, hdenotes⟩ := read?_eq_some_iff.mp h
  exact hdenotes.isWritable

/-- The time that is spelled is kept to the nanosecond, and so is the offset; only
a leap second is moved to the last nanosecond before it. -/
structure Spelling.KeptBy (spelling other : Spelling) : Prop where
  year : other.year = spelling.year
  month : other.month = spelling.month
  day : other.day = spelling.day
  hour : other.hour = spelling.hour
  minute : other.minute = spelling.minute
  second :
    (other.second = spelling.second ∧ other.nanosecond = spelling.nanosecond) ∨
    (spelling.second = 60 ∧
      (∃ date : Date, date.year = spelling.year ∧ date.month = spelling.month ∧
        date.day = spelling.day ∧
        EndsUtcMonth date spelling.hour spelling.minute spelling.zone.offset) ∧
      other.second = 59 ∧ other.nanosecond = 999999999)
  offset : other.zone.offset = spelling.zone.offset

theorem Spelling.Denotes.keptBy {spelling other : Spelling} {stamp : Stamp}
    (h : spelling.Denotes stamp) (hother : other.Denotes stamp) (hsecond : other.second < 60) :
    spelling.KeptBy other := by
  have hyear : (other.year : Int) = spelling.year := hother.year.symm.trans h.year
  have hstandsFor : (stamp.time.second : Nat) = other.second ∧
      (stamp.time.nanosecond : Nat) = other.nanosecond := by
    rcases hother.second with hplain | ⟨hleap, -⟩
    · exact hplain
    · rw [hleap] at hsecond
      exact absurd hsecond (by decide)
  refine ⟨Fin.ext (by omega), Fin.ext (hother.month.symm.trans h.month),
    Fin.ext (hother.day.symm.trans h.day), Fin.ext (hother.hour.symm.trans h.hour),
    Fin.ext (hother.minute.symm.trans h.minute), ?_, hother.offset.symm.trans h.offset⟩
  rw [Fin.ext_iff, ← hstandsFor.1, ← hstandsFor.2]
  rcases h.second with hplain | ⟨hleap, hends, hlast, hnanosecond⟩
  · exact Or.inl hplain
  · rw [h.hour, h.minute, h.offset] at hends
    refine Or.inr ⟨hleap, ⟨stamp.date, h.year, h.month, h.day, hends⟩, ?_, hnanosecond⟩
    exact Fin.ext (hstandsFor.1.symm.trans hlast)

/-- What has been read is written again, in the normal spelling, as the time that
was spelled. -/
theorem exists_keptBy_of_read? {text : String} {stamp : Stamp} (h : read? text = some stamp) :
    ∃ spelling other : Spelling, text = spelling.text ∧ stamp.write = .ok other.text ∧
      spelling.KeptBy other ∧ other.IsNormal := by
  obtain ⟨spelling, htext, hdenotes⟩ := read?_eq_some_iff.mp h
  obtain ⟨other, hwrite, hother, hnormal⟩ := exists_isNormal_of_isWritable hdenotes.isWritable
  exact ⟨spelling, other, htext, hwrite, hdenotes.keptBy hother hnormal.second, hnormal⟩

/-! ## Clocks -/

/-- A clock that shows UTC, not set to a time before 1970, can show this. -/
def IsOfClock (stamp : Stamp) : Prop :=
  ∃ seconds nanoseconds : Int, 0 ≤ seconds ∧ 0 ≤ nanoseconds ∧
    ofUnix? seconds nanoseconds 0 = some stamp

theorem year_nonneg_of_date_ofDays? {days : Int} {date : Date} (hdays : 0 ≤ days)
    (h : Date.ofDays? days = some date) : 0 ≤ date.year := by
  rw [Date.ofDays?] at h
  rw [(date_of?_eq_some_iff.mp h).1]
  have hdayOfEra : 0 ≤ (days + 719468) % 146097 := by omega
  have hera : 0 ≤ (days + 719468) / 146097 := by omega
  have hyear (dayOfEra : Int) (hnonneg : 0 ≤ dayOfEra) :
      0 ≤ (dayOfEra - dayOfEra / 1460 + dayOfEra / 36524 - dayOfEra / 146096) / 365 := by omega
  have hlate (month : Int) : 0 ≤ (if month ≤ 2 then 1 else 0 : Int) := by split <;> decide
  exact Int.add_nonneg (Int.add_nonneg (hyear _ hdayOfEra) (Int.mul_nonneg hera (by decide)))
    (hlate _)

theorem ofDays?_of_dateOfDays? {days : Int} {date : Date} (h : dateOfDays? days = some date) :
    Date.ofDays? days = some date ∧ date.year ≤ yearLimit := by
  obtain ⟨found, hfound, h⟩ := Option.bind_eq_some_iff.mp h
  split at h
  case isTrue => cases h
  case isFalse hyear =>
    cases h
    exact ⟨hfound, by omega⟩

/-- What a clock shows can be written. -/
theorem IsOfClock.isWritable {stamp : Stamp} (h : stamp.IsOfClock) : stamp.IsWritable := by
  obtain ⟨seconds, nanoseconds, hseconds, hnanoseconds, hstamp⟩ := h
  rw [ofUnix?, if_neg (by decide)] at hstamp
  obtain ⟨-, -, hstamp⟩ := Option.bind_eq_some_iff.mp hstamp
  obtain ⟨date, hdate, hstamp⟩ := Option.bind_eq_some_iff.mp hstamp
  cases hstamp
  obtain ⟨hdays, hyear⟩ := ofDays?_of_dateOfDays? hdate
  exact ⟨year_nonneg_of_date_ofDays? (by omega) hdays, hyear, Nat.zero_le _, rfl⟩

end ViewAudit.Stamp
