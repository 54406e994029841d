import TypedRows.Proofs.Calendar.WeekYears

/-!
# Fields of timestamps

A timestamp is split into its day and its time of day, of which the calendar gives the year, the
month and the day of the month, and the clock the rest. The split rounds towards the past, so that
the fields of the clock count on from midnight before 1970 too, and all fields together tell the
timestamp.

## Main definitions

* `TypedRows.Calendar.HasFields` — the label and the wall-clock time that are read off a timestamp.

## Main results

* `TypedRows.Calendar.exists_clockFields` — the fields of the clock tell the time of day.
* `TypedRows.Calendar.dayOfYear_bounds` — the day of the year is one of the days that the year has.
* `TypedRows.Calendar.extracted_fields_determine_timestamp`
-/

set_option autoImplicit false

namespace TypedRows.Calendar

open YearMonthDay (ofEpochDay)

variable {timestamp : Int}

/-! ## The clock -/

/-- **The fields of the clock tell the time of day.** The seconds are among the milliseconds, which
count from the start of the minute. -/
lemma exists_clockFields {time : Int} (h₀ : 0 ≤ time) (h₁ : time < millisPerDay) :
    ∃ hour minute second millis : Nat, hour < 24 ∧ minute < 60 ∧ second < 60 ∧ millis < 1000
      ∧ clockField? .hour time = some (hour : Int) ∧ clockField? .minute time = some (minute : Int)
      ∧ clockField? .second time = some (second : Int)
      ∧ clockField? .millisecond time = some (second * 1000 + millis : Int)
      ∧ time = hour * millisPerHour + minute * millisPerMinute + second * millisPerSecond
        + millis := by
  have htime : time % millisPerDay = time := Int.emod_eq_of_lt h₀ h₁
  simp only [clockField?, htime, Option.some.injEq]
  unfold millisPerDay at h₁
  unfold millisPerHour millisPerMinute millisPerSecond
  refine ⟨(time / 3600000).toNat, (time % 3600000 / 60000).toNat, (time % 60000 / 1000).toNat,
    (time % 1000).toNat, ?_⟩
  omega

/-! ## The calendar -/

/-- The day of the year is one of the days that the year has. -/
lemma dayOfYear_bounds (date : EpochDay) : 1 ≤ dayOfYear date
    ∧ dayOfYear date ≤ if isLeapYear (ofEpochDay date).year.toInt then 366 else 365 := by
  have hyear := firstOfYear_le_toInt date
  rw [firstOfMonth_next_year] at hyear
  rw [dayOfYear_eq]
  omega

/-! ## Timestamps -/

/-- **The label and the wall-clock time of a timestamp**, as its fields give them. -/
structure HasFields (timestamp : Int) (label : YearMonthDay) (hour minute second : Nat) : Prop where
  year_eq : extractFromTimestamp .year timestamp = label.year.toInt
  month_eq : extractFromTimestamp .month timestamp = label.month
  day_eq : extractFromTimestamp .day timestamp = label.day
  hour_eq : extractFromTimestamp .hour timestamp = hour
  minute_eq : extractFromTimestamp .minute timestamp = minute
  second_eq : extractFromTimestamp .second timestamp = second

/-- The fields of a timestamp are numbers of their own. -/
lemma HasFields.unique {label label' : YearMonthDay}
    {hour minute second hour' minute' second' : Nat}
    (h : HasFields timestamp label hour minute second)
    (h' : HasFields timestamp label' hour' minute' second') :
    label = label' ∧ hour = hour' ∧ minute = minute' ∧ second = second' := by
  have hyear := Int32.toInt_inj.1 (h.year_eq.symm.trans h'.year_eq)
  have hmonth := Int.ofNat_inj.1 (h.month_eq.symm.trans h'.month_eq)
  have hday := Int.ofNat_inj.1 (h.day_eq.symm.trans h'.day_eq)
  refine ⟨?_, Int.ofNat_inj.1 (h.hour_eq.symm.trans h'.hour_eq),
    Int.ofNat_inj.1 (h.minute_eq.symm.trans h'.minute_eq),
    Int.ofNat_inj.1 (h.second_eq.symm.trans h'.second_eq)⟩
  cases label
  cases label'
  simp_all

/-- A timestamp whose day fits 32 bits has fields, from which it is put together again. -/
lemma FitsDay.exists_hasFields (h : FitsDay timestamp) :
    ∃ hour minute second millis : Nat, hour < 24 ∧ minute < 60 ∧ second < 60 ∧ millis < 1000
      ∧ HasFields timestamp (ofEpochDay (dayOf timestamp)) hour minute second
      ∧ extractFromTimestamp .millisecond timestamp = second * 1000 + millis
      ∧ timestampOf (ofEpochDay (dayOf timestamp)) hour minute second + millis = timestamp := by
  obtain ⟨hour, minute, second, millis, hhour, hminute, hsecond, hmillis, hh, hm, hs, hms, htime⟩ :=
    exists_clockFields (timeOfDay_nonneg timestamp) (timeOfDay_lt timestamp)
  refine ⟨hour, minute, second, millis, hhour, hminute, hsecond, hmillis,
    ⟨rfl, rfl, rfl, ?_, ?_, ?_⟩, ?_, ?_⟩
  · exact congrArg (·.getD 0) hh
  · exact congrArg (·.getD 0) hm
  · exact congrArg (·.getD 0) hs
  · exact congrArg (·.getD 0) hms
  · rw [timestampOf, YearMonthDay.epochDay_ofEpochDay]
    have hatDay := atDay_dayOf h.1 h.2
    rw [htime, atDay] at hatDay
    rw [atDay]
    omega

/-- **The fields of a timestamp determine it.** A timestamp whose day fits 32 bits, before 1970 or
after, has a year, a month and a day of the calendar and an hour, a minute and a second of the
clock; the timestamp of these and the milliseconds of the second are the timestamp, and no other one
has the same fields. The epoch field counts its whole seconds and the milliseconds have the seconds
of the minute in them; the quarter follows from the month. The day of the year counts, from 1 on,
the days since the first of January, whose day number is taken without a bound, and is one of the
days that the year has. In the first 192 days of the range this relies on a subtraction of 32 bits
that wraps around; builds that check for overflow stop there instead.

**Proof sketch.** The time of day is what is left of a division that rounds towards the past, hence
a time between 0 and the length of a day, which the hours, minutes, seconds and milliseconds make
up. The day is the one that the label has, and lies in the year of the label. -/
theorem extracted_fields_determine_timestamp (h : FitsDay timestamp) :
    ∃ (label : YearMonthDay) (hour minute second : Nat),
      HasFields timestamp label hour minute second
      ∧ (label.IsValid ∧ hour < 24 ∧ minute < 60 ∧ second < 60)
      ∧ timestampOf label hour minute second + extractFromTimestamp .millisecond timestamp % 1000
        = timestamp
      ∧ (extractFromTimestamp .epoch timestamp * 1000 ≤ timestamp
        ∧ timestamp < (extractFromTimestamp .epoch timestamp + 1) * 1000)
      ∧ extractFromTimestamp .millisecond timestamp / 1000 = extractFromTimestamp .second timestamp
      ∧ extractFromTimestamp .quarter timestamp = (extractFromTimestamp .month timestamp + 2) / 3
      ∧ extractFromTimestamp .doy timestamp = timestamp / millisPerDay
        - (YearMonthDay.julianDay ⟨label.year, 1, 1⟩ - epochJulianDay) + 1
      ∧ (1 ≤ extractFromTimestamp .doy timestamp ∧ extractFromTimestamp .doy timestamp
        ≤ if isLeapYear label.year.toInt then 366 else 365)
      ∧ ∀ other, FitsDay other → HasFields other label hour minute second →
        extractFromTimestamp .millisecond other = extractFromTimestamp .millisecond timestamp →
        other = timestamp := by
  obtain ⟨hour, minute, second, millis, hhour, hminute, hsecond, hmillis, hfields, hms, hsum⟩ :=
    h.exists_hasFields
  have hday : (dayOf timestamp).toInt = timestamp / millisPerDay :=
    Int32.toInt_ofInt_of_le h.1 h.2
  refine ⟨_, hour, minute, second, hfields,
    ⟨YearMonthDay.isValid_ofEpochDay _, hhour, hminute, hsecond⟩, ?_, ?_, ?_, rfl, ?_,
    dayOfYear_bounds _, ?_⟩
  · rw [hms]
    omega
  · have hepoch : extractFromTimestamp .epoch timestamp = timestamp / 1000 := rfl
    omega
  · rw [hms, hfields.second_eq]
    omega
  · have hyear : extractFromTimestamp .doy timestamp = dayOfYear (dayOf timestamp) := rfl
    rw [hyear, dayOfYear_eq, hday, julianDay_first le_rfl (by omega), Nat.cast_one, Int.sub_self,
      Int.add_zero]
    omega
  · intro other hfits hother hmillis'
    obtain ⟨_, _, _, millis', -, -, -, -, hfields', hms', hsum'⟩ := hfits.exists_hasFields
    obtain ⟨hlabel, rfl, rfl, rfl⟩ := hfields'.unique hother
    rw [← hsum', ← hsum, hlabel]
    omega

/-- The last millisecond before 1970 is the last one of the last day of 1969. -/
theorem extracted_fields_determine_the_last_millisecond_of_1969 :
    FitsDay (-1) ∧ HasFields (-1) ⟨1969, 12, 31⟩ 23 59 59
      ∧ timestampOf ⟨1969, 12, 31⟩ 23 59 59 + 59999 % 1000 = -1
      ∧ extractFromTimestamp .epoch (-1) = -1 ∧ extractFromTimestamp .millisecond (-1) = 59999
      ∧ extractFromTimestamp .quarter (-1) = 4 ∧ extractFromTimestamp .doy (-1) = 365 := by
  have hfits : FitsDay (-1) := by decide
  have hlast : HasFields (-1) ⟨1969, 12, 31⟩ 23 59 59 := by
    constructor <;> decide
  obtain ⟨label, hour, minute, second, hfields, -, hsum, -⟩ :=
    extracted_fields_determine_timestamp hfits
  obtain ⟨rfl, rfl, rfl, rfl⟩ := hfields.unique hlast
  exact ⟨hfits, hlast, hsum, by decide, by decide, by decide, by decide⟩

end TypedRows.Calendar
