import TypedRows.Proofs.Calendar.Midnights
import TypedRows.Proofs.Calendar.MonthSpans

/-!
# Timestamps that are taken for dates

The instant of a timestamp is shown on the wall clocks as its time of day on its date. Taken for
the instant of a date it is read by the day that it lies in, a part of which is cut off towards
1970: the day stays the same from 1970 on, and before 1970 it becomes the next one in the civil
calendar unless the time of day is midnight.

## Main results

* `TypedRows.Calendar.toInt_next_civil_day` — the date of the next day in the civil calendar.
* `TypedRows.Calendar.dateOfInstant_instantOfTimestamp` — the date that is read at the instant of a
  timestamp.
-/

set_option autoImplicit false

namespace TypedRows.Calendar

open YearMonthDay

/-! ## The next day of the civil calendar -/

/-- The date of the last label of the Julian calendar. -/
lemma ofEpochDay_eq_last_julian_iff {date : EpochDay} :
    ofEpochDay date = ⟨1582, 10, 4⟩ ↔ date.toInt = cutover - epochJulianDay - 11 := by
  constructor
  · intro h
    rw [← epochDay_ofEpochDay date, h]
    decide
  · intro h
    have hdate : date = -141438 := Int32.toInt_inj.1 (h.trans (by decide))
    rw [hdate]
    decide

/-- **The date of the next day** in the civil calendar is the next date, but for the ten labels that
are left out after the last one of the Julian calendar. The leap days of the Julian calendar only
are the first of March of their years. -/
lemma toInt_next_civil_day {date : EpochDay} (hskipped : ¬ (ofEpochDay date).IsSkipped)
    (hlast : date.toInt < 0) :
    (civilLabel (civilDay (ofEpochDay date) + 1)).epochDay.toInt
      = date.toInt + if ofEpochDay date = ⟨1582, 10, 4⟩ then 11 else 1 := by
  have hnumber := julianDay_ofEpochDay date
  by_cases hchange : ofEpochDay date = ⟨1582, 10, 4⟩
  · rw [if_pos hchange, ofEpochDay_eq_last_julian_iff.1 hchange, hchange]
    decide
  have hother := mt ofEpochDay_eq_last_julian_iff.2 hchange
  rw [if_neg hchange, civilDay]
  by_cases hnew : cutover ≤ (ofEpochDay date).julianDay
  · rw [if_pos hnew, hnumber, Int.add_sub_cancel, toInt_epochDay_civilLabel (by omega) (by omega)]
  · have hearly : date.toInt < cutover - epochJulianDay - 11 := by
      have hle : ¬ cutover - 10 ≤ (ofEpochDay date).julianDay := fun hle => by
        rw [hnumber] at hnew hle
        exact hskipped (isSkipped_ofJulianDay hle (Int.not_le.1 hnew))
      omega
    obtain ⟨y, e, hy, h₀, h₁, hleap, hday, hlabel⟩ := exists_ofEpochDay date
    have hold : (ofEpochDay date).julianDayOld = e + 365 * y + y / 4 - 32082 := by
      rw [hlabel, julianDayOld_ofDayOfYear hy h₀ h₁]
    have hbefore : e + 365 * y + y / 4 - 32082 < cutover - 1 := by
      unfold cutover epochJulianDay at *
      omega
    have hlow := date.le_toInt
    rw [isLeapYear_iff] at hleap
    rw [if_neg hnew, hold, Int.min_eq_left (by omega)]
    -- the next day is one of the Julian calendar, too, and in this or in the next year
    obtain ⟨y', e', hy', h₀', h₁', hlabel', ⟨hnew', -, -⟩ | ⟨-, hleap', hday'⟩⟩ :=
      @exists_civilLabel (e + 365 * y + y / 4 - 32082 - epochJulianDay + 1)
        (isLabelled_iff.2 (by unfold epochJulianDay at *; omega))
    · omega
    · have hyear : y' = y ∨ y' = y + 1 := by omega
      have hnext : e' + 365 * y' + y' / 4 - y' / 100 + y' / 400 - 32044 - epochJulianDay
          = date.toInt + 1 := by
        rcases hyear with rfl | rfl <;> omega
      rw [hlabel', epochDay, julianDay_ofDayOfYear hy' h₀' h₁', hnext,
        Int32.toInt_ofInt_of_le (by omega) (by omega)]

/-- The days before 1970 are the same in both calendars. -/
lemma civilDay_neg_iff (date : EpochDay) : civilDay (ofEpochDay date) < 0 ↔ date.toInt < 0 := by
  obtain hday | ⟨hcivil, hdate⟩ := civilDay_ofEpochDay date
  · rw [hday]
  · unfold cutover epochJulianDay at *
    omega

/-- The first day of 1970 is the same in both calendars. -/
lemma civilDay_eq_zero_iff (date : EpochDay) : civilDay (ofEpochDay date) = 0 ↔ date = 0 := by
  have hzero : date = 0 ↔ date.toInt = 0 := Int32.toInt_inj.symm
  rw [hzero]
  obtain hday | ⟨hcivil, hdate⟩ := civilDay_ofEpochDay date
  · rw [hday]
  · unfold cutover epochJulianDay at *
    omega

/-- The days of dates of 32 bits fit 33 bits in the civil calendar. -/
lemma civilDay_bounds (date : EpochDay) : -4294967296 ≤ civilDay (ofEpochDay date)
    ∧ civilDay (ofEpochDay date) < 4294967296 := by
  obtain ⟨y, e, hy, h₀, h₁, -, hday, hlabel⟩ := exists_ofEpochDay date
  have hlow := date.le_toInt
  have hhigh := date.toInt_lt
  rw [hlabel, civilDay, julianDay_ofDayOfYear hy h₀ h₁, julianDayOld_ofDayOfYear hy h₀ h₁]
  unfold cutover epochJulianDay at *
  split_ifs <;> omega

/-! ## Instants of timestamps -/

variable [Platform] {zone : Option Zone} {offset timestamp : Int}

/-- **The date that is read at the instant of a timestamp** in a zone of one offset is the date of
the timestamp from 1970 on and at midnights, and that of the next day of the civil calendar
otherwise. -/
theorem dateOfInstant_instantOfTimestamp (hz : fixedOffset? zone = some offset)
    (h : FitsDay timestamp) (hskipped : ¬ (ofEpochDay (dayOf timestamp)).IsSkipped) :
    (dateOfInstant (instantOfTimestamp timestamp zone) zone).toInt = timestamp / millisPerDay
      + if 0 ≤ timestamp ∨ timeOfDay timestamp = 0 then 0
        else if ofEpochDay (dayOf timestamp) = ⟨1582, 10, 4⟩ then 11 else 1 := by
  have hnonneg := timeOfDay_nonneg timestamp
  have hlt := timeOfDay_lt timestamp
  have hday : (dayOf timestamp).toInt = timestamp / millisPerDay :=
    Int32.toInt_ofInt_of_le h.1 h.2
  have hsign : timestamp < 0 ↔ civilDay (ofEpochDay (dayOf timestamp)) < 0 := by
    rw [civilDay_neg_iff, hday]
    unfold millisPerDay
    omega
  rw [dateOfInstant, instantOfTimestamp, wallOfInstant_instantOfWall hz, wallOfTimestamp]
  by_cases hwhole : 0 ≤ timestamp ∨ timeOfDay timestamp = 0
  · rw [if_pos hwhole, tdiv_millisPerDay_eq_iff.2 ⟨by omega, hlt, by omega, by omega⟩,
      civilLabel_civilDay hskipped, epochDay_ofEpochDay, hday, Int.add_zero]
  · -- the rest of the day is cut off, which lies before the next midnight
    have hrest : civilDay (ofEpochDay (dayOf timestamp)) * millisPerDay + timeOfDay timestamp
        = (civilDay (ofEpochDay (dayOf timestamp)) + 1) * millisPerDay
          + (timeOfDay timestamp - millisPerDay) := by
      rw [Int.add_mul, Int.one_mul]
      omega
    rw [if_neg hwhole, hrest, tdiv_millisPerDay_eq_iff.2 ⟨by omega, by omega, by omega, by omega⟩,
      toInt_next_civil_day hskipped ((civilDay_neg_iff _).1 (by omega)), hday]

end TypedRows.Calendar
