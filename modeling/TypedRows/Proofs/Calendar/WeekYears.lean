import TypedRows.Proofs.Calendar.Periods

/-!
# Weeks and the years they are counted to

A week belongs to the year that its Thursday lies in. The first week of a year is hence the one with
the first Thursday of the year, and with its fourth of January. Counted from the Monday of this
week, the year, the number of the week and the day of the week tell the date.

## Main definitions

* `TypedRows.Calendar.BeginsWeeks` — the Monday that the weeks of a year begin with.

## Main results

* `TypedRows.Calendar.beginsWeeks` — this Monday, by its count of days.
* `TypedRows.Calendar.IsInner.counted` — dates are counted from this Monday.
* `TypedRows.Calendar.week_fields_identify_day`
-/

set_option autoImplicit false

namespace TypedRows.Calendar

open YearMonthDay (ofEpochDay)

/-- **The Monday that the weeks of a year begin with**: its week has the fourth of January and the
first Thursday of the year. -/
structure BeginsWeeks (year : Int) (monday : EpochDay) : Prop where
  isMonday : isoDayOfWeek monday = 1
  hasFourth : ∃ fourth : EpochDay, (ofEpochDay fourth).year.toInt = year
    ∧ (ofEpochDay fourth).month = 1 ∧ (ofEpochDay fourth).day = 4
    ∧ monday.toInt ≤ fourth.toInt ∧ fourth.toInt < monday.toInt + 7
  hasFirstThursday : ∃ thursday : EpochDay, thursday.toInt = monday.toInt + 3
    ∧ (ofEpochDay thursday).year.toInt = year
    ∧ (ofEpochDay thursday).month = 1 ∧ (ofEpochDay thursday).day ≤ 7

/-- The dates that are more than 400 days away from the ends of 32 bits. -/
def IsInner (date : EpochDay) : Prop :=
  -2147483648 + 400 < date.toInt ∧ date.toInt < 2147483647 - 400

instance (date : EpochDay) : Decidable (IsInner date) := by
  unfold IsInner; infer_instance

/-! ## First weeks -/

/-- The label of a day of January, by its count of days. -/
lemma label_of_january (year : Int) {n : Int} (h₁ : 1 ≤ n) (h₂ : n ≤ 31) {date : EpochDay}
    (hdate : date.toInt = firstOfMonth (12 * year) + n - 1) :
    (ofEpochDay date).year.toInt = year ∧ (ofEpochDay date).month = 1
      ∧ (ofEpochDay date).day = n := by
  have hvalid := YearMonthDay.isValid_ofEpochDay date
  have hcount : (ofEpochDay date).monthCount
      = (ofEpochDay date).year.toInt * 12 + ((ofEpochDay date).month - 1) := rfl
  have hjanuary : firstOfMonth (12 * year + 1) = firstOfMonth (12 * year) + 31 := by
    have hmonth : (12 * year % 12 + 1).toNat = 1 := by omega
    rw [firstOfMonth_add_one, monthLength, hmonth]
    rfl
  have hbounds := firstOfMonth_le_toInt date
  have hlow := firstOfMonth_strictMono.lt_iff_lt.1 (show firstOfMonth (12 * year)
    < firstOfMonth ((ofEpochDay date).monthCount + 1) by omega)
  have hhigh := firstOfMonth_strictMono.lt_iff_lt.1 (show
    firstOfMonth (ofEpochDay date).monthCount < firstOfMonth (12 * year + 1) by omega)
  have hday := toInt_eq_firstOfMonth date
  have hmonth : (ofEpochDay date).monthCount = 12 * year := by omega
  rw [hmonth] at hday hcount
  have h₃ := hvalid.1
  have h₄ := hvalid.2.1
  omega

/-- The first Monday of a year begins its weeks. -/
lemma beginsWeeks {year : Int} {monday : EpochDay} (h : monday.toInt = firstMonday year)
    (hlow : -2147483648 + 3 ≤ monday.toInt) (hhigh : monday.toInt < 2147483648 - 6) :
    BeginsWeeks year monday := by
  have hfirst := firstMonday_bounds year
  refine ⟨?_, ?_, ?_⟩
  · rw [isoDayOfWeek, h, hfirst.2.2]
    rfl
  · have hfourth : (Int32.ofInt (firstOfMonth (12 * year) + 4 - 1)).toInt
        = firstOfMonth (12 * year) + 4 - 1 := Int32.toInt_ofInt_of_le (by omega) (by omega)
    obtain ⟨hyear, hmonth, hday⟩ := label_of_january year (by omega) (by omega) hfourth
    refine ⟨_, hyear, hmonth, by omega, ?_, ?_⟩
    · rw [h, hfourth]
      omega
    · rw [h, hfourth, firstMonday]
      omega
  · have hthursday : (Int32.ofInt (monday.toInt + 3)).toInt = monday.toInt + 3 :=
      Int32.toInt_ofInt_of_le (by omega) (by omega)
    obtain ⟨hyear, hmonth, hday⟩ := label_of_january year
      (n := firstMonday year + 3 - firstOfMonth (12 * year) + 1) (by omega) (by omega)
      (hthursday.trans (by omega))
    exact ⟨_, hthursday, hyear, hmonth, by omega⟩

/-! ## Numbers of weeks -/

/-- The day of the year of a date. The first of January may lie before all dates of 32 bits; the
difference of 32 bits then wraps around to the right one. -/
lemma dayOfYear_eq (date : EpochDay) :
    dayOfYear date = date.toInt - firstOfMonth (12 * (ofEpochDay date).year.toInt) + 1 := by
  have hyear := firstOfYear_le_toInt date
  have hlength := firstOfMonth_add_year (ofEpochDay date).year.toInt
  have hfirst : (YearMonthDay.epochDay ⟨(ofEpochDay date).year, 1, 1⟩).toInt
      = (firstOfMonth (12 * (ofEpochDay date).year.toInt)).bmod 4294967296 := by
    rw [epochDay_first le_rfl (by omega), Int32.toInt_ofInt]
    simp only [Nat.cast_one, Int.sub_self, Int.add_zero]
  rw [dayOfYear, Int32.toInt_sub, hfirst, Int.sub_bmod_bmod,
    Int.bmod_eq_of_le (by omega) (by omega)]

/-- An inner date lies in a year whose first weeks, and those of the next one, fit 32 bits. -/
lemma IsInner.firstMonday_bounds {date : EpochDay} (h : IsInner date) :
    -2147483648 + 6 ≤ firstMonday (isoYear date).toInt
      ∧ firstMonday (isoYear date).toInt ≤ date.toInt
      ∧ date.toInt < firstMonday ((isoYear date).toInt + 1)
      ∧ firstMonday ((isoYear date).toInt + 1) < 2147483648 - 6 := by
  have hweeks := firstMonday_isoYear_le date
  have hlength := firstOfMonth_add_year (isoYear date).toInt
  have hfirst := Calendar.firstMonday_bounds (isoYear date).toInt
  have hnext := Calendar.firstMonday_bounds ((isoYear date).toInt + 1)
  obtain ⟨hlow, hhigh⟩ := h
  omega

/-- **A date is counted from the first Monday** of the year of its week by the number of the week,
which is read off the day of the year of its Thursday, and by the day of the week. -/
lemma IsInner.counted {date : EpochDay} (h : IsInner date) :
    date.toInt = firstMonday (isoYear date).toInt
        + 7 * ((dayOfYear (isoThursday date) - 1) / 7) + (isoDayOfWeek date - 1)
      ∧ 1 ≤ dayOfYear (isoThursday date) ∧ dayOfYear (isoThursday date) ≤ 366 := by
  have hbounds := h.firstMonday_bounds
  have hfirst := Calendar.firstMonday_bounds (isoYear date).toInt
  have hthursday := toInt_isoThursday date
  have hyear := firstOfYear_le_toInt (isoThursday date)
  have hlength := firstOfMonth_add_year (isoYear date).toInt
  rw [← isoYear] at hyear
  have hday : dayOfYear (isoThursday date)
      = (isoThursday date).toInt - firstOfMonth (12 * (isoYear date).toInt) + 1 :=
    dayOfYear_eq _
  rw [hday, hthursday, isoDayOfWeek, firstMonday]
  omega

/-- An inner date is rounded to the first Monday of the year of its week. -/
lemma IsInner.floorDate_isoYear {date : EpochDay} (h : IsInner date) :
    floorDate .isoYear date = .ok (Int32.ofInt (firstMonday (isoYear date).toInt)) := by
  obtain ⟨hlow, hle, hlt, -⟩ := h.firstMonday_bounds
  exact floorDate_eq rfl hle hlt (by omega)

/-- **Week fields tell the date.** For a date that is more than 400 days away from the ends of 32
bits the year of its week is the one whose weeks begin with the Monday that the date is rounded down
to, and the date lies before the Monday that the weeks of the next year begin with. The number of
the week, from 1 to at most 53, and the day of the week, from 1 to 7, count the weeks and the days
from this Monday on, so that no other such date has the same three fields. The day of the week as it
is counted from Sunday follows from the one counted from Monday.

**Proof sketch.** The year of a week and the number of the week are both read off the Thursday of
the week: the Thursdays of a year are counted from the first one, and this lies in the week of the
fourth of January. -/
theorem week_fields_identify_day {date : EpochDay} (h : IsInner date) :
    ∃ start next : EpochDay, floorDate .isoYear date = .ok start
      ∧ BeginsWeeks (extractFromDate .isoYear date) start
      ∧ BeginsWeeks (extractFromDate .isoYear date + 1) next
      ∧ date < next
      ∧ date.toInt = start.toInt + 7 * (extractFromDate .week date - 1)
        + (extractFromDate .isoDow date - 1)
      ∧ (1 ≤ extractFromDate .week date ∧ extractFromDate .week date ≤ 53)
      ∧ (1 ≤ extractFromDate .isoDow date ∧ extractFromDate .isoDow date ≤ 7)
      ∧ extractFromDate .dow date = extractFromDate .isoDow date % 7 + 1
      ∧ ∀ other : EpochDay, IsInner other →
        extractFromDate .isoYear other = extractFromDate .isoYear date →
        extractFromDate .week other = extractFromDate .week date →
        extractFromDate .isoDow other = extractFromDate .isoDow date → other = date := by
  obtain ⟨hlow, hle, hlt, hhigh⟩ := h.firstMonday_bounds
  obtain ⟨hdate, hday₁, hday₂⟩ := h.counted
  have hstart : (Int32.ofInt (firstMonday (isoYear date).toInt)).toInt
      = firstMonday (isoYear date).toInt := Int32.toInt_ofInt_of_le (by omega) (by omega)
  have hnext : (Int32.ofInt (firstMonday ((isoYear date).toInt + 1))).toInt
      = firstMonday ((isoYear date).toInt + 1) := Int32.toInt_ofInt_of_le (by omega) (by omega)
  refine ⟨_, _, h.floorDate_isoYear, beginsWeeks hstart (by omega) (by omega),
    beginsWeeks hnext (by omega) (by omega), ?_, ?_, ?_, ?_, ?_, ?_⟩
  · rw [Int32.lt_iff_toInt_lt, hnext]
    exact hlt
  · rw [hstart]
    simp only [extractFromDate]
    omega
  · simp only [extractFromDate]
    omega
  · simp only [extractFromDate, isoDayOfWeek]
    omega
  · simp only [extractFromDate, dayOfWeek, isoDayOfWeek]
    omega
  · intro other hother hyear hweek hday
    have hcount := hother.counted.1
    simp only [extractFromDate] at hyear hweek hday
    rw [← Int32.toInt_inj, hcount, hdate, hyear, hday]
    omega

/-- The second of January 2005 is the Sunday of the last of 53 weeks, which are counted to the year
2004. -/
theorem week_fields_identify_a_new_year_sunday :
    IsInner 12785 ∧ extractFromDate .isoYear 12785 = 2004 ∧ extractFromDate .week 12785 = 53
      ∧ extractFromDate .isoDow 12785 = 7
      ∧ ∃ start next : EpochDay, floorDate .isoYear 12785 = .ok start
        ∧ BeginsWeeks (extractFromDate .isoYear 12785) start
        ∧ BeginsWeeks (extractFromDate .isoYear 12785 + 1) next ∧ 12785 < next
        ∧ (12785 : EpochDay).toInt = start.toInt + 7 * (extractFromDate .week 12785 - 1)
          + (extractFromDate .isoDow 12785 - 1) := by
  have hinner : IsInner 12785 := by decide
  obtain ⟨start, next, hfloor, hstart, hnext, hlt, hdate, -⟩ := week_fields_identify_day hinner
  exact ⟨hinner, by decide, by decide, by decide, start, next, hfloor, hstart, hnext, hlt, hdate⟩

end TypedRows.Calendar
