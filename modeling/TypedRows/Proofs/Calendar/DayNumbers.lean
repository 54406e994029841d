import Mathlib.Tactic.Common
import TypedRows.Calendar.Civil

/-!
# Labels and day numbers

A label comes from a March-based year and a day in that year, from 0 on. Its day numbers in the two
calendars are linear in the day and differ between the calendars by a number that depends on the
year only, so that both ways between labels and day numbers are read off this pair.

## Main definitions

* `TypedRows.Calendar.YearMonthDay.FitsYear` — the March-based years of labels of 32 bits.

## Main results

* `TypedRows.Calendar.YearMonthDay.exists_ofJulianDay` — every day number belongs to a pair of a
  year and a day in it, from which its label comes.
* `TypedRows.Calendar.YearMonthDay.epochDay_ofEpochDay` — the date of the label of a date.
-/

set_option autoImplicit false

namespace TypedRows.Calendar

namespace YearMonthDay

variable {y e : Int}

/-! ## Labels of a year and a day in it -/

/-- The March-based years whose labels have years of 32 bits. -/
def FitsYear (y : Int) : Prop := -2147478848 ≤ y ∧ y < 2147488447

/-- The year of a label, of which the years of the counts begin in March. -/
lemma year_ofDayOfYear (hy : FitsYear y) (h₀ : 0 ≤ e) (h₁ : e ≤ 365) :
    (ofDayOfYear y e).year.toInt = y - 4800 + (5 * e + 2) / 153 / 10 := by
  obtain ⟨hlow, hhigh⟩ := hy
  exact Int32.toInt_ofInt_of_le (by omega) (by omega)

/-- The month of a label, of which the years of the counts begin in March. -/
lemma month_ofDayOfYear (h₀ : 0 ≤ e) (h₁ : e ≤ 365) :
    ((ofDayOfYear y e).month : Int) = (5 * e + 2) / 153 + 3 - 12 * ((5 * e + 2) / 153 / 10) := by
  simp only [ofDayOfYear]
  omega

/-- The day of the month of a label. -/
lemma day_ofDayOfYear :
    ((ofDayOfYear y e).day : Int) = e - (153 * ((5 * e + 2) / 153) + 2) / 5 + 1 := by
  simp only [ofDayOfYear]
  omega

/-- January and February belong to the year before, counted from March. -/
lemma borrowedYears_ofDayOfYear (h₀ : 0 ≤ e) (h₁ : e ≤ 365) :
    borrowedYears (ofDayOfYear y e).month = (5 * e + 2) / 153 / 10 := by
  rw [borrowedYears, month_ofDayOfYear h₀ h₁, Int.tdiv_eq_ediv_of_nonneg (by omega)]
  omega

/-- A label gives back the March-based year that it comes from. -/
lemma marchYear_ofDayOfYear (hy : FitsYear y) (h₀ : 0 ≤ e) (h₁ : e ≤ 365) :
    (ofDayOfYear y e).year.toInt + 4800 - borrowedYears (ofDayOfYear y e).month = y := by
  rw [year_ofDayOfYear hy h₀ h₁, borrowedYears_ofDayOfYear h₀ h₁]
  omega

/-- The days up to a label when no year has a leap day. -/
lemma commonDays_ofDayOfYear (hy : FitsYear y) (h₀ : 0 ≤ e) (h₁ : e ≤ 365) :
    (ofDayOfYear y e).commonDays = e + 1 + 365 * y := by
  rw [commonDays, marchYear_ofDayOfYear hy h₀ h₁, borrowedYears_ofDayOfYear h₀ h₁,
    month_ofDayOfYear h₀ h₁, day_ofDayOfYear]
  omega

/-- The day number of a label in the Gregorian calendar. -/
lemma julianDay_ofDayOfYear (hy : FitsYear y) (h₀ : 0 ≤ e) (h₁ : e ≤ 365) :
    (ofDayOfYear y e).julianDay = e + 365 * y + y / 4 - y / 100 + y / 400 - 32044 := by
  rw [julianDay, commonDays_ofDayOfYear hy h₀ h₁, marchYear_ofDayOfYear hy h₀ h₁]
  omega

/-- The day number of a label in the Julian calendar. -/
lemma julianDayOld_ofDayOfYear (hy : FitsYear y) (h₀ : 0 ≤ e) (h₁ : e ≤ 365) :
    (ofDayOfYear y e).julianDayOld = e + 365 * y + y / 4 - 32082 := by
  rw [julianDayOld, commonDays_ofDayOfYear hy h₀ h₁, marchYear_ofDayOfYear hy h₀ h₁]
  omega

/-! ## Labels of day numbers -/

/-- A leap year is divisible by four, and by four hundred if by a hundred. -/
lemma isLeapYear_iff {year : Int} :
    isLeapYear year = true ↔ year % 4 = 0 ∧ (year % 100 ≠ 0 ∨ year % 400 = 0) := by
  simp [isLeapYear]

/-- **Every day number belongs to a year and a day in it**, from which its Gregorian label comes.
The last day of a year of 366 days is the leap day of the year that begins in it. -/
lemma exists_ofJulianDay (julian : Int) :
    ∃ y e : Int, 0 ≤ e ∧ e ≤ 365 ∧ (e = 365 → isLeapYear (y + 1) = true)
      ∧ julian = e + 365 * y + y / 4 - y / 100 + y / 400 - 32044
      ∧ ofJulianDay julian = ofDayOfYear y e := by
  let a := julian + 32044
  let century := (4 * a + 3) / 146097
  let c := a - 146097 * century / 4
  let d := (4 * c + 3) / 1461
  have hc : 0 ≤ c ∧ c ≤ 36524 := by omega
  have hd : 0 ≤ d ∧ d ≤ 99 := by omega
  -- centuries and years in a century have whole days but for the leap days
  have hcentury : 146097 * century / 4 = 36524 * century + century / 4 := by omega
  have hyear : 1461 * d / 4 = 365 * d + d / 4 := by omega
  have h₄ : (100 * century + d) / 4 = 25 * century + d / 4 := by omega
  have h₁₀₀ : (100 * century + d) / 100 = century := by omega
  have h₄₀₀ : (100 * century + d) / 400 = century / 4 := by omega
  refine ⟨100 * century + d, c - 1461 * d / 4, by omega, by omega, ?_, ?_, rfl⟩
  · intro hlast
    have hleap : d % 4 = 3 ∧ (d = 99 → century % 4 = 3) := by omega
    refine isLeapYear_iff.2 ?_
    omega
  · rw [h₄, h₁₀₀, h₄₀₀]
    omega

/-- The label of a day number in the Julian calendar. -/
lemma ofJulianDayOld_eq (h₀ : 0 ≤ e) (h₁ : e ≤ 365) (hleap : e = 365 → y % 4 = 3) :
    ofJulianDayOld (e + 365 * y + y / 4 - 32082) = ofDayOfYear y e := by
  have hdays : e + 365 * y + y / 4 - 32082 + 32082 = e + 365 * y + y / 4 := by omega
  have hyear : (4 * (e + 365 * y + y / 4) + 3) / 1461 = y := by omega
  have hday : e + 365 * y + y / 4 - 1461 * y / 4 = e := by omega
  simp only [ofJulianDayOld, hdays, hyear, hday]

/-- The pair of a date, with its year among those that fit 32 bits. -/
lemma exists_ofEpochDay (date : EpochDay) :
    ∃ y e : Int, FitsYear y ∧ 0 ≤ e ∧ e ≤ 365 ∧ (e = 365 → isLeapYear (y + 1) = true)
      ∧ date.toInt + epochJulianDay = e + 365 * y + y / 4 - y / 100 + y / 400 - 32044
      ∧ ofEpochDay date = ofDayOfYear y e := by
  obtain ⟨y, e, h₀, h₁, hleap, hday, hlabel⟩ := exists_ofJulianDay (date.toInt + epochJulianDay)
  have hlow := date.le_toInt
  have hhigh := date.toInt_lt
  have hy : FitsYear y := by
    unfold epochJulianDay at hday
    constructor <;> omega
  exact ⟨y, e, hy, h₀, h₁, hleap, hday, hlabel⟩

/-- The day number of the label of a date. -/
lemma julianDay_ofEpochDay (date : EpochDay) :
    (ofEpochDay date).julianDay = date.toInt + epochJulianDay := by
  obtain ⟨y, e, hy, h₀, h₁, -, hday, hlabel⟩ := exists_ofEpochDay date
  rw [hlabel, julianDay_ofDayOfYear hy h₀ h₁, hday]

/-- **The date of the label of a date** is the date. -/
@[simp] theorem epochDay_ofEpochDay (date : EpochDay) : (ofEpochDay date).epochDay = date := by
  rw [epochDay, julianDay_ofEpochDay, Int.add_sub_cancel, Int32.ofInt_toInt]

end YearMonthDay

end TypedRows.Calendar
