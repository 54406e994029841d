import Mathlib.Data.Int.ConditionallyCompleteOrder
import Mathlib.Order.SuccPred.IntervalSucc
import TypedRows.Calendar.Month
import TypedRows.Proofs.Calendar.DayOrder

/-!
# The first days of the months

The months are counted through all years, and each begins on a day that is counted without a bound.
A label is then a month and a day of it, and its date is that many days after the first day of the
month. Arithmetic on months, on years and on longer periods is read off these first days, which
ascend.

## Main definitions

* `TypedRows.Calendar.firstOfMonth` — the first day of a month, in days since 1970-01-01.
* `TypedRows.Calendar.monthLength` — the number of days of a month.

## Main results

* `TypedRows.Calendar.firstOfMonth_add_one` — a month ends where the next one begins.
* `TypedRows.Calendar.YearMonthDay.IsDated.julianDay_eq` — the day of a label, by its month.
* `TypedRows.Calendar.toInt_eq_firstOfMonth` — the same for a date.
-/

set_option autoImplicit false

namespace TypedRows.Calendar

/-- The first day of the month that is the given number of months after January of year 0, in days
since 1970-01-01. Months are counted from March, as those of labels are. -/
def firstOfMonth (month : Int) : Int :=
  let year := (month - 2) / 12 + 4800
  (153 * ((month - 2) % 12) + 2) / 5 + 365 * year + year / 4 - year / 100 + year / 400 - 32044
    - epochJulianDay

/-- The number of days of the month that is the given number of months after January of year 0. -/
def monthLength (month : Int) : Nat :=
  daysInMonth (month / 12) (month % 12 + 1).toNat

example : firstOfMonth (1970 * 12) = 0 := by decide
example : monthLength (2000 * 12 + 1) = 29 := by decide

/-- Every month has 28 to 31 days. -/
lemma monthLength_pos (month : Int) : 28 ≤ monthLength month ∧ monthLength month ≤ 31 := by
  rw [monthLength, YearMonthDay.daysInMonth_eq]
  split_ifs <;> decide

/-- The first day of a month by its March-based year and its place in it, from 0 on. -/
lemma firstOfMonth_march (year : Int) {place : Int} (h₀ : 0 ≤ place) (h₁ : place ≤ 11) :
    firstOfMonth (12 * year + place + 2) = (153 * place + 2) / 5 + 365 * (year + 4800)
      + (year + 4800) / 4 - (year + 4800) / 100 + (year + 4800) / 400 - 32044
      - epochJulianDay := by
  have hyear : (12 * year + place + 2 - 2) / 12 = year := by omega
  have hplace : (12 * year + place + 2 - 2) % 12 = place := by omega
  simp only [firstOfMonth, hyear, hplace]

/-- All months but February are as long as their places among the months from March on say. -/
lemma monthLength_march (year : Int) {place : Int} (h₀ : 0 ≤ place) (h₁ : place ≤ 10) :
    (monthLength (12 * year + place + 2) : Int)
      = (153 * (place + 1) + 2) / 5 - (153 * place + 2) / 5 := by
  obtain ⟨m, hm₀, hm₁, hfeb, hplace⟩ : ∃ m : Nat, 1 ≤ m ∧ m ≤ 12 ∧ m ≠ 2
      ∧ ((12 * year + place + 2) % 12 + 1).toNat = m :=
    ⟨((place + 2) % 12 + 1).toNat, by omega, by omega, by omega, by omega⟩
  have hmarch := YearMonthDay.daysInMonth_march hm₀ hm₁ hfeb ((12 * year + place + 2) / 12)
  have hborrowed : (m : Int) + 12 * YearMonthDay.borrowedYears m = place + 3 := by
    rw [YearMonthDay.borrowedYears_eq hm₁]
    split_ifs <;> omega
  rw [hborrowed] at hmarch
  rw [monthLength, hplace, hmarch]
  congr 3 <;> omega

/-- **A month ends where the next one begins.** -/
lemma firstOfMonth_add_one (month : Int) :
    firstOfMonth (month + 1) = firstOfMonth month + monthLength month := by
  obtain ⟨year, place, h₀, h₁, rfl⟩ : ∃ year place : Int, 0 ≤ place ∧ place ≤ 11
      ∧ month = 12 * year + place + 2 :=
    ⟨(month - 2) / 12, (month - 2) % 12, by omega, by omega, by omega⟩
  rcases Int.lt_or_eq_of_le h₁ with hlt | rfl
  · rw [monthLength_march year h₀ (by omega), firstOfMonth_march year h₀ h₁,
      show 12 * year + place + 2 + 1 = 12 * year + (place + 1) + 2 by omega,
      firstOfMonth_march year (by omega) (by omega)]
    omega
  · -- February ends the March-based year, with the leap day of the year that it lies in
    have hlength : monthLength (12 * year + 11 + 2) = if isLeapYear (year + 1) then 29 else 28 := by
      have hyear : (12 * year + 11 + 2) / 12 = year + 1 := by omega
      have hmonth : ((12 * year + 11 + 2) % 12 + 1).toNat = 2 := by omega
      rw [monthLength, hyear, hmonth, YearMonthDay.daysInMonth_eq, if_pos rfl]
    have hleap := YearMonthDay.leapDays_add_one (year + 4800)
    rw [show year + 4800 + 1 = year + 1 + 4800 by omega, YearMonthDay.isLeapYear_add] at hleap
    rw [hlength, firstOfMonth_march year h₀ h₁,
      show 12 * year + 11 + 2 + 1 = 12 * (year + 1) + 0 + 2 by omega,
      firstOfMonth_march (year + 1) le_rfl (by omega)]
    split_ifs at hleap ⊢ <;> push_cast <;> linarith

/-- The first days of the months ascend. -/
lemma firstOfMonth_strictMono : StrictMono firstOfMonth := by
  refine strictMono_int_of_lt_succ fun month => ?_
  have hlength := monthLength_pos month
  rw [firstOfMonth_add_one]
  omega

/-- A month ends before any later one begins. -/
lemma firstOfMonth_add_length_le {m n : Int} (h : m < n) :
    firstOfMonth m + monthLength m ≤ firstOfMonth n := by
  rw [← firstOfMonth_add_one]
  exact firstOfMonth_strictMono.monotone h

namespace YearMonthDay

variable {d : YearMonthDay}

/-- The year and the month of a label are read off its month. -/
lemma monthCount_parts (h₁ : 1 ≤ d.month) (h₂ : d.month ≤ 12) :
    d.monthCount / 12 = d.year.toInt ∧ (d.monthCount % 12 + 1).toNat = d.month := by
  rw [monthCount]
  omega

/-- **The day of a label** is as many days after the first of its month. -/
lemma IsDated.julianDay_eq (h : d.IsDated) :
    d.julianDay - epochJulianDay = firstOfMonth d.monthCount + d.day - 1 := by
  have hb := borrowedYears_eq h.2.1
  have hmonth : (d.monthCount - 2) / 12 = d.marchYear - 4800
      ∧ (d.monthCount - 2) % 12 = d.month + 12 * borrowedYears d.month - 3 := by
    have h₁ := h.1
    have h₂ := h.2.1
    rw [monthCount, marchYear, hb]
    split_ifs <;> omega
  rw [YearMonthDay.julianDay_eq, firstOfMonth, hmonth.1, hmonth.2, marchDay, Int.sub_add_cancel]
  omega

/-- The length of the month of a valid label. -/
lemma IsValid.monthLength_eq (h : d.IsValid) :
    monthLength d.monthCount = daysInMonth d.year.toInt d.month := by
  obtain ⟨hyear, hmonth⟩ := monthCount_parts h.1 h.2.1
  rw [monthLength, hyear, hmonth]

end YearMonthDay

/-! ## Dates -/

/-- **A date** is as many days after the first of its month as its label says. -/
lemma toInt_eq_firstOfMonth (date : EpochDay) :
    date.toInt = firstOfMonth (YearMonthDay.ofEpochDay date).monthCount
      + (YearMonthDay.ofEpochDay date).day - 1 := by
  have hday := YearMonthDay.julianDay_ofEpochDay date
  have hlabel := (YearMonthDay.isValid_ofEpochDay date).isDated.julianDay_eq
  omega

/-- The label of a date is a day of its month. -/
lemma day_ofEpochDay_bounds (date : EpochDay) :
    1 ≤ (YearMonthDay.ofEpochDay date).day
      ∧ (YearMonthDay.ofEpochDay date).day
        ≤ monthLength (YearMonthDay.ofEpochDay date).monthCount := by
  have hvalid := YearMonthDay.isValid_ofEpochDay date
  rw [hvalid.monthLength_eq]
  exact hvalid.2.2

/-- A date lies in the month of its label. -/
lemma firstOfMonth_le_toInt (date : EpochDay) :
    firstOfMonth (YearMonthDay.ofEpochDay date).monthCount ≤ date.toInt
      ∧ date.toInt < firstOfMonth ((YearMonthDay.ofEpochDay date).monthCount + 1) := by
  have hdate := toInt_eq_firstOfMonth date
  have hday := day_ofEpochDay_bounds date
  rw [firstOfMonth_add_one]
  omega

/-- Earlier dates lie in no later months. -/
lemma monthCount_le_of_le {a b : EpochDay} (h : a.toInt ≤ b.toInt) :
    (YearMonthDay.ofEpochDay a).monthCount ≤ (YearMonthDay.ofEpochDay b).monthCount := by
  have ha := firstOfMonth_le_toInt a
  have hb := firstOfMonth_le_toInt b
  refine Int.lt_add_one_iff.1 (firstOfMonth_strictMono.lt_iff_lt.1 ?_)
  omega

end TypedRows.Calendar
