import Mathlib.Tactic.IntervalCases
import Mathlib.Tactic.Linarith
import TypedRows.Proofs.Calendar.DayNumbers

/-!
# The order of days and of labels

A label gives back the March-based year and the day in it that it comes from. With that the labels
of the proleptic Gregorian calendar are the days in another spelling: every date has one label that
names a day, every such label is that of one date, earlier dates have earlier labels, and the label
of the next date is the next one by the rules of the calendar.

## Main definitions

* `TypedRows.Calendar.YearMonthDay.marchYear`, `TypedRows.Calendar.YearMonthDay.marchDay` — the
  March-based year of a label and its day in it.
* `TypedRows.Calendar.YearMonthDay.IsDated` — the labels that name a day of a leap year.
* `TypedRows.Calendar.YearMonthDay.FitsEpochDay` — the labels whose count of days fits 32 bits.

## Main results

* `TypedRows.Calendar.YearMonthDay.ofDayOfYear_march` — a label comes from its year and day.
* `TypedRows.Calendar.YearMonthDay.before_ofDayOfYear` — labels are in the order of their pairs.
* `TypedRows.Calendar.YearMonthDay.julianDay_next` — the next label has the next day number.
* `TypedRows.Calendar.YearMonthDay.dates_and_labels_are_isomorphic`
-/

set_option autoImplicit false

namespace TypedRows.Calendar

namespace YearMonthDay

variable {y e : Int} {d : YearMonthDay}

/-! ## The pair of a label -/

/-- The March-based year of a label. -/
def marchYear (d : YearMonthDay) : Int :=
  d.year.toInt + 4800 - borrowedYears d.month

/-- The day of a label in its March-based year, from 0 on. -/
def marchDay (d : YearMonthDay) : Int :=
  d.day + (153 * ((d.month : Int) + 12 * borrowedYears d.month - 3) + 2) / 5 - 1

/-- The labels that name a day of a leap year. -/
def IsDated (d : YearMonthDay) : Prop :=
  1 ≤ d.month ∧ d.month ≤ 12 ∧ 1 ≤ d.day ∧ d.day ≤ daysInMonth 0 d.month

/-- The last day of February in a leap year. -/
def IsLeapDay (d : YearMonthDay) : Prop :=
  d.month = 2 ∧ d.day = 29

instance (d : YearMonthDay) : Decidable d.IsLeapDay := by
  unfold IsLeapDay; infer_instance

/-- The labels whose count of days since 1970-01-01 fits 32 bits. -/
def FitsEpochDay (d : YearMonthDay) : Prop :=
  -2147483648 ≤ d.julianDay - epochJulianDay ∧ d.julianDay - epochJulianDay < 2147483648

instance (d : YearMonthDay) : Decidable d.FitsEpochDay := by
  unfold FitsEpochDay; infer_instance

/-- The days up to a label are those of its March year and of the years before it. -/
lemma commonDays_eq (d : YearMonthDay) : d.commonDays = d.marchDay + 1 + 365 * d.marchYear := by
  unfold commonDays marchDay marchYear
  omega

/-- The day number of a label in the Gregorian calendar, by its pair. -/
lemma julianDay_eq (d : YearMonthDay) :
    d.julianDay = d.marchDay + 365 * d.marchYear + d.marchYear / 4 - d.marchYear / 100
      + d.marchYear / 400 - 32044 := by
  rw [julianDay, commonDays_eq, ← marchYear]
  omega

/-- The day number of a label in the Julian calendar, by its pair. -/
lemma julianDayOld_eq (d : YearMonthDay) :
    d.julianDayOld = d.marchDay + 365 * d.marchYear + d.marchYear / 4 - 32082 := by
  rw [julianDayOld, commonDays_eq, ← marchYear]
  omega

/-! ## The lengths of months -/

/-- The length of a month, with the months of thirty days written out. -/
lemma daysInMonth_eq (year : Int) (month : Nat) : daysInMonth year month
    = if month = 2 then if isLeapYear year then 29 else 28
      else if month = 4 ∨ month = 6 ∨ month = 9 ∨ month = 11 then 30 else 31 := by
  unfold daysInMonth
  split <;> simp_all

/-- A label names a day unless it is the leap day of a common year. -/
lemma isValid_iff : d.IsValid ↔ d.IsDated ∧ (d.IsLeapDay → isLeapYear d.year.toInt = true) := by
  have hleap : isLeapYear 0 = true := rfl
  rw [IsValid, IsDated, IsLeapDay, daysInMonth_eq, daysInMonth_eq, hleap]
  by_cases hm : d.month = 2
  · by_cases hy : isLeapYear d.year.toInt = true
    · simp [hm, hy]
    · simp only [hm, hy, ↓reduceIte, Bool.false_eq_true, true_and, imp_false]
      omega
  · simp [hm]

/-- Valid labels are days of their months. -/
lemma IsValid.isDated (h : d.IsValid) : d.IsDated := (isValid_iff.1 h).1

/-- The days of a month of a leap year. -/
lemma IsDated.day_le (h : d.IsDated) : d.day ≤ if d.month = 2 then 29
    else if d.month = 4 ∨ d.month = 6 ∨ d.month = 9 ∨ d.month = 11 then 30 else 31 := by
  have hday := h.2.2.2
  rwa [daysInMonth_eq] at hday

/-! ## Labels and pairs -/

/-- January and February borrow a year, the other months do not. -/
lemma borrowedYears_eq {m : Nat} (h : m ≤ 12) :
    borrowedYears m = if m ≤ 2 then 1 else 0 := by
  rw [borrowedYears, Int.tdiv_eq_ediv_of_nonneg (by omega)]
  split_ifs <;> omega

/-- A month ends where the next one begins, counted from March; only February ends earlier. -/
lemma daysInMonth_march {m : Nat} (h₁ : 1 ≤ m) (h₂ : m ≤ 12) (hfeb : m ≠ 2) (year : Int) :
    (daysInMonth year m : Int) = (153 * ((m : Int) + 12 * borrowedYears m - 2) + 2) / 5
      - (153 * ((m : Int) + 12 * borrowedYears m - 3) + 2) / 5 := by
  rw [daysInMonth_eq, if_neg hfeb, borrowedYears_eq h₂]
  interval_cases m <;> simp at hfeb ⊢

/-- The day of a month is at most the length of the month in the count from March. -/
lemma IsDated.day_le_march (h : d.IsDated) :
    d.day ≤ (153 * ((d.month : Int) + 12 * borrowedYears d.month - 2) + 2) / 5
      - (153 * ((d.month : Int) + 12 * borrowedYears d.month - 3) + 2) / 5 := by
  obtain ⟨h₁, h₂, -, h₄⟩ := h
  by_cases hfeb : d.month = 2
  · have hb : borrowedYears 2 = 1 := rfl
    have hlength : daysInMonth 0 2 = 29 := rfl
    rw [hfeb, hlength] at h₄
    rw [hfeb, hb]
    omega
  · rw [← daysInMonth_march h₁ h₂ hfeb 0]
    exact_mod_cast h₄

/-- The month of a label is read off its day in the March-based year. -/
lemma monthIndex_eq (h : d.IsDated) :
    (5 * d.marchDay + 2) / 153 = d.month + 12 * borrowedYears d.month - 3 := by
  have hfirst : 1 ≤ d.day := h.2.2.1
  have hlast := h.day_le_march
  unfold marchDay
  omega

/-- **A label comes from its pair**, which is a year and a day in it. -/
lemma ofDayOfYear_march (h : d.IsDated) : ofDayOfYear d.marchYear d.marchDay = d := by
  have hindex := monthIndex_eq h
  obtain ⟨h₁, h₂, h₃, -⟩ := h
  have hb := borrowedYears_eq h₂
  have hborrowed : (d.month + 12 * borrowedYears d.month - 3) / 10 = borrowedYears d.month := by
    rw [hb]
    split_ifs <;> omega
  obtain ⟨year, month, day⟩ := d
  rw [ofDayOfYear, hindex, hborrowed, marchYear, marchDay, mk.injEq]
  refine ⟨?_, ?_, ?_⟩
  · have hyear : year.toInt + 4800 - borrowedYears month - 4800 + borrowedYears month
        = year.toInt := by omega
    rw [hyear, Int32.ofInt_toInt]
  · have hmonth : (month : Int) + 12 * borrowedYears month - 3 + 3 - 12 * borrowedYears month
        = month := by omega
    rw [hmonth, Int.toNat_natCast]
  · dsimp only
    omega

/-- The leap day is the last day of its year. -/
lemma marchDay_bounds (h : d.IsDated) :
    0 ≤ d.marchDay ∧ d.marchDay ≤ 365 ∧ (d.marchDay = 365 ↔ d.IsLeapDay) := by
  have h₄ := h.day_le
  obtain ⟨h₁, h₂, h₃, -⟩ := h
  rw [marchDay, borrowedYears_eq h₂, IsLeapDay]
  split_ifs at h₄ ⊢ <;> omega

/-- The month of a day in a March-based year, counted from March. -/
lemma monthIndex_bounds (h₀ : 0 ≤ e) (h₁ : e ≤ 365) :
    0 ≤ (5 * e + 2) / 153 ∧ (5 * e + 2) / 153 ≤ 11
      ∧ 0 ≤ (5 * e + 2) / 153 / 10 ∧ (5 * e + 2) / 153 / 10 ≤ 1 := by
  omega

/-- The leap day comes from the last day of a March-based year. -/
lemma isLeapDay_ofDayOfYear (h₀ : 0 ≤ e) (h₁ : e ≤ 365) :
    (ofDayOfYear y e).IsLeapDay ↔ e = 365 := by
  have hmonth := month_ofDayOfYear (y := y) h₀ h₁
  have hday := day_ofDayOfYear (y := y) (e := e)
  unfold IsLeapDay
  omega

/-- A pair gives a label that names a day of a leap year. -/
lemma isDated_ofDayOfYear (h₀ : 0 ≤ e) (h₁ : e ≤ 365) : (ofDayOfYear y e).IsDated := by
  have hmonth := month_ofDayOfYear (y := y) h₀ h₁
  have hday := day_ofDayOfYear (y := y) (e := e)
  have hbounds := monthIndex_bounds h₀ h₁
  have hlen : (ofDayOfYear y e).day ≤ if (ofDayOfYear y e).month = 2 then 29
      else if (ofDayOfYear y e).month = 4 ∨ (ofDayOfYear y e).month = 6
        ∨ (ofDayOfYear y e).month = 9 ∨ (ofDayOfYear y e).month = 11 then 30 else 31 := by
    generalize (ofDayOfYear y e).month = month at *
    generalize (ofDayOfYear y e).day = day at *
    split_ifs <;> omega
  refine ⟨by omega, by omega, by omega, ?_⟩
  rwa [daysInMonth_eq]

/-- A pair gives a label that names a day, when its last day is a leap day. -/
lemma isValid_ofDayOfYear (hy : FitsYear y) (h₀ : 0 ≤ e) (h₁ : e ≤ 365)
    (hleap : e = 365 → isLeapYear (y + 1) = true) : (ofDayOfYear y e).IsValid := by
  refine isValid_iff.2 ⟨isDated_ofDayOfYear h₀ h₁, fun hday => ?_⟩
  obtain rfl := (isLeapDay_ofDayOfYear h₀ h₁).1 hday
  have hyear := isLeapYear_iff.1 (hleap rfl)
  rw [year_ofDayOfYear hy h₀ h₁, isLeapYear_iff]
  omega

/-! ## The order of labels -/

/-- **Labels are in the order of their pairs.** -/
lemma before_ofDayOfYear {y' e' : Int} (hy : FitsYear y) (hy' : FitsYear y') (h₀ : 0 ≤ e)
    (h₁ : e ≤ 365) (h₀' : 0 ≤ e') (h₁' : e' ≤ 365) (h : y < y' ∨ (y = y' ∧ e < e')) :
    (ofDayOfYear y e).Before (ofDayOfYear y' e') := by
  have hmonth := month_ofDayOfYear (y := y) h₀ h₁
  have hday := day_ofDayOfYear (y := y) (e := e)
  have hmonth' := month_ofDayOfYear (y := y') h₀' h₁'
  have hday' := day_ofDayOfYear (y := y') (e := e')
  have hbounds := monthIndex_bounds h₀ h₁
  have hbounds' := monthIndex_bounds h₀' h₁'
  rw [Before, year_ofDayOfYear hy h₀ h₁, year_ofDayOfYear hy' h₀' h₁']
  omega

/-- No two labels come before each other. -/
lemma Before.asymm {a b : YearMonthDay} (h : a.Before b) : ¬ b.Before a := by
  unfold Before at *
  omega

/-- Days whose labels ascend with them are in the order of their labels. -/
lemma lt_iff_before {a b : Int} {c d : YearMonthDay} (hlt : a < b → c.Before d)
    (hgt : b < a → d.Before c) (heq : a = b → c = d) : a < b ↔ c.Before d := by
  refine ⟨hlt, fun h => ?_⟩
  rcases lt_trichotomy a b with hab | hab | hab
  · exact hab
  · rw [heq hab] at h
    exact absurd h h.asymm
  · exact absurd h (hgt hab).asymm

/-! ## Labels of dates -/

/-- The label of a day number in the Gregorian calendar. -/
lemma ofJulianDay_eq (h₀ : 0 ≤ e) (h₁ : e ≤ 365) (hleap : e = 365 → isLeapYear (y + 1) = true) :
    ofJulianDay (e + 365 * y + y / 4 - y / 100 + y / 400 - 32044) = ofDayOfYear y e := by
  obtain ⟨q, r, hr₀, hr₁, rfl⟩ : ∃ q r : Int, 0 ≤ r ∧ r ≤ 99 ∧ y = 100 * q + r :=
    ⟨y / 100, y % 100, by omega, by omega, by omega⟩
  have h₄ : (100 * q + r) / 4 = 25 * q + r / 4 := by omega
  have h₁₀₀ : (100 * q + r) / 100 = q := by omega
  have h₄₀₀ : (100 * q + r) / 400 = q / 4 := by omega
  -- of four years the last one is a day longer, and so is the last one of four centuries
  have hlonger : e = 365 → r % 4 = 3 ∧ (r = 99 → q % 4 = 3) := by
    rw [isLeapYear_iff] at hleap
    omega
  have hdays : e + 365 * (100 * q + r) + (25 * q + r / 4) - q + q / 4 - 32044 + 32044
      = 36524 * q + q / 4 + (e + 365 * r + r / 4) := by omega
  have hcentury : (4 * (36524 * q + q / 4 + (e + 365 * r + r / 4)) + 3) / 146097 = q := by omega
  have hrest : 36524 * q + q / 4 + (e + 365 * r + r / 4) - 146097 * q / 4
      = e + 365 * r + r / 4 := by omega
  have hyear : (4 * (e + 365 * r + r / 4) + 3) / 1461 = r := by omega
  have hday : e + 365 * r + r / 4 - 1461 * r / 4 = e := by omega
  simp only [ofJulianDay, h₄, h₁₀₀, h₄₀₀, hdays, hcentury, hrest, hyear, hday]

/-- A label that names a day is that of its day number. -/
lemma IsValid.ofJulianDay_julianDay (h : d.IsValid) : ofJulianDay d.julianDay = d := by
  obtain ⟨hdated, hleap⟩ := isValid_iff.1 h
  obtain ⟨h₀, h₁, hlast⟩ := marchDay_bounds hdated
  rw [julianDay_eq, ofJulianDay_eq h₀ h₁, ofDayOfYear_march hdated]
  intro he
  have hday := hlast.1 he
  have hyear := isLeapYear_iff.1 (hleap hday)
  rw [isLeapYear_iff, marchYear, hday.1, borrowedYears_eq (by omega)]
  simp only [Nat.le_refl, ↓reduceIte]
  omega

/-- A count of days that fits 32 bits is that of the date. -/
lemma FitsEpochDay.toInt_epochDay (h : d.FitsEpochDay) :
    d.epochDay.toInt = d.julianDay - epochJulianDay :=
  Int32.toInt_ofInt_of_le h.1 h.2

/-- **A label that names a day is that of its date.** -/
lemma IsValid.ofEpochDay_epochDay (h : d.IsValid) (hfits : d.FitsEpochDay) :
    ofEpochDay d.epochDay = d := by
  rw [ofEpochDay, hfits.toInt_epochDay, Int.sub_add_cancel, h.ofJulianDay_julianDay]

/-- The label of a date names a day. -/
lemma isValid_ofEpochDay (date : EpochDay) : (ofEpochDay date).IsValid := by
  obtain ⟨y, e, hy, h₀, h₁, hleap, -, hlabel⟩ := exists_ofEpochDay date
  rw [hlabel]
  exact isValid_ofDayOfYear hy h₀ h₁ hleap

/-- Earlier dates have earlier labels. -/
lemma before_ofEpochDay {a b : EpochDay} (h : a.toInt < b.toInt) :
    (ofEpochDay a).Before (ofEpochDay b) := by
  obtain ⟨y, e, hy, h₀, h₁, hleap, hday, hlabel⟩ := exists_ofEpochDay a
  obtain ⟨y', e', hy', h₀', h₁', hleap', hday', hlabel'⟩ := exists_ofEpochDay b
  rw [hlabel, hlabel']
  refine before_ofDayOfYear hy hy' h₀ h₁ h₀' h₁' ?_
  rw [isLeapYear_iff] at hleap
  omega

/-! ## The next label -/

/-- The next label names a day. -/
lemma IsValid.next (h : d.IsValid) : d.next.IsValid := by
  obtain ⟨h₁, h₂, h₃, h₄⟩ := h
  have hlen (year : Int) (month : Nat) : 1 ≤ daysInMonth year month := by
    rw [daysInMonth_eq]
    split_ifs <;> decide
  unfold YearMonthDay.next
  split_ifs with hday hmonth
  · exact ⟨h₁, h₂, Nat.le_add_left 1 d.day, hday⟩
  · exact ⟨Nat.le_add_left 1 d.month, hmonth, le_rfl, hlen _ _⟩
  · exact ⟨le_rfl, Nat.one_le_ofNat, le_rfl, hlen _ _⟩

/-- Leap years repeat after 400 years. -/
lemma isLeapYear_add (year : Int) : isLeapYear (year + 4800) = isLeapYear year := by
  rw [Bool.eq_iff_iff, isLeapYear_iff, isLeapYear_iff]
  omega

/-- The leap days up to a March-based year grow with the leap day of the year that begins in it. -/
lemma leapDays_add_one (y : Int) : (y + 1) / 4 - (y + 1) / 100 + (y + 1) / 400
    = y / 4 - y / 100 + y / 400 + if isLeapYear (y + 1) = true then 1 else 0 := by
  have h₄ : (y + 1) / 4 = y / 4 + if (y + 1) % 4 = 0 then 1 else 0 := by
    split_ifs <;> omega
  have h₁₀₀ : (y + 1) / 100 = y / 100 + if (y + 1) % 100 = 0 then 1 else 0 := by
    split_ifs <;> omega
  have h₄₀₀ : (y + 1) / 400 = y / 400 + if (y + 1) % 400 = 0 then 1 else 0 := by
    split_ifs <;> omega
  have hcentury : (y + 1) % 100 = 0 → (y + 1) % 4 = 0 := by omega
  have hfourth : (y + 1) % 400 = 0 → (y + 1) % 100 = 0 := by omega
  rw [h₄, h₁₀₀, h₄₀₀]
  by_cases hc : (y + 1) % 100 = 0
  · by_cases hf : (y + 1) % 400 = 0
    · simp [isLeapYear, hcentury hc, hc, hf]
      linarith
    · simp [isLeapYear, hcentury hc, hc, hf]
  · have hf : ¬ (y + 1) % 400 = 0 := fun hf => hc (hfourth hf)
    by_cases hq : (y + 1) % 4 = 0
    · simp [isLeapYear, hq, hc, hf]
      linarith
    · simp [isLeapYear, hq, hc, hf]

/-- The number after one of 32 bits, unless it is the greatest. -/
lemma toInt_add_one {n : Int32} (h : n.toInt < 2147483647) : (n + 1).toInt = n.toInt + 1 := by
  have hlow := n.le_toInt
  have hone : (1 : Int32).toInt = 1 := rfl
  rw [Int32.toInt_add, hone]
  exact Int.bmod_eq_of_le (by omega) (by omega)

/-- The pair of the next label: the next day of the year, or the first day after February. -/
lemma march_next (h : d.IsValid) (hyear : d.year.toInt < 2147483647) :
    (d.next.marchYear = d.marchYear ∧ d.next.marchDay = d.marchDay + 1)
      ∨ (d.month = 2 ∧ d.day = daysInMonth d.year.toInt 2
        ∧ d.next.marchYear = d.marchYear + 1 ∧ d.next.marchDay = 0) := by
  obtain ⟨h₁, h₂, h₃, h₄⟩ := h
  have hb := borrowedYears_eq h₂
  unfold next
  -- a day within the month, the first day of a month, the first day of a year
  split_ifs with hday hmonth
  · left
    refine ⟨rfl, ?_⟩
    dsimp only [marchDay]
    omega
  · have hlast : d.day = daysInMonth d.year.toInt d.month := by omega
    have hb' := borrowedYears_eq (m := d.month + 1) (by omega)
    by_cases hfeb : d.month = 2
    · right
      rw [hfeb] at hb hb' hlast
      refine ⟨hfeb, hlast, ?_⟩
      dsimp only [marchDay, marchYear]
      rw [hfeb, hb, hb']
      omega
    · left
      have hlength := daysInMonth_march h₁ h₂ hfeb d.year.toInt
      have hborrowed : borrowedYears (d.month + 1) = borrowedYears d.month := by
        rw [hb, hb']
        split_ifs <;> omega
      dsimp only [marchDay, marchYear]
      rw [hborrowed, hlast]
      omega
  · left
    have hdec : d.month = 12 := by omega
    have hlast : d.day = 31 := by
      rw [hdec] at h₄ hday
      exact le_antisymm h₄ (not_lt.1 hday)
    have hnext := toInt_add_one hyear
    have hb' := borrowedYears_eq (m := 1) (by omega)
    dsimp only [marchDay, marchYear]
    rw [hdec] at hb ⊢
    rw [hb, hb', hlast, hnext]
    omega

/-- **The next label has the next day number.** -/
lemma julianDay_next (h : d.IsValid) (hyear : d.year.toInt < 2147483647) :
    d.next.julianDay = d.julianDay + 1 := by
  rw [julianDay_eq, julianDay_eq]
  rcases march_next h hyear with ⟨hy, hd⟩ | ⟨hmonth, hday, hy, hd⟩
  · rw [hy, hd]
    omega
  · -- the day is the last one of its March-based year
    have hb := borrowedYears_eq (m := 2) (by omega)
    have hyear : d.marchYear + 1 = d.year.toInt + 4800 := by
      rw [marchYear, hmonth, hb]
      omega
    have hlast : d.marchDay = 364 + if isLeapYear (d.marchYear + 1) = true then 1 else 0 := by
      rw [marchDay, hmonth, hb, hday, daysInMonth_eq, hyear, isLeapYear_add]
      split_ifs <;> omega
    rw [hy, hd, hlast]
    linarith [leapDays_add_one d.marchYear]

/-- The years of labels whose count of days fits 32 bits. -/
lemma FitsEpochDay.year_lt (h : d.FitsEpochDay) (hdated : d.IsDated) :
    d.year.toInt < 2147483647 := by
  obtain ⟨h₀, h₁, -⟩ := marchDay_bounds hdated
  have hhigh := h.2
  have hb := borrowedYears_eq hdated.2.1
  have hy : d.marchYear = d.year.toInt + 4800 - borrowedYears d.month := rfl
  rw [julianDay_eq] at hhigh
  unfold epochJulianDay at hhigh
  split_ifs at hb <;> omega

/-- The label of a date has a day number of 32 bits. -/
lemma fitsEpochDay_ofEpochDay (date : EpochDay) : (ofEpochDay date).FitsEpochDay := by
  have hlow := date.le_toInt
  have hhigh := date.toInt_lt
  rw [FitsEpochDay, julianDay_ofEpochDay]
  omega

/-- **The label of the next date is the next label.** -/
lemma ofEpochDay_add_one {date : EpochDay} (h : date ≠ Int32.maxValue) :
    ofEpochDay (date + 1) = (ofEpochDay date).next := by
  have hvalid := isValid_ofEpochDay date
  have hnext := julianDay_next hvalid ((fitsEpochDay_ofEpochDay date).year_lt hvalid.isDated)
  rw [julianDay_ofEpochDay] at hnext
  have hadd : (date + 1).toInt = date.toInt + 1 := by
    have hne : date.toInt ≠ Int32.maxValue.toInt := fun heq => h (Int32.toInt_inj.1 heq)
    have hhigh := date.toInt_lt
    rw [Int32.toInt_maxValue] at hne
    exact toInt_add_one (by omega)
  rw [ofEpochDay, hadd, ← hvalid.next.ofJulianDay_julianDay, hnext]
  congr 1
  omega

/-- **Days and labels are isomorphic in order.** The label of a date names a day, the first day of
1970 that of zero, and the date of the label is the date; a label that names a day is that of its
date, when the count of its days fits 32 bits; a date is earlier than another exactly when its label
is; and the label of the next date is the next label. -/
theorem dates_and_labels_are_isomorphic :
    ofEpochDay 0 = ⟨1970, 1, 1⟩
      ∧ (∀ date, (ofEpochDay date).IsValid ∧ (ofEpochDay date).epochDay = date)
      ∧ (∀ d : YearMonthDay, d.IsValid → d.FitsEpochDay → ofEpochDay d.epochDay = d)
      ∧ (∀ a b : EpochDay, a < b ↔ (ofEpochDay a).Before (ofEpochDay b))
      ∧ ∀ date : EpochDay, date ≠ Int32.maxValue →
        ofEpochDay (date + 1) = (ofEpochDay date).next := by
  refine ⟨by decide, fun date => ⟨isValid_ofEpochDay date, epochDay_ofEpochDay date⟩,
    fun d h hfits => h.ofEpochDay_epochDay hfits, fun a b => ?_,
    fun date h => ofEpochDay_add_one h⟩
  rw [Int32.lt_iff_toInt_lt]
  exact lt_iff_before before_ofEpochDay before_ofEpochDay fun h => by rw [Int32.toInt_inj.1 h]

/-- The leap day of year 0, which is a leap year, and the day after it. -/
theorem dates_and_labels_are_isomorphic_in_year_zero :
    (⟨0, 2, 29⟩ : YearMonthDay).IsValid ∧ (⟨0, 2, 29⟩ : YearMonthDay).FitsEpochDay
      ∧ ofEpochDay (epochDay ⟨0, 2, 29⟩) = ⟨0, 2, 29⟩
      ∧ (-719469 : EpochDay) ≠ Int32.maxValue
      ∧ ofEpochDay (-719469 + 1) = (ofEpochDay (-719469)).next := by
  obtain ⟨-, -, hlabel, -, hnext⟩ := dates_and_labels_are_isomorphic
  have hvalid : (⟨0, 2, 29⟩ : YearMonthDay).IsValid := by decide
  have hfits : (⟨0, 2, 29⟩ : YearMonthDay).FitsEpochDay := by decide
  have hlast : (-719469 : EpochDay) ≠ Int32.maxValue := by decide
  exact ⟨hvalid, hfits, hlabel _ hvalid hfits, hlast, hnext _ hlast⟩

end YearMonthDay

end TypedRows.Calendar
