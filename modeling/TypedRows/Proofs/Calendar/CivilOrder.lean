import TypedRows.Calendar.Civil
import TypedRows.Proofs.Calendar.DayOrder

/-!
# The order of days in the civil calendar

Every day has one label in the civil calendar, later days have later labels, and the labels from
1582-10-05 to 1582-10-14 belong to no day. Between these labels and those of dates the label itself
is kept: what changes is the count of days, and only the leap days that the Julian calendar has
beyond the Gregorian one turn into the first of March.

## Main definitions

* `TypedRows.Calendar.YearMonthDay.IsSkipped` — the labels that the civil calendar leaves out.
* `TypedRows.Calendar.YearMonthDay.IsOldLeapDay` — the leap days of the Julian calendar only.
* `TypedRows.Calendar.YearMonthDay.IsCivil` — the labels of the civil calendar.
* `TypedRows.Calendar.IsLabelled` — the days whose labels have years of 32 bits.

## Main results

* `TypedRows.Calendar.exists_civilLabel` — the pair that the label of a day comes from.
* `TypedRows.Calendar.YearMonthDay.IsCivil.civilLabel_civilDay` — a label of the civil calendar is
  that of its day.
* `TypedRows.Calendar.civilLabel_civilDay` — the civil calendar keeps the label of a date.
* `TypedRows.Calendar.civil_calendar_keeps_labels`
-/

set_option autoImplicit false

namespace TypedRows.Calendar

namespace YearMonthDay

variable {d : YearMonthDay}

/-! ## Labels of the civil calendar -/

/-- The labels that the civil calendar leaves out, from 1582-10-05 to 1582-10-14. -/
def IsSkipped (d : YearMonthDay) : Prop :=
  d.year = 1582 ∧ d.month = 10 ∧ 5 ≤ d.day ∧ d.day ≤ 14

instance (d : YearMonthDay) : Decidable d.IsSkipped := by
  unfold IsSkipped; infer_instance

/-- The leap days that the Julian calendar has and the Gregorian calendar has not. -/
def IsOldLeapDay (d : YearMonthDay) : Prop :=
  d.IsLeapDay ∧ d.year.toInt % 4 = 0 ∧ isLeapYear d.year.toInt = false

instance (d : YearMonthDay) : Decidable d.IsOldLeapDay := by
  unfold IsOldLeapDay; infer_instance

/-- The labels of the civil calendar: those of the Gregorian calendar that are not left out, and
the leap days of the Julian calendar before the first day of the Gregorian one. -/
def IsCivil (d : YearMonthDay) : Prop :=
  (d.IsValid ∧ ¬ d.IsSkipped) ∨ (d.IsOldLeapDay ∧ d.Before ⟨1582, 10, 15⟩)

instance (d : YearMonthDay) : Decidable d.IsCivil := by
  unfold IsCivil; infer_instance

/-- The ten days before the first day of the Gregorian calendar have the labels left out. -/
lemma isSkipped_ofJulianDay {julian : Int} (h₁ : cutover - 10 ≤ julian) (h₂ : julian < cutover) :
    (ofJulianDay julian).IsSkipped := by
  have hall : ∀ k : Fin 10, (ofJulianDay (cutover - 10 + (k : Nat))).IsSkipped := by decide
  have hk : julian = cutover - 10 + ((julian - (cutover - 10)).toNat : Int) := by omega
  rw [hk]
  exact hall ⟨(julian - (cutover - 10)).toNat, by omega⟩

/-- The day numbers of the labels left out, in either calendar. -/
lemma IsSkipped.julianDays (h : d.IsSkipped) :
    d.julianDay = cutover - 15 + d.day ∧ d.julianDayOld = cutover - 5 + d.day := by
  obtain ⟨hyear, hmonth, -, -⟩ := h
  have hb : borrowedYears 10 = 0 := rfl
  have hy : (1582 : Int32).toInt = 1582 := rfl
  rw [julianDay_eq, julianDayOld_eq, marchDay, marchYear, hyear, hmonth, hb, hy, cutover]
  omega

/-- The leap days of the Julian calendar are days of their months. -/
lemma IsOldLeapDay.isDated (h : d.IsOldLeapDay) : d.IsDated := by
  obtain ⟨⟨hmonth, hday⟩, -, -⟩ := h
  rw [IsDated, hmonth, hday]
  decide

/-- The labels of the civil calendar are days of their months. -/
lemma IsCivil.isDated (h : d.IsCivil) : d.IsDated :=
  h.elim (fun h => h.1.isDated) fun h => h.1.isDated

/-- The labels of the civil calendar are not among those that the cutover leaves out. -/
lemma IsCivil.not_isSkipped (h : d.IsCivil) : ¬ d.IsSkipped := by
  rcases h with ⟨-, h⟩ | ⟨⟨⟨hmonth, -⟩, -⟩, -⟩
  · exact h
  · rintro ⟨-, hten, -⟩
    omega

/-- The leap day of a label of the civil calendar is one of the Julian calendar. -/
lemma IsCivil.mod_four (h : d.IsCivil) (hday : d.IsLeapDay) : d.year.toInt % 4 = 0 := by
  rcases h with ⟨hvalid, -⟩ | ⟨hold, -⟩
  · exact (isLeapYear_iff.1 ((isValid_iff.1 hvalid).2 hday)).1
  · exact hold.2.1

end YearMonthDay

open YearMonthDay

variable {day : Int}

/-! ## Labels of days -/

/-- The days from the last one of the first year of 32 bits to the first one of the last year. -/
def IsLabelled (day : Int) : Prop :=
  civilDay ⟨Int32.minValue, 12, 31⟩ ≤ day ∧ day ≤ civilDay ⟨Int32.maxValue, 1, 1⟩

/-- The days that have a label lie between the first day of the least year and the last of the
greatest one. -/
lemma isLabelled_iff : IsLabelled day ↔ -784369121597 ≤ day ∧ day ≤ 784351576412 := by
  have hfirst : civilDay ⟨Int32.minValue, 12, 31⟩ = -784369121597 := by decide
  have hlast : civilDay ⟨Int32.maxValue, 1, 1⟩ = 784351576412 := by decide
  rw [IsLabelled, hfirst, hlast]

/-- **Every day belongs to a year and a day in it**, from which its label in the civil calendar
comes: by the rules of the Gregorian calendar from its first day on, and by those of the Julian
calendar before. -/
lemma exists_civilLabel (h : IsLabelled day) :
    ∃ y e : Int, FitsYear y ∧ 0 ≤ e ∧ e ≤ 365 ∧ civilLabel day = ofDayOfYear y e
      ∧ ((cutover ≤ day + epochJulianDay ∧ (e = 365 → isLeapYear (y + 1) = true)
          ∧ day + epochJulianDay = e + 365 * y + y / 4 - y / 100 + y / 400 - 32044)
        ∨ (day + epochJulianDay < cutover ∧ (e = 365 → y % 4 = 3)
          ∧ day + epochJulianDay = e + 365 * y + y / 4 - 32082)) := by
  rw [isLabelled_iff] at h
  by_cases hnew : cutover ≤ day + epochJulianDay
  · obtain ⟨y, e, h₀, h₁, hleap, hday, hlabel⟩ := exists_ofJulianDay (day + epochJulianDay)
    have hy : FitsYear y := by
      unfold cutover epochJulianDay at *
      constructor <;> omega
    exact ⟨y, e, hy, h₀, h₁, by rw [civilLabel, if_pos hnew, hlabel], .inl ⟨hnew, hleap, hday⟩⟩
  · -- the pair of a day number in the Julian calendar
    let y := (4 * (day + epochJulianDay + 32082) + 3) / 1461
    let e := day + epochJulianDay + 32082 - 1461 * y / 4
    have hday : day + epochJulianDay = e + 365 * y + y / 4 - 32082 := by omega
    have h₀ : 0 ≤ e := by omega
    have h₁ : e ≤ 365 := by omega
    have hleap : e = 365 → y % 4 = 3 := by omega
    have hy : FitsYear y := by
      unfold cutover epochJulianDay at *
      constructor <;> omega
    exact ⟨y, e, hy, h₀, h₁, by rw [civilLabel, if_neg hnew]; rfl,
      .inr ⟨Int.not_le.1 hnew, hleap, hday⟩⟩

/-- The label of a day is one of the civil calendar. -/
lemma isCivil_civilLabel (h : IsLabelled day) : (civilLabel day).IsCivil := by
  obtain ⟨y, e, hy, h₀, h₁, hlabel, ⟨hnew, hleap, hday⟩ | ⟨hold, hleap, hday⟩⟩ :=
    exists_civilLabel h
  · left
    rw [hlabel]
    refine ⟨isValid_ofDayOfYear hy h₀ h₁ hleap, fun hskipped => ?_⟩
    have hnumber := hskipped.julianDays.1
    rw [julianDay_ofDayOfYear hy h₀ h₁] at hnumber
    have hlast := hskipped.2.2.2
    omega
  · rw [hlabel]
    by_cases hvalid : (ofDayOfYear y e).IsValid
    · refine .inl ⟨hvalid, fun hskipped => ?_⟩
      have hnumber := hskipped.julianDays.2
      rw [julianDayOld_ofDayOfYear hy h₀ h₁] at hnumber
      have hfirst := hskipped.2.2.1
      omega
    · -- what is no label of the Gregorian calendar is a leap day of the Julian one
      have hleapDay : (ofDayOfYear y e).IsLeapDay ∧ isLeapYear (ofDayOfYear y e).year.toInt = false := by
        simpa [isValid_iff, isDated_ofDayOfYear h₀ h₁] using hvalid
      have he := (isLeapDay_ofDayOfYear h₀ h₁).1 hleapDay.1
      have hyear := year_ofDayOfYear hy h₀ h₁
      refine .inr ⟨⟨hleapDay.1, ?_, hleapDay.2⟩, .inl ?_⟩
      · rw [hyear]
        omega
      · rw [hyear]
        have hcut : (1582 : Int32).toInt = 1582 := rfl
        unfold cutover at hold
        dsimp only
        rw [hcut]
        omega

/-- **The day of the label of a day** is the day. -/
lemma civilDay_civilLabel (h : IsLabelled day) : civilDay (civilLabel day) = day := by
  obtain ⟨y, e, hy, h₀, h₁, hlabel, ⟨hnew, hleap, hday⟩ | ⟨hold, hleap, hday⟩⟩ :=
    exists_civilLabel h
  · have hnumber : (ofDayOfYear y e).julianDay = day + epochJulianDay := by
      rw [julianDay_ofDayOfYear hy h₀ h₁, hday]
    rw [hlabel, civilDay, hnumber, if_pos hnew, Int.add_sub_cancel]
  · have hnumber : (ofDayOfYear y e).julianDayOld = day + epochJulianDay := by
      rw [julianDayOld_ofDayOfYear hy h₀ h₁, hday]
    -- the Gregorian calendar is behind in the sixteenth century, and far from it before
    have hgregorian : (ofDayOfYear y e).julianDay < cutover := by
      rw [julianDay_ofDayOfYear hy h₀ h₁]
      unfold cutover at *
      omega
    rw [hlabel, civilDay, hnumber, if_neg (Int.not_le.2 hgregorian),
      Int.min_eq_left (Int.le_of_lt hold), Int.add_sub_cancel]

/-- Earlier days have earlier labels. -/
lemma before_civilLabel {a b : Int} (ha : IsLabelled a) (hb : IsLabelled b) (h : a < b) :
    (civilLabel a).Before (civilLabel b) := by
  obtain ⟨y, e, hy, h₀, h₁, hlabel, hday⟩ := exists_civilLabel ha
  obtain ⟨y', e', hy', h₀', h₁', hlabel', hday'⟩ := exists_civilLabel hb
  rw [hlabel, hlabel']
  refine before_ofDayOfYear hy hy' h₀ h₁ h₀' h₁' ?_
  simp only [isLeapYear_iff] at hday hday'
  rcases hday with ⟨hnew, hleap, hday⟩ | ⟨hold, hleap, hday⟩
  · rcases hday' with ⟨-, hleap', hday'⟩ | ⟨hold', -, -⟩
    · omega
    · omega
  · rcases hday' with ⟨hnew', -, hday'⟩ | ⟨-, hleap', hday'⟩
    · -- the last label of the Julian calendar is eleven days before the first Gregorian one
      unfold cutover at *
      omega
    · omega

/-- Every date has a label. -/
lemma isLabelled_epochDay (date : EpochDay) : IsLabelled date.toInt := by
  have hlow := date.le_toInt
  have hhigh := date.toInt_lt
  rw [isLabelled_iff]
  omega

/-! ## Days of labels -/

namespace YearMonthDay

variable {d : YearMonthDay}

/-- A label of the civil calendar is one of the Gregorian calendar from its first day on, and its
day number in the Julian calendar is that of an earlier day otherwise. -/
lemma IsCivil.cases (h : d.IsCivil) :
    (cutover ≤ d.julianDay ∧ d.IsValid) ∨ (d.julianDay < cutover ∧ d.julianDayOld < cutover) := by
  obtain ⟨h₀, h₁, -⟩ := marchDay_bounds h.isDated
  rcases h with ⟨hvalid, hskipped⟩ | ⟨⟨hday, -, -⟩, hbefore⟩
  · by_cases hnew : cutover ≤ d.julianDay
    · exact .inl ⟨hnew, hvalid⟩
    · have hearly : d.julianDay < cutover - 10 := by
        refine Int.not_le.1 fun hle => hskipped ?_
        rw [← hvalid.ofJulianDay_julianDay]
        exact isSkipped_ofJulianDay hle (Int.not_le.1 hnew)
      right
      rw [julianDay_eq] at *
      rw [julianDayOld_eq]
      unfold cutover at *
      omega
  · right
    have hb := borrowedYears_eq (m := 2) (by omega)
    have hyear : d.year.toInt ≤ 1582 := by
      have hcut : (1582 : Int32).toInt = 1582 := rfl
      rw [Before, hcut] at hbefore
      omega
    rw [julianDay_eq, julianDayOld_eq]
    unfold cutover marchYear at *
    rw [hday.1, hb]
    omega

/-- **A label of the civil calendar is that of its day.** -/
lemma IsCivil.civilLabel_civilDay (h : d.IsCivil) : civilLabel (civilDay d) = d := by
  rcases h.cases with ⟨hnew, hvalid⟩ | ⟨hgregorian, hold⟩
  · rw [civilDay, if_pos hnew, civilLabel, Int.sub_add_cancel, if_pos hnew,
      hvalid.ofJulianDay_julianDay]
  · obtain ⟨h₀, h₁, hlast⟩ := marchDay_bounds h.isDated
    have hleap : d.marchDay = 365 → d.marchYear % 4 = 3 := fun he => by
      have hmod := h.mod_four (hlast.1 he)
      rw [marchYear, (hlast.1 he).1, borrowedYears_eq (by omega)]
      simp only [Nat.le_refl, ↓reduceIte]
      omega
    rw [civilDay, if_neg (Int.not_le.2 hgregorian), Int.min_eq_left (Int.le_of_lt hold), civilLabel,
      Int.sub_add_cancel, if_neg (Int.not_le.2 hold), julianDayOld_eq,
      ofJulianDayOld_eq h₀ h₁ hleap, ofDayOfYear_march h.isDated]

/-- The labels left out count as the first day of the Gregorian calendar. -/
lemma IsSkipped.civilLabel_civilDay (h : d.IsSkipped) :
    civilLabel (civilDay d) = ⟨1582, 10, 15⟩ := by
  obtain ⟨hnew, hold⟩ := h.julianDays
  obtain ⟨-, -, hfirst, hlast⟩ := h
  rw [civilDay, if_neg (by omega), Int.min_eq_right (by omega)]
  decide

/-- The first of March, which names a day in every year. -/
lemma isValid_march (year : Int32) : (⟨year, 3, 1⟩ : YearMonthDay).IsValid :=
  isValid_iff.2 ⟨by simp [IsDated, daysInMonth], by simp [IsLeapDay]⟩

/-- In the Gregorian calendar a leap day of the Julian one is the first of March. -/
lemma IsOldLeapDay.julianDay_eq (h : d.IsOldLeapDay) :
    d.julianDay = julianDay ⟨d.year, 3, 1⟩ := by
  obtain ⟨⟨hmonth, hday⟩, -, hcommon⟩ := h
  have hb : borrowedYears 2 = 1 := rfl
  have hb' : borrowedYears 3 = 0 := rfl
  have hyear : d.marchYear + 1 = d.year.toInt + 4800 := by
    rw [marchYear, hmonth, hb]
    omega
  have hlast : d.marchDay = 365 := by
    rw [marchDay, hmonth, hday, hb]
    rfl
  have hyear' : marchYear ⟨d.year, 3, 1⟩ = d.marchYear + 1 := by
    rw [hyear, marchYear, hb', Int.sub_zero]
  have hfirst : marchDay ⟨d.year, 3, 1⟩ = 0 := by
    simp [marchDay, hb']
  have hleap := leapDays_add_one d.marchYear
  rw [hyear, isLeapYear_add, hcommon, ← hyear] at hleap
  rw [YearMonthDay.julianDay_eq, YearMonthDay.julianDay_eq, hlast, hyear', hfirst]
  simp only [Bool.false_eq_true, ↓reduceIte] at hleap
  linarith

end YearMonthDay

/-- **The civil calendar keeps the label of a date**, the labels it leaves out apart. -/
theorem civilLabel_civilDay {date : EpochDay} (h : ¬ (ofEpochDay date).IsSkipped) :
    civilLabel (civilDay (ofEpochDay date)) = ofEpochDay date :=
  IsCivil.civilLabel_civilDay (.inl ⟨isValid_ofEpochDay date, h⟩)

/-- The label of the date that has the label of a day of the civil calendar. -/
lemma ofEpochDay_dateOfCivil {d : YearMonthDay} (h : d.IsCivil) (hfits : d.FitsEpochDay) :
    ofEpochDay (dateOfCivil d) = if d.IsOldLeapDay then ⟨d.year, 3, 1⟩ else d := by
  rw [dateOfCivil, h.civilLabel_civilDay]
  split_ifs with hold
  · have hday : d.julianDay = julianDay ⟨d.year, 3, 1⟩ := hold.julianDay_eq
    have hfirst : d.epochDay = epochDay ⟨d.year, 3, 1⟩ := by
      rw [epochDay, epochDay, hday]
    rw [hfirst, (isValid_march d.year).ofEpochDay_epochDay]
    rwa [FitsEpochDay, ← hday]
  · rcases h with ⟨hvalid, -⟩ | ⟨hleap, -⟩
    · exact hvalid.ofEpochDay_epochDay hfits
    · exact absurd hleap hold

/-- **Labels in the civil calendar.** The label of a day is one of the civil calendar and none of
those left out, its day is the day again, and earlier days have earlier labels; the days include all
of 32 bits. A date keeps its label in the civil calendar and comes back from it, but the labels left
out become the first day of the Gregorian calendar. A label of the civil calendar is that of its
day, and the date that has it is labelled alike, but for the leap days of the Julian calendar only,
which become the first of March. -/
theorem civil_calendar_keeps_labels :
    (∀ date : EpochDay, IsLabelled date.toInt)
      ∧ (∀ day, IsLabelled day → civilDay (civilLabel day) = day ∧ (civilLabel day).IsCivil
        ∧ ¬ (civilLabel day).IsSkipped)
      ∧ (∀ a b, IsLabelled a → IsLabelled b → (a < b ↔ (civilLabel a).Before (civilLabel b)))
      ∧ (∀ date, civilOfDate date
        = if (ofEpochDay date).IsSkipped then ⟨1582, 10, 15⟩ else ofEpochDay date)
      ∧ (∀ date, ¬ (ofEpochDay date).IsSkipped → dateOfCivil (civilOfDate date) = date)
      ∧ ∀ d : YearMonthDay, d.IsCivil → civilLabel (civilDay d) = d ∧ (d.FitsEpochDay →
        ofEpochDay (dateOfCivil d) = if d.IsOldLeapDay then ⟨d.year, 3, 1⟩ else d) := by
  refine ⟨isLabelled_epochDay, fun day h => ?_, fun a b ha hb => ?_, fun date => ?_,
    fun date h => ?_, fun d h => ⟨h.civilLabel_civilDay, ofEpochDay_dateOfCivil h⟩⟩
  · exact ⟨civilDay_civilLabel h, isCivil_civilLabel h, (isCivil_civilLabel h).not_isSkipped⟩
  · exact lt_iff_before (before_civilLabel ha hb) (before_civilLabel hb ha) fun h => by rw [h]
  · rw [civilOfDate]
    split_ifs with h
    · exact h.civilLabel_civilDay
    · exact civilLabel_civilDay h
  · rw [civilOfDate, civilLabel_civilDay h, dateOfCivil, civilLabel_civilDay h, epochDay_ofEpochDay]

/-- The day before the first one of the Gregorian calendar, and a leap day of the Julian one. -/
theorem civil_calendar_keeps_labels_at_its_change :
    (IsLabelled (-141428) ∧ civilDay (civilLabel (-141428)) = -141428)
      ∧ (IsLabelled (-141427) ∧ (civilLabel (-141428)).Before (civilLabel (-141427)))
      ∧ (¬ (ofEpochDay (-141438)).IsSkipped
        ∧ dateOfCivil (civilOfDate (-141438)) = -141438)
      ∧ (⟨1000, 2, 29⟩ : YearMonthDay).IsCivil ∧ (⟨1000, 2, 29⟩ : YearMonthDay).FitsEpochDay
      ∧ ofEpochDay (dateOfCivil ⟨1000, 2, 29⟩) = ⟨1000, 3, 1⟩ := by
  obtain ⟨-, hday, horder, -, hdate, hlabel⟩ := civil_calendar_keeps_labels
  have hlast : IsLabelled (-141428) := isLabelled_iff.2 (by decide)
  have hfirst : IsLabelled (-141427) := isLabelled_iff.2 (by decide)
  have hdue : ¬ (ofEpochDay (-141438)).IsSkipped := by decide
  have hcivil : (⟨1000, 2, 29⟩ : YearMonthDay).IsCivil := by decide
  have hfits : (⟨1000, 2, 29⟩ : YearMonthDay).FitsEpochDay := by decide
  exact ⟨⟨hlast, (hday _ hlast).1⟩, ⟨hfirst, (horder _ _ hlast hfirst).1 (by decide)⟩,
    ⟨hdue, hdate _ hdue⟩, hcivil, hfits, (hlabel _ hcivil).2 hfits⟩

end TypedRows.Calendar
