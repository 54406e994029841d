import Mathlib.Order.Bounds.Basic
import TypedRows.Calendar.Rounding
import TypedRows.Proofs.Calendar.MonthSpans
import TypedRows.Proofs.Outcome

/-!
# Rounding to periods

The periods of a unit follow each other without a gap, so that they are given by their first days,
counted without a bound. Rounding down finds the first day of the period that a date lies in, and
rounding up that of the next period unless the date is a first day itself. Hence the aligned dates,
which rounding down does not change, are the first days, and the two roundings give the aligned
dates next to a date. With timestamps it is the same for the first moments of periods.

## Main definitions

* `TypedRows.Calendar.TimeUnit.starts?` — the first days of the periods of a unit.
* `TypedRows.Calendar.RoundsDownIn` — the period that a date is rounded down in.
* `TypedRows.Calendar.Encloses` — a period has a day in it, and the next one begins within 32 bits.
* `TypedRows.Calendar.RoundsAmong` — the moments that a timestamp is rounded among.

## Main results

* `TypedRows.Calendar.floorDate_eq`, `TypedRows.Calendar.ceilDate_eq` — the first days that the
  roundings find.
* `TypedRows.Calendar.exists_start_of_aligned` — aligned dates are first days.
* `TypedRows.Calendar.rounding_finds_aligned_neighbours`
-/

set_option autoImplicit false

namespace TypedRows.Calendar

open YearMonthDay (ofEpochDay)

/-! ## The first days of periods -/

/-- The Monday of the week that holds the fourth of January of a year. -/
def firstMonday (year : Int) : Int :=
  firstOfMonth (12 * year) + 3 - (firstOfMonth (12 * year) + 3 + 3) % 7

/-- The months after January of year 0 that a unit made of whole months counts its periods from:
centuries and millennia are counted from year 1. -/
def TimeUnit.phase : TimeUnit → Int
  | .century | .millennium => 12
  | _ => 0

/-- The first days of the periods of a unit, one after the other, in days since 1970-01-01. There
are none for units that number the days of other periods. -/
def TimeUnit.starts? (unit : TimeUnit) : Option (Int → Int) :=
  match unit.months with
  | some months => some fun k => firstOfMonth (months * k + unit.phase)
  | none =>
    match unit with
    | .week => some fun k => 7 * k - 4
    | .isoYear => some firstMonday
    | .day | .hour | .minute | .second | .millisecond => some id
    | _ => none

/-- The years of dates of 32 bits. -/
lemma year_ofEpochDay_bounds (date : EpochDay) :
    -5877641 ≤ (ofEpochDay date).year.toInt ∧ (ofEpochDay date).year.toInt ≤ 5881580 := by
  have hmonth := YearMonthDay.monthCount_parts (YearMonthDay.isValid_ofEpochDay date).1
    (YearMonthDay.isValid_ofEpochDay date).2.1
  have hbounds := firstOfMonth_le_toInt date
  have hlow := date.le_toInt
  have hhigh := date.toInt_lt
  have hfirst : firstOfMonth (-5877641 * 12) < -2147483648 := by decide
  have hlast : 2147483648 < firstOfMonth (5881581 * 12) := by decide
  have h₁ := firstOfMonth_strictMono.lt_iff_lt.1 (show firstOfMonth (-5877641 * 12)
    < firstOfMonth ((ofEpochDay date).monthCount + 1) by omega)
  have h₂ := firstOfMonth_strictMono.lt_iff_lt.1 (show firstOfMonth (ofEpochDay date).monthCount
    < firstOfMonth (5881581 * 12) by omega)
  omega

/-- The day number of the first day of a month. -/
lemma julianDay_first {year : Int32} {month : Nat} (h₁ : 1 ≤ month) (h₂ : month ≤ 12) :
    YearMonthDay.julianDay ⟨year, month, 1⟩
      = firstOfMonth (12 * year.toInt + (month - 1)) + epochJulianDay := by
  have hdated : (⟨year, month, 1⟩ : YearMonthDay).IsDated := by
    refine ⟨h₁, h₂, le_rfl, ?_⟩
    dsimp only
    rw [YearMonthDay.daysInMonth_eq]
    split_ifs <;> decide
  have hcount : (⟨year, month, 1⟩ : YearMonthDay).monthCount = 12 * year.toInt + (month - 1) := by
    rw [YearMonthDay.monthCount, Int.mul_comm]
  have hday := hdated.julianDay_eq
  rw [hcount] at hday
  dsimp only at hday
  omega

/-- The date of the first day of a month. -/
lemma epochDay_first {year : Int32} {month : Nat} (h₁ : 1 ≤ month) (h₂ : month ≤ 12) :
    YearMonthDay.epochDay ⟨year, month, 1⟩
      = Int32.ofInt (firstOfMonth (12 * year.toInt + (month - 1))) := by
  rw [YearMonthDay.epochDay, julianDay_first h₁ h₂, Int.add_sub_cancel]

/-- The first day of a year is the first of its January, cut to 32 bits. -/
lemma newYear_eq {year : Int} (h₁ : -2147483648 ≤ year) (h₂ : year < 2147483648) :
    newYear year = Int32.ofInt (firstOfMonth (12 * year)) := by
  have hyear : (Int32.ofInt year).toInt = year := Int32.toInt_ofInt_of_le h₁ h₂
  rw [newYear, epochDay_first le_rfl (by omega), hyear]
  simp

/-! ## Units made of months -/

/-- A first day of a month belongs to it. -/
lemma monthCount_of_firstOfMonth {date : EpochDay} {month : Int}
    (h : date.toInt = firstOfMonth month) :
    (ofEpochDay date).monthCount = month ∧ (ofEpochDay date).day = 1 := by
  have hbounds := firstOfMonth_le_toInt date
  rw [h] at hbounds
  have h₁ := firstOfMonth_strictMono.le_iff_le.1 hbounds.1
  have h₂ := firstOfMonth_strictMono.lt_iff_lt.1 hbounds.2
  obtain rfl : (ofEpochDay date).monthCount = month := by omega
  have hdate := toInt_eq_firstOfMonth date
  exact ⟨rfl, by omega⟩

/-- Rounding down to a unit made of months. -/
lemma floorDate_of_months {unit : TimeUnit} {months : Int} (h : unit.months = some months)
    (date : EpochDay) :
    floorDate unit date = .ok (Int32.ofInt (firstOfMonth
      (months * (((ofEpochDay date).monthCount - unit.phase) / months) + unit.phase))) := by
  have hvalid := YearMonthDay.isValid_ofEpochDay date
  have h₁ := hvalid.1
  have h₂ := hvalid.2.1
  have hyear := year_ofEpochDay_bounds date
  have hcount : (ofEpochDay date).monthCount
      = (ofEpochDay date).year.toInt * 12 + ((ofEpochDay date).month - 1) := rfl
  cases unit <;> cases h <;> simp only [floorDate, TimeUnit.phase, Except.ok.injEq]
  case month | quarter =>
    rw [epochDay_first (by omega) (by omega)]
    congr 2
    omega
  all_goals
    rw [newYear_eq (by omega) (by omega)]
    congr 2
    omega

/-- Some months after a first day of a month is the first day of a later month. -/
lemma addMonths_first {start : EpochDay} {month n : Int} (hn : 0 ≤ n)
    (hstart : start.toInt = firstOfMonth month) (hfits : firstOfMonth (month + n) < 2147483648) :
    addMonths start n = Int32.ofInt (firstOfMonth (month + n)) := by
  obtain ⟨hmonth, hday⟩ := monthCount_of_firstOfMonth hstart
  have hmono := firstOfMonth_strictMono.monotone (show month ≤ month + n by omega)
  have hlow := start.le_toInt
  have hnext : (Int32.ofInt (firstOfMonth (month + n))).toInt = firstOfMonth (month + n) :=
    Int32.toInt_ofInt_of_le (by omega) (by omega)
  have hlength := monthLength_pos (month + n)
  have hmonths : FitsMonths start n := by
    refine fitsMonths_of_le hn (a := Int32.ofInt (firstOfMonth (month + n))) ?_ ?_
    · rw [hmonth, (monthCount_of_firstOfMonth hnext).1]
    · rw [hmonth, hday, hnext]
      omega
  rw [← Int32.toInt_inj, hmonths.toInt_addMonths, hmonth, hday, hnext]
  omega

/-! ## The years of weeks -/

/-- The first Monday of a year lies within three days of the first of January. -/
lemma firstMonday_bounds (year : Int) :
    firstOfMonth (12 * year) - 3 ≤ firstMonday year
      ∧ firstMonday year ≤ firstOfMonth (12 * year) + 3 ∧ (firstMonday year + 3) % 7 = 0 := by
  rw [firstMonday]
  omega

/-- Years are a day longer when they are leap years. -/
lemma firstOfMonth_next_year (year : Int) : firstOfMonth (12 * (year + 1))
    = firstOfMonth (12 * year) + if isLeapYear year then 366 else 365 := by
  have hfirst := firstOfMonth_march (year - 1) (show (0 : Int) ≤ 10 by omega) (by omega)
  have hnext := firstOfMonth_march year (show (0 : Int) ≤ 10 by omega) (by omega)
  have hleap := YearMonthDay.leapDays_add_one (year - 1 + 4800)
  rw [show year - 1 + 4800 + 1 = year + 4800 by omega, YearMonthDay.isLeapYear_add] at hleap
  rw [show 12 * (year - 1) + 10 + 2 = 12 * year by omega] at hfirst
  rw [show 12 * year + 10 + 2 = 12 * (year + 1) by omega] at hnext
  rw [hfirst, hnext]
  split_ifs at hleap ⊢ <;> omega

/-- A year has 365 days or one more. -/
lemma firstOfMonth_add_year (year : Int) :
    firstOfMonth (12 * year) + 365 ≤ firstOfMonth (12 * (year + 1))
      ∧ firstOfMonth (12 * (year + 1)) ≤ firstOfMonth (12 * year) + 366 := by
  rw [firstOfMonth_next_year]
  split_ifs <;> omega

/-- The weeks of later years begin later. -/
lemma firstMonday_strictMono : StrictMono firstMonday := by
  refine strictMono_int_of_lt_succ fun year => ?_
  have hyear := firstOfMonth_add_year year
  have hmonday := firstMonday_bounds year
  have hnext := firstMonday_bounds (year + 1)
  omega

/-- A date lies in the year of its label. -/
lemma firstOfYear_le_toInt (date : EpochDay) :
    firstOfMonth (12 * (ofEpochDay date).year.toInt) ≤ date.toInt
      ∧ date.toInt < firstOfMonth (12 * ((ofEpochDay date).year.toInt + 1)) := by
  have hmonth := YearMonthDay.monthCount_parts (YearMonthDay.isValid_ofEpochDay date).1
    (YearMonthDay.isValid_ofEpochDay date).2.1
  have hbounds := firstOfMonth_le_toInt date
  have hfirst := firstOfMonth_strictMono.monotone
    (show 12 * (ofEpochDay date).year.toInt ≤ (ofEpochDay date).monthCount by omega)
  have hlast := firstOfMonth_strictMono.monotone (show (ofEpochDay date).monthCount + 1
    ≤ 12 * ((ofEpochDay date).year.toInt + 1) by omega)
  omega

/-- The Thursday of a week always fits 32 bits. -/
lemma toInt_isoThursday (date : EpochDay) :
    (isoThursday date).toInt = date.toInt - (date.toInt + 3) % 7 + 3 := by
  have hlow := date.le_toInt
  have hhigh := date.toInt_lt
  rw [isoThursday, isoDayOfWeek, Int32.toInt_ofInt_of_le (by omega) (by omega)]
  omega

/-- **The year that a week is counted to** begins with the last first Monday not after the week. -/
lemma firstMonday_isoYear_le (date : EpochDay) :
    firstMonday (isoYear date).toInt ≤ date.toInt
      ∧ date.toInt < firstMonday ((isoYear date).toInt + 1) := by
  have hthursday := toInt_isoThursday date
  have hyear := firstOfYear_le_toInt (isoThursday date)
  rw [hthursday] at hyear
  rw [isoYear, firstMonday, firstMonday]
  omega

/-- The week that a year begins with, when its fourth of January fits 32 bits. -/
lemma isoYearStart_eq {year : Int32} (h₁ : -2147483648 ≤ firstOfMonth (12 * year.toInt) + 3)
    (h₂ : firstOfMonth (12 * year.toInt) + 3 < 2147483648) :
    isoYearStart year = Int32.ofInt (firstMonday year.toInt) := by
  have hdated : (⟨year, 1, 4⟩ : YearMonthDay).IsDated :=
    ⟨le_rfl, Nat.one_le_ofNat, Nat.one_le_ofNat, Nat.le_of_ble_eq_true rfl⟩
  have hfourth : (⟨year, 1, 4⟩ : YearMonthDay).epochDay.toInt
      = firstOfMonth (12 * year.toInt) + 3 := by
    have hcount : (⟨year, 1, 4⟩ : YearMonthDay).monthCount = 12 * year.toInt := by
      rw [YearMonthDay.monthCount]
      dsimp only
      omega
    rw [YearMonthDay.epochDay, hdated.julianDay_eq, hcount]
    exact (Int32.toInt_ofInt_of_le (by dsimp only; omega) (by dsimp only; omega)).trans
      (by dsimp only; omega)
  simp only [isoYearStart, isoDayOfWeek, hfourth, firstMonday, Int.add_sub_cancel]

/-- A first Monday that fits 32 bits has its fourth of January among them. -/
lemma fourth_lt_of_firstMonday_lt {year : Int} (h : firstMonday year < 2147483648) :
    firstOfMonth (12 * year) + 3 < 2147483648 := by
  have hlast : 2147483648 < firstMonday 5881581 := by decide
  have hyear := firstMonday_strictMono.lt_iff_lt.1 (h.trans hlast)
  have hmono := firstOfMonth_strictMono.monotone (show 12 * year ≤ 12 * 5881580 by omega)
  have hfirst : firstOfMonth (12 * 5881580) < 2147483640 := by decide
  omega

/-! ## Rounding dates -/

variable {unit : TimeUnit} {starts : Int → Int}

/-- The four kinds of units that have periods. -/
lemma starts?_cases (h : unit.starts? = some starts) :
    (∃ months, unit.months = some months ∧ 0 < months ∧ months ≤ 12000 ∧ unit.isClock = false
        ∧ ∀ k, starts k = firstOfMonth (months * k + unit.phase))
      ∨ (unit = .week ∧ ∀ k, starts k = 7 * k - 4)
      ∨ (unit = .isoYear ∧ starts = firstMonday)
      ∨ ((unit = .day ∨ unit.isClock = true) ∧ (∀ date, floorDate unit date = .ok date)
        ∧ ∀ k, starts k = k) := by
  cases unit <;> simp only [TimeUnit.starts?, TimeUnit.months, TimeUnit.isClock, floorDate,
    Option.some.injEq, reduceCtorEq] at h ⊢ <;> subst h <;> simp

/-- **First days ascend.** -/
lemma strictMono_of_starts? (h : unit.starts? = some starts) : StrictMono starts := by
  obtain ⟨months, -, hpos, -, -, hstarts⟩ | ⟨-, hstarts⟩ | ⟨-, rfl⟩ | ⟨-, -, hstarts⟩ :=
    starts?_cases h
  · intro j k hjk
    have hmonths : months * j < months * k := Int.mul_lt_mul_of_pos_left hjk hpos
    rw [hstarts, hstarts]
    exact firstOfMonth_strictMono (by omega)
  · intro j k hjk
    rw [hstarts, hstarts]
    omega
  · exact firstMonday_strictMono
  · intro j k hjk
    rwa [hstarts, hstarts]

/-- A date that a count of days wraps around to, and that is not far after it, has this count. -/
lemma toInt_of_eq_ofInt {date : EpochDay} {n : Int} (h : date = Int32.ofInt n)
    (hle : n ≤ date.toInt) (hlt : date.toInt < n + 4294967296) : date.toInt = n := by
  have hwrap : date.toInt = n.bmod 4294967296 := by rw [h, Int32.toInt_ofInt]
  rw [Int.bmod_def] at hwrap
  split_ifs at hwrap <;> omega

/-- Months are no longer than 31 days. -/
lemma firstOfMonth_le_add {m n : Int} (h : m ≤ n) :
    firstOfMonth n ≤ firstOfMonth m + 31 * (n - m) := by
  obtain ⟨k, rfl⟩ := Int.le.dest h
  induction k with
  | zero => simp
  | succ k ih =>
    have hlength := monthLength_pos (m + k)
    have hprevious := ih (by omega)
    rw [Nat.cast_add_one, ← Int.add_assoc, firstOfMonth_add_one]
    omega

/-- **The period that a date is rounded down in**: the date lies in it, is rounded to its first day if
this fits 32 bits, and is aligned only if it is this first day. -/
structure RoundsDownIn (unit : TimeUnit) (starts : Int → Int) (date : EpochDay) (k : Int) :
    Prop where
  start_le : starts k ≤ date.toInt
  lt_next : date.toInt < starts (k + 1)
  floor : -2147483648 ≤ starts k → floorDate unit date = .ok (Int32.ofInt (starts k))
  eq_start : floorDate unit date = .ok date → date.toInt = starts k

/-- A date that is rounded to the first day of its period, or to what that wraps around to. -/
lemma RoundsDownIn.of_floorDate {date : EpochDay} {k : Int} (hle : starts k ≤ date.toInt)
    (hlt : date.toInt < starts (k + 1)) (hspan : date.toInt < starts k + 4294967296)
    (hfloor : floorDate unit date = .ok (Int32.ofInt (starts k))) :
    RoundsDownIn unit starts date k := by
  refine ⟨hle, hlt, fun _ => hfloor, fun haligned => ?_⟩
  rw [hfloor, Except.ok.injEq] at haligned
  exact toInt_of_eq_ofInt haligned.symm hle hspan

/-- A date is rounded down in its period of months. -/
lemma exists_roundsDownIn_months {months : Int} (hmonths : unit.months = some months)
    (hpos : 0 < months) (hle : months ≤ 12000)
    (hstarts : ∀ k, starts k = firstOfMonth (months * k + unit.phase)) (date : EpochDay) :
    ∃ k, RoundsDownIn unit starts date k := by
  have hlow := date.le_toInt
  have hhigh := date.toInt_lt
  have hbounds := firstOfMonth_le_toInt date
  have hfloor := floorDate_of_months hmonths date
  have h₁ := Int.mul_ediv_self_le (x := (ofEpochDay date).monthCount - unit.phase) hpos.ne'
  have h₂ := Int.lt_mul_ediv_self_add (x := (ofEpochDay date).monthCount - unit.phase) hpos
  generalize ((ofEpochDay date).monthCount - unit.phase) / months = k at hfloor h₁ h₂
  have hnext : months * (k + 1) = months * k + months := by rw [Int.mul_add, Int.mul_one]
  have hfirst := firstOfMonth_strictMono.monotone
    (show months * k + unit.phase ≤ (ofEpochDay date).monthCount by omega)
  have hspan := firstOfMonth_le_add
    (show months * k + unit.phase ≤ (ofEpochDay date).monthCount + 1 by omega)
  have hlast := firstOfMonth_strictMono.monotone
    (show (ofEpochDay date).monthCount + 1 ≤ months * (k + 1) + unit.phase by omega)
  rw [← hstarts] at hfloor
  refine ⟨k, .of_floorDate ?_ ?_ ?_ hfloor⟩ <;> rw [hstarts] <;> omega

/-- A date is rounded down in its week. -/
lemma exists_roundsDownIn_week (hstarts : ∀ k, starts k = 7 * k - 4) (date : EpochDay) :
    ∃ k, RoundsDownIn .week starts date k := by
  have hfloor : floorDate .week date = .ok (Int32.ofInt (starts ((date.toInt + 4) / 7))) := by
    simp only [floorDate, dayOfWeek, hstarts]
    congr 2
    omega
  refine ⟨(date.toInt + 4) / 7, .of_floorDate ?_ ?_ ?_ hfloor⟩ <;> rw [hstarts] <;> omega

/-- A date is rounded down in its year of weeks. The first of these years begins before all dates of
32 bits; rounding down does not find its first day, but no date is aligned to it. -/
lemma exists_roundsDownIn_isoYear (date : EpochDay) :
    ∃ k, RoundsDownIn .isoYear firstMonday date k := by
  have hlow := date.le_toInt
  have hhigh := date.toInt_lt
  have hyear := firstMonday_isoYear_le date
  have hmonday := firstMonday_bounds (isoYear date).toInt
  have hfourth := fourth_lt_of_firstMonday_lt (hyear.1.trans_lt hhigh)
  refine ⟨(isoYear date).toInt, ?_⟩
  by_cases hfits : -2147483648 ≤ firstOfMonth (12 * (isoYear date).toInt) + 3
  · have hspan := firstOfMonth_add_year (isoYear date).toInt
    have hnext := firstMonday_bounds ((isoYear date).toInt + 1)
    refine .of_floorDate hyear.1 hyear.2 (by omega) ?_
    rw [floorDate, isoYearStart_eq hfits hfourth]
  · -- the count of days of its fourth of January wraps around to the far end
    refine ⟨hyear.1, hyear.2, fun hstart => absurd hstart (by omega), fun haligned => ?_⟩
    have hfirst : -2147483648 ≤ firstOfMonth (12 * (-5877640)) := by decide
    have hbounds := year_ofEpochDay_bounds (isoThursday date)
    have hbefore := firstOfMonth_strictMono.lt_iff_lt.1 (show
      firstOfMonth (12 * (isoYear date).toInt) < firstOfMonth (12 * (-5877640)) by omega)
    have hlowest : isoYear date = -5877641 := by
      rw [← Int32.toInt_inj]
      change (isoYear date).toInt = -5877641
      have hsame : (isoYear date).toInt = (ofEpochDay (isoThursday date)).year.toInt := rfl
      omega
    rw [floorDate, hlowest, Except.ok.injEq] at haligned
    have hfar : firstMonday (-5877641 + 1) ≤ (isoYearStart (-5877641)).toInt := by decide
    rw [hlowest] at hyear
    exact absurd hyear.2 (not_lt.2 (haligned ▸ hfar))

/-- **Every date is rounded down in a period.** -/
lemma exists_roundsDownIn (h : unit.starts? = some starts) (date : EpochDay) :
    ∃ k, RoundsDownIn unit starts date k := by
  obtain ⟨months, hmonths, hpos, hle, -, hstarts⟩ | ⟨rfl, hstarts⟩ | ⟨rfl, rfl⟩
      | ⟨-, hfloor, hstarts⟩ := starts?_cases h
  · exact exists_roundsDownIn_months hmonths hpos hle hstarts date
  · exact exists_roundsDownIn_week hstarts date
  · exact exists_roundsDownIn_isoYear date
  · have hspan := date.toInt_lt
    refine ⟨date.toInt, .of_floorDate ?_ ?_ ?_ ?_⟩ <;> rw [hstarts]
    · exact Int.lt_succ _
    · omega
    · rw [hfloor, Int32.ofInt_toInt]

/-- **Rounding down finds the first day** of the period that a date lies in. -/
lemma floorDate_eq (h : unit.starts? = some starts) {date : EpochDay} {k : Int}
    (hlow : starts k ≤ date.toInt) (hhigh : date.toInt < starts (k + 1))
    (hfits : -2147483648 ≤ starts k) : floorDate unit date = .ok (Int32.ofInt (starts k)) := by
  obtain ⟨j, hj⟩ := exists_roundsDownIn h date
  have hmono := strictMono_of_starts? h
  have h₁ := hmono.lt_iff_lt.1 (hlow.trans_lt hj.lt_next)
  have h₂ := hmono.lt_iff_lt.1 (hj.start_le.trans_lt hhigh)
  obtain rfl : j = k := by omega
  exact hj.floor hfits

/-- **Aligned dates are first days.** -/
lemma exists_start_of_aligned (h : unit.starts? = some starts) {date : EpochDay}
    (haligned : floorDate unit date = .ok date) : ∃ k, date.toInt = starts k := by
  obtain ⟨k, hk⟩ := exists_roundsDownIn h date
  exact ⟨k, hk.eq_start haligned⟩

/-- The period after the one that begins on a first day. -/
lemma nextPeriod_eq (h : unit.starts? = some starts) (hclock : unit.isClock = false)
    {start : EpochDay} {k : Int} (hstart : start.toInt = starts k)
    (hfits : starts (k + 1) < 2147483648) :
    nextPeriod unit start = .ok (Int32.ofInt (starts (k + 1))) := by
  obtain ⟨months, hmonths, hpos, -, -, hstarts⟩ | ⟨rfl, hstarts⟩ | ⟨rfl, rfl⟩
    | ⟨hunit, -, hstarts⟩ :=
    starts?_cases h
  · have hnext : months * (k + 1) + unit.phase = months * k + unit.phase + months := by
      rw [Int.mul_add]
      omega
    rw [hstarts] at hstart
    rw [hstarts, hnext] at hfits ⊢
    simp only [nextPeriod, hmonths, addMonths_first hpos.le hstart hfits]
  · have hnext : 7 * (k + 1) - 4 = start.toInt + 7 := by
      rw [hstart, hstarts]
      omega
    rw [hstarts, hnext, Int32.ofInt_add, Int32.ofInt_toInt]
    rfl
  · -- the year of a first Monday is its own
    have hyear := firstMonday_isoYear_le start
    rw [hstart] at hyear
    have h₁ := firstMonday_strictMono.le_iff_le.1 hyear.1
    have h₂ := firstMonday_strictMono.lt_iff_lt.1 hyear.2
    have hbounds := year_ofEpochDay_bounds (isoThursday start)
    have hadd : (isoYear start + 1).toInt = k + 1 := by
      rw [YearMonthDay.toInt_add_one]
      · omega
      · exact hbounds.2.trans_lt (by decide)
    have hfourth := fourth_lt_of_firstMonday_lt hfits
    have hlow := start.le_toInt
    have hmono := firstMonday_strictMono (show k < k + 1 by omega)
    have hmonday := firstMonday_bounds (k + 1)
    have hfirst : isoYearStart (isoYear start + 1)
        = Int32.ofInt (firstMonday (isoYear start + 1).toInt) :=
      isoYearStart_eq (by rw [hadd]; omega) (by rw [hadd]; exact hfourth)
    rw [hadd] at hfirst
    rw [← hfirst]
    rfl
  · obtain rfl := hunit.resolve_right (by simp [hclock])
    have hnext : k + 1 = start.toInt + 1 := by rw [hstart, hstarts]
    rw [hstarts, hnext, Int32.ofInt_add, Int32.ofInt_toInt]
    rfl

/-! ## Neighbours -/

/-- **A period has a day in it**, and it and the next one begin on days of 32 bits. -/
structure Encloses (starts : Int → Int) (k day : Int) : Prop where
  start_le : starts k ≤ day
  lt_next : day < starts (k + 1)
  low : -2147483648 ≤ starts k
  next_lt : starts (k + 1) < 2147483648

/-- Of numbers that all belong to an ascending sequence, the two next to a number are the members of
the sequence around it. -/
lemma isGreatest_and_isLeast_of_strictMono (aligned : Int → Prop) {n k : Int}
    (hmono : StrictMono starts) (haligned : ∀ x, aligned x → ∃ j, x = starts j)
    (hle : starts k ≤ n) (hlt : n < starts (k + 1)) (hstart : aligned (starts k))
    (hnext : n ≠ starts k → aligned (starts (k + 1))) :
    IsGreatest {x | aligned x ∧ x ≤ n} (starts k)
      ∧ IsLeast {x | aligned x ∧ n ≤ x} (if n = starts k then n else starts (k + 1)) := by
  refine ⟨⟨⟨hstart, hle⟩, ?_⟩, ?_⟩
  · rintro x ⟨hx, hxn⟩
    obtain ⟨j, rfl⟩ := haligned x hx
    have hj := hmono.lt_iff_lt.1 (hxn.trans_lt hlt)
    exact hmono.monotone (by omega)
  · split_ifs with hn
    · exact ⟨⟨hn ▸ hstart, le_rfl⟩, fun x hx => hx.2⟩
    · refine ⟨⟨hnext hn, hlt.le⟩, ?_⟩
      rintro x ⟨hx, hnx⟩
      obtain ⟨j, rfl⟩ := haligned x hx
      have hj := hmono.lt_iff_lt.1 (show starts k < starts j by omega)
      exact hmono.monotone (by omega)

variable {k : Int}

/-- A date within a period that is not its first day has a unit longer than a day. -/
lemma isClock_eq_false (h : unit.starts? = some starts) {day : Int} (hle : starts k ≤ day)
    (hlt : day < starts (k + 1)) (hne : day ≠ starts k) : unit.isClock = false := by
  obtain ⟨-, -, -, -, hclock, -⟩ | ⟨rfl, -⟩ | ⟨rfl, -⟩ | ⟨-, -, hstarts⟩ := starts?_cases h
  · exact hclock
  · rfl
  · rfl
  · rw [hstarts] at hle hlt hne
    omega

/-- The dates that a period and the next one begin on. -/
lemma Encloses.exists_starts (h : unit.starts? = some starts) {day : Int}
    (hk : Encloses starts k day) :
    ∃ s t : EpochDay, s.toInt = starts k ∧ t.toInt = starts (k + 1)
      ∧ floorDate unit s = .ok s ∧ floorDate unit t = .ok t
      ∧ (unit.isClock = false → nextPeriod unit s = .ok t)
      ∧ ∀ date : EpochDay, date.toInt = day → floorDate unit date = .ok s := by
  have hmono := strictMono_of_starts? h
  have hstep := hmono (show k < k + 1 by omega)
  have hstep' := hmono (show k + 1 < k + 1 + 1 by omega)
  have hlow := hk.low
  have hhigh := hk.next_lt
  obtain ⟨s, hs⟩ : ∃ s : EpochDay, s.toInt = starts k :=
    ⟨.ofInt (starts k), Int32.toInt_ofInt_of_le hlow (by omega)⟩
  obtain ⟨t, ht⟩ : ∃ t : EpochDay, t.toInt = starts (k + 1) :=
    ⟨.ofInt (starts (k + 1)), Int32.toInt_ofInt_of_le (by omega) hhigh⟩
  have hofs : Int32.ofInt (starts k) = s := by rw [← hs, Int32.ofInt_toInt]
  have hoft : Int32.ofInt (starts (k + 1)) = t := by rw [← ht, Int32.ofInt_toInt]
  refine ⟨s, t, hs, ht, ?_, ?_, fun hclock => ?_, fun date hdate => ?_⟩
  · rw [floorDate_eq h hs.ge (hs ▸ hstep) hlow, hofs]
  · rw [floorDate_eq h ht.ge (ht ▸ hstep') (by omega), hoft]
  · rw [nextPeriod_eq h hclock hs hhigh, hoft]
  · rw [floorDate_eq h (hdate ▸ hk.start_le) (hdate ▸ hk.lt_next) hlow, hofs]

/-- **Rounding a date** finds the first day of its period and, unless the date is this day, that of
the next one. -/
lemma ceilDate_eq {s t date : EpochDay} (h : unit.starts? = some starts)
    (hk : Encloses starts k date.toInt) (hs : s.toInt = starts k)
    (hfloor : floorDate unit date = .ok s)
    (hnext : unit.isClock = false → nextPeriod unit s = .ok t) :
    ceilDate unit date = .ok (if date.toInt = starts k then date else t) := by
  rw [ceilDate, hfloor]
  simp only [bind, Except.bind, ← Int32.toInt_inj, hs, eq_comm (b := date.toInt)]
  split_ifs with heq
  · rfl
  · exact hnext (isClock_eq_false h hk.start_le hk.lt_next heq)

/-! ## Rounding timestamps -/

/-- The units that a timestamp is rounded to without its date have a whole number of their lengths
in a day. -/
lemma clockSpan?_dvd {span : Int} (hspan : clockSpan? unit = some span) :
    0 < span ∧ span ∣ millisPerDay ∧ (unit = .day ∨ unit.isClock = true)
      ∧ ∀ date, floorDate unit date = .ok date := by
  cases unit <;> simp [clockSpan?, TimeUnit.isClock, TimeUnit.millis] at hspan <;> subst hspan
    <;> refine ⟨by decide, by decide, by simp [TimeUnit.isClock], fun _ => rfl⟩

/-- The date of a midnight. -/
lemma dayOf_atDay_zero (date : EpochDay) : dayOf (atDay date 0) = date :=
  dayOf_atDay le_rfl (by decide)

/-- **Midnights are rounded as their dates.** -/
lemma floorTimestamp_atDay (unit : TimeUnit) (date : EpochDay) :
    floorTimestamp unit (atDay date 0) = (atDay · 0) <$> floorDate unit date := by
  cases hspan : clockSpan? unit with
  | some span =>
    obtain ⟨hpos, hdvd, -, hfloor⟩ := clockSpan?_dvd hspan
    have hmidnight : span ∣ atDay date 0 := by
      rw [atDay, Int.add_zero]
      exact hdvd.mul_left date.toInt
    simp only [floorTimestamp, hspan, hfloor, Int.ediv_mul_cancel hmidnight]
    rfl
  | none =>
    simp only [floorTimestamp, hspan, dayOf_atDay_zero]
    cases floorDate unit date <;> rfl

/-- Dates have different midnights. -/
lemma atDay_zero_inj {a b : EpochDay} : atDay a 0 = atDay b 0 ↔ a = b := by
  rw [← Int32.toInt_inj]
  unfold atDay millisPerDay
  omega

/-- A midnight is rounded up as its date is. -/
lemma ceilTimestamp_atDay (unit : TimeUnit) (date : EpochDay) :
    ceilTimestamp unit (atDay date 0) = (atDay · 0) <$> ceilDate unit date := by
  rw [ceilTimestamp, ceilDate, floorTimestamp_atDay]
  cases hfloor : floorDate unit date with
  | error e => rfl
  | ok s =>
    simp only [Functor.map, Except.map, bind, Except.bind, atDay_zero_inj]
    split_ifs with heq
    · rfl
    · cases hspan : clockSpan? unit with
      | some span =>
        obtain ⟨-, -, -, hsame⟩ := clockSpan?_dvd hspan
        rw [hsame, Except.ok.injEq] at hfloor
        exact absurd hfloor.symm heq
      | none => simp only [dayOf_atDay_zero]

/-- **A timestamp is rounded among moments**: the aligned timestamps belong to an ascending
sequence, and rounding finds the members next to the timestamp. -/
structure RoundsAmong (unit : TimeUnit) (moments : Int → Int) (j timestamp : Int) : Prop where
  strictMono : StrictMono moments
  exists_of_aligned : ∀ x, floorTimestamp unit x = .ok x → ∃ i, x = moments i
  le : moments j ≤ timestamp
  lt_next : timestamp < moments (j + 1)
  start : floorTimestamp unit (moments j) = .ok (moments j)
  next : floorTimestamp unit (moments (j + 1)) = .ok (moments (j + 1))
  floor : floorTimestamp unit timestamp = .ok (moments j)
  ceil : ceilTimestamp unit timestamp
    = .ok (if timestamp = moments j then timestamp else moments (j + 1))

/-- Timestamps are rounded among the multiples of the length of a day or of a unit of the clock. -/
lemma roundsAmong_multiples {span : Int} (hspan : clockSpan? unit = some span) (timestamp : Int) :
    RoundsAmong unit (· * span) (timestamp / span) timestamp := by
  have hpos := (clockSpan?_dvd hspan).1
  have hfloor (x : Int) : floorTimestamp unit x = .ok (x / span * span) := by
    simp only [floorTimestamp, hspan]
  have hmultiple (i : Int) : floorTimestamp unit (i * span) = .ok (i * span) := by
    rw [hfloor, Int.mul_ediv_cancel _ hpos.ne']
  refine ⟨fun i j hij => Int.mul_lt_mul_of_pos_right hij hpos, fun x hx => ⟨x / span, ?_⟩,
    Int.ediv_mul_le _ hpos.ne', Int.lt_ediv_add_one_mul_self _ hpos, hmultiple _, hmultiple _,
    hfloor _, ?_⟩
  · rw [hfloor, Except.ok.injEq] at hx
    exact hx.symm
  · simp only [ceilTimestamp, hfloor, hspan, bind, Except.bind, eq_comm (b := timestamp),
      Int.add_mul, Int.one_mul]
    split_ifs <;> rfl

/-- Timestamps are rounded among the midnights of first days, when the unit is longer than a day. -/
lemma Encloses.roundsAmong_midnights (h : unit.starts? = some starts) {timestamp : Int}
    (hk : Encloses starts k (timestamp / millisPerDay)) (hspan : clockSpan? unit = none) :
    RoundsAmong unit (starts · * millisPerDay) k timestamp := by
  have hfloor (x : Int) : floorTimestamp unit x = (atDay · 0) <$> floorDate unit (dayOf x) := by
    simp only [floorTimestamp, hspan]
    cases floorDate unit (dayOf x) <;> rfl
  have hclock : unit.isClock = false := by
    cases unit <;> simp [clockSpan?, TimeUnit.isClock, TimeUnit.millis] at hspan ⊢
  have hmidnight {date : EpochDay} {i : Int} (hdate : date.toInt = starts i) :
      atDay date 0 = starts i * millisPerDay := by rw [atDay, hdate, Int.add_zero]
  obtain ⟨s, t, hs, ht, hfloors, hfloort, hnext, hdate⟩ := hk.exists_starts h
  have hday : (dayOf timestamp).toInt = timestamp / millisPerDay :=
    Int32.toInt_ofInt_of_le (hk.low.trans hk.start_le) (hk.lt_next.trans hk.next_lt)
  have hstamp : floorTimestamp unit timestamp = .ok (atDay s 0) := by
    rw [hfloor, hdate _ hday]
    rfl
  have hle := hk.start_le
  have hlt := hk.lt_next
  refine ⟨fun i j hij => ?_, fun x hx => ?_, ?_, ?_, ?_, ?_, ?_, ?_⟩
  · exact Int.mul_lt_mul_of_pos_right (strictMono_of_starts? h hij) (by decide)
  · rw [hfloor, map_eq_ok_iff] at hx
    obtain ⟨date, hfloordate, rfl⟩ := hx
    rw [dayOf_atDay_zero] at hfloordate
    obtain ⟨i, hi⟩ := exists_start_of_aligned h hfloordate
    exact ⟨i, hmidnight hi⟩
  · unfold millisPerDay at *
    omega
  · unfold millisPerDay at *
    omega
  · rw [← hmidnight hs, floorTimestamp_atDay, hfloors]
    rfl
  · rw [← hmidnight ht, floorTimestamp_atDay, hfloort]
    rfl
  · rw [hstamp, hmidnight hs]
  · rw [← hmidnight hs, ← hmidnight ht]
    simp only [ceilTimestamp, hstamp, hspan, bind, Except.bind, dayOf_atDay_zero, hnext hclock,
      eq_comm (b := timestamp)]
    split_ifs <;> rfl

/-- A timestamp is rounded among moments when its day lies between the starts of two periods. -/
lemma Encloses.exists_roundsAmong (h : unit.starts? = some starts) {timestamp : Int}
    (hk : Encloses starts k (timestamp / millisPerDay)) :
    ∃ moments j, RoundsAmong unit moments j timestamp := by
  cases hspan : clockSpan? unit with
  | some span => exact ⟨_, _, roundsAmong_multiples hspan timestamp⟩
  | none => exact ⟨_, _, hk.roundsAmong_midnights h hspan⟩

/-! ## Aligned neighbours -/

/-- Units are rounded down to exactly when they have periods. -/
lemma exists_floorDate_iff (unit : TimeUnit) (date : EpochDay) :
    (∃ floored, floorDate unit date = .ok floored) ↔ ∃ starts, unit.starts? = some starts := by
  cases unit <;> simp [floorDate, TimeUnit.starts?, TimeUnit.months]

/-- **The aligned dates next to a date** are what the roundings find. -/
lemma Encloses.neighbours (h : unit.starts? = some starts) {date : EpochDay}
    (hk : Encloses starts k date.toInt) :
    ∃ s t : EpochDay, floorDate unit date = .ok s ∧ ceilDate unit date = .ok t
      ∧ s.toInt = starts k
      ∧ t.toInt = (if date.toInt = starts k then date.toInt else starts (k + 1))
      ∧ IsGreatest {x | floorDate unit x = .ok x ∧ x ≤ date} s
      ∧ IsLeast {x | floorDate unit x = .ok x ∧ date ≤ x} t := by
  obtain ⟨s, t, hs, ht, hfloors, hfloort, hnext, hdate⟩ := hk.exists_starts h
  obtain ⟨hgreatest, hleast⟩ := isGreatest_and_isLeast_of_strictMono
    (fun x => ∃ y : EpochDay, y.toInt = x ∧ floorDate unit y = .ok y)
    (strictMono_of_starts? h)
    (fun x ⟨y, hy, haligned⟩ => hy ▸ exists_start_of_aligned h haligned) hk.start_le hk.lt_next
    ⟨s, hs, hfloors⟩ fun _ => ⟨t, ht, hfloort⟩
  have hceil : (if date.toInt = starts k then date else t).toInt
      = if date.toInt = starts k then date.toInt else starts (k + 1) := by
    rw [apply_ite Int32.toInt, ht]
  refine ⟨s, _, hdate _ rfl, ceilDate_eq h hk hs (hdate _ rfl) hnext, hs, hceil,
    ⟨⟨hfloors, ?_⟩, ?_⟩, ⟨⟨?_, ?_⟩, ?_⟩⟩
  · rw [Int32.le_iff_toInt_le, hs]
    exact hk.start_le
  · rintro x ⟨haligned, hle⟩
    rw [Int32.le_iff_toInt_le] at hle ⊢
    rw [hs]
    exact hgreatest.2 ⟨⟨x, rfl, haligned⟩, hle⟩
  · split_ifs with heq
    · obtain rfl : s = date := Int32.toInt_inj.1 (hs.trans heq.symm)
      exact hfloors
    · exact hfloort
  · rw [Int32.le_iff_toInt_le, hceil]
    exact hleast.1.2
  · rintro x ⟨haligned, hle⟩
    rw [Int32.le_iff_toInt_le] at hle ⊢
    rw [hceil]
    exact hleast.2 ⟨⟨x, rfl, haligned⟩, hle⟩

/-- **Rounding finds the aligned neighbours.** A unit is rounded to exactly when it has periods. A
date in a period that begins, like the next one, on a day of 32 bits is rounded down to the greatest
date not after it that rounding down does not change, which is the first day of its period, and is
rounded up to the least such date not before it. Both roundings keep the order of dates. Timestamps
on the days of such dates are rounded to the aligned timestamps next to them in the same way, and
all midnights are rounded as their dates.

**Proof sketch.** The first days of the periods ascend without a bound, rounding down finds the one
that a date is enclosed by, and what rounding down does not change is one of them. Rounding up finds
the next one by a rule of its own for each kind of unit. For the units of the clock the moments are
the multiples of their lengths. -/
theorem rounding_finds_aligned_neighbours (unit : TimeUnit) :
    (∀ date, (∃ floored, floorDate unit date = .ok floored) ↔ ∃ starts, unit.starts? = some starts)
      ∧ (∀ starts, unit.starts? = some starts →
        (∀ (date : EpochDay) (k : Int), Encloses starts k date.toInt →
          ∃ s t, floorDate unit date = .ok s ∧ ceilDate unit date = .ok t
            ∧ s.toInt = starts k
            ∧ t.toInt = (if date.toInt = starts k then date.toInt else starts (k + 1))
            ∧ IsGreatest {x | floorDate unit x = .ok x ∧ x ≤ date} s
            ∧ IsLeast {x | floorDate unit x = .ok x ∧ date ≤ x} t)
        ∧ (∀ (d₁ d₂ : EpochDay) (k₁ k₂ : Int), d₁ ≤ d₂ → Encloses starts k₁ d₁.toInt →
          Encloses starts k₂ d₂.toInt →
          ∃ s₁ s₂ t₁ t₂, floorDate unit d₁ = .ok s₁ ∧ floorDate unit d₂ = .ok s₂ ∧ s₁ ≤ s₂
            ∧ ceilDate unit d₁ = .ok t₁ ∧ ceilDate unit d₂ = .ok t₂ ∧ t₁ ≤ t₂)
        ∧ ∀ (timestamp k : Int), Encloses starts k (timestamp / millisPerDay) →
          ∃ s t, floorTimestamp unit timestamp = .ok s ∧ ceilTimestamp unit timestamp = .ok t
            ∧ IsGreatest {x | floorTimestamp unit x = .ok x ∧ x ≤ timestamp} s
            ∧ IsLeast {x | floorTimestamp unit x = .ok x ∧ timestamp ≤ x} t)
      ∧ ∀ date : EpochDay,
        floorTimestamp unit (atDay date 0) = (atDay · 0) <$> floorDate unit date
          ∧ ceilTimestamp unit (atDay date 0) = (atDay · 0) <$> ceilDate unit date := by
  refine ⟨exists_floorDate_iff unit, fun starts h => ⟨fun date k hk => hk.neighbours h,
    fun d₁ d₂ k₁ k₂ hle hk₁ hk₂ => ?_, fun timestamp k hk => ?_⟩,
    fun date => ⟨floorTimestamp_atDay unit date, ceilTimestamp_atDay unit date⟩⟩
  · obtain ⟨s₁, t₁, hs₁, ht₁, -, -, hgreatest₁, hleast₁⟩ := hk₁.neighbours h
    obtain ⟨s₂, t₂, hs₂, ht₂, -, -, hgreatest₂, hleast₂⟩ := hk₂.neighbours h
    exact ⟨s₁, s₂, t₁, t₂, hs₁, hs₂,
      hgreatest₂.2 ⟨hgreatest₁.1.1, Int32.le_trans hgreatest₁.1.2 hle⟩,
      ht₁, ht₂, hleast₁.2 ⟨hleast₂.1.1, Int32.le_trans hle hleast₂.1.2⟩⟩
  · obtain ⟨moments, j, hrounds⟩ := hk.exists_roundsAmong h
    obtain ⟨hgreatest, hleast⟩ := isGreatest_and_isLeast_of_strictMono
      (fun x => floorTimestamp unit x = .ok x) hrounds.strictMono hrounds.exists_of_aligned
      hrounds.le hrounds.lt_next hrounds.start fun _ => hrounds.next
    exact ⟨_, _, hrounds.floor, hrounds.ceil, hgreatest, hleast⟩

/-- The last day of the year -1 is rounded to the Mondays around the year of weeks, and its noon to
centuries. -/
theorem rounding_finds_aligned_neighbours_before_the_year_zero :
    (Encloses firstMonday (-1) (-719529)
        ∧ ∃ s t, floorDate .isoYear (-719529) = .ok s ∧ ceilDate .isoYear (-719529) = .ok t
          ∧ s.toInt = firstMonday (-1) ∧ t.toInt = firstMonday 0
          ∧ IsGreatest {x | floorDate .isoYear x = .ok x ∧ x ≤ -719529} s
          ∧ IsLeast {x | floorDate .isoYear x = .ok x ∧ -719529 ≤ x} t)
      ∧ ∃ s t, floorTimestamp .century (-62167262400000) = .ok s
          ∧ ceilTimestamp .century (-62167262400000) = .ok t
          ∧ IsGreatest {x | floorTimestamp .century x = .ok x ∧ x ≤ -62167262400000} s
          ∧ IsLeast {x | floorTimestamp .century x = .ok x ∧ -62167262400000 ≤ x} t := by
  obtain ⟨-, hweeks, -⟩ := rounding_finds_aligned_neighbours .isoYear
  obtain ⟨-, hcenturies, -⟩ := rounding_finds_aligned_neighbours .century
  have hweek : Encloses firstMonday (-1) (-719529) :=
    ⟨by decide, by decide, by decide, by decide⟩
  have hcentury : Encloses (fun k => firstOfMonth (1200 * k + 12)) (-1)
      (-62167262400000 / millisPerDay) :=
    ⟨by decide, by decide, by decide, by decide⟩
  obtain ⟨s, t, hs, ht, hstart, hnext, hneighbours⟩ :=
    (hweeks firstMonday rfl).1 (-719529) (-1) hweek
  exact ⟨⟨hweek, s, t, hs, ht, hstart, hnext.trans (by decide), hneighbours⟩,
    (hcenturies _ rfl).2.2 _ _ hcentury⟩

end TypedRows.Calendar
