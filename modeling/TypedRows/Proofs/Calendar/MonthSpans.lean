import TypedRows.Proofs.Calendar.MonthStarts

/-!
# Adding months and counting them

A date some months later keeps its day of the month or, where that month is too short, takes the
last one. Counting the months between two dates undoes this but for the month that a shortened day
leaves incomplete, and brackets the later date between two numbers of months. Timestamps have their
time of day besides, so that the count may be a month less.

## Main definitions

* `TypedRows.Calendar.YearMonthDay.IsMonthsAfter` — the label some months after a label.
* `TypedRows.Calendar.FitsMonths` — the date some months later fits 32 bits.

## Main results

* `TypedRows.Calendar.FitsMonths.isMonthsAfter` — adding months finds that label.
* `TypedRows.Calendar.monthsBetween_addMonths` — the months between a date and one months later.
* `TypedRows.Calendar.addMonths_monthsBetween_le`, `TypedRows.Calendar.le_addMonths_monthsBetween` —
  the later date is bracketed.
* `TypedRows.Calendar.months_are_added_and_counted`
-/

set_option autoImplicit false

namespace TypedRows.Calendar

open YearMonthDay (ofEpochDay)

variable {a b date : EpochDay} {n : Int}

namespace YearMonthDay

variable {d e : YearMonthDay}

/-- **The label some months after a label**: so many months later, the same day of the month or the
last one of a shorter month. -/
structure IsMonthsAfter (d : YearMonthDay) (n : Int) (e : YearMonthDay) : Prop where
  one_le_month : 1 ≤ e.month
  month_le : e.month ≤ 12
  monthCount_eq : e.monthCount = d.monthCount + n
  day_eq : e.day = min d.day (daysInMonth e.year.toInt e.month)

namespace IsMonthsAfter

/-- There is only one such label. -/
lemma clampedDay_eq (h : d.IsMonthsAfter n e) : clampedDay (d.monthCount + n) d.day = e := by
  obtain ⟨hyear, hmonth⟩ := monthCount_parts h.one_le_month h.month_le
  have hday := h.day_eq
  rw [← h.monthCount_eq, clampedDay]
  simp only [hyear, hmonth, Int32.ofInt_toInt, ← hday]

/-- It names a day. -/
lemma isValid (h : d.IsMonthsAfter n e) (hday : 1 ≤ d.day) : e.IsValid := by
  have hlength := monthLength_pos e.monthCount
  obtain ⟨hyear, hmonth⟩ := monthCount_parts h.one_le_month h.month_le
  rw [monthLength, hyear, hmonth] at hlength
  refine ⟨h.one_le_month, h.month_le, ?_, ?_⟩ <;> rw [h.day_eq]
  · omega
  · exact min_le_right _ _

/-- Its day, counted without a bound. -/
lemma julianDay_eq (h : d.IsMonthsAfter n e) (hday : 1 ≤ d.day) :
    e.julianDay - epochJulianDay = firstOfMonth (d.monthCount + n)
      + (min d.day (monthLength (d.monthCount + n)) : Nat) - 1 := by
  have hvalid := h.isValid hday
  rw [hvalid.isDated.julianDay_eq, ← h.monthCount_eq, hvalid.monthLength_eq, ← h.day_eq]

end IsMonthsAfter

/-- A month in a year of 32 bits has such a label. -/
lemma isMonthsAfter_clampedDay (hlow : -2147483648 ≤ (d.monthCount + n) / 12)
    (hhigh : (d.monthCount + n) / 12 < 2147483648) :
    d.IsMonthsAfter n (clampedDay (d.monthCount + n) d.day) := by
  have hyear : (Int32.ofInt ((d.monthCount + n) / 12)).toInt = (d.monthCount + n) / 12 :=
    Int32.toInt_ofInt_of_le hlow hhigh
  refine ⟨?_, ?_, ?_, rfl⟩
  · simp only [clampedDay]
    omega
  · simp only [clampedDay]
    omega
  · simp only [clampedDay, monthCount, hyear] at hyear ⊢
    omega

end YearMonthDay

/-! ## Adding months -/

/-- The date some months later fits 32 bits. -/
def FitsMonths (date : EpochDay) (n : Int) : Prop :=
  ∃ e : YearMonthDay, (ofEpochDay date).IsMonthsAfter n e ∧ e.FitsEpochDay

/-- **Adding months finds the label** of the date that many months later. -/
lemma FitsMonths.isMonthsAfter (h : FitsMonths date n) :
    (ofEpochDay date).IsMonthsAfter n (ofEpochDay (addMonths date n)) := by
  obtain ⟨e, he, hfits⟩ := h
  have hvalid := he.isValid (day_ofEpochDay_bounds date).1
  rwa [addMonths, he.clampedDay_eq, hvalid.ofEpochDay_epochDay hfits]

/-- The date some months later, by the first day of its month. -/
lemma FitsMonths.toInt_addMonths (h : FitsMonths date n) :
    (addMonths date n).toInt = firstOfMonth ((ofEpochDay date).monthCount + n)
      + (min (ofEpochDay date).day (monthLength ((ofEpochDay date).monthCount + n)) : Nat) - 1 := by
  have hday := YearMonthDay.julianDay_ofEpochDay (addMonths date n)
  have hafter := h.isMonthsAfter.julianDay_eq (day_ofEpochDay_bounds date).1
  omega

/-- A date no later than a date, in no earlier month than the one it is counted from, fits 32
bits. -/
lemma fitsMonths_of_le (hn : 0 ≤ n)
    (hmonth : (ofEpochDay b).monthCount + n ≤ (ofEpochDay a).monthCount)
    (hday : firstOfMonth ((ofEpochDay b).monthCount + n)
      + (min (ofEpochDay b).day (monthLength ((ofEpochDay b).monthCount + n)) : Nat) - 1
        ≤ a.toInt) : FitsMonths b n := by
  have hb := day_ofEpochDay_bounds b
  have hafter : (ofEpochDay b).IsMonthsAfter n
      (clampedDay ((ofEpochDay b).monthCount + n) (ofEpochDay b).day) := by
    have hlow := (ofEpochDay b).year.le_toInt
    have hhigh := (ofEpochDay a).year.toInt_lt
    have ha := YearMonthDay.monthCount_parts (YearMonthDay.isValid_ofEpochDay a).1
      (YearMonthDay.isValid_ofEpochDay a).2.1
    have hyear := YearMonthDay.monthCount_parts (YearMonthDay.isValid_ofEpochDay b).1
      (YearMonthDay.isValid_ofEpochDay b).2.1
    exact YearMonthDay.isMonthsAfter_clampedDay (by omega) (by omega)
  refine ⟨_, hafter, ?_⟩
  have hmono := firstOfMonth_strictMono.monotone
    (show (ofEpochDay b).monthCount ≤ (ofEpochDay b).monthCount + n by omega)
  have hlow := b.le_toInt
  have hhigh := a.toInt_lt
  have htoInt := toInt_eq_firstOfMonth b
  rw [YearMonthDay.FitsEpochDay, hafter.julianDay_eq hb.1]
  rcases hn.eq_or_lt with rfl | hpos
  · rw [Int.add_zero] at hday ⊢
    omega
  · have hlater := firstOfMonth_add_length_le
      (show (ofEpochDay b).monthCount < (ofEpochDay b).monthCount + n by omega)
    omega

/-- Fewer months later fit as well. -/
lemma FitsMonths.of_le {m : Int} (h : FitsMonths date n) (h₀ : 0 ≤ m) (hm : m ≤ n) :
    FitsMonths date m := by
  have hday := day_ofEpochDay_bounds date
  have hlength := monthLength_pos ((ofEpochDay date).monthCount + n)
  refine fitsMonths_of_le (a := addMonths date n) h₀ ?_ ?_
  · rw [h.isMonthsAfter.monthCount_eq]
    omega
  · rw [h.toInt_addMonths]
    rcases hm.eq_or_lt with rfl | hlt
    · exact le_rfl
    · have hlater := firstOfMonth_add_length_le
        (show (ofEpochDay date).monthCount + m < (ofEpochDay date).monthCount + n by omega)
      omega

/-- No months later is the same date. -/
lemma fitsMonths_zero (date : EpochDay) : FitsMonths date 0 ∧ addMonths date 0 = date := by
  have hday := day_ofEpochDay_bounds date
  have hdate := toInt_eq_firstOfMonth date
  have hfits : FitsMonths date 0 := by
    refine fitsMonths_of_le (a := date) le_rfl (Int.add_zero _).le ?_
    rw [Int.add_zero]
    omega
  refine ⟨hfits, Int32.toInt_inj.1 ?_⟩
  rw [hfits.toInt_addMonths, Int.add_zero]
  omega

/-- More months later is a later date. -/
lemma addMonths_lt {m : Int} (hm : FitsMonths date m) (hn : FitsMonths date n) (h : m < n) :
    (addMonths date m).toInt < (addMonths date n).toInt := by
  have hlater := firstOfMonth_add_length_le
    (show (ofEpochDay date).monthCount + m < (ofEpochDay date).monthCount + n by omega)
  have hlength := monthLength_pos ((ofEpochDay date).monthCount + n)
  have hday := day_ofEpochDay_bounds date
  rw [hm.toInt_addMonths, hn.toInt_addMonths]
  omega

/-! ## Counting months -/

/-- The months to a date that is not earlier. -/
lemma monthsBetween_of_le (h : b.toInt ≤ a.toInt) :
    monthsBetween a b = wholeMonths (ofEpochDay a) (ofEpochDay b) := by
  rw [monthsBetween]
  exact if_neg (by rw [Int32.lt_iff_toInt_lt]; omega)

/-- **Months counted the other way** have the other sign. -/
lemma monthsBetween_neg (a b : EpochDay) : monthsBetween a b = -monthsBetween b a := by
  rcases lt_trichotomy a.toInt b.toInt with h | h | h
  · rw [monthsBetween_of_le h.le, monthsBetween]
    exact if_pos (Int32.lt_iff_toInt_lt.2 h)
  · obtain rfl := Int32.toInt_inj.1 h
    rw [monthsBetween_of_le le_rfl]
    simp [wholeMonths]
  · rw [monthsBetween_of_le h.le, monthsBetween, if_pos (Int32.lt_iff_toInt_lt.2 h), neg_neg]

/-- **The months to a date some months later** are as many, or one less when the day was shortened
on the way to a later month. -/
lemma monthsBetween_addMonths (h : FitsMonths date n) :
    monthsBetween (addMonths date n) date
      = if 0 < n ∧ (ofEpochDay (addMonths date n)).day < (ofEpochDay date).day then n - 1
        else n := by
  have hmonths := h.isMonthsAfter.monthCount_eq
  have hshort : (ofEpochDay (addMonths date n)).day ≤ (ofEpochDay date).day := by
    rw [h.isMonthsAfter.day_eq]
    exact min_le_left _ _
  rcases lt_trichotomy n 0 with hn | rfl | hn
  · have hle : (addMonths date n).toInt ≤ date.toInt := by
      have hlater := firstOfMonth_le_toInt (addMonths date n)
      have hdate := firstOfMonth_le_toInt date
      have hmono := firstOfMonth_strictMono.monotone
        (show (ofEpochDay (addMonths date n)).monthCount + 1 ≤ (ofEpochDay date).monthCount
          by omega)
      omega
    rw [monthsBetween_neg, monthsBetween_of_le hle, wholeMonths, hmonths, if_neg (by omega),
      if_neg (by omega)]
    omega
  · rw [(fitsMonths_zero date).2, monthsBetween_of_le le_rfl]
    simp [wholeMonths]
  · have hle : date.toInt ≤ (addMonths date n).toInt := by
      have hlater := firstOfMonth_le_toInt (addMonths date n)
      have hdate := firstOfMonth_le_toInt date
      have hmono := firstOfMonth_strictMono.monotone
        (show (ofEpochDay date).monthCount + 1 ≤ (ofEpochDay (addMonths date n)).monthCount
          by omega)
      omega
    rw [monthsBetween_of_le hle, wholeMonths, hmonths]
    split_ifs <;> omega

/-- No month lies back between a date and a later one. -/
lemma monthsBetween_nonneg (h : b.toInt ≤ a.toInt) : 0 ≤ monthsBetween a b := by
  have hmonth := monthCount_le_of_le h
  have ha := toInt_eq_firstOfMonth a
  have hb := toInt_eq_firstOfMonth b
  rw [monthsBetween_of_le h, wholeMonths]
  rcases hmonth.eq_or_lt with heq | hlt
  · rw [heq] at hb
    split_ifs <;> omega
  · split_ifs <;> omega

/-- **The months to a later date lead no further than to it.** -/
lemma addMonths_monthsBetween_le (h : b.toInt ≤ a.toInt) :
    FitsMonths b (monthsBetween a b)
      ∧ (addMonths b (monthsBetween a b)).toInt ≤ a.toInt := by
  have hn := monthsBetween_nonneg h
  have ha := toInt_eq_firstOfMonth a
  have hlength := day_ofEpochDay_bounds a
  have hcount : monthsBetween a b = wholeMonths (ofEpochDay a) (ofEpochDay b) :=
    monthsBetween_of_le h
  rw [wholeMonths] at hcount
  have hle : firstOfMonth ((ofEpochDay b).monthCount + monthsBetween a b)
      + (min (ofEpochDay b).day
        (monthLength ((ofEpochDay b).monthCount + monthsBetween a b)) : Nat) - 1 ≤ a.toInt := by
    split_ifs at hcount with hday
    · have hearlier := firstOfMonth_add_length_le
        (show (ofEpochDay b).monthCount + monthsBetween a b < (ofEpochDay a).monthCount by omega)
      omega
    · rw [show (ofEpochDay b).monthCount + monthsBetween a b = (ofEpochDay a).monthCount by omega]
      omega
  have hfits : FitsMonths b (monthsBetween a b) :=
    fitsMonths_of_le hn (by split_ifs at hcount <;> omega) hle
  exact ⟨hfits, hfits.toInt_addMonths ▸ hle⟩

/-- **One month more leads at least as far as the later date**, and to it only when it is the last
day of its month and the earlier date a later day of its own. -/
lemma le_addMonths_monthsBetween (h : b.toInt ≤ a.toInt)
    (hfits : FitsMonths b (monthsBetween a b + 1)) :
    a.toInt ≤ (addMonths b (monthsBetween a b + 1)).toInt
      ∧ (a = addMonths b (monthsBetween a b + 1)
        ↔ (ofEpochDay a).day = daysInMonth (ofEpochDay a).year.toInt (ofEpochDay a).month
          ∧ (ofEpochDay a).day < (ofEpochDay b).day) := by
  have ha := toInt_eq_firstOfMonth a
  have hlength := day_ofEpochDay_bounds a
  have hcount : monthsBetween a b = wholeMonths (ofEpochDay a) (ofEpochDay b) :=
    monthsBetween_of_le h
  rw [wholeMonths] at hcount
  rw [← Int32.toInt_inj, hfits.toInt_addMonths,
    ← (YearMonthDay.isValid_ofEpochDay a).monthLength_eq]
  split_ifs at hcount with hday
  · rw [show (ofEpochDay b).monthCount + (monthsBetween a b + 1) = (ofEpochDay a).monthCount by
      omega]
    omega
  · have hlater := firstOfMonth_add_length_le
      (show (ofEpochDay a).monthCount < (ofEpochDay b).monthCount + (monthsBetween a b + 1)
        by omega)
    have hpos := monthLength_pos ((ofEpochDay b).monthCount + (monthsBetween a b + 1))
    have hb := day_ofEpochDay_bounds b
    omega

/-! ## Timestamps -/

/-- The day of a timestamp fits 32 bits. -/
def FitsDay (timestamp : Int) : Prop :=
  -2147483648 ≤ timestamp / millisPerDay ∧ timestamp / millisPerDay < 2147483648

instance (timestamp : Int) : Decidable (FitsDay timestamp) := by
  unfold FitsDay; infer_instance

/-- Timestamps are in the order of their days and then of their times of day. -/
lemma atDay_le_atDay_iff {s t : Int} (hs₀ : 0 ≤ s) (hs₁ : s < millisPerDay) (ht₀ : 0 ≤ t)
    (ht₁ : t < millisPerDay) :
    atDay a s ≤ atDay b t ↔ a.toInt < b.toInt ∨ (a.toInt = b.toInt ∧ s ≤ t) := by
  unfold atDay millisPerDay at *
  omega

variable {t₀ t₁ : Int}

/-- The count of months between two timestamps is that between their days, or one less. -/
lemma monthsBetweenTimestamps_eq (t₀ t₁ : Int) :
    monthsBetweenTimestamps t₀ t₁ = monthsBetween (dayOf t₀) (dayOf t₁)
      - if addMonths (dayOf t₁) (monthsBetween (dayOf t₀) (dayOf t₁)) = dayOf t₀
          ∧ timeOfDay t₀ < timeOfDay t₁ then 1 else 0 := by
  simp only [monthsBetweenTimestamps]
  split_ifs <;> omega

/-- **The counts in both directions** cancel or fall short of it by one. -/
lemma monthsBetweenTimestamps_add (t₀ t₁ : Int) :
    monthsBetweenTimestamps t₀ t₁ + monthsBetweenTimestamps t₁ t₀ = 0
      ∨ monthsBetweenTimestamps t₀ t₁ + monthsBetweenTimestamps t₁ t₀ = -1 := by
  have hdays := monthsBetween_neg (dayOf t₀) (dayOf t₁)
  rw [monthsBetweenTimestamps_eq, monthsBetweenTimestamps_eq]
  split_ifs <;> omega

/-- **The months between timestamps bracket the later one.** -/
lemma monthsBetweenTimestamps_bracket (h₀ : FitsDay t₀) (h₁ : FitsDay t₁) (h : t₁ ≤ t₀) :
    0 ≤ monthsBetweenTimestamps t₀ t₁
      ∧ addMonthsToTimestamp t₁ (monthsBetweenTimestamps t₀ t₁) ≤ t₀
      ∧ (FitsMonths (dayOf t₁) (monthsBetweenTimestamps t₀ t₁ + 2) →
        t₀ < addMonthsToTimestamp t₁ (monthsBetweenTimestamps t₀ t₁ + 2)) := by
  have htime (t : Int) := timeOfDay_nonneg t
  have htime' (t : Int) := timeOfDay_lt t
  have hsplit₀ : atDay (dayOf t₀) (timeOfDay t₀) = t₀ := atDay_dayOf h₀.1 h₀.2
  have hsplit₁ : atDay (dayOf t₁) (timeOfDay t₁) = t₁ := atDay_dayOf h₁.1 h₁.2
  have horder : (dayOf t₁).toInt < (dayOf t₀).toInt
      ∨ ((dayOf t₁).toInt = (dayOf t₀).toInt ∧ timeOfDay t₁ ≤ timeOfDay t₀) := by
    rwa [← atDay_le_atDay_iff (htime _) (htime' _) (htime _) (htime' _), hsplit₀, hsplit₁]
  have hday : (dayOf t₁).toInt ≤ (dayOf t₀).toInt := by omega
  obtain ⟨hfits, hle⟩ := addMonths_monthsBetween_le hday
  have hupper := fun hfits => (le_addMonths_monthsBetween hday hfits).1
  have hn := monthsBetween_nonneg hday
  have hcount := monthsBetweenTimestamps_eq t₀ t₁
  generalize monthsBetweenTimestamps t₀ t₁ = m at hcount ⊢
  generalize monthsBetween (dayOf t₀) (dayOf t₁) = n at *
  -- both sides of the bracket are compared by their days, then by their times of day
  have hbelow (k : Int) : addMonthsToTimestamp t₁ k ≤ t₀
      ↔ (addMonths (dayOf t₁) k).toInt < (dayOf t₀).toInt
        ∨ ((addMonths (dayOf t₁) k).toInt = (dayOf t₀).toInt ∧ timeOfDay t₁ ≤ timeOfDay t₀) := by
    rw [← atDay_le_atDay_iff (htime _) (htime' _) (htime _) (htime' _), hsplit₀]
    rfl
  rw [← not_le, hbelow, hbelow]
  split_ifs at hcount with hincomplete <;> rw [← Int32.toInt_inj] at hincomplete
  · -- the last month is completed by the date and not by the time of day
    have hpos : n ≠ 0 := by
      rintro rfl
      rw [(fitsMonths_zero _).2] at hincomplete
      omega
    have hshorter := addMonths_lt (hfits.of_le (by omega) (by omega)) hfits (show m < n by omega)
    refine ⟨by omega, by omega, fun hmore => ?_⟩
    have hlonger := addMonths_lt hfits hmore (show n < m + 2 by omega)
    omega
  · obtain rfl : m = n := by omega
    refine ⟨hn, by omega, fun hmore => ?_⟩
    have hnext := hmore.of_le (show 0 ≤ m + 1 by omega) (by omega)
    have hlonger := addMonths_lt hnext hmore (by omega)
    have hreached := hupper hnext
    omega

/-! ## Adding and counting -/

/-- **Months are added and counted.** The date some months later has the label that many months
later, when it fits 32 bits, and the months to it are as many, or one less exactly when a later
month shortened the day. The months between two dates have the other sign when they are counted the
other way; to a date that is not earlier there are so many that it lies between the dates that many
months and one month more after the first, and it is the second of these only as the last day of a
month that shortened the day. Timestamps are bracketed by the months between them and two more, and
the counts in both directions add up to zero or to minus one.

**Proof sketch.** A date is a month and a day of it, and the first days of the months ascend. Hence
dates in different months are in the order of their months, and within a month the days decide. -/
theorem months_are_added_and_counted :
    (∀ (date : EpochDay) (n : Int), FitsMonths date n →
        (ofEpochDay date).IsMonthsAfter n (ofEpochDay (addMonths date n))
        ∧ monthsBetween (addMonths date n) date
          = if 0 < n ∧ (ofEpochDay (addMonths date n)).day < (ofEpochDay date).day then n - 1
            else n)
      ∧ (∀ a b : EpochDay, monthsBetween a b = -monthsBetween b a)
      ∧ (∀ a b : EpochDay, b ≤ a → 0 ≤ monthsBetween a b
        ∧ (FitsMonths b (monthsBetween a b) ∧ addMonths b (monthsBetween a b) ≤ a)
        ∧ (FitsMonths b (monthsBetween a b + 1) → a ≤ addMonths b (monthsBetween a b + 1)
          ∧ (a = addMonths b (monthsBetween a b + 1)
            ↔ (ofEpochDay a).day = daysInMonth (ofEpochDay a).year.toInt (ofEpochDay a).month
              ∧ (ofEpochDay a).day < (ofEpochDay b).day)))
      ∧ (∀ t₀ t₁ : Int, FitsDay t₀ → FitsDay t₁ → t₁ ≤ t₀ → 0 ≤ monthsBetweenTimestamps t₀ t₁
        ∧ addMonthsToTimestamp t₁ (monthsBetweenTimestamps t₀ t₁) ≤ t₀
        ∧ (FitsMonths (dayOf t₁) (monthsBetweenTimestamps t₀ t₁ + 2) →
          t₀ < addMonthsToTimestamp t₁ (monthsBetweenTimestamps t₀ t₁ + 2)))
      ∧ ∀ t₀ t₁ : Int, monthsBetweenTimestamps t₀ t₁ + monthsBetweenTimestamps t₁ t₀ = 0
        ∨ monthsBetweenTimestamps t₀ t₁ + monthsBetweenTimestamps t₁ t₀ = -1 := by
  refine ⟨fun date n h => ⟨h.isMonthsAfter, monthsBetween_addMonths h⟩, monthsBetween_neg,
    fun a b h => ?_, fun t₀ t₁ => monthsBetweenTimestamps_bracket, monthsBetweenTimestamps_add⟩
  rw [Int32.le_iff_toInt_le] at h
  obtain ⟨hfits, hle⟩ := addMonths_monthsBetween_le h
  refine ⟨monthsBetween_nonneg h, ⟨hfits, Int32.le_iff_toInt_le.2 hle⟩, fun hmore => ?_⟩
  rw [Int32.le_iff_toInt_le]
  exact le_addMonths_monthsBetween h hmore

/-- From the last of January, and from noon of that day, to the leap day of 2016: one month was
shortened, so that it is not counted. -/
theorem months_are_added_and_counted_to_a_leap_day :
    (FitsMonths 16831 1 ∧ addMonths 16831 1 = 16860
        ∧ (ofEpochDay 16831).IsMonthsAfter 1 (ofEpochDay (addMonths 16831 1))
        ∧ monthsBetween (addMonths 16831 1) 16831 = 0)
      ∧ ((16831 : EpochDay) ≤ 16860 ∧ monthsBetween 16860 16831 = 0
        ∧ addMonths 16831 (monthsBetween 16860 16831) ≤ 16860
        ∧ (16860 = addMonths 16831 (monthsBetween 16860 16831 + 1)
          ↔ (ofEpochDay 16860).day = 29 ∧ (ofEpochDay 16860).day < (ofEpochDay 16831).day))
      ∧ FitsDay 1456704000000 ∧ FitsDay 1454241600000 ∧ (1454241600000 : Int) ≤ 1456704000000
      ∧ addMonthsToTimestamp 1454241600000 (monthsBetweenTimestamps 1456704000000 1454241600000)
        ≤ 1456704000000
      ∧ FitsMonths (dayOf 1454241600000) 2
      ∧ 1456704000000 < addMonthsToTimestamp 1454241600000
        (monthsBetweenTimestamps 1456704000000 1454241600000 + 2) := by
  obtain ⟨hadd, -, hdates, htimes, -⟩ := months_are_added_and_counted
  have hnext : FitsMonths 16831 1 :=
    ⟨⟨2016, 2, 29⟩, ⟨by decide, by decide, by decide, by decide⟩, by decide⟩
  have hlater : FitsMonths 16831 2 :=
    ⟨⟨2016, 3, 31⟩, ⟨by decide, by decide, by decide, by decide⟩, by decide⟩
  have hcount : monthsBetween 16860 16831 = 0 := by decide
  have hcount' : monthsBetweenTimestamps 1456704000000 1454241600000 = 0 := by decide
  have hday : dayOf 1454241600000 = 16831 := by decide
  have hle : (16831 : EpochDay) ≤ 16860 := by decide
  obtain ⟨hlabel, hback⟩ := hadd 16831 1 hnext
  obtain ⟨-, ⟨-, hbelow⟩, habove⟩ := hdates 16860 16831 hle
  obtain ⟨-, hbelow', habove'⟩ := htimes 1456704000000 1454241600000 (by decide) (by decide)
    (by decide)
  refine ⟨⟨hnext, by decide, hlabel, hback.trans (by decide)⟩,
    ⟨hle, hcount, hbelow, (habove (hcount ▸ hnext)).2⟩, by decide, by decide, by decide, hbelow',
    hday ▸ hlater, habove' ?_⟩
  rw [hcount', hday]
  exact hlater

end TypedRows.Calendar
