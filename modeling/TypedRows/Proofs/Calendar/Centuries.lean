import TypedRows.Proofs.Calendar.Periods

/-!
# The numbers of centuries and millennia

Centuries and millennia are rounded in periods of as many years that follow each other from year 1
on, and backwards through year 0. After year 0 their numbers are those of the periods. Before year 1
a year that is a multiple of the span ends its period, but it has the number of the period after it:
year 0 has the number 0, which names no period, and the year -100 that of the first century before
year 1, from which rounding keeps it apart.

## Main definitions

* `TypedRows.Calendar.TimeUnit.yearsFromOne?` — the spans that are counted from year 1 on.
* `TypedRows.Calendar.firstOfSpan` — the first day of the period of a date.
* `TypedRows.Calendar.MeetAtMultiple` — two years that numbers and rounding tell apart differently.

## Main results

* `TypedRows.Calendar.periodOfYear_eq` — the number of a year, by the period that it lies in.
* `TypedRows.Calendar.exists_floorDate_of_span` — dates are rounded down to their periods.
* `TypedRows.Calendar.numbers_follow_rounding_iff`
-/

set_option autoImplicit false

namespace TypedRows.Calendar

open YearMonthDay (ofEpochDay)

/-- The years of the units whose periods are counted from year 1 on. -/
def TimeUnit.yearsFromOne? : TimeUnit → Option Int
  | .century => some 100
  | .millennium => some 1000
  | _ => none

/-- The first day of the period of `span` years that a date lies in, in days since 1970-01-01. -/
def firstOfSpan (span : Int) (date : EpochDay) : Int :=
  firstOfMonth (12 * (span * (((ofEpochDay date).year.toInt - 1) / span) + 1))

/-- Two years before year 1 that are less than a span apart, one of them alone a multiple of it. -/
def MeetAtMultiple (span a b : Int) : Prop :=
  a ≤ 0 ∧ b ≤ 0 ∧ (a - b).natAbs < span ∧ ¬ (span ∣ a ↔ span ∣ b)

instance (span a b : Int) : Decidable (MeetAtMultiple span a b) := by
  unfold MeetAtMultiple; infer_instance

variable {unit : TimeUnit} {span : Int}

/-- The units that are counted from year one are centuries and millennia. -/
lemma unit_and_span (h : unit.yearsFromOne? = some span) :
    (unit = .century ∧ span = 100) ∨ (unit = .millennium ∧ span = 1000) := by
  cases unit <;> simp_all [TimeUnit.yearsFromOne?]

/-! ## Numbers -/

/-- **The number of a year** is that of its period, counted from 0 on, and one more after year 0 and
for multiples of the span. -/
lemma periodOfYear_eq (h : unit.yearsFromOne? = some span) (year : Int) :
    periodOfYear span year = (year - 1) / span + if 0 < year ∨ span ∣ year then 1 else 0 := by
  have hround (n : Int) (hn : n ≤ 0) : n.tdiv span = -(-n / span) := by
    rw [← Int.neg_neg n, Int.neg_tdiv, Int.tdiv_eq_ediv_of_nonneg (by omega), Int.neg_neg]
  rw [periodOfYear]
  by_cases hyear : 0 < year
  · rw [if_pos hyear, if_pos (.inl hyear)]
    obtain ⟨-, rfl⟩ | ⟨-, rfl⟩ := unit_and_span h
    all_goals
      rw [Int.tdiv_eq_ediv_of_nonneg (by omega)]
      omega
  · rw [if_neg hyear]
    obtain ⟨-, rfl⟩ | ⟨-, rfl⟩ := unit_and_span h
    all_goals
      rw [hround _ (by omega)]
      split_ifs <;> omega

/-- Only year 0 has the number 0. -/
lemma periodOfYear_eq_zero_iff (h : unit.yearsFromOne? = some span) (year : Int) :
    periodOfYear span year = 0 ↔ year = 0 := by
  rw [periodOfYear_eq h]
  obtain ⟨-, rfl⟩ | ⟨-, rfl⟩ := unit_and_span h <;> split_ifs <;> omega

/-- Two years have one number exactly when they lie in one period, unless they meet at a multiple of
the span. -/
lemma sameNumber_iff_samePeriod_iff (h : unit.yearsFromOne? = some span) (a b : Int) :
    (periodOfYear span a = periodOfYear span b ↔ (a - 1) / span = (b - 1) / span)
      ↔ ¬ MeetAtMultiple span a b := by
  rw [periodOfYear_eq h, periodOfYear_eq h, MeetAtMultiple]
  obtain ⟨-, rfl⟩ | ⟨-, rfl⟩ := unit_and_span h <;> split_ifs <;> omega

/-- The century or millennium of a date is the one of its year. -/
lemma extractFromDate_eq_periodOfYear (h : unit.yearsFromOne? = some span) (date : EpochDay) :
    extractFromDate unit date = periodOfYear span (ofEpochDay date).year.toInt := by
  obtain ⟨rfl, rfl⟩ | ⟨rfl, rfl⟩ := unit_and_span h <;> rfl

/-! ## Rounding -/

/-- A date does not lie before its period. -/
lemma firstOfSpan_le (h : unit.yearsFromOne? = some span) (date : EpochDay) :
    firstOfSpan span date ≤ date.toInt := by
  refine (firstOfMonth_strictMono.monotone ?_).trans (firstOfYear_le_toInt date).1
  obtain ⟨-, rfl⟩ | ⟨-, rfl⟩ := unit_and_span h <;> omega

/-- **Dates are rounded down to the first days of their periods** when these fit 32 bits. -/
lemma exists_floorDate_of_span (h : unit.yearsFromOne? = some span) {date : EpochDay}
    (hfits : -2147483648 ≤ firstOfSpan span date) :
    ∃ start, floorDate unit date = .ok start ∧ start.toInt = firstOfSpan span date := by
  have hle := firstOfSpan_le h date
  have hhigh := date.toInt_lt
  have hyear := year_ofEpochDay_bounds date
  refine ⟨.ofInt (firstOfSpan span date), ?_, Int32.toInt_ofInt_of_le hfits (by omega)⟩
  obtain ⟨rfl, rfl⟩ | ⟨rfl, rfl⟩ := unit_and_span h
  all_goals
    rw [floorDate, newYear_eq (by omega) (by omega), firstOfSpan, Except.ok.injEq]
    congr 3
    omega

/-- Dates lie in one period exactly when their years do. -/
lemma firstOfSpan_eq_iff (h : unit.yearsFromOne? = some span) (d₁ d₂ : EpochDay) :
    firstOfSpan span d₁ = firstOfSpan span d₂
      ↔ ((ofEpochDay d₁).year.toInt - 1) / span = ((ofEpochDay d₂).year.toInt - 1) / span := by
  rw [firstOfSpan, firstOfSpan, firstOfMonth_strictMono.injective.eq_iff]
  obtain ⟨-, rfl⟩ | ⟨-, rfl⟩ := unit_and_span h <;> omega

/-! ## Numbers and rounding -/

/-- **Numbers of centuries and millennia and their rounding.** A date has the number 0 exactly when
its year is 0. Dates whose periods begin on days of 32 bits are rounded down to these days. Two such
dates are taken for members of one period by their numbers exactly when they are by rounding, unless
both years are before year 1 and less than a span apart and exactly one of them is a multiple of the
span.

**Proof sketch.** The number of a year is that of its period but for the one that is added after
year 0 and for multiples of the span, and first days ascend, so that both compare periods. -/
theorem numbers_follow_rounding_iff (h : unit.yearsFromOne? = some span) :
    (∀ date, extractFromDate unit date ≠ 0 ↔ (ofEpochDay date).year ≠ 0)
      ∧ (∀ date, -2147483648 ≤ firstOfSpan span date →
        ∃ start, floorDate unit date = .ok start ∧ start.toInt = firstOfSpan span date)
      ∧ ∀ d₁ d₂, -2147483648 ≤ firstOfSpan span d₁ → -2147483648 ≤ firstOfSpan span d₂ →
        ((extractFromDate unit d₁ = extractFromDate unit d₂
            ↔ floorDate unit d₁ = floorDate unit d₂)
          ↔ ¬ MeetAtMultiple span (ofEpochDay d₁).year.toInt (ofEpochDay d₂).year.toInt) := by
  refine ⟨fun date => ?_, fun date hfits => exists_floorDate_of_span h hfits,
    fun d₁ d₂ hfits₁ hfits₂ => ?_⟩
  · have hzero : (0 : Int32).toInt = 0 := rfl
    rw [extractFromDate_eq_periodOfYear h, not_iff_not, periodOfYear_eq_zero_iff h,
      ← Int32.toInt_inj, hzero]
  · obtain ⟨s₁, hfloor₁, hs₁⟩ := exists_floorDate_of_span h hfits₁
    obtain ⟨s₂, hfloor₂, hs₂⟩ := exists_floorDate_of_span h hfits₂
    have hrounded : floorDate unit d₁ = floorDate unit d₂
        ↔ ((ofEpochDay d₁).year.toInt - 1) / span = ((ofEpochDay d₂).year.toInt - 1) / span := by
      rw [hfloor₁, hfloor₂, Except.ok.injEq, ← Int32.toInt_inj, hs₁, hs₂, firstOfSpan_eq_iff h]
    rw [hrounded, extractFromDate_eq_periodOfYear h, extractFromDate_eq_periodOfYear h,
      sameNumber_iff_samePeriod_iff h]

/-- The last day of the year 2000 and the first of 2001 have different centuries, and are rounded to
different ones. -/
theorem numbers_follow_rounding_into_a_millennium :
    TimeUnit.century.yearsFromOne? = some 100
      ∧ -2147483648 ≤ firstOfSpan 100 11322 ∧ -2147483648 ≤ firstOfSpan 100 11323
      ∧ extractFromDate .century 11322 ≠ 0
      ∧ extractFromDate .century 11322 ≠ extractFromDate .century 11323
      ∧ floorDate .century 11322 ≠ floorDate .century 11323 := by
  have hspan : TimeUnit.century.yearsFromOne? = some 100 := rfl
  have hfits₁ : -2147483648 ≤ firstOfSpan 100 11322 := by decide
  have hfits₂ : -2147483648 ≤ firstOfSpan 100 11323 := by decide
  obtain ⟨hzero, -, hagree⟩ := numbers_follow_rounding_iff hspan
  have hdiffer : extractFromDate .century 11322 ≠ extractFromDate .century 11323 := by decide
  exact ⟨hspan, hfits₁, hfits₂, (hzero 11322).2 (by decide), hdiffer,
    fun heq => hdiffer (((hagree _ _ hfits₁ hfits₂).2 (by decide)).2 heq)⟩

/-- The first day of year 0 has the century and the millennium 0. The first day of the year -1 has
other numbers, although both are rounded to the same periods. -/
theorem year_zero_has_number_zero :
    ofEpochDay (-719528) = ⟨0, 1, 1⟩ ∧ ofEpochDay (-719893) = ⟨-1, 1, 1⟩
      ∧ extractFromDate .century (-719528) = 0 ∧ extractFromDate .century (-719893) = -1
      ∧ floorDate .century (-719528) = .ok (newYear (-99))
      ∧ floorDate .century (-719893) = .ok (newYear (-99))
      ∧ ofEpochDay (newYear (-99)) = ⟨-99, 1, 1⟩
      ∧ extractFromDate .millennium (-719528) = 0 ∧ extractFromDate .millennium (-719893) = -1
      ∧ floorDate .millennium (-719528) = .ok (newYear (-999))
      ∧ floorDate .millennium (-719893) = .ok (newYear (-999))
      ∧ ofEpochDay (newYear (-999)) = ⟨-999, 1, 1⟩ := by
  decide

end TypedRows.Calendar
