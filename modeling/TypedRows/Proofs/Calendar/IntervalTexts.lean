import Mathlib.Tactic.IntervalCases
import TypedRows.Proofs.Calendar.NearestMultiples

/-!
# The counts that interval texts show

The text of an interval is a sign and the digits of a number in mixed radix: hours are shown below
24, minutes and seconds below 60, months below 12, and digits of a second as they are. The number is
the count of the interval, without its sign, rounded to the finest unit that is shown, halves down.
Only the least 64-bit count has a size that is no such count; it is shown with the size of the
greatest one, which no unit but the millisecond tells from its own.

## Main definitions

* `TypedRows.Calendar.Place` — the fields after the leading one.
* `TypedRows.Calendar.WritesFields`, `TypedRows.Calendar.fieldsOf` — the number that fields write,
  and the fields of a number.
* `TypedRows.Calendar.Qualifier.family?`, `TypedRows.Calendar.Qualifier.places`,
  `TypedRows.Calendar.Qualifier.resolution` — the intervals a qualifier is for, the fields that it
  shows and the finest unit of them.
* `TypedRows.Calendar.ShowsCount` — the number that the text of an interval shows.

## Main results

* `TypedRows.Calendar.writesFields_fieldsOf`, `TypedRows.Calendar.WritesFields.unique` — the fields
  of a number write it, and no other one.
* `TypedRows.Calendar.exists_dayTimeText`, `TypedRows.Calendar.exists_yearMonthText` — the number
  that a text shows.
* `TypedRows.Calendar.roundTo_magnitude` — when the least count is not told from the size that it is
  shown with.
* `TypedRows.Calendar.interval_texts_show_rounded_counts`
-/

set_option autoImplicit false

namespace TypedRows.Calendar

/-! ## Numbers in mixed radix -/

/-- A field after the leading one: what it stands after, how many digits it has and what its number
is below. Digits of that width write every number below it. -/
structure Place where
  separator : Char
  width : Nat
  radix : Nat
  width_pos : 0 < width
  radix_pos : 0 < radix
  radix_le : radix ≤ 10 ^ width

namespace Place

/-- Months of a year. -/
def month : Place := ⟨'-', 2, 12, by decide, by decide, by decide⟩

/-- Hours of a day. -/
def hour : Place := ⟨' ', 2, 24, by decide, by decide, by decide⟩

/-- Minutes of an hour. -/
def minute : Place := ⟨':', 2, 60, by decide, by decide, by decide⟩

/-- Seconds of a minute. -/
def second : Place := ⟨':', 2, 60, by decide, by decide, by decide⟩

/-- Digits of a second, at least one. -/
def fraction (digits : Nat) (hdigits : 0 < digits) : Place :=
  ⟨'.', digits, 10 ^ digits, hdigits, Nat.pow_pos (by decide), le_rfl⟩

/-- Digits of a second, if there are any. -/
def fraction? : (digits : Nat) → Option Place
  | 0 => none
  | more + 1 => some (fraction (more + 1) (Nat.succ_pos more))

end Place

/-- Fields write a number in mixed radix: the leading one has no zeros in front, each later one has
as many digits as its place has, and a number below the radix. The finest place stands first. -/
inductive WritesFields : List Place → List Char → Nat → Prop where
  | leading (n : Nat) : WritesFields [] (Nat.toDigits 10 n) n
  | later {places : List Place} {cs field : List Char} {n : Nat} (p : Place) :
    WritesFields places cs n → field.length = p.width → (∀ c ∈ field, c.isDigit = true) →
    Nat.ofDigitChars 10 field 0 < p.radix →
    WritesFields (p :: places) (cs ++ p.separator :: field)
      (n * p.radix + Nat.ofDigitChars 10 field 0)

section Fields

variable {places : List Place} {cs : List Char} {n n' : Nat}

/-- **Fields write one number at most.**

**Proof sketch.** By induction on the places: the last field has the width of its place, so that the
same characters are left for the fields before it. -/
lemma WritesFields.unique (h : WritesFields places cs n) (h' : WritesFields places cs n') :
    n = n' := by
  induction h generalizing n' with
  | leading n =>
    generalize hcs : Nat.toDigits 10 n = cs at h'
    cases h' with
    | leading n' =>
      have hvalue := congrArg (Nat.ofDigitChars 10 · 0) hcs
      simpa only [Nat.ofDigitChars_ten_toDigits] using hvalue
  | @later places cs field n p _ hlength _ _ ih =>
    generalize hcs : cs ++ p.separator :: field = ds at h'
    cases h' with
    | @later _ cs' field' n' _ h' hlength' _ _ =>
      obtain ⟨rfl, hfield⟩ := List.append_inj' hcs (by simp [hlength, hlength'])
      obtain ⟨-, rfl⟩ := List.cons.inj hfield
      rw [ih h']

/-- The fields of a number: each takes the remainder by its radix from what the finer ones leave. -/
def fieldsOf : List Place → Nat → List Char
  | [], n => Text.padded 1 n
  | p :: places, n =>
    fieldsOf places (n / p.radix) ++ p.separator :: Text.padded p.width (n % p.radix)

/-- **The fields of a number write it.** -/
lemma writesFields_fieldsOf (places : List Place) (n : Nat) :
    WritesFields places (fieldsOf places n) n := by
  induction places generalizing n with
  | nil =>
    have hpos : 0 < (Nat.toDigits 10 n).length := Nat.length_toDigits_pos
    have hnone : 1 - (Nat.toDigits 10 n).length = 0 := by omega
    rw [fieldsOf, Text.padded, List.leftpad, hnone]
    exact .leading n
  | cons p places ih =>
    have hlt : n % p.radix < p.radix := Nat.mod_lt _ p.radix_pos
    have hlater := WritesFields.later p (ih (n / p.radix))
      (Text.length_padded p.width_pos (Nat.lt_of_lt_of_le hlt p.radix_le))
      (fun c hc => Text.isDigit_of_mem_padded hc) (by rwa [Text.ofDigitChars_padded])
    rwa [Text.ofDigitChars_padded, Nat.div_add_mod'] at hlater

/-- Digits of a second are cut off after some of them. -/
lemma WritesFields.fraction {exact digits : Nat} (hdigits : digits ≤ maxPrecision)
    (h : WritesFields places cs (exact / 1000)) :
    WritesFields ((Place.fraction? digits).toList ++ places)
      (cs ++ fractionChars digits (exact % 1000 : Nat))
      (exact / 10 ^ (maxPrecision - digits)) := by
  cases digits with
  | zero => simpa [Place.fraction?, fractionChars, maxPrecision] using h
  | succ more =>
    have hlength : (Text.padded 3 (exact % 1000)).length = 3 :=
      Text.length_padded (by decide) (Nat.mod_lt _ (by decide))
    have hdigit : ∀ c ∈ Text.padded 3 (exact % 1000), c.isDigit = true :=
      fun c hc => Text.isDigit_of_mem_padded hc
    have hvalue := ofDigitChars_take hdigit (more + 1)
    rw [Text.ofDigitChars_padded, hlength] at hvalue
    have hmore : more ≤ 2 := Nat.le_of_succ_le_succ hdigits
    have hlt : exact % 1000 / 10 ^ (3 - (more + 1)) < 10 ^ (more + 1) := by
      interval_cases more <;> omega
    have hsum : exact / 1000 * 10 ^ (more + 1) + exact % 1000 / 10 ^ (3 - (more + 1))
        = exact / 10 ^ (3 - (more + 1)) := by
      interval_cases more <;> omega
    rw [← hvalue] at hlt hsum
    rw [maxPrecision, ← hsum]
    refine .later (Place.fraction (more + 1) (Nat.succ_pos more)) h ?_ ?_ hlt
    · exact List.length_take_of_le (hdigits.trans hlength.ge)
    · exact fun c hc => hdigit c (List.mem_of_mem_take hc)

end Fields

/-! ## Qualifiers -/

namespace Qualifier

/-- The family of intervals that a qualifier is for, if it is for any. -/
def family? (q : Qualifier) : Option IntervalFamily :=
  match q.leading with
  | .year | .month => some .yearMonth
  | .day | .hour | .minute | .second => some .dayTime
  | _ => none

/-- The unit of the last field but for digits of a second. -/
def finest (q : Qualifier) : TimeUnit :=
  q.trailing.getD q.leading

/-- The counts of an interval in the finest unit that is shown, which are months or milliseconds. -/
def resolution (q : Qualifier) (scale : Nat) : Nat :=
  match q.finest with
  | .year => 12
  | .day => 86400000
  | .hour => 3600000
  | .minute => 60000
  | .second => 10 ^ (maxPrecision - min scale maxPrecision)
  | _ => 1

/-- The fields for whole units after the leading one, the finest first. -/
def wholePlaces : Qualifier → List Place
  | single _ => []
  | yearToMonth => [.month]
  | dayToHour => [.hour]
  | dayToMinute => [.minute, .hour]
  | dayToSecond => [.second, .minute, .hour]
  | hourToMinute => [.minute]
  | hourToSecond => [.second, .minute]
  | minuteToSecond => [.second]

/-- The fields after the leading one, the finest first; `scale` digits of a second, but no more than
three, end those that end in seconds. -/
def places (q : Qualifier) (scale : Nat) : List Place :=
  if q.finest = .second then (Place.fraction? (min scale maxPrecision)).toList ++ q.wholePlaces
  else q.wholePlaces

/-- The qualifiers of year-month intervals. -/
lemma eq_of_family?_yearMonth {q : Qualifier} (hq : q.family? = some .yearMonth) :
    q = .single .year ∨ q = .single .month ∨ q = .yearToMonth := by
  cases q with
  | single unit =>
    cases unit with
    | year | month => decide
    | _ => cases hq
  | yearToMonth => decide
  | _ => cases hq

end Qualifier

/-- A text shows a number: the sign is a minus exactly for a count below zero, and the fields of the
qualifier write the number. -/
def ShowsCount (text : String) (count : Int) (q : Qualifier) (scale n : Nat) : Prop :=
  ∃ fields, text.toList = (if count < 0 then '-' else '+') :: fields
    ∧ WritesFields (q.places scale) fields n

/-- A text shows one number at most. -/
lemma ShowsCount.unique {text : String} {count : Int} {q : Qualifier} {scale n n' : Nat}
    (h : ShowsCount text count q scale n) (h' : ShowsCount text count q scale n') : n = n' := by
  obtain ⟨fields, htext, hwrites⟩ := h
  obtain ⟨fields', htext', hwrites'⟩ := h'
  obtain ⟨-, rfl⟩ := List.cons.inj (htext.symm.trans htext')
  exact hwrites.unique hwrites'

/-! ## The texts -/

section Texts

variable {q : Qualifier}

/-- Whole units are not rounded. -/
lemma roundTo_one (v : Nat) : roundTo v 1 = v := by
  simp [roundTo, Nat.mod_one]

/-- A year-month interval. -/
lemma yearMonthText_eq (months : Int) (scale : Nat) (hq : q.family? = some .yearMonth) :
    yearMonthText months q = .ok (String.ofList (signChar months :: fieldsOf (q.places scale)
      (roundTo (magnitude months) (q.resolution scale) / q.resolution scale))) := by
  rcases Qualifier.eq_of_family?_yearMonth hq with rfl | rfl | rfl
  · rfl
  · have hone : (Qualifier.single .month).resolution scale = 1 := rfl
    rw [hone, roundTo_one, Nat.div_one]
    rfl
  · have hone : Qualifier.yearToMonth.resolution scale = 1 := rfl
    rw [hone, roundTo_one, Nat.div_one]
    rfl

/-- A day-time interval without digits of a second. -/
lemma dayTimeText_of_finest_ne (millis : Int) (scale : Nat) (hq : q.family? = some .dayTime)
    (hfinest : q.finest ≠ .second) :
    dayTimeText millis q scale = .ok (String.ofList (signChar millis :: fieldsOf q.wholePlaces
      (roundTo (magnitude millis) (q.resolution scale) / q.resolution scale))) := by
  cases q with
  | single unit =>
    cases unit with
    | day | hour | minute => rfl
    | second => exact absurd rfl hfinest
    | _ => cases hq
  | dayToHour | hourToMinute => rfl
  | dayToMinute =>
    have hdays (minutes : Nat) : minutes / 1440 = minutes / 60 / 24 := by omega
    rw [dayTimeText, hdays]
    rfl
  | dayToSecond | hourToSecond | minuteToSecond => exact absurd rfl hfinest
  | yearToMonth => cases hq

/-- A day-time interval that ends in seconds. -/
lemma dayTimeText_of_finest_eq (millis : Int) (scale : Nat) (hfinest : q.finest = .second) :
    dayTimeText millis q scale = .ok (String.ofList (signChar millis ::
      (fieldsOf q.wholePlaces (roundTo (magnitude millis) (q.resolution scale) / 1000)
        ++ fractionChars (min scale maxPrecision)
          (roundTo (magnitude millis) (q.resolution scale) % 1000 : Nat)))) := by
  have hdays (seconds : Nat) : seconds / 86400 = seconds / 60 / 60 / 24 := by omega
  have hhours (seconds : Nat) : seconds / 3600 = seconds / 60 / 60 := by omega
  cases q with
  | single unit =>
    cases unit with
    | second => rfl
    | _ => cases hfinest
  | minuteToSecond => rfl
  | hourToSecond =>
    rw [dayTimeText, hhours]
    rfl
  | dayToSecond =>
    rw [dayTimeText, hdays, hhours]
    rfl
  | _ => cases hfinest

/-- **The text of a year-month interval** shows its months, rounded. -/
lemma exists_yearMonthText (months : Int) (scale : Nat) (hq : q.family? = some .yearMonth) :
    ∃ text, yearMonthText months q = .ok text ∧ ShowsCount text months q scale
      (roundTo (magnitude months) (q.resolution scale) / q.resolution scale) :=
  ⟨_, yearMonthText_eq months scale hq, _, String.toList_ofList, writesFields_fieldsOf _ _⟩

/-- **The text of a day-time interval** shows its milliseconds, rounded. -/
lemma exists_dayTimeText (millis : Int) (scale : Nat) (hq : q.family? = some .dayTime) :
    ∃ text, dayTimeText millis q scale = .ok text ∧ ShowsCount text millis q scale
      (roundTo (magnitude millis) (q.resolution scale) / q.resolution scale) := by
  by_cases hfinest : q.finest = .second
  · have hresolution : q.resolution scale = 10 ^ (maxPrecision - min scale maxPrecision) := by
      rw [Qualifier.resolution, hfinest]
    have hwrites := (writesFields_fieldsOf q.wholePlaces
      (roundTo (magnitude millis) (q.resolution scale) / 1000)).fraction
        (Nat.min_le_right scale maxPrecision)
    rw [← hresolution] at hwrites
    refine ⟨_, dayTimeText_of_finest_eq millis scale hfinest, _, String.toList_ofList, ?_⟩
    rwa [Qualifier.places, if_pos hfinest]
  · refine ⟨_, dayTimeText_of_finest_ne millis scale hq hfinest, _, String.toList_ofList, ?_⟩
    rw [Qualifier.places, if_neg hfinest]
    exact writesFields_fieldsOf _ _

/-- What is no year-month qualifier is refused. -/
lemma yearMonthText_eq_error (months : Int) (hq : q.family? ≠ some .yearMonth) :
    yearMonthText months q = .error (.foreignQualifier q .yearMonth) := by
  cases q with
  | single unit =>
    cases unit with
    | year | month => exact absurd rfl hq
    | _ => rfl
  | yearToMonth => exact absurd rfl hq
  | _ => rfl

/-- What is no day-time qualifier is refused. -/
lemma dayTimeText_eq_error (millis : Int) (scale : Nat) (hq : q.family? ≠ some .dayTime) :
    dayTimeText millis q scale = .error (.foreignQualifier q .dayTime) := by
  cases q with
  | single unit =>
    cases unit with
    | day | hour | minute | second => exact absurd rfl hq
    | _ => rfl
  | yearToMonth => rfl
  | _ => exact absurd rfl hq

end Texts

/-! ## The size of a count -/

section Size

variable {q : Qualifier} {scale : Nat}

/-- The size of a count of 32 bits is its absolute value, the least count included. -/
lemma magnitude_toInt_int32 (count : Int32) : magnitude count.toInt = count.toInt.natAbs := by
  have hlow := count.le_toInt
  have hhigh := count.toInt_lt
  rw [magnitude]
  omega

/-- Every 64-bit count but the least one has its own size. -/
lemma magnitude_toInt {count : Int64} (h : count ≠ Int64.minValue) :
    magnitude count.toInt = count.toInt.natAbs := by
  have hlow := count.le_toInt
  have hhigh := count.toInt_lt
  have hne : count.toInt ≠ -9223372036854775808 := fun heq => h (Int64.toInt_inj.1 heq)
  rw [magnitude]
  omega

/-- The finest units that are shown. -/
def Qualifier.resolutions : List Nat := [12, 86400000, 3600000, 60000, 1000, 100, 10, 1]

/-- The finest unit that a qualifier shows is one of a few lengths. -/
lemma Qualifier.resolution_mem (q : Qualifier) (scale : Nat) :
    q.resolution scale ∈ resolutions := by
  rw [resolution]
  split
  case h_5 =>
    have hle : min scale maxPrecision ≤ 3 := Nat.min_le_right _ _
    interval_cases min scale maxPrecision <;> decide
  all_goals decide

/-- The finest unit that a qualifier shows has a length. -/
lemma Qualifier.resolution_pos (q : Qualifier) (scale : Nat) : 0 < q.resolution scale := by
  have hpos : ∀ unit ∈ resolutions, 0 < unit := by decide
  exact hpos _ (q.resolution_mem scale)

/-- Months are shown exactly, unless years are all that is shown. -/
lemma Qualifier.resolution_eq_one (hq : q.family? = some .yearMonth) (hyear : q ≠ .single .year) :
    q.resolution scale = 1 := by
  rcases eq_of_family?_yearMonth hq with rfl | rfl | rfl
  · exact absurd rfl hyear
  · rfl
  · rfl

/-- No unit but the millisecond tells the least count from the size that it is shown with. -/
lemma roundTo_magnitude_minValue :
    ∀ unit ∈ Qualifier.resolutions, unit ≠ 1 →
      roundTo (magnitude Int64.minValue.toInt) unit = roundTo Int64.minValue.toInt.natAbs unit := by
  decide

/-- The size of a count, or that of the least one, rounds to what the text shows. -/
lemma roundTo_magnitude {millis : Int64}
    (h : ¬ (millis = Int64.minValue ∧ q.resolution scale = 1)) :
    roundTo (magnitude millis.toInt) (q.resolution scale)
      = roundTo millis.toInt.natAbs (q.resolution scale) := by
  by_cases hmin : millis = Int64.minValue
  · subst hmin
    exact roundTo_magnitude_minValue _ (q.resolution_mem scale) fun hone => h ⟨rfl, hone⟩
  · rw [magnitude_toInt hmin]

/-- The greatest count is not the size of the least one. -/
lemma not_isNearestMultiple_minValue : ¬ IsNearestMultiple (· ≤ ·) 1
    (Int64.minValue.toInt.natAbs : Nat) (9223372036854775807 : Nat) := by
  intro hnearest
  have hown := hnearest.unique (fun _ _ => le_antisymm)
    (isNearestMultiple_roundTo Nat.one_pos Int64.minValue.toInt.natAbs)
  revert hown
  decide

/-- The number that a text shows is a multiple of the unit again. -/
lemma isNearestMultiple_shown {unit : Nat} (hunit : 0 < unit) (v : Nat) :
    IsNearestMultiple (· ≤ ·) unit v (roundTo v unit / unit * unit : Nat) := by
  rw [Nat.div_mul_cancel (roundTo_bounds hunit v).1]
  exact isNearestMultiple_roundTo hunit v

end Size

/-- **Interval texts show rounded counts.** The text of a 64-bit count of milliseconds, where its
rounding stays a 64-bit count, is a sign, a minus exactly for a count below zero, and fields that
write a number in mixed radix. The number counts the finest unit that the qualifier shows, and is
the one nearest to the count without its sign, halves down. The least count with digits down to the
millisecond is the only one that differs: the number is that of the greatest count. Every 32-bit
count of months is shown so too, without an exception. Other qualifiers are refused.

**Proof sketch.** What is written are the fields of the size, rounded; a rounded size is a multiple
of the unit, so that the division leaves nothing out. The size of a count is its own but for the
least one, and no coarser unit tells these two apart (`roundTo_magnitude`). -/
theorem interval_texts_show_rounded_counts (q : Qualifier) (scale : Nat) :
    (q.family? = some .dayTime → ∀ millis : Int64,
      roundTo (magnitude millis.toInt) (q.resolution scale) ≤ 9223372036854775807 →
        ∃ text n, dayTimeText millis.toInt q scale = .ok text
          ∧ ShowsCount text millis.toInt q scale n
          ∧ (IsNearestMultiple (· ≤ ·) (q.resolution scale) millis.toInt.natAbs
              (n * q.resolution scale : Nat)
            ↔ ¬ (millis = Int64.minValue ∧ q.resolution scale = 1))
          ∧ (millis = Int64.minValue → q.resolution scale = 1 → n = 9223372036854775807))
      ∧ (q.family? = some .yearMonth → ∀ months : Int32,
        ∃ text n, yearMonthText months.toInt q = .ok text
          ∧ ShowsCount text months.toInt q scale n
          ∧ IsNearestMultiple (· ≤ ·) (q.resolution scale) months.toInt.natAbs
            (n * q.resolution scale : Nat)
          ∧ (q ≠ .single .year → n = months.toInt.natAbs))
      ∧ (q.family? ≠ some .dayTime → ∀ millis : Int64,
        dayTimeText millis.toInt q scale = .error (.foreignQualifier q .dayTime))
      ∧ (q.family? ≠ some .yearMonth → ∀ months : Int32,
        yearMonthText months.toInt q = .error (.foreignQualifier q .yearMonth)) := by
  have hunit := q.resolution_pos scale
  refine ⟨fun hq millis _ => ?_, fun hq months => ?_, fun hq millis => ?_, fun hq months => ?_⟩
  · obtain ⟨text, htext, hshows⟩ := exists_dayTimeText millis.toInt scale hq
    have hgreatest (hmin : millis = Int64.minValue) (hone : q.resolution scale = 1) :
        roundTo (magnitude millis.toInt) (q.resolution scale) / q.resolution scale
          = 9223372036854775807 := by
      rw [hone, hmin, roundTo_one, Nat.div_one]
      rfl
    refine ⟨text, _, htext, hshows, ⟨fun hnearest => ?_, fun h => ?_⟩, hgreatest⟩
    · rintro ⟨hmin, hone⟩
      rw [hgreatest hmin hone, hone, hmin, Nat.mul_one] at hnearest
      exact not_isNearestMultiple_minValue hnearest
    · rw [roundTo_magnitude h]
      exact isNearestMultiple_shown hunit _
  · obtain ⟨text, htext, hshows⟩ := exists_yearMonthText months.toInt scale hq
    rw [magnitude_toInt_int32] at hshows
    refine ⟨text, _, htext, hshows, isNearestMultiple_shown hunit _, fun hyear => ?_⟩
    rw [Qualifier.resolution_eq_one hq hyear, roundTo_one, Nat.div_one]
  · exact dayTimeText_eq_error _ _ hq
  · exact yearMonthText_eq_error _ hq

/-- A millisecond less than a day is a day in minutes, half a year is none in years, and neither
family is shown as the other one. -/
theorem interval_texts_show_rounded_counts_of_a_day :
    (∃ n, dayTimeText (-86399999) .dayToMinute 0 = .ok "-1 00:00"
        ∧ ShowsCount "-1 00:00" (-86399999) .dayToMinute 0 n
        ∧ IsNearestMultiple (· ≤ ·) 60000 (86399999 : Nat) (n * 60000 : Nat))
      ∧ (∃ n, yearMonthText 6 (.single .year) = .ok "+0" ∧ ShowsCount "+0" 6 (.single .year) 0 n
        ∧ IsNearestMultiple (· ≤ ·) 12 (6 : Nat) (n * 12 : Nat))
      ∧ yearMonthText 6 .dayToMinute = .error (.foreignQualifier .dayToMinute .yearMonth)
      ∧ dayTimeText 6 (.single .year) 0 = .error (.foreignQualifier (.single .year) .dayTime) := by
  obtain ⟨hday, -, -, hforeign⟩ := interval_texts_show_rounded_counts .dayToMinute 0
  obtain ⟨-, hyear, hforeign', -⟩ := interval_texts_show_rounded_counts (.single .year) 0
  refine ⟨?_, ?_, hforeign (by decide) 6, hforeign' (by decide) 6⟩
  · obtain ⟨text, n, htext, hshows, hnearest, -⟩ := hday rfl (-86399999) (by decide)
    have hrfl : dayTimeText (-86399999 : Int64).toInt .dayToMinute 0 = .ok "-1 00:00" := by rfl
    obtain rfl := Except.ok.inj (htext.symm.trans hrfl)
    exact ⟨n, hrfl, hshows, hnearest.2 (by decide)⟩
  · obtain ⟨text, n, htext, hshows, hnearest, -⟩ := hyear rfl 6
    have hrfl : yearMonthText (6 : Int32).toInt (.single .year) = .ok "+0" := by rfl
    obtain rfl := Except.ok.inj (htext.symm.trans hrfl)
    exact ⟨n, hrfl, hshows, hnearest⟩

/-- The least count is shown with the size of the greatest one, a millisecond less than its own. -/
theorem least_count_is_shown_with_the_greatest_size :
    roundTo (magnitude Int64.minValue.toInt) (Qualifier.dayToSecond.resolution 3)
        ≤ 9223372036854775807
      ∧ dayTimeText Int64.minValue.toInt .dayToSecond 3 = .ok "-106751991167 07:12:55.807"
      ∧ ¬ ∃ n, ShowsCount "-106751991167 07:12:55.807" Int64.minValue.toInt .dayToSecond 3 n
        ∧ IsNearestMultiple (· ≤ ·) (Qualifier.dayToSecond.resolution 3)
          Int64.minValue.toInt.natAbs (n * Qualifier.dayToSecond.resolution 3 : Nat) := by
  have hrfl : dayTimeText Int64.minValue.toInt .dayToSecond 3
      = .ok "-106751991167 07:12:55.807" := by rfl
  refine ⟨by decide, hrfl, ?_⟩
  rintro ⟨n, hshows, hnearest⟩
  obtain ⟨text, htext, hgreatest⟩ :=
    exists_dayTimeText (q := .dayToSecond) Int64.minValue.toInt 3 rfl
  obtain rfl := Except.ok.inj (htext.symm.trans hrfl)
  rw [hshows.unique hgreatest] at hnearest
  exact not_isNearestMultiple_minValue hnearest

end TypedRows.Calendar
