import TypedRows.Proofs.Calendar.Grammar
import TypedRows.Proofs.Calendar.NearestMultiples

/-!
# The timestamps that texts denote

A timestamp is written as a date and, after the first blank or `T`, a clock time, which may be left
out. It is read as the start of the second that is written and the digits of the second, rounded to
the nearest multiple of the last digit that is kept. Digits that are rounded to a whole second make
it the start of the next second, which may be one of the next minute, the next hour or the next day.

## Main definitions

* `TypedRows.Calendar.ClockSecond` — the seconds of days, with the next one.
* `TypedRows.Calendar.WritesTimestamp`, `TypedRows.Calendar.WritesSecond` — what a text writes.

## Main results

* `TypedRows.Calendar.ClockSecond.millis_next` — the next second starts a second later.
* `TypedRows.Calendar.readTimestamp_eq_ok_iff` — the texts that are read and what they are read as.
* `TypedRows.Calendar.timestamps_are_rounded_exactly`
-/

set_option autoImplicit false

namespace TypedRows.Calendar

/-! ## Seconds -/

/-- A second of a day, the days counted since 1970-01-01. -/
structure ClockSecond where
  day : Int
  hour : Nat
  minute : Nat
  second : Nat

namespace ClockSecond

/-- The hours, minutes and seconds of a day. -/
def IsShown (c : ClockSecond) : Prop := c.hour ≤ 23 ∧ c.minute ≤ 59 ∧ c.second ≤ 59

/-- The milliseconds from 1970-01-01 to the start of a second. -/
def millis (c : ClockSecond) : Int :=
  c.day * 86400000 + ((c.hour * 60 + c.minute) * 60 + c.second) * 1000

/-- The second after a second: the next one of the minute or the first one of the next minute, of
the next hour or of the next day. -/
def next (c : ClockSecond) : ClockSecond :=
  if c.second < 59 then ⟨c.day, c.hour, c.minute, c.second + 1⟩
  else if c.minute < 59 then ⟨c.day, c.hour, c.minute + 1, 0⟩
  else if c.hour < 23 then ⟨c.day, c.hour + 1, 0, 0⟩
  else ⟨c.day + 1, 0, 0, 0⟩

/-- **The next second starts a second later.** -/
lemma millis_next {c : ClockSecond} (h : c.IsShown) : c.next.millis = c.millis + 1000 := by
  obtain ⟨hhour, hminute, hsecond⟩ := h
  unfold next
  split_ifs <;> simp only [millis] <;> omega

end ClockSecond

/-! ## What a text writes -/

/-- What a clock time may stand after. -/
def IsGap (c : Char) : Prop := c = ' ' ∨ c = 'T'

/-- The text of a date, perhaps with a blank or a `T` and a clock time after it, between blanks. A
clock time that is left out is midnight. -/
inductive WritesTimestamp (cs : List Char) :
    (date : List Char) → Nat → Nat → Nat → Option (List Char) → Prop where
  | day : (∀ c ∈ Text.trim cs, ¬ IsGap c) → WritesTimestamp cs (Text.trim cs) 0 0 0 none
  | clock {date time : List Char} {gap : Char} {h m s : Nat} {fraction : Option (List Char)} :
    Text.trim cs = date ++ gap :: time → (∀ c ∈ date, ¬ IsGap c) → IsGap gap →
    WritesTime time h m s fraction → WritesTimestamp cs date h m s fraction

/-- A text writes a second of a day and perhaps its digits: the part of the date is read as the
day. -/
structure WritesSecond (text : String) (c : ClockSecond) (fraction : Option (List Char)) :
    Prop where
  isShown : c.IsShown
  written : ∃ D date, WritesTimestamp text.toList D c.hour c.minute c.second fraction
    ∧ readDate (String.ofList D) = .ok date ∧ c.day = date.toInt

variable {cs D : List Char} {text : String} {h m s precision : Nat}
  {fraction : Option (List Char)} {ts : Int}

/-- A blank or a `T` stands between the date and the time. -/
lemma isGap_iff {c : Char} : (c == ' ' || c == 'T') = true ↔ IsGap c := by
  simp [IsGap]

/-- **The cut finds the date and the clock time** of a text. -/
lemma writesTimestamp_iff : WritesTimestamp cs D h m s fraction
    ↔ ∃ time, Text.cut (fun c => c == ' ' || c == 'T') (Text.trim cs) = (D, time)
      ∧ time.elim (h = 0 ∧ m = 0 ∧ s = 0 ∧ fraction = none) (WritesTime · h m s fraction) := by
  have hgap (c : Char) : (c == ' ' || c == 'T') = false ↔ ¬ IsGap c := by
    rw [← isGap_iff, Bool.not_eq_true]
  constructor
  · rintro (hday | ⟨hcs, hdate, hgapped, htime⟩)
    · exact ⟨none, Text.cut_eq_of_not_mem fun c hc => (hgap c).2 (hday c hc), rfl, rfl, rfl, rfl⟩
    · rename_i time gap
      rw [hcs]
      exact ⟨some time, Text.cut_append_cons time (fun c hc => (hgap c).2 (hdate c hc))
        (isGap_iff.2 hgapped), htime⟩
  · rintro ⟨time, hcut, htime⟩
    rcases Text.cut_cases (fun c => c == ' ' || c == 'T') (Text.trim cs) with
      ⟨hday, hcs⟩ | ⟨date, gap, rest, hclock, hcs, hdate, hgapped⟩
    · obtain ⟨rfl, rfl⟩ := Prod.mk.inj (hday.symm.trans hcut)
      obtain ⟨rfl, rfl, rfl, rfl⟩ := htime
      exact .day fun c hc => (hgap c).1 (hcs c hc)
    · obtain ⟨rfl, rfl⟩ := Prod.mk.inj (hclock.symm.trans hcut)
      exact .clock hcs (fun c hc => (hgap c).1 (hdate c hc)) (isGap_iff.1 hgapped) htime

/-- A date is read alike in the name of any text. -/
lemma readDateChars_eq_ok_iff_readDate {date : EpochDay} :
    readDateChars text D = .ok date ↔ readDate (String.ofList D) = .ok date := by
  rw [readDate, String.toList_ofList, readDateChars_eq_ok_iff, readDateChars_eq_ok_iff]

/-- A second of a day and a part of it, as the time of a day. -/
lemma ClockSecond.atDay_eq {c : ClockSecond} {date : EpochDay} (hday : c.day = date.toInt)
    (part : Int) : atDay date (c.hour * millisPerHour + c.minute * millisPerMinute
      + c.second * millisPerSecond + part) = c.millis + part := by
  simp only [atDay, millis, millisPerDay, millisPerHour, millisPerMinute, millisPerSecond, hday]
  omega

/-- **The timestamps that are read** are those of a second of a day, with its digits rounded. -/
theorem readTimestamp_eq_ok_iff : readTimestamp text precision = .ok ts
    ↔ ∃ c fraction, WritesSecond text c fraction
      ∧ ts = c.millis + (fraction.elim 0 (roundFraction · precision) : Nat) := by
  rw [readTimestamp]
  generalize hcut : Text.cut (fun c => c == ' ' || c == 'T') (Text.trim text.toList) = parts
  obtain ⟨D, time⟩ := parts
  simp only [bind_eq_ok_iff, readDateChars_eq_ok_iff_readDate, pure, Except.pure]
  constructor
  · rintro ⟨date, hdate, hts⟩
    cases time with
    | none =>
      obtain rfl := Except.ok.inj hts
      refine ⟨⟨date.toInt, 0, 0, 0⟩, none, ⟨⟨Nat.zero_le _, Nat.zero_le _, Nat.zero_le _⟩, D,
        date, writesTimestamp_iff.2 ⟨none, hcut, rfl, rfl, rfl, rfl⟩, hdate, rfl⟩, ?_⟩
      simp [ClockSecond.millis, atDay, millisPerDay]
    | some time =>
      obtain ⟨millis, hmillis, hts⟩ := bind_eq_ok_iff.1 hts
      obtain ⟨h, m, s, fraction, hwrites, hh, hm, hs, rfl⟩ := readTimeChars_eq_ok_iff.1 hmillis
      refine ⟨⟨date.toInt, h, m, s⟩, fraction, ⟨⟨hh, hm, hs⟩, D, date,
        writesTimestamp_iff.2 ⟨some time, hcut, hwrites⟩, hdate, rfl⟩, ?_⟩
      rw [← Except.ok.inj hts, ← ClockSecond.atDay_eq rfl]
  · rintro ⟨c, fraction, ⟨⟨hh, hm, hs⟩, D', date, hwrites, hdate, hday⟩, rfl⟩
    obtain ⟨time', hcut', htime⟩ := writesTimestamp_iff.1 hwrites
    obtain ⟨rfl, rfl⟩ := Prod.mk.inj (hcut.symm.trans hcut')
    refine ⟨date, hdate, ?_⟩
    cases time with
    | none =>
      obtain ⟨hhour, hminute, hsecond, rfl⟩ := htime
      refine congrArg Except.ok ?_
      simp [ClockSecond.millis, atDay, millisPerDay, hhour, hminute, hsecond, hday]
    | some time =>
      refine bind_eq_ok_iff.2 ⟨_, readTimeChars_eq_ok_iff.2
        ⟨_, _, _, fraction, htime, hh, hm, hs, rfl⟩, congrArg Except.ok ?_⟩
      exact ClockSecond.atDay_eq hday _

/-! ## Rounded digits -/

/-- The fraction that a text writes is made of digits. -/
lemma WritesTimestamp.isDigit {digits : List Char}
    (hwrites : WritesTimestamp cs D h m s (some digits)) : ∀ c ∈ digits, c.isDigit = true := by
  rcases hwrites with - | ⟨-, -, -, htime⟩
  exact htime.isDigit

/-- The digits that a text writes, if there are any, are rounded to the nearest multiple. -/
lemma WritesSecond.isNearestMultiple {c : ClockSecond} (h : WritesSecond text c fraction)
    (precision : Nat) :
    IsNearestMultiple (· ≥ ·) (10 ^ (maxPrecision - min precision maxPrecision))
      (fraction.elim 0 fractionMillis)
      (fraction.elim 0 (roundFraction · precision) : Nat) := by
  cases fraction with
  | none => exact isNearestMultiple_zero (Nat.pow_pos (by decide))
  | some digits =>
    obtain ⟨-, D, date, hwrites, -⟩ := h
    exact isNearestMultiple_roundFraction hwrites.isDigit precision

/-- **Timestamps are rounded exactly.** A text is read as a timestamp exactly when it writes a
second of a day, with the part before its first blank or `T` read as the day and with the clock time
after it in range. What is read is the start of that second and the multiple of the last kept digit
that is nearest to the exact digits of the second, halves up. When that is a whole second, what is
read is the start of the next second, also of the next minute, hour or day.

**Proof sketch.** The kept digits are the fraction rounded down (`keptDigits_bounds`), and the digit
after them tells on which side of a half the fraction lies (`keptDigits_half`). Only one multiple is
nearest with halves up. -/
theorem timestamps_are_rounded_exactly (text : String) (precision : Nat) :
    (∀ ts, readTimestamp text precision = .ok ts ↔ ∃ c fraction r, WritesSecond text c fraction
        ∧ IsNearestMultiple (· ≥ ·) (10 ^ (3 - min precision 3)) (fraction.elim 0 fractionMillis) r
        ∧ ts = c.day * 86400000 + ((c.hour * 60 + c.minute) * 60 + c.second) * 1000 + r)
      ∧ ∀ c fraction, WritesSecond text c fraction →
        IsNearestMultiple (· ≥ ·) (10 ^ (3 - min precision 3)) (fraction.elim 0 fractionMillis)
          1000 → readTimestamp text precision = .ok c.next.millis := by
  have hunique {c : ClockSecond} {fraction : Option (List Char)} {r : Int}
      (hwrites : WritesSecond text c fraction)
      (hr : IsNearestMultiple (· ≥ ·) (10 ^ (3 - min precision 3))
        (fraction.elim 0 fractionMillis) r) :
      r = (fraction.elim 0 (roundFraction · precision) : Nat) :=
    hr.unique (fun _ _ hge hle => le_antisymm hle hge) (hwrites.isNearestMultiple precision)
  refine ⟨fun ts => ?_, fun c fraction hwrites hr => ?_⟩
  · rw [readTimestamp_eq_ok_iff]
    constructor
    · rintro ⟨c, fraction, hwrites, hts⟩
      exact ⟨c, fraction, _, hwrites, hwrites.isNearestMultiple precision, hts⟩
    · rintro ⟨c, fraction, r, hwrites, hr, hts⟩
      rw [hunique hwrites hr] at hts
      exact ⟨c, fraction, hwrites, hts⟩
  · rw [readTimestamp_eq_ok_iff, ClockSecond.millis_next hwrites.isShown]
    exact ⟨c, fraction, hwrites, congrArg (c.millis + ·) (hunique hwrites hr)⟩

/-- Half a millisecond before a year ends, the next year begins. -/
theorem timestamps_are_rounded_exactly_into_a_year :
    WritesSecond "2023-12-31T23:59:59.9995" ⟨19722, 23, 59, 59⟩ (some ['9', '9', '9', '5'])
      ∧ IsNearestMultiple (· ≥ ·) (10 ^ (3 - min 3 3)) (fractionMillis ['9', '9', '9', '5']) 1000
      ∧ (⟨19722, 23, 59, 59⟩ : ClockSecond).next = ⟨19723, 0, 0, 0⟩
      ∧ readTimestamp "2023-12-31T23:59:59.9995" 3
        = .ok (⟨19722, 23, 59, 59⟩ : ClockSecond).next.millis := by
  have hclock : WritesTime "23:59:59.9995".toList 23 59 59 (some ['9', '9', '9', '5']) :=
    ⟨"23:59:59".toList, by decide, .second (H := ['2', '3']) (M := ['5', '9']) (S := ['5', '9'])
      (by decide) (by decide) (by decide), by decide⟩
  have hwrites : WritesSecond "2023-12-31T23:59:59.9995" ⟨19722, 23, 59, 59⟩
      (some ['9', '9', '9', '5']) :=
    ⟨by unfold ClockSecond.IsShown; decide, "2023-12-31".toList, 19722,
      writesTimestamp_iff.2 ⟨some "23:59:59.9995".toList, by decide, hclock⟩, by decide,
      by decide⟩
  have hnearest : IsNearestMultiple (· ≥ ·) (10 ^ (3 - min 3 3))
      (fractionMillis ['9', '9', '9', '5']) 1000 :=
    hwrites.isNearestMultiple 3
  exact ⟨hwrites, hnearest, by rfl,
    (timestamps_are_rounded_exactly _ 3).2 _ _ hwrites hnearest⟩

end TypedRows.Calendar
