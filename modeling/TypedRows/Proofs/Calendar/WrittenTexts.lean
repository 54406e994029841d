import TypedRows.Proofs.Calendar.DayOrder
import TypedRows.Proofs.Calendar.Fractions
import TypedRows.Proofs.Calendar.Grammar

/-!
# Texts that are read back

What is written of a date is read as that date, and what is written of a clock time or of a
timestamp as that time without the digits of a second that were not written. The sign of a year
looks like the separator of fields, but it stands where no separator can stand; the digits that are
left off are those below the last one that is written, so that reading rounds nothing.

## Main definitions

* `TypedRows.Calendar.roundedDown` — a time without the digits that are not written.

## Main results

* `TypedRows.Calendar.readDateChars_chars` — the label of a day is read as that day.
* `TypedRows.Calendar.readTimeChars_clockChars` — clock times.
* `TypedRows.Calendar.readTimestamp_ofList` — timestamps, with a blank or a `T` in them.
* `TypedRows.Calendar.written_texts_are_read_back`
-/

set_option autoImplicit false

namespace TypedRows.Calendar

open YearMonthDay

/-- A count of milliseconds rounded down to whole units of the last digit of a second that is
written. -/
def roundedDown (precision : Nat) (millis : Int) : Int :=
  millis / 10 ^ (maxPrecision - precision) * 10 ^ (maxPrecision - precision)

/-- Whole seconds are not cut off. -/
lemma roundedDown_add (precision : Nat) (seconds millis : Int) :
    roundedDown precision (seconds * millisPerSecond + millis)
      = seconds * millisPerSecond + roundedDown precision millis := by
  have hplaces : maxPrecision - precision ≤ 3 := Nat.sub_le _ _
  unfold roundedDown millisPerSecond
  generalize maxPrecision - precision = places at hplaces
  interval_cases places <;> omega

/-! ## Characters -/

/-- Digits and characters that are neither blanks nor letters: what dates and clock times are
written with. -/
def IsClockChar (c : Char) : Prop := c.isDigit = true ∨ c = '-' ∨ c = ':' ∨ c = '.'

/-- The characters of dates and times are not blank. -/
lemma IsClockChar.not_isBlank {c : Char} (h : IsClockChar c) : Text.isBlank c = false := by
  rcases h with h | rfl | rfl | rfl
  · exact Text.isBlank_of_isDigit h
  · decide
  · decide
  · decide

/-- No character of a date or a time stands between the two. -/
lemma IsClockChar.not_gap {c : Char} (h : IsClockChar c) : (c == ' ' || c == 'T') = false := by
  have hne : c ≠ ' ' ∧ c ≠ 'T' := by
    constructor <;> (rintro rfl; rcases h with h | h | h | h <;> revert h <;> decide)
  simpa using hne

/-- A text without blanks has none at its ends. -/
lemma trim_of_isClockChar {cs : List Char} (h : ∀ c ∈ cs, IsClockChar c) : Text.trim cs = cs :=
  Text.trim_of_not_isBlank fun c hc => (h c hc).not_isBlank

/-! ## Dates -/

section Dates

variable {d : YearMonthDay}

/-- Padded numbers are made of the characters of dates and times. -/
lemma isClockChar_of_mem_padded {width n : Nat} {c : Char} (h : c ∈ Text.padded width n) :
    IsClockChar c :=
  .inl (Text.isDigit_of_mem_padded h)

/-- Texts of dates are made of the characters of dates and times. -/
lemma isClockChar_of_mem_chars {c : Char} (h : c ∈ d.chars) : IsClockChar c := by
  have hdash : IsClockChar '-' := .inr (.inl rfl)
  simp only [YearMonthDay.chars, List.mem_append, List.mem_cons] at h
  rcases h with ((h | h) | rfl | h) | rfl | h
  · split at h
    · rwa [List.mem_singleton.1 h]
    · cases h
  · exact isClockChar_of_mem_padded h
  · exact hdash
  · exact isClockChar_of_mem_padded h
  · exact hdash
  · exact isClockChar_of_mem_padded h

/-- The text of a label writes the label. -/
lemma writesDate_chars (d : YearMonthDay) :
    WritesDate d.chars d.year.toInt d.month d.day := by
  have htrim : Text.trim d.chars = d.chars :=
    trim_of_isClockChar fun c hc => isClockChar_of_mem_chars hc
  have hfields : WritesDateFields (Text.padded 4 d.year.toInt.natAbs
      ++ '-' :: Text.padded 2 d.month ++ '-' :: Text.padded 2 d.day)
      d.year.toInt.natAbs d.month d.day :=
    ⟨_, _, _, rfl, Text.natural?_padded .., Text.natural?_padded .., Text.natural?_padded ..⟩
  by_cases hy : d.year.toInt < 0
  · have hyear : -(d.year.toInt.natAbs : Int) = d.year.toInt := by omega
    rw [← hyear]
    refine .signed (htrim.trans ?_) hfields
    rw [chars, if_pos hy]
    rfl
  · have hyear : (d.year.toInt.natAbs : Int) = d.year.toInt := by omega
    rw [← hyear]
    refine .unsigned ?_
    rw [htrim, chars, if_neg hy]
    exact hfields

/-- **The label of a day is read as that day**, when its year is one that a text may name. -/
theorem readDateChars_chars (text : String) (h : d.IsValid)
    (hyear : d.year.toInt.natAbs ≤ maxYear) : readDateChars text d.chars = .ok d.epochDay :=
  readDateChars_eq_ok_iff.2
    ⟨_, _, _, writesDate_chars d, hyear, h, by rw [Int32.ofInt_toInt]⟩

/-- The years of dates are far from the ends of 32 bits. -/
lemma natAbs_year_ofEpochDay (date : EpochDay) :
    (ofEpochDay date).year.toInt.natAbs ≤ maxYear := by
  obtain ⟨y, e, hy, h₀, h₁, -, hday, hlabel⟩ := exists_ofEpochDay date
  have hlow := date.le_toInt
  have hhigh := date.toInt_lt
  rw [hlabel, year_ofDayOfYear hy h₀ h₁]
  unfold epochJulianDay at hday
  unfold maxYear
  omega

/-- The text of a date is read as the date. -/
lemma readDateChars_ofEpochDay (text : String) (date : EpochDay) :
    readDateChars text (ofEpochDay date).chars = .ok date := by
  rw [readDateChars_chars text (isValid_ofEpochDay date) (natAbs_year_ofEpochDay date),
    epochDay_ofEpochDay]

end Dates

/-! ## Clock times -/

section Times

variable {time : Int} {p q : Nat}

/-- Texts of clock times are made of the characters of dates and times. -/
lemma isClockChar_of_mem_clockChars {c : Char} (h : c ∈ clockChars time p) : IsClockChar c := by
  have hcolon : IsClockChar ':' := .inr (.inr (.inl rfl))
  simp only [clockChars, List.mem_append, List.mem_cons] at h
  rcases h with ((h | rfl | h) | rfl | h) | h
  · exact isClockChar_of_mem_padded h
  · exact hcolon
  · exact isClockChar_of_mem_padded h
  · exact hcolon
  · exact isClockChar_of_mem_padded h
  · rw [fractionChars] at h
    split at h
    · cases h
    · rcases List.mem_cons.1 h with rfl | h
      · exact .inr (.inr (.inr rfl))
      · exact isClockChar_of_mem_padded (List.mem_of_mem_take h)

/-- The text of a clock time writes its hours, minutes and seconds and the digits of a second. -/
lemma writesTime_clockChars (time : Int) (p : Nat) :
    WritesTime (clockChars time p) (time / millisPerHour).toNat
      (time % millisPerHour / millisPerMinute).toNat
      (time % millisPerMinute / millisPerSecond).toNat
      (if p = 0 then none
        else some ((Text.padded 3 (time % millisPerSecond).toNat).take (min p maxPrecision))) := by
  refine ⟨_, (trim_of_isClockChar fun c hc => isClockChar_of_mem_clockChars hc).trans ?_,
    .second (Text.natural?_padded 2 _) (Text.natural?_padded 2 _) (Text.natural?_padded 2 _), ?_⟩
  · rw [clockChars, fractionChars]
    congr 1
    by_cases hp : p = 0
    · rw [if_pos hp, if_pos (by omega), Option.elim_none]
    · rw [if_neg hp, if_neg (by unfold maxPrecision; omega), Option.elim_some]
  · by_cases hp : p = 0
    · simp [hp]
    · have hsome : min p maxPrecision ≠ 0 := by unfold maxPrecision; omega
      rw [if_neg hp]
      rintro digits hdigits
      obtain rfl := Option.some.inj hdigits
      rw [Text.natural?_of_isDigit]
      · rfl
      · simp [Text.padded_ne_nil, hsome]
      · exact fun c hc => Text.isDigit_of_mem_padded (List.mem_of_mem_take hc)

/-- **The digits that are written of a second are read without rounding.** -/
lemma roundFraction_padded {n : Nat} (hn : n < 1000) (hpq : p ≤ q) :
    (roundFraction ((Text.padded 3 n).take (min p maxPrecision)) q : Int) = roundedDown p n := by
  have hdigits : ∀ c ∈ Text.padded 3 n, c.isDigit = true := fun c hc =>
    Text.isDigit_of_mem_padded hc
  have hlength : (Text.padded 3 n).length = 3 := Text.length_padded (by decide) hn
  have htake : ((Text.padded 3 n).take (min p maxPrecision)).length = min p maxPrecision := by
    rw [List.length_take, hlength]
    unfold maxPrecision
    omega
  have hplaces : maxPrecision - min p maxPrecision = maxPrecision - p := by omega
  have hplaces' : 3 - min p maxPrecision = maxPrecision - p := by unfold maxPrecision; omega
  rw [roundFraction_of_length_le (by rw [htake]; omega), htake, ofDigitChars_take hdigits,
    Text.ofDigitChars_padded, hlength, hplaces, hplaces', roundedDown]
  push_cast
  rfl

/-- **The text of a clock time is read as that time** without the digits of a second that were not
written.

**Proof sketch.** Hours, minutes and seconds have the numbers of the time, which are in range. The
fraction is rounded down by the writer; the reader keeps at least as many digits. -/
theorem readTimeChars_clockChars (text : String) (h₀ : 0 ≤ time) (h₁ : time < millisPerDay)
    (hpq : p ≤ q) : readTimeChars text (clockChars time p) q = .ok (roundedDown p time) := by
  have hhour : (time / millisPerHour).toNat ≤ 23 := by
    unfold millisPerDay at h₁
    unfold millisPerHour
    omega
  have hminute : (time % millisPerHour / millisPerMinute).toNat ≤ 59 := by
    unfold millisPerHour millisPerMinute
    omega
  have hsecond : (time % millisPerMinute / millisPerSecond).toNat ≤ 59 := by
    unfold millisPerMinute millisPerSecond
    omega
  have hmillis : (time % millisPerSecond).toNat < 1000 := by
    unfold millisPerSecond
    omega
  -- the time is that of its whole seconds and of what is left of it
  have htime : roundedDown p time = (time / millisPerHour).toNat * millisPerHour
      + (time % millisPerHour / millisPerMinute).toNat * millisPerMinute
      + (time % millisPerMinute / millisPerSecond).toNat * millisPerSecond
      + roundedDown p (time % millisPerSecond).toNat := by
    have hsplit : time = time / millisPerSecond * millisPerSecond + time % millisPerSecond := by
      unfold millisPerSecond
      omega
    have hleft : ((time % millisPerSecond).toNat : Int) = time % millisPerSecond :=
      Int.toNat_of_nonneg (by unfold millisPerSecond; omega)
    conv_lhs => rw [hsplit, roundedDown_add]
    rw [hleft]
    congr 1
    unfold millisPerHour millisPerMinute millisPerSecond
    omega
  refine readTimeChars_eq_ok_iff.2
    ⟨_, _, _, _, writesTime_clockChars time p, hhour, hminute, hsecond, ?_⟩
  rw [htime]
  congr 1
  by_cases hp : p = 0
  · subst hp
    simp only [roundedDown, maxPrecision, if_true, Option.elim_none]
    omega
  · rw [if_neg hp, Option.elim_some, roundFraction_padded hmillis hpq]

end Times

/-! ## Timestamps -/

/-- What a timestamp is cut off to, on its day. -/
lemma atDay_roundedDown (precision : Nat) (date : EpochDay) (time : Int) :
    atDay date (roundedDown precision time) = roundedDown precision (atDay date time) := by
  have hseconds : date.toInt * millisPerDay = date.toInt * 86400 * millisPerSecond := by
    unfold millisPerDay millisPerSecond
    omega
  rw [atDay, atDay, hseconds, roundedDown_add]

/-- **A date and a clock time are read as a timestamp**, with a blank or a `T` between them. -/
theorem readTimestamp_ofList {date : EpochDay} {time : Int} {p q : Nat} {gap : Char}
    (hgap : gap = ' ' ∨ gap = 'T') (h₀ : 0 ≤ time) (h₁ : time < millisPerDay) (hpq : p ≤ q) :
    readTimestamp (String.ofList ((ofEpochDay date).chars ++ gap :: clockChars time p)) q
      = .ok (roundedDown p (atDay date time)) := by
  have hdate : ∀ c ∈ (ofEpochDay date).chars, IsClockChar c := fun c hc =>
    isClockChar_of_mem_chars hc
  have hclock : ∀ c ∈ clockChars time p, IsClockChar c := fun c hc =>
    isClockChar_of_mem_clockChars hc
  have hne : (ofEpochDay date).chars ≠ [] := by simp [YearMonthDay.chars]
  have hne' : clockChars time p ≠ [] := by simp [clockChars]
  have htrim : Text.trim ((ofEpochDay date).chars ++ gap :: clockChars time p)
      = (ofEpochDay date).chars ++ gap :: clockChars time p := by
    apply Text.trim_eq_self
    · intro c hc
      rw [List.head?_append, List.head?_eq_some_head hne, Option.some_or] at hc
      exact (hdate c (Option.mem_some.1 hc ▸ List.head_mem hne)).not_isBlank
    · intro c hc
      rw [List.getLast?_append, List.getLast?_cons, List.getLast?_eq_some_getLast hne',
        Option.getD_some, Option.some_or] at hc
      exact (hclock c (Option.mem_some.1 hc ▸ List.getLast_mem hne')).not_isBlank
  have hcut : Text.cut (fun c => c == ' ' || c == 'T')
      ((ofEpochDay date).chars ++ gap :: clockChars time p)
        = ((ofEpochDay date).chars, some (clockChars time p)) :=
    Text.cut_append_cons _ (fun c hc => (hdate c hc).not_gap) (by simpa using hgap)
  rw [readTimestamp]
  simp only [String.toList_ofList, htrim, hcut, readDateChars_ofEpochDay,
    readTimeChars_clockChars _ h₀ h₁ hpq, atDay_roundedDown, bind, Except.bind, pure, Except.pure]

/-! ## All texts -/

/-- The blank of a timestamp as a `T`. -/
def gapAsLetter (c : Char) : Char := if c = ' ' then 'T' else c

/-- The text of a timestamp has one blank, between its date and its clock time. -/
lemma map_timestampText (timestamp : Int) (precision : Nat) :
    (timestampText timestamp precision).map gapAsLetter
      = String.ofList ((ofEpochDay (dayOf timestamp)).chars
        ++ 'T' :: clockChars (timeOfDay timestamp) precision) := by
  have hkeep (cs : List Char) (h : ∀ c ∈ cs, IsClockChar c) : cs.map gapAsLetter = cs := by
    refine (List.map_congr_left fun c hc => ?_).trans (List.map_id _)
    have hne : c ≠ ' ' := by
      rintro rfl
      exact absurd (h ' ' hc).not_isBlank (by decide)
    rw [gapAsLetter, if_neg hne, id]
  rw [← String.toList_inj, String.toList_map, timestampText, String.toList_ofList,
    String.toList_ofList, List.map_append, List.map_cons,
    hkeep _ fun c hc => isClockChar_of_mem_chars hc,
    hkeep _ fun c hc => isClockChar_of_mem_clockChars hc]
  rfl

/-- **Written texts are read back.** The text of a date is read as the date; the text of a time of
day and that of a timestamp, with a blank or a `T`, are read as the time rounded down to the digits
of a second that were written, when no fewer are read.

**Proof sketch.** The fields of a text hold no separators, so that they are cut as they were put
together; the sign of a year stands before all of them. Each is read as the number it was written
for. The timestamp is put together of the day and the time of the day that it was taken apart into,
and days are whole seconds. -/
theorem written_texts_are_read_back :
    (∀ date : EpochDay, readDate (dateText date) = .ok date)
      ∧ (∀ (time : Int) (p q : Nat), 0 ≤ time → time < millisPerDay → p ≤ q →
        readTime (timeText time p) q = .ok (roundedDown p time))
      ∧ ∀ (timestamp : Int) (p q : Nat), -2147483648 ≤ timestamp / millisPerDay →
        timestamp / millisPerDay < 2147483648 → p ≤ q →
          readTimestamp (timestampText timestamp p) q = .ok (roundedDown p timestamp)
          ∧ readTimestamp ((timestampText timestamp p).map gapAsLetter) q
            = .ok (roundedDown p timestamp) := by
  refine ⟨fun date => ?_, fun time p q h₀ h₁ hpq => ?_, fun timestamp p q h₁ h₂ hpq => ?_⟩
  · rw [readDate, dateText, String.toList_ofList, readDateChars_ofEpochDay]
  · have htime : time % millisPerDay = time := Int.emod_eq_of_lt h₀ h₁
    rw [readTime, timeText, String.toList_ofList, htime, readTimeChars_clockChars _ h₀ h₁ hpq]
  · have hread {gap : Char} (hgap : gap = ' ' ∨ gap = 'T') :=
      @readTimestamp_ofList (dayOf timestamp) _ p q gap hgap (timeOfDay_nonneg timestamp)
        (timeOfDay_lt timestamp) hpq
    simp only [atDay_dayOf h₁ h₂] at hread
    exact ⟨hread (.inl rfl), map_timestampText timestamp p ▸ hread (.inr rfl)⟩

/-- The last millisecond of a day, a date before year 0, and timestamps before year 0 and after
9999 whose last digit is not written. -/
theorem written_texts_are_read_back_in_far_years :
    (0 ≤ (86399999 : Int) ∧ (86399999 : Int) < millisPerDay
        ∧ readTime (timeText 86399999 2) 3 = .ok 86399990)
      ∧ readDate (dateText (-719529)) = .ok (-719529)
      ∧ timestampText (-62167219200013) 2 = "-0001-12-31 23:59:59.98"
      ∧ readTimestamp (timestampText (-62167219200013) 2) 2 = .ok (-62167219200020)
      ∧ timestampText 253402300800129 2 = "10000-01-01 00:00:00.12"
      ∧ readTimestamp ((timestampText 253402300800129 2).map gapAsLetter) 3
        = .ok 253402300800120 := by
  obtain ⟨hdate, htime, htimestamp⟩ := written_texts_are_read_back
  refine ⟨⟨by decide, by decide, htime _ 2 3 (by decide) (by decide) (by decide)⟩, hdate _,
    by decide +kernel, (htimestamp (-62167219200013) 2 2 ?_ ?_ ?_).1, by decide +kernel,
    (htimestamp 253402300800129 2 3 ?_ ?_ ?_).2⟩ <;> decide

end TypedRows.Calendar
