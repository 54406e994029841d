import TypedRows.Proofs.Calendar.Grammar
import TypedRows.Proofs.Calendar.MonthStarts

/-!
# The dates that texts denote

A text names years of up to ten digits, whereas a date is a count of days in 32 bits and ends in the
year 5881580. Readers bound the year and the fields but not the count. A day that a date can hold is
read as the date of the label that is written; a day beyond these is not refused, it is read as the
date whose count is the same in 32 bits.

## Main definitions

* `TypedRows.Calendar.dayCount`, `TypedRows.Calendar.FitsDate` — the count of days of a label of any
  year, and the counts that dates hold.
* `TypedRows.Calendar.ReadsAsWritten` — texts that are read as the date that they write.
* `TypedRows.Calendar.WritesFarDay` — texts of days that no date holds.

## Main results

* `TypedRows.Calendar.readDate_eq_ok_iff` — the texts that are read as dates.
* `TypedRows.Calendar.dates_are_read_as_written_iff`
-/

set_option autoImplicit false

namespace TypedRows.Calendar

open YearMonthDay (ofEpochDay)

/-- The day of a label, in days since 1970-01-01. -/
def dayCount (year : Int) (month day : Nat) : Int :=
  firstOfMonth (12 * year + (month - 1)) + day - 1

/-- The counts of days that dates hold. -/
def FitsDate (count : Int) : Prop := -2147483648 ≤ count ∧ count < 2147483648

instance (count : Int) : Decidable (FitsDate count) := by
  unfold FitsDate; infer_instance

/-- A text is read as it is written. It is read exactly when it writes the label of a day that a
date holds; the label of the date is the one that is written; and whatever is refused is refused in
the name of the text. -/
structure ReadsAsWritten (text : String) : Prop where
  accepted_iff : (∃ date, readDate text = .ok date) ↔ ∃ year month day,
    WritesDate text.toList year month day ∧ NamesDay year month day
      ∧ FitsDate (dayCount year month day)
  label : ∀ date, readDate text = .ok date → WritesDate text.toList
    (ofEpochDay date).year.toInt (ofEpochDay date).month (ofEpochDay date).day
  refused : BlamesText text (readDate text)

/-- A text writes the label of a day that no date holds, in a year that a text may name. -/
def WritesFarDay (text : String) : Prop :=
  ∃ year month day, WritesDate text.toList year month day ∧ NamesDay year month day
    ∧ year.natAbs ≤ maxYear ∧ ¬ FitsDate (dayCount year month day)

variable {text : String} {year : Int} {month day : Nat}

/-! ## Counts of days -/

/-- Days that dates hold are in years that a text may name. -/
lemma NamesDay.natAbs_le (h : NamesDay year month day)
    (hfits : FitsDate (dayCount year month day)) : year.natAbs ≤ maxYear := by
  obtain ⟨hm₁, hm₂, hd₁, hd₂⟩ := h
  obtain ⟨hlow, hhigh⟩ := hfits
  have hdays := daysInMonth_le year month
  rw [dayCount] at hlow hhigh
  have hafter : 2147483648 ≤ firstOfMonth (12 * 2147483648) := by decide
  have hbefore : firstOfMonth (12 * (-2147483648) + 11) < -2147483648 - 31 := by decide
  unfold maxYear
  by_contra hfar
  rcases Int.lt_or_le year 0 with hneg | hpos
  · have hmono := firstOfMonth_strictMono.monotone
      (show 12 * year + ((month : Int) - 1) ≤ 12 * (-2147483648) + 11 by omega)
    omega
  · have hmono := firstOfMonth_strictMono.monotone
      (show 12 * 2147483648 ≤ 12 * year + ((month : Int) - 1) by omega)
    omega

/-- The label with a year of 32 bits. -/
lemma NamesDay.label (h : NamesDay year month day) (hyear : year.natAbs ≤ maxYear) :
    ∃ d : YearMonthDay, d = ⟨Int32.ofInt year, month, day⟩ ∧ d.IsValid ∧ d.year.toInt = year
      ∧ d.julianDay - epochJulianDay = dayCount year month day := by
  have htoInt : (Int32.ofInt year).toInt = year := by
    unfold maxYear at hyear
    exact Int32.toInt_ofInt_of_le (by omega) (by omega)
  have hvalid : (⟨Int32.ofInt year, month, day⟩ : YearMonthDay).IsValid := by
    rw [YearMonthDay.IsValid, htoInt]
    exact h
  refine ⟨_, rfl, hvalid, htoInt, ?_⟩
  rw [hvalid.isDated.julianDay_eq, YearMonthDay.monthCount, htoInt, Int.mul_comm, dayCount]

/-! ## Texts -/

/-- **The texts that are read as dates**, with the count of days in 32 bits. -/
lemma readDate_eq_ok_iff {date : EpochDay} : readDate text = .ok date
    ↔ ∃ year month day, WritesDate text.toList year month day ∧ NamesDay year month day
      ∧ year.natAbs ≤ maxYear ∧ Int32.ofInt (dayCount year month day) = date := by
  rw [readDate, readDateChars_eq_ok_iff]
  constructor
  · rintro ⟨year, month, day, hwrites, hyear, hnames, hdate⟩
    obtain ⟨d, rfl, -, -, hcount⟩ := hnames.label hyear
    exact ⟨year, month, day, hwrites, hnames, hyear, by rwa [← hcount]⟩
  · rintro ⟨year, month, day, hwrites, hnames, hyear, hdate⟩
    obtain ⟨d, rfl, -, -, hcount⟩ := hnames.label hyear
    exact ⟨year, month, day, hwrites, hyear, hnames, by rwa [← hcount] at hdate⟩

/-- A date that holds the day that is written has the label that is written. -/
lemma writesDate_ofEpochDay (hwrites : WritesDate text.toList year month day)
    (hnames : NamesDay year month day) (hfits : FitsDate (dayCount year month day)) :
    WritesDate text.toList (ofEpochDay (Int32.ofInt (dayCount year month day))).year.toInt
      (ofEpochDay (Int32.ofInt (dayCount year month day))).month
      (ofEpochDay (Int32.ofInt (dayCount year month day))).day := by
  obtain ⟨d, hd, hvalid, hyear, hcount⟩ := hnames.label (hnames.natAbs_le hfits)
  have hlabel : ofEpochDay (Int32.ofInt (dayCount year month day)) = d := by
    rw [← hcount] at hfits ⊢
    exact hvalid.ofEpochDay_epochDay hfits
  rw [hlabel, hyear, hd]
  exact hwrites

/-- **Dates are read as they are written unless no date holds them.** A text is read as the date
that it writes, or refused in its own name when it writes none, exactly when it does not write a
day beyond those of dates in a year that a text may name. Whatever is refused is refused in the name
of the text, and whatever names a day in such a year is read, with the count of its days taken to
32 bits.

**Proof sketch.** The texts that are read are those of `readDate_eq_ok_iff`. A count that fits 32
bits is kept and comes back as the label that was written, and its year is never refused. A text of a
far day is read all the same, although it writes no other date (`WritesDate.unique`). -/
theorem dates_are_read_as_written_iff (text : String) :
    (ReadsAsWritten text ↔ ¬ WritesFarDay text)
      ∧ BlamesText text (readDate text)
      ∧ ∀ year month day, WritesDate text.toList year month day → NamesDay year month day →
        year.natAbs ≤ maxYear → readDate text = .ok (Int32.ofInt (dayCount year month day)) := by
  have hread {year : Int} {month day : Nat} (hwrites : WritesDate text.toList year month day)
      (hnames : NamesDay year month day) (hyear : year.natAbs ≤ maxYear) :
      readDate text = .ok (Int32.ofInt (dayCount year month day)) :=
    readDate_eq_ok_iff.2 ⟨year, month, day, hwrites, hnames, hyear, rfl⟩
  have hblames : BlamesText text (readDate text) := blamesText_readDateChars text text.toList
  refine ⟨⟨?_, fun hfar => ?_⟩, hblames, fun year month day => hread⟩
  · rintro hasWritten ⟨year, month, day, hwrites, hnames, hyear, hfar⟩
    obtain ⟨year', month', day', hwrites', -, hfits⟩ :=
      hasWritten.accepted_iff.1 ⟨_, hread hwrites hnames hyear⟩
    obtain ⟨rfl, rfl, rfl⟩ := hwrites.unique hwrites'
    exact hfar hfits
  · have hfits {year : Int} {month day : Nat} (hwrites : WritesDate text.toList year month day)
        (hnames : NamesDay year month day) (hyear : year.natAbs ≤ maxYear) :
        FitsDate (dayCount year month day) :=
      not_not.1 fun hnot => hfar ⟨year, month, day, hwrites, hnames, hyear, hnot⟩
    refine ⟨⟨?_, ?_⟩, ?_, hblames⟩
    · rintro ⟨date, hdate⟩
      obtain ⟨year, month, day, hwrites, hnames, hyear, -⟩ := readDate_eq_ok_iff.1 hdate
      exact ⟨year, month, day, hwrites, hnames, hfits hwrites hnames hyear⟩
    · rintro ⟨year, month, day, hwrites, hnames, hfits⟩
      exact ⟨_, hread hwrites hnames (hnames.natAbs_le hfits)⟩
    · intro date hdate
      obtain ⟨year, month, day, hwrites, hnames, hyear, rfl⟩ := readDate_eq_ok_iff.1 hdate
      exact writesDate_ofEpochDay hwrites hnames (hfits hwrites hnames hyear)

/-- The last day that a date holds. -/
theorem dates_are_read_as_written_to_the_last :
    WritesDate "5881580-07-11".toList 5881580 7 11 ∧ NamesDay 5881580 7 11
      ∧ Int.natAbs 5881580 ≤ maxYear ∧ readDate "5881580-07-11" = .ok Int32.maxValue := by
  have hwrites : WritesDate "5881580-07-11".toList 5881580 7 11 :=
    .unsigned ⟨['5', '8', '8', '1', '5', '8', '0'], ['0', '7'], ['1', '1'], by decide, by decide,
      by decide, by decide⟩
  have hnames : NamesDay 5881580 7 11 := by decide
  have hyear : Int.natAbs 5881580 ≤ maxYear := by decide
  have hcount : Int32.ofInt (dayCount 5881580 7 11) = Int32.maxValue := by decide
  exact ⟨hwrites, hnames, hyear,
    hcount ▸ (dates_are_read_as_written_iff _).2.2 _ _ _ hwrites hnames hyear⟩

/-- The day after the last day that a date holds is read as the first one. -/
theorem day_after_the_last_is_read_as_the_first :
    WritesDate "5881580-07-12".toList 5881580 7 12 ∧ NamesDay 5881580 7 12
      ∧ dayCount 5881580 7 12 = 2147483648 ∧ readDate "5881580-07-12" = .ok Int32.minValue
      ∧ ofEpochDay Int32.minValue = ⟨-5877641, 6, 23⟩ ∧ ¬ ReadsAsWritten "5881580-07-12" := by
  have hwrites : WritesDate "5881580-07-12".toList 5881580 7 12 :=
    .unsigned ⟨['5', '8', '8', '1', '5', '8', '0'], ['0', '7'], ['1', '2'], by decide, by decide,
      by decide, by decide⟩
  have hread : readDate "5881580-07-12" = .ok Int32.minValue := by decide
  refine ⟨hwrites, by decide, by decide, hread, by decide, fun h => ?_⟩
  have hmonth := (hwrites.unique (h.label _ hread)).2.1
  revert hmonth
  decide

end TypedRows.Calendar
