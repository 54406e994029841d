import TypedRows.Proofs.Calendar.PartialDays
import TypedRows.Proofs.Value.ClientInverse

/-!
# Dates and times of cells

A client date is the instant of a local midnight, and a client time one of the first day of 1970.
Cells of dates and of clock times are read for such instants, and so are typed values under their
tags. A cell with a timestamp is read as either for the instant of the timestamp, which is a local
midnight when the timestamp has no time of day, and one of the first day of 1970 when it is of that
day. Where a date is written, the day that its instant lies in is taken, and a part of a day is cut
off towards 1970, so that dates of timestamps come back from 1970 on.

## Main definitions

* `TypedRows.CellReader.HoldsMidnight`, `TypedRows.CellReader.HoldsTimeOfDay` — the cells that are
  read as a date for a local midnight, and as a time for an instant of the first day of 1970.
* `TypedRows.Tagged.innermost` — the typed value that is inside of all others.

## Main results

* `TypedRows.CellReader.date_cases`, `TypedRows.CellReader.time_cases`,
  `TypedRows.Tagged.cases_of_toClient` — what dates and times are read for.
* `TypedRows.CellReader.date_of_timestamp_comes_back_iff`
* `TypedRows.client_dates_are_midnights_iff`
-/

set_option autoImplicit false

namespace TypedRows

open Calendar

variable {zone : Option Zone} {offset : Int} {i : Int64}

/-! ## What is shown at an instant -/

/-- The midnights of dates fit 64 bits. -/
lemma fitsLong_midnight (date : EpochDay) :
    FitsLong (civilDay (.ofEpochDay date) * millisPerDay) := by
  have hday := civilDay_bounds date
  unfold FitsLong millisPerDay
  omega

/-- What is shown of a timestamp fits 64 bits. -/
lemma fitsLong_wallOfTimestamp (timestamp : Int) : FitsLong (wallOfTimestamp timestamp) := by
  have hday := civilDay_bounds (dayOf timestamp)
  have hnonneg := timeOfDay_nonneg timestamp
  have hlt := timeOfDay_lt timestamp
  unfold FitsLong wallOfTimestamp
  unfold millisPerDay at *
  omega

/-- A timestamp without a time of day is shown as a midnight, and no other one. -/
lemma dvd_wallOfTimestamp_iff (timestamp : Int) :
    millisPerDay ∣ wallOfTimestamp timestamp ↔ timeOfDay timestamp = 0 := by
  have htime : timeOfDay timestamp % millisPerDay = timeOfDay timestamp :=
    Int.emod_eq_of_lt (timeOfDay_nonneg timestamp) (timeOfDay_lt timestamp)
  rw [wallOfTimestamp, Int.dvd_iff_emod_eq_zero, Int.mul_add_emod_self_right, htime]

/-- A timestamp of the first day of 1970 is shown on that day, and no other one. -/
lemma isTimeOfDay_wallOfTimestamp_iff (timestamp : Int) :
    IsTimeOfDay (wallOfTimestamp timestamp) ↔ dayOf timestamp = 0 := by
  have hnonneg := timeOfDay_nonneg timestamp
  have hlt := timeOfDay_lt timestamp
  rw [← civilDay_eq_zero_iff, IsTimeOfDay, wallOfTimestamp]
  unfold millisPerDay at *
  omega

/-! ## Cells -/

namespace CellReader

variable {r : CellReader} {v : LocalValue} {timestamp : Int}

/-- The milliseconds of a cell are a number of 64 bits. -/
lemma toInt_ofInt_of_millis (h : r.millis v = .ok timestamp) :
    (Int64.ofInt timestamp).toInt = timestamp := by
  obtain ⟨t, -, heq⟩ := bind_eq_ok_iff.1 h
  obtain rfl := Except.ok.inj heq
  exact congrArg Int64.toInt (Int64.ofInt_toInt _)

/-- The count of a cell is a number of 64 bits. -/
lemma toInt_ofInt_of_count {n : Int} (h : r.count v = .ok n) : (Int64.ofInt n).toInt = n := by
  obtain ⟨k, -, hk⟩ := bind_eq_ok_iff.1 h
  cases k with
  | none => cases hk
  | some k =>
    obtain rfl := Except.ok.inj hk
    exact congrArg Int64.toInt (Int64.ofInt_toInt _)

/-- A cell with a timestamp is not null. -/
lemma isNull_of_millis (h : r.millis v = .ok timestamp) : v.isNull = false := by
  cases v <;> first | rfl | cases h

/-- The cells that are read as a date for a local midnight: dates, timestamps without a time of
day, and instants at which the wall clocks, an offset ahead of UTC, show a midnight. -/
def HoldsMidnight (r : CellReader) (offset : Int) (v : LocalValue) : Prop :=
  match r.tag with
  | .sqlDate => True
  | .sqlTimestamp | .utilDate => ∃ timestamp, r.millis v = .ok timestamp ∧ timeOfDay timestamp = 0
  | .instantTimestamp =>
    ∃ timestamp, r.millis v = .ok timestamp ∧ timeOfDay (timestamp + offset) = 0
  | _ => False

/-- The cells of clock times and of timestamps that are read as a time for an instant of the first
day of 1970: times within a day, and timestamps of that day. -/
def HoldsTimeOfDay (r : CellReader) (v : LocalValue) : Prop :=
  match r.tag with
  | .sqlTime => ∃ time, r.count32 v = .ok time ∧ IsTimeOfDay time.toInt
  | .sqlTimestamp | .utilDate => ∃ timestamp, r.millis v = .ok timestamp ∧ dayOf timestamp = 0
  | _ => False

variable [Platform]

/-- What a cell is read as a date for. -/
lemma date_cases (h : r.date zone v = .ok (some i)) :
    (r.tag = .sqlDate ∧ ∃ date, i = Int64.ofInt (instantOfDate date zone))
      ∨ ((r.tag = .sqlTimestamp ∨ r.tag = .utilDate) ∧ ∃ timestamp,
        r.millis v = .ok timestamp ∧ i = Int64.ofInt (instantOfTimestamp timestamp zone))
      ∨ (r.tag = .instantTimestamp ∧ r.millis v = .ok i.toInt) := by
  unfold date at h
  by_cases hnull : v.isNull = true
  · rw [if_pos hnull] at h
    cases h
  rw [if_neg hnull] at h
  split at h
  case h_1 htag =>
    obtain ⟨date, -, heq⟩ := bind_eq_ok_iff.1 h
    exact .inl ⟨htag, date, (Option.some.inj (Except.ok.inj heq)).symm⟩
  case h_2 htag | h_3 htag =>
    obtain ⟨timestamp, hmillis, heq⟩ := bind_eq_ok_iff.1 h
    exact .inr (.inl ⟨by simp [htag], timestamp, hmillis,
      (Option.some.inj (Except.ok.inj heq)).symm⟩)
  case h_4 htag =>
    obtain ⟨timestamp, hmillis, heq⟩ := bind_eq_ok_iff.1 h
    obtain rfl := Option.some.inj (Except.ok.inj heq)
    rw [toInt_ofInt_of_millis hmillis]
    exact .inr (.inr ⟨htag, hmillis⟩)
  case h_5 => cases h

/-- What a cell is read as a time for. -/
lemma time_cases (h : r.time zone v = .ok (some i)) :
    (r.tag = .sqlTime ∧ ∃ time, r.count32 v = .ok time
        ∧ i = Int64.ofInt (instantOfTime time.toInt zone))
      ∨ ((r.tag = .sqlTimestamp ∨ r.tag = .utilDate) ∧ ∃ timestamp,
        r.millis v = .ok timestamp ∧ i = Int64.ofInt (instantOfTimestamp timestamp zone))
      ∨ (r.tag = .instantTime ∧ r.count v = .ok i.toInt)
      ∨ (r.tag = .instantTimestamp ∧ r.millis v = .ok i.toInt) := by
  unfold time at h
  by_cases hnull : v.isNull = true
  · rw [if_pos hnull] at h
    cases h
  rw [if_neg hnull] at h
  split at h
  case h_1 htag =>
    obtain ⟨time, htime, heq⟩ := bind_eq_ok_iff.1 h
    exact .inl ⟨htag, time, htime, (Option.some.inj (Except.ok.inj heq)).symm⟩
  case h_2 htag | h_3 htag =>
    obtain ⟨timestamp, hmillis, heq⟩ := bind_eq_ok_iff.1 h
    exact .inr (.inl ⟨by simp [htag], timestamp, hmillis,
      (Option.some.inj (Except.ok.inj heq)).symm⟩)
  case h_4 htag =>
    obtain ⟨n, hcount, heq⟩ := bind_eq_ok_iff.1 h
    obtain rfl := Option.some.inj (Except.ok.inj heq)
    rw [toInt_ofInt_of_count hcount]
    exact .inr (.inr (.inl ⟨htag, hcount⟩))
  case h_5 htag =>
    obtain ⟨timestamp, hmillis, heq⟩ := bind_eq_ok_iff.1 h
    obtain rfl := Option.some.inj (Except.ok.inj heq)
    rw [toInt_ofInt_of_millis hmillis]
    exact .inr (.inr (.inr ⟨htag, hmillis⟩))
  case h_6 => cases h

/-- A cell with a timestamp is read as a date for the instant of the timestamp. -/
lemma date_of_millis (htag : r.tag = .sqlTimestamp) (hv : r.millis v = .ok timestamp) :
    r.date zone v = .ok (some (Int64.ofInt (instantOfTimestamp timestamp zone))) := by
  rw [date, isNull_of_millis hv, if_neg Bool.false_ne_true, htag]
  dsimp only
  rw [hv]
  rfl

end CellReader

/-! ## Typed values -/

/-- The typed value within a value of a tag that is inside of all others. -/
def SerialValue.innermost (tag : Tag) (component : Option Tag) : SerialValue → TypedValue
  | .typed ⟨tag, value, component⟩ => value.innermost tag component
  | value => ⟨tag, value, component⟩

namespace Tagged

variable {tv : TypedValue}

/-- The typed value that is inside of all others. -/
def innermost (tv : TypedValue) : TypedValue := tv.value.innermost tv.tag tv.component

/-- No typed value is inside of the innermost one. -/
lemma value_innermost_ne (tv tv' : TypedValue) : tv.innermost.value ≠ .typed tv' := by
  obtain ⟨tag, value, component⟩ := tv
  unfold innermost
  dsimp only
  fun_induction SerialValue.innermost tag component value with
  | case1 _ _ tag value component ih => exact ih
  | case2 _ _ value hvalue => exact fun h => hvalue _ _ _ h

variable [Platform]

/-- A typed value has the client value of the innermost one. -/
lemma toClient_innermost (tv : TypedValue) (zone : Option Zone) :
    tv.innermost.toClient zone = tv.toClient zone := by
  obtain ⟨tag, value, component⟩ := tv
  unfold innermost
  dsimp only
  fun_induction SerialValue.innermost tag component value with
  | case1 _ _ tag value component ih => exact ih
  | case2 => rfl

/-- What a typed value is read as a date or a time for. Only dates are read as dates, whereas times
may be instants already. -/
lemma cases_of_toClient {o : ClientValue} (h : tv.toClient zone = .ok o) :
    (∀ i, o = .date i → ∃ date, i = Int64.ofInt (instantOfDate date zone))
      ∧ ∀ i, o = .time i → tv.innermost.tag = .sqlTime →
        ∃ n, tv.innermost.value.integral .sqlTime = .ok n
          ∧ i = Int64.ofInt (instantOfTime (Int32.ofInt n).toInt zone) := by
  have htyped := value_innermost_ne tv
  -- within the innermost value no further typed value is opened
  rw [← toClient_innermost] at h
  generalize tv.innermost = inner at h htyped
  obtain ⟨tag, value, component⟩ := inner
  dsimp only [toClient] at h htyped ⊢
  by_cases hnull : value = .null
  · rw [hnull, SerialValue.toClient] at h
    obtain rfl := Except.ok.inj h
    exact ⟨fun i hi => (by cases hi), fun i hi => (by cases hi)⟩
  rw [SerialValue.toClient] at h
  case x_1 => exact hnull
  case x_2 => exact fun _ _ _ => htyped _
  split at h
  case h_1 =>
    obtain ⟨n, -, heq⟩ := bind_eq_ok_iff.1 h
    obtain rfl := Except.ok.inj heq
    exact ⟨fun i hi => ⟨_, (ClientValue.date.inj hi).symm⟩, fun i hi => (by cases hi)⟩
  case h_2 htag =>
    obtain ⟨n, hn, heq⟩ := bind_eq_ok_iff.1 h
    obtain rfl := Except.ok.inj heq
    rw [htag] at hn
    exact ⟨fun i hi => (by cases hi), fun i hi _ => ⟨n, hn, (ClientValue.time.inj hi).symm⟩⟩
  case h_3 | h_4 | h_6 =>
    obtain ⟨n, -, heq⟩ := bind_eq_ok_iff.1 h
    obtain rfl := Except.ok.inj heq
    exact ⟨fun i hi => (by cases hi), fun i hi => (by cases hi)⟩
  case h_5 hboxed =>
    obtain ⟨n, -, heq⟩ := bind_eq_ok_iff.1 h
    obtain rfl := Except.ok.inj heq
    refine ⟨fun i hi => (by cases hi), fun i hi htag => ?_⟩
    rw [htag] at hboxed
    cases hboxed
  case h_7 =>
    obtain ⟨v, -, heq⟩ := bind_eq_ok_iff.1 h
    split at heq
    · obtain rfl := Except.ok.inj heq
      exact ⟨fun i hi => (by cases hi), fun i hi => (by cases hi)⟩
    · cases heq
  case h_8 =>
    obtain ⟨v, -, heq⟩ := bind_eq_ok_iff.1 h
    obtain rfl := Except.ok.inj heq
    exact ⟨fun i hi => (by cases v <;> cases hi), fun i hi => (by cases v <;> cases hi)⟩

end Tagged

/-! ## Dates of timestamps -/

section

variable [Platform] {r : CellReader} {v : LocalValue} {timestamp : Int}

/-- **Which dates of timestamps come back.** Take a zone of one offset and a cell of a column of
timestamps, whose day fits 32 bits and is none that the civil calendar leaves out, and whose instant
fits 64 bits. The cell is read as a date, and this is written under the tag of dates; what is
written is the day of the timestamp exactly when the timestamp is not before 1970 or its time of day
is midnight, and the next day of the civil calendar otherwise.

**Proof sketch.** The reader takes the instant of the timestamp, time of day included, for that of a
date, and the writer cuts the part of the day off towards 1970. -/
theorem CellReader.date_of_timestamp_comes_back_iff (hz : fixedOffset? zone = some offset)
    (htag : r.tag = .sqlTimestamp) (hv : r.millis v = .ok timestamp) (hday : FitsDay timestamp)
    (hskipped : ¬ (YearMonthDay.ofEpochDay (dayOf timestamp)).IsSkipped)
    (hlong : FitsLong (instantOfTimestamp timestamp zone)) :
    ∃ i date : Int64, r.date zone v = .ok (some i)
      ∧ Tagged.ofClient .sqlDate (.date i) zone = .ok ⟨.sqlDate, .integer date, none⟩
      ∧ (date.toInt = timestamp / millisPerDay ↔ 0 ≤ timestamp ∨ timeOfDay timestamp = 0)
      ∧ (timestamp < 0 → timeOfDay timestamp ≠ 0 → date.toInt = timestamp / millisPerDay
        + if YearMonthDay.ofEpochDay (dayOf timestamp) = ⟨1582, 10, 4⟩ then 11 else 1) := by
  have hdate := dateOfInstant_instantOfTimestamp hz hday hskipped
  obtain ⟨i, hi⟩ : ∃ i, i = Int64.ofInt (instantOfTimestamp timestamp zone) := ⟨_, rfl⟩
  have hinstant : i.toInt = instantOfTimestamp timestamp zone := by rw [hi, hlong.toInt_ofInt]
  have hcount : (Tag.sqlDate.countOfInstant zone i).toInt
      = (dateOfInstant (instantOfTimestamp timestamp zone) zone).toInt := by
    have hlow := (dateOfInstant (instantOfTimestamp timestamp zone) zone).le_toInt
    have hhigh := (dateOfInstant (instantOfTimestamp timestamp zone) zone).toInt_lt
    rw [← hinstant] at hlow hhigh ⊢
    exact Int64.toInt_ofInt_of_le (by omega) (by omega)
  refine ⟨i, Tag.sqlDate.countOfInstant zone i, ?_, ?_, ?_, fun hneg hpart => ?_⟩
  · rw [date_of_millis htag hv, hi]
  · exact bind_eq_ok_iff.2 ⟨_, ClientValue.toSerial_of_instant rfl rfl, rfl⟩
  · rw [hcount, hdate]
    split_ifs <;> omega
  · rw [hcount, hdate, if_neg (by omega)]

end

section

attribute [local instance] Platform.utc

/-- In a zone an hour ahead of UTC the last millisecond of the first day of 1970 is read as a date,
which comes back as this day. -/
theorem CellReader.date_of_timestamp_comes_back_from_1970 :
    let r : CellReader := ⟨.new 0 "t" (.scalar .sqlTimestamp), .row, none, none⟩
    let zone : Option Zone := some (.fixed 3600000)
    fixedOffset? zone = some 3600000 ∧ r.tag = .sqlTimestamp
      ∧ r.millis (.long 86399999) = .ok 86399999 ∧ FitsDay 86399999
      ∧ ¬ (YearMonthDay.ofEpochDay (dayOf 86399999)).IsSkipped
      ∧ FitsLong (instantOfTimestamp 86399999 zone)
      ∧ ∃ i date : Int64, r.date zone (.long 86399999) = .ok (some i)
        ∧ Tagged.ofClient .sqlDate (.date i) zone = .ok ⟨.sqlDate, .integer date, none⟩
        ∧ date.toInt = 86399999 / millisPerDay := by
  intro r zone
  have hz : fixedOffset? zone = some 3600000 := rfl
  have hv : r.millis (.long 86399999) = .ok 86399999 := rfl
  have hday : FitsDay 86399999 := by decide
  have hskipped : ¬ (YearMonthDay.ofEpochDay (dayOf 86399999)).IsSkipped := by decide
  have hlong : FitsLong (instantOfTimestamp 86399999 zone) := by decide
  obtain ⟨i, date, hdate, hback, hiff, -⟩ :=
    date_of_timestamp_comes_back_iff hz rfl hv hday hskipped hlong
  exact ⟨hz, rfl, hv, hday, hskipped, hlong, i, date, hdate, hback, hiff.2 (.inl (by decide))⟩

/-- The last millisecond before 1970 is read as a date that comes back as the first day of 1970. -/
theorem CellReader.date_of_last_millisecond_of_1969_comes_back_as_1970 :
    let r : CellReader := ⟨.new 0 "t" (.scalar .sqlTimestamp), .row, none, none⟩
    r.date (some .utc) (.long (-1)) = .ok (some (-1))
      ∧ Tagged.ofClient .sqlDate (.date (-1)) (some .utc) = .ok ⟨.sqlDate, .integer 0, none⟩
      ∧ (0 : Int) ≠ (-1) / millisPerDay :=
  ⟨rfl, bind_eq_ok_iff.2 ⟨_, ClientValue.toSerial_of_instant rfl rfl, rfl⟩, by decide⟩

end

/-! ## Midnights and times of the first day of 1970 -/

section

variable [Platform]

/-- The wall clocks of a zone of one offset show a time at its instant, when both the time and what
is shown fit 64 bits. -/
lemma toInt_add_offset (hz : fixedOffset? zone = some offset) {wall : Int} (hwall : FitsLong wall)
    (hi : i = Int64.ofInt (instantOfWall zone wall)) (hfits : FitsLong (i.toInt + offset)) :
    i.toInt + offset = wall := by
  have hwrap : i.toInt = (wall - offset).bmod 18446744073709551616 := by
    rw [hi, instantOfWall_of_fixed hz, Int64.toInt_ofInt]
  rw [Int.bmod_def] at hwrap
  unfold FitsLong at *
  split_ifs at hwrap <;> omega

/-- A date is shown at a midnight. -/
lemma dvd_add_offset (hz : fixedOffset? zone = some offset) {date : EpochDay}
    (hi : i = Int64.ofInt (instantOfDate date zone)) (hfits : FitsLong (i.toInt + offset)) :
    millisPerDay ∣ i.toInt + offset := by
  rw [toInt_add_offset hz (fitsLong_midnight date) hi hfits]
  exact Int.dvd_mul_left _ _

/-- A clock time is shown at its instant. -/
lemma toInt_add_offset_of_time (hz : fixedOffset? zone = some offset) {time : Int32}
    (hi : i = Int64.ofInt (instantOfTime time.toInt zone)) (hfits : FitsLong (i.toInt + offset)) :
    i.toInt + offset = time.toInt := by
  have hlow := time.le_toInt
  have hhigh := time.toInt_lt
  refine toInt_add_offset hz ?_ hi hfits
  unfold FitsLong
  omega

/-- A cell is read as a date for a local midnight when it holds one. -/
lemma CellReader.dvd_of_date_iff {r : CellReader} {v : LocalValue}
    (hz : fixedOffset? zone = some offset) (h : r.date zone v = .ok (some i))
    (hfits : FitsLong (i.toInt + offset)) :
    millisPerDay ∣ i.toInt + offset ↔ r.HoldsMidnight offset v := by
  obtain ⟨htag, date, hi⟩ | ⟨htag, timestamp, hmillis, hi⟩ | ⟨htag, hmillis⟩ := date_cases h
  · simp [HoldsMidnight, htag, dvd_add_offset hz hi hfits]
  · rw [toInt_add_offset hz (fitsLong_wallOfTimestamp timestamp) hi hfits,
      dvd_wallOfTimestamp_iff]
    rcases htag with htag | htag <;> simp [HoldsMidnight, htag, hmillis]
  · rw [Int.dvd_iff_emod_eq_zero]
    simp [HoldsMidnight, htag, hmillis, timeOfDay]

/-- A cell is read as a time of the first day of 1970 when it holds one. -/
lemma CellReader.isTimeOfDay_of_time_iff {r : CellReader} {v : LocalValue}
    (hz : fixedOffset? zone = some offset) (h : r.time zone v = .ok (some i))
    (hfits : FitsLong (i.toInt + offset))
    (htag : r.tag = .sqlTime ∨ r.tag = .sqlTimestamp ∨ r.tag = .utilDate) :
    IsTimeOfDay (i.toInt + offset) ↔ r.HoldsTimeOfDay v := by
  obtain ⟨hown, time, htime, hi⟩ | ⟨hown, timestamp, hmillis, hi⟩ | ⟨hother, -⟩ | ⟨hother, -⟩ :=
    time_cases h
  · simp [HoldsTimeOfDay, hown, htime, toInt_add_offset_of_time hz hi hfits]
  · rw [toInt_add_offset hz (fitsLong_wallOfTimestamp timestamp) hi hfits,
      isTimeOfDay_wallOfTimestamp_iff]
    rcases hown with hown | hown <;> simp [HoldsTimeOfDay, hown, hmillis]
  all_goals simp [hother] at htag

/-- **Client dates are midnights and client times lie on the first day of 1970**, unless they are
those of other timestamps: in every zone of one offset, and as far as what the wall clocks show fits
64 bits. What a cell is read as a date for is a local midnight exactly when it is a date, a
timestamp without a time of day, or an instant at which a midnight is shown. What a cell of clock
times or timestamps is read as a time for is an instant of the first day of 1970 exactly when it is
a time within a day or a timestamp of that day. The dates that typed values have as client values
are midnights, and under the tag of clock times the times that they have are of the first day
exactly for times within a day.

**Proof sketch.** The wall clocks show at the instant what the cell holds, a date at midnight, a
clock time on the first day of 1970 or a timestamp on its day in the civil calendar; the instant of
a cell of instants is taken as it is. -/
theorem client_dates_are_midnights_iff (hz : fixedOffset? zone = some offset) :
    (∀ (r : CellReader) (v : LocalValue) (i : Int64), r.date zone v = .ok (some i) →
        FitsLong (i.toInt + offset) →
        (millisPerDay ∣ i.toInt + offset ↔ r.HoldsMidnight offset v))
      ∧ (∀ (r : CellReader) (v : LocalValue) (i : Int64), r.time zone v = .ok (some i) →
        FitsLong (i.toInt + offset) →
        r.tag = .sqlTime ∨ r.tag = .sqlTimestamp ∨ r.tag = .utilDate →
        (IsTimeOfDay (i.toInt + offset) ↔ r.HoldsTimeOfDay v))
      ∧ (∀ (tv : TypedValue) (i : Int64), tv.toClient zone = .ok (.date i) →
        FitsLong (i.toInt + offset) → millisPerDay ∣ i.toInt + offset)
      ∧ ∀ (tv : TypedValue) (i : Int64), tv.toClient zone = .ok (.time i) →
        FitsLong (i.toInt + offset) → tv.innermost.tag = .sqlTime →
        ∃ time, tv.innermost.value.integral .sqlTime = .ok time
          ∧ (IsTimeOfDay (i.toInt + offset) ↔ IsTimeOfDay (Int32.ofInt time).toInt) := by
  refine ⟨fun r v i h hfits => CellReader.dvd_of_date_iff hz h hfits,
    fun r v i h hfits htag => CellReader.isTimeOfDay_of_time_iff hz h hfits htag,
    fun tv i h hfits => ?_, fun tv i h hfits htag => ?_⟩
  · obtain ⟨date, hi⟩ := (Tagged.cases_of_toClient h).1 i rfl
    exact dvd_add_offset hz hi hfits
  · obtain ⟨time, htime, hi⟩ := (Tagged.cases_of_toClient h).2 i rfl htag
    exact ⟨time, htime, by rw [toInt_add_offset_of_time hz hi hfits]⟩

end

section

attribute [local instance] Platform.utc

/-- In a zone five hours and a half ahead of UTC the second of January 1970 begins at 18:30 of the
day before in UTC, and so does the first. -/
theorem client_dates_are_midnights_in_india :
    let zone : Option Zone := some (.fixed 19800000)
    let dates : CellReader := ⟨.new 0 "d" (.scalar .sqlDate), .row, zone, zone⟩
    let times : CellReader := ⟨.new 0 "t" (.scalar .sqlTime), .row, zone, zone⟩
    fixedOffset? zone = some 19800000
      ∧ (dates.date zone (.int 1) = .ok (some 66600000)
        ∧ millisPerDay ∣ (66600000 : Int64).toInt + 19800000)
      ∧ (times.time zone (.int 0) = .ok (some (-19800000))
        ∧ IsTimeOfDay ((-19800000 : Int64).toInt + 19800000))
      ∧ ((⟨.sqlDate, .integer 1, none⟩ : TypedValue).toClient zone = .ok (.date 66600000)
        ∧ millisPerDay ∣ (66600000 : Int64).toInt + 19800000)
      ∧ (⟨.sqlTime, .integer 0, none⟩ : TypedValue).toClient zone = .ok (.time (-19800000))
        ∧ IsTimeOfDay ((-19800000 : Int64).toInt + 19800000) := by
  intro zone dates times
  have hz : fixedOffset? zone = some 19800000 := rfl
  have hdate : dates.date zone (.int 1) = .ok (some 66600000) := rfl
  have htime : times.time zone (.int 0) = .ok (some (-19800000)) := rfl
  have hdateValue : (⟨.sqlDate, .integer 1, none⟩ : TypedValue).toClient zone
      = .ok (.date 66600000) := rfl
  have htimeValue : (⟨.sqlTime, .integer 0, none⟩ : TypedValue).toClient zone
      = .ok (.time (-19800000)) := rfl
  obtain ⟨hdates, htimes, hdateValues, htimeValues⟩ := client_dates_are_midnights_iff hz
  have hmidnight := (hdates dates (.int 1) _ hdate (by decide)).2 trivial
  have hday := (htimes times (.int 0) _ htime (by decide) (.inl rfl)).2 ⟨0, rfl, by decide⟩
  obtain ⟨time, hvalue, hiff⟩ := htimeValues _ _ htimeValue (by decide) rfl
  obtain rfl : 0 = time := Except.ok.inj hvalue
  exact ⟨hz, ⟨hdate, hmidnight⟩, ⟨htime, hday⟩,
    ⟨hdateValue, hdateValues _ _ hdateValue (by decide)⟩, htimeValue, hiff.2 (by decide)⟩

/-- The timestamp of one o'clock on the second of January 1970 is read as a date that is no
midnight, and as a time that is not of the first day. -/
theorem date_of_timestamp_is_no_midnight :
    let r : CellReader := ⟨.new 0 "t" (.scalar .sqlTimestamp), .row, none, none⟩
    fixedOffset? (some .utc) = some 0
      ∧ (r.date (some .utc) (.long 90000000) = .ok (some 90000000)
        ∧ ¬ millisPerDay ∣ (90000000 : Int64).toInt + 0)
      ∧ r.time (some .utc) (.long 90000000) = .ok (some 90000000)
        ∧ ¬ IsTimeOfDay ((90000000 : Int64).toInt + 0) :=
  ⟨rfl, ⟨rfl, by decide⟩, rfl, by decide⟩

end

end TypedRows
