import Mathlib.Data.Int.ModEq
import TypedRows.Proofs.Calendar.MonthSpans
import TypedRows.Proofs.Calendar.WrittenTexts
import TypedRows.Proofs.Row.DateCells
import TypedRows.Proofs.Value.Instants

/-!
# Timestamps and their texts

The text of a timestamp shows its day, counted in 32 bits, and its time of day. A day beyond the
count wraps around, so that the text is that of another timestamp, which lies whole periods of the
count away and is the one that is read of the text. Apart from that different timestamps have
different texts, in the cells of columns too: leaving out the digits of a second that are zeros
loses nothing.

## Main definitions

* `TypedRows.Calendar.dayCountPeriod` — the milliseconds after which the texts repeat.
* `TypedRows.Calendar.shownFor` — the timestamp that is shown for a timestamp.

## Main results

* `TypedRows.Calendar.shownFor_eq_shownFor_iff` — which timestamps one is shown for.
* `TypedRows.Calendar.readTimestamp_timestampText`,
  `TypedRows.Calendar.readTimestamp_shownTimestamp` — what is shown is read of the text.
* `TypedRows.CellReader.timestamps_shown_alike_iff`
* `TypedRows.CellReader.built_of_timestamp` — the instants that cells are read for.
-/

set_option autoImplicit false

namespace TypedRows

namespace Calendar

variable {a b timestamp : Int}

/-! ## Days of 32 bits -/

/-- The milliseconds of as many days as 32 bits count. -/
def dayCountPeriod : Int := 4294967296 * millisPerDay

/-- The timestamp that is shown for a timestamp: its time of day on the day that is left of its day
in 32 bits. -/
def shownFor (timestamp : Int) : Int := atDay (dayOf timestamp) (timeOfDay timestamp)

/-- **A timestamp is shown as one that is whole periods away.** -/
lemma shownFor_modEq (timestamp : Int) :
    shownFor timestamp ≡ timestamp [ZMOD dayCountPeriod] := by
  have hday : (dayOf timestamp).toInt = (timestamp / millisPerDay).bmod 4294967296 :=
    Int32.toInt_ofInt
  obtain ⟨periods, hperiods⟩ := @Int.dvd_self_sub_bmod (timestamp / millisPerDay) 4294967296
  -- the day in 32 bits differs from the day by whole periods, and the time of the day stays
  refine Int.modEq_iff_dvd.2 ⟨periods, ?_⟩
  rw [shownFor, atDay, hday, timeOfDay, dayCountPeriod]
  unfold millisPerDay at *
  omega

/-- The day of a time of day on a date is one of 32 bits. -/
lemma fitsDay_atDay {date : EpochDay} {time : Int} (h₀ : 0 ≤ time) (h₁ : time < millisPerDay) :
    FitsDay (atDay date time) := by
  have hlow := date.le_toInt
  have hhigh := date.toInt_lt
  unfold FitsDay atDay
  unfold millisPerDay at *
  omega

/-- What is shown has a date of 32 bits. -/
lemma fitsDay_shownFor (timestamp : Int) : FitsDay (shownFor timestamp) :=
  fitsDay_atDay (timeOfDay_nonneg timestamp) (timeOfDay_lt timestamp)

/-- So is the day of what the wall clocks of a zone show. -/
lemma fitsDay_timestampOfInstant [Platform] (instant : Int) (zone : Option Zone) :
    FitsDay (timestampOfInstant instant zone) :=
  fitsDay_atDay (timeOfDay_nonneg _) (timeOfDay_lt _)

/-- Timestamps whose days fit 32 bits are no whole period apart. -/
lemma FitsDay.eq_of_modEq (ha : FitsDay a) (hb : FitsDay b) (h : a ≡ b [ZMOD dayCountPeriod]) :
    a = b := by
  obtain ⟨periods, hperiods⟩ := Int.modEq_iff_dvd.1 h
  unfold dayCountPeriod at hperiods
  unfold FitsDay at *
  unfold millisPerDay at *
  omega

/-- **A timestamp is shown as itself** exactly when its day fits 32 bits. -/
lemma shownFor_eq_self_iff : shownFor timestamp = timestamp ↔ FitsDay timestamp :=
  ⟨fun h => h ▸ fitsDay_shownFor timestamp, fun h => atDay_dayOf h.1 h.2⟩

/-- **One timestamp is shown for all that are whole periods apart.** -/
lemma shownFor_eq_shownFor_iff : shownFor a = shownFor b ↔ a ≡ b [ZMOD dayCountPeriod] := by
  constructor
  · intro h
    exact (shownFor_modEq a).symm.trans (h ▸ shownFor_modEq b)
  · intro h
    exact (fitsDay_shownFor a).eq_of_modEq (fitsDay_shownFor b)
      (((shownFor_modEq a).trans h).trans (shownFor_modEq b).symm)

/-! ## Texts -/

/-- The text of a timestamp is that of the timestamp that is shown for it. -/
lemma timestampText_shownFor (timestamp : Int) (precision : Nat) :
    timestampText (shownFor timestamp) precision = timestampText timestamp precision := by
  have hnonneg := timeOfDay_nonneg timestamp
  have hlt := timeOfDay_lt timestamp
  rw [timestampText, shownFor, dayOf_atDay hnonneg hlt, timeOfDay_atDay hnonneg hlt, timestampText]

/-- Days are whole seconds. -/
lemma shownFor_mod_second (timestamp : Int) :
    shownFor timestamp % millisPerSecond = timestamp % millisPerSecond :=
  (shownFor_modEq timestamp).of_dvd (by decide)

/-- The timestamp that is shown for another one is shown for itself. -/
lemma shownTimestamp_shownFor (timestamp : Int) :
    shownTimestamp (shownFor timestamp) = shownTimestamp timestamp := by
  rw [shownTimestamp, shownFor_mod_second, timestampText_shownFor, shownTimestamp]

/-- **What is shown for a timestamp is read of its text**, but for the digits of a second that are
not written. -/
lemma readTimestamp_timestampText {p q : Nat} (hpq : p ≤ q) (timestamp : Int) :
    readTimestamp (timestampText timestamp p) q = .ok (roundedDown p (shownFor timestamp)) :=
  readTimestamp_ofList (.inl rfl) (timeOfDay_nonneg timestamp) (timeOfDay_lt timestamp) hpq

/-- Nothing is left off with three digits of a second. -/
lemma roundedDown_three (timestamp : Int) : roundedDown 3 timestamp = timestamp := by
  simp [roundedDown, maxPrecision]

/-- **What is shown for a timestamp in a cell is read of the text**: digits are only left out where
they are zeros. -/
lemma readTimestamp_shownTimestamp (timestamp : Int) :
    readTimestamp (shownTimestamp timestamp) 3 = .ok (shownFor timestamp) := by
  rw [shownTimestamp]
  split_ifs with hwhole
  · have hzero : shownFor timestamp % millisPerSecond = 0 :=
      (shownFor_mod_second timestamp).trans hwhole
    have hrounded : roundedDown 0 (shownFor timestamp) = shownFor timestamp := by
      unfold roundedDown maxPrecision
      unfold millisPerSecond at hzero
      omega
    rw [readTimestamp_timestampText (Nat.zero_le _), hrounded]
  · rw [readTimestamp_timestampText le_rfl, roundedDown_three]

/-- Texts that are those of what is shown, and of which it is read, are the same exactly for
timestamps that are whole periods apart. -/
lemma text_eq_iff_modEq {text : Int → String} (hshown : ∀ ts, text (shownFor ts) = text ts)
    (hread : ∀ ts, readTimestamp (text ts) 3 = .ok (shownFor ts)) :
    text a = text b ↔ a ≡ b [ZMOD dayCountPeriod] := by
  rw [← shownFor_eq_shownFor_iff]
  constructor
  · intro h
    exact Except.ok.inj ((hread a).symm.trans (h ▸ hread b))
  · intro h
    rw [← hshown a, h, hshown b]

/-- Two timestamps have one text with milliseconds when they are congruent. -/
lemma timestampText_eq_iff :
    timestampText a 3 = timestampText b 3 ↔ a ≡ b [ZMOD dayCountPeriod] :=
  @text_eq_iff_modEq a b (timestampText · 3) (fun ts => timestampText_shownFor ts 3) fun ts => by
    rw [readTimestamp_timestampText le_rfl, roundedDown_three]

/-- Two timestamps are shown alike when they are congruent. -/
lemma shownTimestamp_eq_iff :
    shownTimestamp a = shownTimestamp b ↔ a ≡ b [ZMOD dayCountPeriod] :=
  text_eq_iff_modEq shownTimestamp_shownFor readTimestamp_shownTimestamp

/-- Timestamps whose days fit 32 bits are shown by texts of their own. -/
lemma FitsDay.shownTimestamp_eq_iff (ha : FitsDay a) (hb : FitsDay b) :
    shownTimestamp a = shownTimestamp b ↔ a = b :=
  ⟨fun h => ha.eq_of_modEq hb (Calendar.shownTimestamp_eq_iff.1 h), fun h => h ▸ rfl⟩

end Calendar

open Calendar

namespace CellReader

variable {r s : CellReader} {v w : LocalValue} {a b : Int}

/-! ## Cells -/

/-- The cells of columns of timestamps show their timestamps. -/
lemma text_of_millis [Platform] (htag : r.tag = .sqlTimestamp ∨ r.tag = .utilDate)
    (hv : r.millis v = .ok a) : r.text v = .ok (some (shownTimestamp a)) := by
  rw [text, isNull_of_millis hv, if_neg Bool.false_ne_true]
  rcases htag with htag | htag <;>
  · rw [htag]
    dsimp only
    rw [hv]
    rfl

/-- The cells of columns of instants show what the wall clocks show at them. -/
lemma text_of_instant [Platform] (htag : r.tag = .instantTimestamp) (hv : r.millis v = .ok a) :
    r.text v = .ok (some (shownTimestamp (timestampOfInstant a r.zone))) := by
  rw [text, isNull_of_millis hv, if_neg Bool.false_ne_true, htag]
  dsimp only
  rw [hv]
  rfl

/-- **Which timestamps are shown alike.** Two timestamps have the same text, with all digits of a
second, exactly when they are whole periods of the count of days apart. The text of a timestamp is
read as one whose day fits 32 bits, which is the timestamp exactly when its own day fits. Cells of
columns of timestamps have texts, which are the same under the same condition, and cells of columns
of instants have the same text exactly when the wall clocks in the zones of the columns show one
timestamp at them.

**Proof sketch.** The text is that of the day in 32 bits and of the time of the day, and these are
read of it. The day in 32 bits is whole periods away from the day. -/
theorem timestamps_shown_alike_iff [Platform] (a b : Int) :
    (timestampText a 3 = timestampText b 3 ↔ a ≡ b [ZMOD dayCountPeriod])
      ∧ (∃ c, readTimestamp (timestampText a 3) 3 = .ok c ∧ FitsDay c ∧ (c = a ↔ FitsDay a))
      ∧ ∀ (r s : CellReader) (v w : LocalValue), r.millis v = .ok a → s.millis w = .ok b →
        ((r.tag = .sqlTimestamp ∨ r.tag = .utilDate) → (s.tag = .sqlTimestamp ∨ s.tag = .utilDate) →
          ∃ x y, r.text v = .ok (some x) ∧ s.text w = .ok (some y)
            ∧ (x = y ↔ a ≡ b [ZMOD dayCountPeriod]))
        ∧ (r.tag = .instantTimestamp → s.tag = .instantTimestamp →
          ∃ x y, r.text v = .ok (some x) ∧ s.text w = .ok (some y)
            ∧ (x = y ↔ timestampOfInstant a r.zone = timestampOfInstant b s.zone)) := by
  refine ⟨timestampText_eq_iff, ⟨shownFor a, ?_, fitsDay_shownFor a, shownFor_eq_self_iff⟩,
    fun r s v w hv hw => ⟨fun hr hs => ?_, fun hr hs => ?_⟩⟩
  · rw [readTimestamp_timestampText le_rfl, roundedDown_three]
  · exact ⟨_, _, text_of_millis hr hv, text_of_millis hs hw, shownTimestamp_eq_iff⟩
  · exact ⟨_, _, text_of_instant hr hv, text_of_instant hs hw,
      (fitsDay_timestampOfInstant a r.zone).shownTimestamp_eq_iff
        (fitsDay_timestampOfInstant b s.zone)⟩

section

attribute [local instance] Platform.utc

/-- The last millisecond of the last day of 32 bits and the midnight after it: their texts differ,
and only the first is read as what it was written for. The instants at which the leap day of 1500
and the day after it begin are shown alike: the leap day is one of the Julian calendar only. -/
theorem timestamps_shown_alike_on_the_last_day :
    let r : CellReader := ⟨.new 0 "t" (.scalar .sqlTimestamp), .row, none, none⟩
    let v : LocalValue := .long 185542587187199999
    let w : LocalValue := .long 185542587187200000
    r.tag = .sqlTimestamp ∧ r.millis v = .ok 185542587187199999
      ∧ r.millis w = .ok 185542587187200000
      ∧ timestampText 185542587187199999 3 ≠ timestampText 185542587187200000 3
      ∧ readTimestamp (timestampText 185542587187199999 3) 3 = .ok 185542587187199999
      ∧ (∃ c, readTimestamp (timestampText 185542587187200000 3) 3 = .ok c
        ∧ c ≠ 185542587187200000)
      ∧ (∃ x y, r.text v = .ok (some x) ∧ r.text w = .ok (some y) ∧ x ≠ y)
      ∧ let u : CellReader := ⟨.new 0 "t" (.scalar .instantTimestamp), .row, some .utc, none⟩
        u.tag = .instantTimestamp
          ∧ u.millis (.long (-14825894400000)) = .ok (-14825894400000)
          ∧ u.millis (.long (-14825808000000)) = .ok (-14825808000000)
          ∧ ∃ x, u.text (.long (-14825894400000)) = .ok (some x)
            ∧ u.text (.long (-14825808000000)) = .ok (some x) := by
  intro r v w
  have hv : r.millis v = .ok 185542587187199999 := rfl
  have hw : r.millis w = .ok 185542587187200000 := rfl
  have happart : ¬ 185542587187199999 ≡ 185542587187200000 [ZMOD dayCountPeriod] := by decide
  obtain ⟨htext, ⟨c, hread, -, hc⟩, hcells⟩ :=
    timestamps_shown_alike_iff 185542587187199999 185542587187200000
  obtain ⟨-, ⟨d, hread', -, hd⟩, -⟩ :=
    timestamps_shown_alike_iff 185542587187200000 185542587187199999
  obtain ⟨x, y, hx, hy, hxy⟩ := (hcells r r v w hv hw).1 (.inl rfl) (.inl rfl)
  refine ⟨rfl, hv, hw, mt htext.1 happart, by rw [hread, hc.2 (by decide)],
    ⟨d, hread', mt hd.1 (by decide)⟩, ⟨x, y, hx, hy, mt hxy.1 happart⟩, ?_⟩
  intro u
  have hleap : u.millis (.long (-14825894400000)) = .ok (-14825894400000) := rfl
  have hnext : u.millis (.long (-14825808000000)) = .ok (-14825808000000) := rfl
  obtain ⟨x, y, hx, hy, hxy⟩ :=
    ((timestamps_shown_alike_iff _ _).2.2 u u _ _ hleap hnext).2 rfl rfl
  exact ⟨rfl, hleap, hnext, x, hx, hxy.2 (by decide) ▸ hy⟩

/-- The midnight a whole period of days after 1970-01-01 is shown as that of 1970-01-01. -/
theorem midnight_of_11761191_is_shown_as_one_of_1970 :
    let r : CellReader := ⟨.new 0 "t" (.scalar .sqlTimestamp), .row, none, none⟩
    let far : Int64 := 371085174374400000
    far ≠ 0
      ∧ YearMonthDay.ofJulianDay (far.toInt / millisPerDay + epochJulianDay) = ⟨11761191, 1, 21⟩
      ∧ timestampText far.toInt 3 = "1970-01-01 00:00:00.000"
      ∧ timestampText 0 3 = "1970-01-01 00:00:00.000"
      ∧ r.text (.long far) = .ok (some "1970-01-01 00:00:00")
      ∧ r.text (.long 0) = .ok (some "1970-01-01 00:00:00") := by
  intro r far
  have hfar : r.millis (.long far) = .ok 371085174374400000 := rfl
  have hzero : r.millis (.long 0) = .ok 0 := rfl
  have hshown : shownTimestamp 371085174374400000 = "1970-01-01 00:00:00" := by decide +kernel
  have hshown' : shownTimestamp 0 = "1970-01-01 00:00:00" := by decide +kernel
  refine ⟨by decide, by decide, by decide +kernel, by decide +kernel, ?_, ?_⟩
  · rw [text_of_millis (.inl rfl) hfar, hshown]
  · rw [text_of_millis (.inl rfl) hzero, hshown']

end

/-! ## Instants of cells -/

section

variable {zone : Option Zone} {t : SqlTimestamp}

/-- The instant of a cell is made of its milliseconds or its decimal seconds. -/
lemma built_of_instant (hfits : ∀ d, v = .decimal d → FitsLong (d.nanoseconds / 1000000))
    (h : r.instant v = .ok t) : t.Built := by
  unfold instant at h
  split at h
  · rename_i seconds
    cases hseconds : SqlTimestamp.ofSeconds? seconds with
    | none => rw [hseconds] at h; cases h
    | some t' =>
      rw [hseconds] at h
      obtain rfl := Except.ok.inj h
      exact .ofSeconds hseconds (hfits _ rfl)
  · obtain ⟨n, -, rfl⟩ := map_eq_ok_iff.1 h
    exact .ofMillis _

/-- **The instants that cells are read for** are made and moved, hence consistent, when decimal
seconds fit the milliseconds of an instant. -/
theorem built_of_timestamp [Platform]
    (hfits : ∀ d, v = .decimal d → FitsLong (d.nanoseconds / 1000000))
    (h : r.timestamp zone v = .ok (some t)) : t.Built := by
  unfold timestamp at h
  by_cases hnull : v.isNull = true
  · rw [if_pos hnull] at h
    cases h
  rw [if_neg hnull] at h
  split at h
  case h_1 | h_2 =>
    obtain ⟨instant, hinstant, heq⟩ := bind_eq_ok_iff.1 h
    obtain rfl := Option.some.inj (Except.ok.inj heq)
    exact .shifted _ (built_of_instant hfits hinstant)
  case h_3 | h_4 | h_5 =>
    obtain ⟨n, -, heq⟩ := bind_eq_ok_iff.1 h
    obtain rfl := Option.some.inj (Except.ok.inj heq)
    exact .ofMillis _
  case h_6 =>
    obtain ⟨instant, hinstant, heq⟩ := map_eq_ok_iff.1 h
    obtain rfl := Option.some.inj heq
    exact built_of_instant hfits hinstant
  case h_7 => cases h

end

end CellReader

end TypedRows
