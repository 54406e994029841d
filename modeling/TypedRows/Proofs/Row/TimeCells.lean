import TypedRows.Proofs.Calendar.Fractions
import TypedRows.Proofs.Calendar.Grammar
import TypedRows.Proofs.Row.Binding

/-!
# Clock times in JSON rows

The hour, the minute and the second of a clock time are bounded before the digits of a second are
rounded. What is read therefore lies within the day but for the last second of the day, which may be
rounded up to the next midnight. No time of day stands there, and the readers of texts and of the
cells of JSON rows hand out the whole day as one.

## Main definitions

* `TypedRows.Calendar.RoundsToMidnight` — texts that are rounded to the end of the day.
* `TypedRows.JsonRows.HandsOutTime` — a clock time of a row that is handed out.

## Main results

* `TypedRows.Calendar.readTime_bounds` — the counts that are read.
* `TypedRows.JsonRows.times_lie_within_the_day_iff`
-/

set_option autoImplicit false

namespace TypedRows

namespace Calendar

/-- A text writes the last second of the day with digits that are rounded to a second. -/
def RoundsToMidnight (text : String) (precision : Nat) : Prop :=
  ∃ digits, WritesTime text.toList 23 59 59 (some digits) ∧ RoundsToSecond digits precision

variable {text : String} {precision : Nat} {time : Int}

/-- A text that is rounded to midnight is read as the whole day. -/
lemma RoundsToMidnight.readTime_eq (h : RoundsToMidnight text precision) :
    readTime text precision = .ok millisPerDay := by
  obtain ⟨digits, hwrites, hrounds⟩ := h
  refine readTimeChars_eq_ok_iff.2 ⟨23, 59, 59, some digits, hwrites, le_rfl, le_rfl, le_rfl, ?_⟩
  rw [Option.elim_some, (roundFraction_eq_second_iff hwrites.isDigit precision).2 hrounds]
  decide

/-- **The counts that are read** lie between the midnights of a day, the later of which is only read
of what is rounded to it. -/
lemma readTime_bounds (h : readTime text precision = .ok time) :
    0 ≤ time ∧ time ≤ millisPerDay
      ∧ (time = millisPerDay ↔ RoundsToMidnight text precision) := by
  obtain ⟨hour, minute, second, fraction, hwrites, hhour, hminute, hsecond, htime⟩ :=
    readTimeChars_eq_ok_iff.1 h
  have hmillis : fraction.elim 0 (roundFraction · precision) ≤ 1000 := by
    cases fraction with
    | none => simp
    | some digits => exact roundFraction_le hwrites.isDigit precision
  simp only [millisPerHour, millisPerMinute, millisPerSecond] at htime
  unfold millisPerDay
  refine ⟨by omega, by omega, fun hday => ?_, fun hrounds => ?_⟩
  · obtain ⟨rfl, rfl, rfl, hrounded⟩ : hour = 23 ∧ minute = 59 ∧ second = 59
        ∧ fraction.elim 0 (roundFraction · precision) = 1000 := by omega
    cases fraction with
    | none => simp at hrounded
    | some digits =>
      exact ⟨digits, hwrites, (roundFraction_eq_second_iff hwrites.isDigit precision).1 hrounded⟩
  · exact Except.ok.inj (h.symm.trans hrounds.readTime_eq)

end Calendar

namespace JsonRows

open Calendar

/-- A source hands out a row whose cell in a column of clock times is written as a text. -/
structure HandsOutTime (s : JsonRows) (v : LocalValue) (i : Nat) (column : Column)
    (text : String) : Prop where
  handsOut : ∃ s', s.nextRow = (.ok (some v), s')
  column_eq : s.columns[i]? = some column
  tag_eq : column.tag = .sqlTime ∨ column.tag = .instantTime
  cell_eq : ∃ row rest, s.rows = row :: rest ∧ rawCell? row i column = .ok (some (.string text))

/-- A row holds a count in the field of a column. -/
def HoldsCount (v : LocalValue) (i : Nat) (column : Column) (n : Int32) : Prop :=
  ∃ fields, v = .record fields ∧ fields[i]? = some (column.name, .int n)

variable {s : JsonRows} {v x : LocalValue} {i : Nat} {column : Column} {text : String}

/-- The texts of both kinds of clock times are read to milliseconds. -/
lemma temporalOfText_eq_ok_iff (htag : column.tag = .sqlTime ∨ column.tag = .instantTime) :
    temporalOfText column.tag text = .ok x
      ↔ ∃ time, readTime text 3 = .ok time ∧ .int (Int32.ofInt time) = x := by
  unfold temporalOfText
  rcases htag with htag | htag <;>
  · simp only [htag]
    cases readTime text 3 <;> simp [bind, Except.bind, pure, Except.pure]

/-- The cell of a column of clock times holds the count that is read of its text. -/
lemma exists_readTime_of_decodeCell (htag : column.tag = .sqlTime ∨ column.tag = .instantTime)
    (h : decodeCell column (.string text) = .ok x) :
    ∃ n : Int32, x = .int n ∧ readTime text 3 = .ok n.toInt := by
  have htemporal : column.tag.isTemporal = true := by
    rcases htag with htag | htag <;> rw [htag] <;> rfl
  rw [decodeCell, if_pos htemporal, within_eq_ok_iff, temporalOfText_eq_ok_iff htag] at h
  obtain ⟨time, hread, rfl⟩ := h
  obtain ⟨hlow, hhigh, -⟩ := readTime_bounds hread
  unfold millisPerDay at hhigh
  exact ⟨_, rfl, by rw [Int32.toInt_ofInt_of_le (by omega) (by omega), hread]⟩

/-- The field of a column of clock times holds the count that is read of its text. -/
lemma HandsOutTime.exists_count (h : HandsOutTime s v i column text) :
    ∃ n, HoldsCount v i column n ∧ readTime text 3 = .ok n.toInt := by
  obtain ⟨⟨s', hnext⟩, hcolumn, htag, row, rest, hrows, hcell⟩ := h
  obtain ⟨row', rest', fields, hrows', hfields, rfl⟩ := exists_fields_of_nextRow hnext
  obtain ⟨rfl, -⟩ := List.cons.inj (hrows.symm.trans hrows')
  obtain ⟨raw, x, hraw, hx, hfield⟩ := field_of_decodeFields hfields hcolumn
  obtain rfl := Except.ok.inj (hcell.symm.trans hraw)
  obtain ⟨n, rfl, hread⟩ := exists_readTime_of_decodeCell htag hx
  exact ⟨n, ⟨fields, rfl, hfield⟩, hread⟩

/-- **Clock times lie within the day unless they are rounded to its end.** What is read of a text
lies within the day exactly when the text is not rounded to midnight, and what is rounded to
midnight is read as the whole day. In every row that is handed out with the text in a cell of a
column of clock times, the field of the column holds the count that is read to milliseconds, which
lies within the day in just these cases.

**Proof sketch.** The bounds on the fields leave room for a whole second only in the last second of
the day, and digits are rounded to a second only when they round nines up (`readTime_bounds`). Cells
are read one by one by the same reader. -/
theorem times_lie_within_the_day_iff (text : String) (precision : Nat) :
    ((∀ time, readTime text precision = .ok time → 0 ≤ time ∧ time < millisPerDay)
        ↔ ¬ RoundsToMidnight text precision)
      ∧ (RoundsToMidnight text precision → readTime text precision = .ok millisPerDay)
      ∧ ∀ s v i column, HandsOutTime s v i column text →
        ∃ n, HoldsCount v i column n ∧ readTime text 3 = .ok n.toInt
          ∧ ((0 ≤ n.toInt ∧ n.toInt < millisPerDay) ↔ ¬ RoundsToMidnight text 3) := by
  refine ⟨⟨fun hwithin hrounds => ?_, fun hrounds time hread => ?_⟩,
    fun hrounds => hrounds.readTime_eq, fun s v i column hands => ?_⟩
  · exact Int.lt_irrefl _ (hwithin _ hrounds.readTime_eq).2
  · obtain ⟨hlow, hhigh, hday⟩ := readTime_bounds hread
    have hne : time ≠ millisPerDay := fun heq => hrounds (hday.1 heq)
    exact ⟨hlow, by omega⟩
  · obtain ⟨n, hholds, hread⟩ := hands.exists_count
    obtain ⟨hlow, hhigh, hday⟩ := readTime_bounds hread
    refine ⟨n, hholds, hread, ?_⟩
    rw [← hday]
    omega

/-- The last time of the day that is rounded down, in a row of one column, and the first that is
rounded up to midnight. -/
theorem times_lie_within_the_day_before_midnight :
    (∃ s v column n, HandsOutTime s v 0 column "23:59:59.9994" ∧ HoldsCount v 0 column n
        ∧ 0 ≤ n.toInt ∧ n.toInt < millisPerDay)
      ∧ RoundsToMidnight "23:59:59.9995" 3 ∧ readTime "23:59:59.9995" 3 = .ok millisPerDay := by
  obtain ⟨hwithin, -, hcell⟩ := times_lie_within_the_day_iff "23:59:59.9994" 3
  have hread : readTime "23:59:59.9994" 3 = .ok 86399999 := by decide
  have hnot : ¬ RoundsToMidnight "23:59:59.9994" 3 := by
    refine hwithin.1 fun time htime => ?_
    rw [← Except.ok.inj (hread.symm.trans htime)]
    decide
  have hands : HandsOutTime
      ⟨[.array [.string "23:59:59.9994"]], [.new 0 "t" (.scalar .sqlTime)], 0⟩ _ 0 _
      "23:59:59.9994" :=
    ⟨⟨_, rfl⟩, rfl, .inl rfl, _, [], rfl, rfl⟩
  obtain ⟨n, hholds, -, hday⟩ := hcell _ _ _ _ hands
  have hclock : WritesTime "23:59:59.9995".toList 23 59 59 (some ['9', '9', '9', '5']) :=
    ⟨"23:59:59".toList, by decide, .second (H := ['2', '3']) (M := ['5', '9']) (S := ['5', '9'])
      (by decide) (by decide) (by decide), by decide⟩
  have hrounds : RoundsToMidnight "23:59:59.9995" 3 :=
    ⟨['9', '9', '9', '5'], hclock, rfl, '5', rfl, by decide⟩
  exact ⟨⟨_, _, _, n, hands, hholds, hday.2 hnot⟩, hrounds,
    (times_lie_within_the_day_iff _ _).2.1 hrounds⟩

/-- Half a millisecond before midnight is read as the whole day, which is no time of the day, and so
is the cell of a row. -/
theorem half_a_millisecond_before_midnight_is_a_whole_day :
    readTime "23:59:59.9995" 3 = .ok 86400000 ∧ millisPerDay = 86400000
      ∧ ∃ s, nextRow ⟨[.array [.string "23:59:59.9995"]], [.new 0 "t" (.scalar .sqlTime)], 0⟩
        = (.ok (some (.record [("t", .int 86400000)])), s) :=
  ⟨by decide, rfl, _, rfl⟩

end JsonRows

end TypedRows
