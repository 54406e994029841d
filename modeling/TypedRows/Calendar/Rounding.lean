import TypedRows.Calendar.Extract
import TypedRows.Calendar.Month

/-!
# Rounding dates and timestamps to a unit

## Main definitions

* `TypedRows.Calendar.floorDate`, `TypedRows.Calendar.ceilDate` — the start of the period a date
  lies in, and the first such start that is not before the date.
* `TypedRows.Calendar.floorTimestamp`, `TypedRows.Calendar.ceilTimestamp` — the same for
  timestamps, where the units of the clock round as well.
-/

set_option autoImplicit false

namespace TypedRows.Calendar

/-- The first of January of a year, which wraps around at 32 bits. -/
def newYear (year : Int) : EpochDay :=
  YearMonthDay.epochDay ⟨Int32.ofInt year, 1, 1⟩

/-- The start of the period of a unit that holds a date. Centuries and millennia are counted
from year 1, decades from year 0, and weeks start on Sunday. -/
def floorDate (unit : TimeUnit) (date : EpochDay) : Except CalendarError EpochDay :=
  let d := YearMonthDay.ofEpochDay date
  let year := d.year.toInt
  match unit with
  | .millennium => .ok (newYear (year - (year - 1) % 1000))
  | .century => .ok (newYear (year - (year - 1) % 100))
  | .decade => .ok (newYear (year - year % 10))
  | .year => .ok (newYear year)
  | .isoYear => .ok (isoYearStart (isoYear date))
  | .quarter => .ok (YearMonthDay.epochDay ⟨d.year, (d.month - 1) / 3 * 3 + 1, 1⟩)
  | .month => .ok (YearMonthDay.epochDay ⟨d.year, d.month, 1⟩)
  | .week => .ok (Int32.ofInt (date.toInt - (dayOfWeek date - 1)))
  | .day | .hour | .minute | .second | .millisecond => .ok date
  | .dow | .isoDow | .doy | .epoch => .error (.unsupportedUnit unit .floor)

/-- The start of the period after the one that starts on `start`. -/
def nextPeriod (unit : TimeUnit) (start : EpochDay) : Except CalendarError EpochDay :=
  match unit.months with
  | some months => .ok (addMonths start months)
  | none =>
    match unit with
    | .week => .ok (start + 7)
    | .isoYear => .ok (isoYearStart (isoYear start + 1))
    | .day => .ok (start + 1)
    | _ => .error (.unsupportedUnit unit .ceil)

/-- The first start of a period of a unit that is not before a date. -/
def ceilDate (unit : TimeUnit) (date : EpochDay) : Except CalendarError EpochDay := do
  let floored ← floorDate unit date
  if floored = date then .ok date else nextPeriod unit floored

/-- The fixed length in milliseconds of the units a timestamp rounds to without its date: the
day and the units of the clock. -/
def clockSpan? (unit : TimeUnit) : Option Int :=
  if unit.isClock || unit == .day then unit.millis else none

/-- The start of the period of a unit that holds a timestamp. -/
def floorTimestamp (unit : TimeUnit) (timestamp : Int) : Except CalendarError Int :=
  match clockSpan? unit with
  | some span => .ok (timestamp / span * span)
  | none => do
    let date ← floorDate unit (dayOf timestamp)
    .ok (atDay date 0)

/-- The first start of a period of a unit that is not before a timestamp. -/
def ceilTimestamp (unit : TimeUnit) (timestamp : Int) : Except CalendarError Int := do
  let floored ← floorTimestamp unit timestamp
  if floored = timestamp then .ok timestamp
  else
    match clockSpan? unit with
    | some span => .ok (floored + span)
    | none => do
      let next ← nextPeriod unit (dayOf floored)
      .ok (atDay next 0)

end TypedRows.Calendar
