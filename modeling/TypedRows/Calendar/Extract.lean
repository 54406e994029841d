import TypedRows.Calendar.Error
import TypedRows.Calendar.Timestamp

/-!
# Fields of dates, clock times and timestamps

## Main definitions

* `TypedRows.Calendar.extractFromDate`, `TypedRows.Calendar.extractFromTime`,
  `TypedRows.Calendar.extractFromTimestamp` — the value of a unit's field.
* `TypedRows.Calendar.isoYear`, `TypedRows.Calendar.isoYearStart` — the year of the ISO-8601
  week numbering and the Monday it starts on.
-/

set_option autoImplicit false

namespace TypedRows.Calendar

/-! ## Days of the week -/

/-- The day of the week from Monday = 1 to Sunday = 7. -/
def isoDayOfWeek (date : EpochDay) : Int :=
  (date.toInt + 3) % 7 + 1

/-- The day of the week from Sunday = 1 to Saturday = 7. -/
def dayOfWeek (date : EpochDay) : Int :=
  (date.toInt + 4) % 7 + 1

/-- The Thursday of a date's week. The year it lies in is the year the week is counted to. -/
def isoThursday (date : EpochDay) : EpochDay :=
  Int32.ofInt (date.toInt - isoDayOfWeek date + 4)

/-- The year a date's week is counted to. -/
def isoYear (date : EpochDay) : Int32 :=
  (YearMonthDay.ofEpochDay (isoThursday date)).year

/-- The Monday of the week that holds the fourth of January, the first week of the year. -/
def isoYearStart (year : Int32) : EpochDay :=
  let fourth := YearMonthDay.epochDay ⟨year, 1, 4⟩
  Int32.ofInt (fourth.toInt - (isoDayOfWeek fourth - 1))

/-- The day of the year, counted from 1. The subtraction of 32 bits wraps around in the first 192
days of the range, the first of January of whose year lies before the range, and the count is right
nevertheless; a build that checks for overflow stops there. -/
def dayOfYear (date : EpochDay) : Int :=
  (date - YearMonthDay.epochDay ⟨(YearMonthDay.ofEpochDay date).year, 1, 1⟩).toInt + 1

/-! ## Extraction -/

/-- The number of a period of `span` years that is counted from 1 after year 0 and from -1
before year 1. -/
def periodOfYear (span year : Int) : Int :=
  if 0 < year then (year + (span - 1)).tdiv span else (year - (span - 1)).tdiv span

/-- A field of a date. The clock fields of a date are zero. -/
def extractFromDate (unit : TimeUnit) (date : EpochDay) : Int :=
  let d := YearMonthDay.ofEpochDay date
  match unit with
  | .year => d.year.toInt
  | .month => d.month
  | .day => d.day
  | .quarter => ((d.month : Int) + 2) / 3
  | .week => (dayOfYear (isoThursday date) - 1) / 7 + 1
  | .isoYear => (isoYear date).toInt
  | .dow => dayOfWeek date
  | .isoDow => isoDayOfWeek date
  | .doy => dayOfYear date
  | .decade => d.year.toInt.tdiv 10
  | .century => periodOfYear 100 d.year.toInt
  | .millennium => periodOfYear 1000 d.year.toInt
  | .epoch => date.toInt * secondsPerDay
  | .hour | .minute | .second | .millisecond => 0

/-- A clock field of a time in milliseconds since midnight; times outside the day are taken
around the clock. The milliseconds count from the start of the minute. -/
def clockField? (unit : TimeUnit) (time : Int) : Option Int :=
  let time := time % millisPerDay
  match unit with
  | .hour => some (time / millisPerHour)
  | .minute => some (time % millisPerHour / millisPerMinute)
  | .second => some (time % millisPerMinute / millisPerSecond)
  | .millisecond => some (time % millisPerMinute)
  | .epoch => some (time / millisPerSecond)
  | _ => none

/-- A clock field of a time, refused for the units of the calendar. -/
def extractFromTime (unit : TimeUnit) (time : Int) : Except CalendarError Int :=
  match clockField? unit time with
  | some value => .ok value
  | none => .error (.unsupportedUnit unit .clockExtract)

/-- A field of a timestamp: of its time of day for the units of the clock, of its date for the
units of the calendar. -/
def extractFromTimestamp (unit : TimeUnit) (timestamp : Int) : Int :=
  if unit = .epoch then timestamp / millisPerSecond
  else if unit.isClock then (clockField? unit (timeOfDay timestamp)).getD 0
  else extractFromDate unit (dayOf timestamp)

end TypedRows.Calendar
