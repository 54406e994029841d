import TypedRows.Text.Blank
import TypedRows.Text.Fields

/-!
# Calendar and clock units

## Main definitions

* `TypedRows.Calendar.TimeUnit` — the units that extraction and rounding know.
* `TypedRows.Calendar.TimeUnit.named?` — the unit a text names.
* `TypedRows.Calendar.TimeUnit.millis`, `TypedRows.Calendar.TimeUnit.months` — the length of a
  unit, for units of fixed length and for units made of whole months.
-/

set_option autoImplicit false

namespace TypedRows.Calendar

/-! ## Lengths -/

/-- Milliseconds in a second. -/
def millisPerSecond : Int := 1000

/-- Milliseconds in a minute. -/
def millisPerMinute : Int := 60000

/-- Milliseconds in an hour. -/
def millisPerHour : Int := 3600000

/-- Milliseconds in a day. -/
def millisPerDay : Int := 86400000

/-- Seconds in a day. -/
def secondsPerDay : Int := 86400

/-! ## Units -/

/-- The calendar and clock units. `week` is the week of the ISO-8601 numbering, `dow` counts
the days of the week from Sunday and `isoDow` from Monday, `doy` is the day of the year,
`isoYear` the year of the ISO-8601 week numbering, and `epoch` counts seconds since
1970-01-01 00:00:00. -/
inductive TimeUnit where
  | year | month | day | hour | minute | second | millisecond
  | quarter | week | dow | isoDow | doy | isoYear
  | decade | century | millennium | epoch
  deriving DecidableEq, Repr

namespace TimeUnit

/-- Every unit, in the order of declaration. -/
def all : List TimeUnit :=
  [year, month, day, hour, minute, second, millisecond, quarter, week, dow, isoDow, doy,
    isoYear, decade, century, millennium, epoch]

/-- The name a unit is written with. -/
def name : TimeUnit → String
  | year => "YEAR"
  | month => "MONTH"
  | day => "DAY"
  | hour => "HOUR"
  | minute => "MINUTE"
  | second => "SECOND"
  | millisecond => "MILLISECOND"
  | quarter => "QUARTER"
  | week => "WEEK"
  | dow => "DOW"
  | isoDow => "ISODOW"
  | doy => "DOY"
  | isoYear => "ISOYEAR"
  | decade => "DECADE"
  | century => "CENTURY"
  | millennium => "MILLENNIUM"
  | epoch => "EPOCH"

/-- The unit named by a text, blanks around it and the case of its letters aside. -/
def named? (text : String) : Option TimeUnit :=
  all.find? fun u => Text.sameName u.name (String.ofList (Text.trim text.toList))

/-- The length in milliseconds of a unit of fixed length. -/
def millis : TimeUnit → Option Int
  | millisecond => some 1
  | second => some millisPerSecond
  | minute => some millisPerMinute
  | hour => some millisPerHour
  | day => some millisPerDay
  | week => some (7 * millisPerDay)
  | _ => none

/-- The length in months of a unit made of whole months. -/
def months : TimeUnit → Option Int
  | month => some 1
  | quarter => some 3
  | year => some 12
  | decade => some 120
  | century => some 1200
  | millennium => some 12000
  | _ => none

/-- The units finer than a day. -/
def isClock : TimeUnit → Bool
  | hour | minute | second | millisecond => true
  | _ => false

/-- Every unit is in the list of units. -/
theorem mem_all (u : TimeUnit) : u ∈ all := by
  cases u <;> decide

/-- A unit is found again under its own name. -/
theorem named?_name (u : TimeUnit) : named? u.name = some u := by
  cases u <;> decide +kernel

end TimeUnit

end TypedRows.Calendar
