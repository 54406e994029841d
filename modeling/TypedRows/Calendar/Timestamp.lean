import TypedRows.Calendar.Date
import TypedRows.Calendar.TimeUnit

/-!
# Timestamps

A timestamp counts milliseconds since 1970-01-01 00:00:00, with no zone applied. It splits into
a date and the milliseconds of the day; the split rounds towards the past, so that the part of
the day is never negative.

## Main definitions

* `TypedRows.Calendar.dayOf`, `TypedRows.Calendar.timeOfDay` — the two parts of a timestamp.
* `TypedRows.Calendar.timestampOf` — the timestamp of a label and a wall-clock time.
-/

set_option autoImplicit false

namespace TypedRows.Calendar

/-- The date of a timestamp. A day beyond the 32-bit range wraps around. -/
def dayOf (timestamp : Int) : EpochDay :=
  Int32.ofInt (timestamp / millisPerDay)

/-- The milliseconds of a timestamp since its midnight. -/
def timeOfDay (timestamp : Int) : Int :=
  timestamp % millisPerDay

/-- The timestamp of a time of day (in milliseconds) on a date. -/
def atDay (date : EpochDay) (time : Int) : Int :=
  date.toInt * millisPerDay + time

/-- The timestamp of a label and a wall-clock time. -/
def timestampOf (label : YearMonthDay) (hour minute second : Nat) : Int :=
  atDay label.epochDay (hour * millisPerHour + minute * millisPerMinute + second * millisPerSecond)

/-- A time of day is not negative, before 1970 either. -/
theorem timeOfDay_nonneg (timestamp : Int) : 0 ≤ timeOfDay timestamp := by
  unfold timeOfDay millisPerDay; omega

/-- A time of day is shorter than a day. -/
theorem timeOfDay_lt (timestamp : Int) : timeOfDay timestamp < millisPerDay := by
  unfold timeOfDay millisPerDay; omega

/-- A timestamp whose day fits 32 bits is put together again from its parts. -/
theorem atDay_dayOf {timestamp : Int} (h₁ : -2147483648 ≤ timestamp / millisPerDay)
    (h₂ : timestamp / millisPerDay < 2147483648) :
    atDay (dayOf timestamp) (timeOfDay timestamp) = timestamp := by
  have h : (dayOf timestamp).toInt = timestamp / millisPerDay :=
    Int32.toInt_ofInt_of_le h₁ h₂
  rw [atDay, h, timeOfDay]
  unfold millisPerDay
  omega

/-- The day of a time of day on a date is the date. -/
theorem dayOf_atDay {date : EpochDay} {time : Int} (h₀ : 0 ≤ time) (h₁ : time < millisPerDay) :
    dayOf (atDay date time) = date := by
  have h : atDay date time / millisPerDay = date.toInt := by
    unfold atDay millisPerDay at *
    omega
  rw [dayOf, h, Int32.ofInt_toInt]

/-- The time of day that a timestamp was made with. -/
theorem timeOfDay_atDay {date : EpochDay} {time : Int} (h₀ : 0 ≤ time) (h₁ : time < millisPerDay) :
    timeOfDay (atDay date time) = time := by
  unfold timeOfDay atDay millisPerDay at *
  omega

end TypedRows.Calendar
