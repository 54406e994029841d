import TypedRows.Calendar.Timestamp
import TypedRows.Calendar.Zone

/-!
# The civil calendar

The civil calendar reckons by Julian rules before 1582-10-15 and by Gregorian rules from that
day on. Dates and times that leave the library are instants: a label is taken to the instant at
which the civil calendar and the wall clocks of a zone show it. The conversions here keep the
label and move the instant.

## Main definitions

* `TypedRows.Calendar.civilDay`, `TypedRows.Calendar.civilLabel` — the days since 1970-01-01 of
  a label of the civil calendar, and the label of such a count.
* `TypedRows.Calendar.instantOfDate`, `TypedRows.Calendar.instantOfTimestamp`,
  `TypedRows.Calendar.instantOfTime` — the instant at which a zone shows a date, a timestamp or
  a time of day.
* `TypedRows.Calendar.dateOfInstant`, `TypedRows.Calendar.timestampOfInstant`,
  `TypedRows.Calendar.timeOfInstant` — what a zone shows at an instant.
-/

set_option autoImplicit false

namespace TypedRows.Calendar

/-! ## Labels of the civil calendar -/

/-- The Julian day number of 1582-10-15, the first day of the Gregorian calendar. -/
def cutover : Int := 2299161

/-- The Julian day number of a label of the Julian calendar. -/
def YearMonthDay.julianDayOld (d : YearMonthDay) : Int :=
  d.commonDays + (d.year.toInt + 4800 - borrowedYears d.month) / 4 - 32083

/-- The label of a Julian day number in the Julian calendar. -/
def YearMonthDay.ofJulianDayOld (julian : Int) : YearMonthDay :=
  let c := julian + 32082
  let d := (4 * c + 3) / 1461
  ofDayOfYear d (c - 1461 * d / 4)

/-- Days since 1970-01-01 of a label of the civil calendar. The labels from 1582-10-05 to
1582-10-14, which the calendar leaves out, count as 1582-10-15. -/
def civilDay (d : YearMonthDay) : Int :=
  if cutover ≤ d.julianDay then d.julianDay - epochJulianDay
  else min d.julianDayOld cutover - epochJulianDay

/-- The label that the civil calendar gives to a count of days since 1970-01-01. -/
def civilLabel (day : Int) : YearMonthDay :=
  let julian := day + epochJulianDay
  if cutover ≤ julian then .ofJulianDay julian else .ofJulianDayOld julian

/-- The date with the label of a day of the civil calendar. -/
def dateOfCivil (d : YearMonthDay) : EpochDay :=
  (civilLabel (civilDay d)).epochDay

/-- The day of the civil calendar with the label of a date. -/
def civilOfDate (date : EpochDay) : YearMonthDay :=
  civilLabel (civilDay (.ofEpochDay date))

/-! ## Wall clocks -/

variable [Platform]

/-- The instant at which the wall clocks of a zone show a time, in milliseconds. Without a zone
wall clocks show UTC. -/
def instantOfWall (zone : Option Zone) (wall : Int) : Int :=
  match zone with
  | none => wall
  | some z => wall - z.offsetAtWall wall

/-- What the wall clocks of a zone show at an instant. -/
def wallOfInstant (zone : Option Zone) (instant : Int) : Int :=
  match zone with
  | none => instant
  | some z => instant + z.offsetAt instant

/-- The wall-clock time of a timestamp on the civil calendar. -/
def wallOfTimestamp (timestamp : Int) : Int :=
  civilDay (.ofEpochDay (dayOf timestamp)) * millisPerDay + timeOfDay timestamp

/-! ## From labels to instants -/

/-- The instant of local midnight of a date. -/
def instantOfDate (date : EpochDay) (zone : Option Zone) : Int :=
  instantOfWall zone (civilDay (.ofEpochDay date) * millisPerDay)

/-- The instant of a timestamp. -/
def instantOfTimestamp (timestamp : Int) (zone : Option Zone) : Int :=
  instantOfWall zone (wallOfTimestamp timestamp)

/-- The instant of a time of day on 1970-01-01. -/
def instantOfTime (time : Int) (zone : Option Zone) : Int :=
  instantOfWall zone time

/-! ## From instants to labels -/

/-- The date that a zone shows at an instant. A part of a day is cut off towards 1970, so that
after midnight of a day before 1970 the date is that of the following day. -/
def dateOfInstant (instant : Int) (zone : Option Zone) : EpochDay :=
  (civilLabel ((wallOfInstant zone instant).tdiv millisPerDay)).epochDay

/-- The timestamp that a zone shows at an instant. -/
def timestampOfInstant (instant : Int) (zone : Option Zone) : Int :=
  let wall := wallOfInstant zone instant
  atDay (civilLabel (wall / millisPerDay)).epochDay (timeOfDay wall)

/-- The time of day that a zone shows at an instant. -/
def timeOfInstant (instant : Int) (zone : Option Zone) : Int :=
  timeOfDay (wallOfInstant zone instant)

end TypedRows.Calendar
