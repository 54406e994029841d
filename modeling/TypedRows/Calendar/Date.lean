import TypedRows.Text.Fields

/-!
# Dates of the proleptic Gregorian calendar

A date is counted in days since 1970-01-01 (`EpochDay`, a 32-bit count) and labelled by a year,
a month and a day of the proleptic Gregorian calendar, which runs by the Gregorian rules
through all years, year 0 and negative years included. Both are tied to the Julian day number,
a day count that all calendars share.

## Main definitions

* `TypedRows.Calendar.YearMonthDay` — the label of a date.
* `TypedRows.Calendar.YearMonthDay.julianDay`, `TypedRows.Calendar.YearMonthDay.ofJulianDay` —
  the Julian day number of a label and the label of a Julian day number.
* `TypedRows.Calendar.YearMonthDay.epochDay`, `TypedRows.Calendar.YearMonthDay.ofEpochDay` — the
  same for days since 1970-01-01.
* `TypedRows.Calendar.YearMonthDay.IsValid` — the labels that name a day.
* `TypedRows.Calendar.YearMonthDay.next` — the label of the following day, by the rules of the
  calendar alone.
-/

set_option autoImplicit false

namespace TypedRows.Calendar

/-- Days since 1970-01-01. -/
abbrev EpochDay := Int32

/-- The Julian day number of 1970-01-01. -/
def epochJulianDay : Int := 2440588

/-! ## Lengths of years and months -/

/-- Every fourth year is a leap year, centuries not divisible by 400 excepted. -/
def isLeapYear (year : Int) : Bool :=
  year % 4 == 0 && (year % 100 != 0 || year % 400 == 0)

/-- The number of days of a month. -/
def daysInMonth (year : Int) (month : Nat) : Nat :=
  match month with
  | 2 => if isLeapYear year then 29 else 28
  | 4 | 6 | 9 | 11 => 30
  | _ => 31

/-! ## Labels -/

/-- Year, month and day of a date. -/
structure YearMonthDay where
  year : Int32
  month : Nat
  day : Nat
  deriving DecidableEq, Repr

namespace YearMonthDay

/-- A label names a day when its month is one of the twelve and its day one of the month's. -/
def IsValid (d : YearMonthDay) : Prop :=
  1 ≤ d.month ∧ d.month ≤ 12 ∧ 1 ≤ d.day ∧ d.day ≤ daysInMonth d.year.toInt d.month

instance (d : YearMonthDay) : Decidable d.IsValid := by
  unfold IsValid; infer_instance

/-- Earlier labels first: by year, then by month, then by day. -/
def Before (a b : YearMonthDay) : Prop :=
  a.year.toInt < b.year.toInt ∨
    (a.year.toInt = b.year.toInt ∧ (a.month < b.month ∨ (a.month = b.month ∧ a.day < b.day)))

instance (a b : YearMonthDay) : Decidable (a.Before b) := by
  unfold Before; infer_instance

/-- The label of the following day: the next day of the month, or the first of the next month,
or the first of January of the next year. -/
def next (d : YearMonthDay) : YearMonthDay :=
  if d.day < daysInMonth d.year.toInt d.month then { d with day := d.day + 1 }
  else if d.month < 12 then ⟨d.year, d.month + 1, 1⟩
  else ⟨d.year + 1, 1, 1⟩

/-- The text `YYYY-MM-DD`: the year has at least four digits and a sign when it is negative. -/
def chars (d : YearMonthDay) : List Char :=
  (if d.year.toInt < 0 then ['-'] else []) ++ Text.padded 4 d.year.toInt.natAbs
    ++ '-' :: Text.padded 2 d.month ++ '-' :: Text.padded 2 d.day

/-! ## The March-based year

Counting months from March puts the leap day at the end of the year, and the days before month
`m` are then `(153 * m + 2) / 5`. -/

/-- The years to borrow so that January and February close the year before. -/
def borrowedYears (month : Nat) : Int :=
  (14 - (month : Int)).tdiv 12

/-- Days before a label in the reckoning of March-based years of 365 days, from March of the
year -4800; leap days are not counted. -/
def commonDays (d : YearMonthDay) : Int :=
  d.day + (153 * ((d.month : Int) + 12 * borrowedYears d.month - 3) + 2) / 5
    + 365 * (d.year.toInt + 4800 - borrowedYears d.month)

/-- The Julian day number of a label of the proleptic Gregorian calendar. -/
def julianDay (d : YearMonthDay) : Int :=
  let y := d.year.toInt + 4800 - borrowedYears d.month
  d.commonDays + y / 4 - y / 100 + y / 400 - 32045

/-- The label of day `e` (from 0) of the March-based year `y`. Years wrap around at 32 bits. -/
def ofDayOfYear (y e : Int) : YearMonthDay :=
  let m := (5 * e + 2) / 153
  { year := Int32.ofInt (y - 4800 + m / 10)
    month := (m + 3 - 12 * (m / 10)).toNat
    day := (e - (153 * m + 2) / 5 + 1).toNat }

/-- The label of a Julian day number in the proleptic Gregorian calendar. -/
def ofJulianDay (julian : Int) : YearMonthDay :=
  let a := julian + 32044
  let century := (4 * a + 3) / 146097
  let c := a - 146097 * century / 4
  let d := (4 * c + 3) / 1461
  ofDayOfYear (100 * century + d) (c - 1461 * d / 4)

/-- Days since 1970-01-01 of a label; the count wraps around at 32 bits. -/
def epochDay (d : YearMonthDay) : EpochDay :=
  Int32.ofInt (d.julianDay - epochJulianDay)

/-- The label of a count of days since 1970-01-01. -/
def ofEpochDay (date : EpochDay) : YearMonthDay :=
  ofJulianDay (date.toInt + epochJulianDay)

end YearMonthDay

example : YearMonthDay.julianDay ⟨2000, 1, 1⟩ = 2451545 := by decide
example : YearMonthDay.ofEpochDay 0 = ⟨1970, 1, 1⟩ := by decide
example : YearMonthDay.ofEpochDay (-719469) = ⟨0, 2, 29⟩ := by decide

end TypedRows.Calendar
