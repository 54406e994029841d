import TypedRows.Calendar.Timestamp

/-!
# Month arithmetic

Months have no fixed length: adding months keeps the day of the month where the target month
has it and otherwise takes the month's last day, and the months between two dates are counted
on the fields of their labels.

## Main definitions

* `TypedRows.Calendar.addMonths`, `TypedRows.Calendar.addMonthsToTimestamp`
* `TypedRows.Calendar.monthsBetween`, `TypedRows.Calendar.monthsBetweenTimestamps`
* `TypedRows.Calendar.lastDay` — the last day of the month of a date.
-/

set_option autoImplicit false

namespace TypedRows.Calendar

/-- The months of a label since January of year 0. -/
def YearMonthDay.monthCount (d : YearMonthDay) : Int :=
  d.year.toInt * 12 + ((d.month : Int) - 1)

/-- The day `day` of the month with the given count, or the last day of a shorter month. -/
def clampedDay (monthCount : Int) (day : Nat) : YearMonthDay :=
  let year := Int32.ofInt (monthCount / 12)
  let month := (monthCount % 12 + 1).toNat
  ⟨year, month, min day (daysInMonth year.toInt month)⟩

/-- The date a number of months later. -/
def addMonths (date : EpochDay) (months : Int) : EpochDay :=
  let d := YearMonthDay.ofEpochDay date
  (clampedDay (d.monthCount + months) d.day).epochDay

/-- The timestamp a number of months later, at the same time of day. -/
def addMonthsToTimestamp (timestamp months : Int) : Int :=
  atDay (addMonths (dayOf timestamp) months) (timeOfDay timestamp)

/-- The last day of the month of a date. -/
def lastDay (date : EpochDay) : EpochDay :=
  let d := YearMonthDay.ofEpochDay date
  YearMonthDay.epochDay { d with day := daysInMonth d.year.toInt d.month }

/-- The whole months from the earlier label to the later one. -/
def wholeMonths (later earlier : YearMonthDay) : Int :=
  later.monthCount - earlier.monthCount - if later.day < earlier.day then 1 else 0

/-- The whole months from `date₁` to `date₀`, negative when `date₀` is the earlier one. -/
def monthsBetween (date₀ date₁ : EpochDay) : Int :=
  let d₀ := YearMonthDay.ofEpochDay date₀
  let d₁ := YearMonthDay.ofEpochDay date₁
  if date₀ < date₁ then -wholeMonths d₁ d₀ else wholeMonths d₀ d₁

/-- The whole months from `t₁` to `t₀`: those between the dates, less one when the last of them
is completed by the date and not by the time of day. -/
def monthsBetweenTimestamps (t₀ t₁ : Int) : Int :=
  let months := monthsBetween (dayOf t₀) (dayOf t₁)
  if addMonths (dayOf t₁) months = dayOf t₀ ∧ timeOfDay t₀ < timeOfDay t₁ then months - 1
  else months

end TypedRows.Calendar
