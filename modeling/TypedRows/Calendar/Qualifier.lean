import TypedRows.Calendar.TimeUnit

/-!
# Interval qualifiers

A qualifier names the fields an interval is shown in: a leading unit and, for some pairs of
units, a trailing one, as in `DAY TO SECOND`.

## Main definitions

* `TypedRows.Calendar.Qualifier` — the qualifiers.
* `TypedRows.Calendar.Qualifier.spanning?` — the qualifier from a leading to a trailing unit.
* `TypedRows.Calendar.Qualifier.leading`, `TypedRows.Calendar.Qualifier.trailing` — its units.
-/

set_option autoImplicit false

namespace TypedRows.Calendar

/-- Either a single unit or one of the pairs of units that intervals are shown in. -/
inductive Qualifier where
  | single (unit : TimeUnit)
  | yearToMonth
  | dayToHour | dayToMinute | dayToSecond
  | hourToMinute | hourToSecond
  | minuteToSecond
  deriving DecidableEq, Repr

namespace Qualifier

/-- The qualifier from a leading unit to an optional trailing one, if there is such a
qualifier. -/
def spanning? : TimeUnit → Option TimeUnit → Option Qualifier
  | unit, none => some (.single unit)
  | .year, some .month => some .yearToMonth
  | .day, some .hour => some .dayToHour
  | .day, some .minute => some .dayToMinute
  | .day, some .second => some .dayToSecond
  | .hour, some .minute => some .hourToMinute
  | .hour, some .second => some .hourToSecond
  | .minute, some .second => some .minuteToSecond
  | _, some _ => none

/-- The coarsest unit of a qualifier. -/
def leading : Qualifier → TimeUnit
  | single unit => unit
  | yearToMonth => .year
  | dayToHour | dayToMinute | dayToSecond => .day
  | hourToMinute | hourToSecond => .hour
  | minuteToSecond => .minute

/-- The finest unit of a qualifier that has two. -/
def trailing : Qualifier → Option TimeUnit
  | single _ => none
  | yearToMonth => some .month
  | dayToHour => some .hour
  | dayToMinute | hourToMinute => some .minute
  | dayToSecond | hourToSecond | minuteToSecond => some .second

/-- The name of a qualifier: the names of its units, joined by `_TO_`. -/
def name (q : Qualifier) : String :=
  match q.trailing with
  | some unit => q.leading.name ++ "_TO_" ++ unit.name
  | none => q.leading.name

end Qualifier

end TypedRows.Calendar
