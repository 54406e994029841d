import TypedRows.Calendar.Qualifier

/-!
# What can be wrong with a calendar value

## Main definitions

* `TypedRows.Calendar.CalendarError` — the causes.
* `TypedRows.Calendar.CalendarError.message` — the words for a cause.
-/

set_option autoImplicit false

namespace TypedRows.Calendar

/-- The parts of the text of a date or a clock time. -/
inductive TextPart where
  | year | month | day | hour | minute | second | fraction
  deriving DecidableEq, Repr

/-- The name of a part in messages. -/
def TextPart.name : TextPart → String
  | year => "year"
  | month => "month"
  | day => "day"
  | hour => "hour"
  | minute => "minute"
  | second => "second"
  | fraction => "fraction"

/-- The operations that take some units only. -/
inductive UnitOperation where
  | clockExtract | floor | ceil
  deriving DecidableEq, Repr

/-- The name of an operation in messages. -/
def UnitOperation.name : UnitOperation → String
  | clockExtract => "time extract"
  | floor => "floor"
  | ceil => "ceil"

/-- The two families of intervals: those counted in months and those counted in
milliseconds. -/
inductive IntervalFamily where
  | yearMonth | dayTime
  deriving DecidableEq, Repr

/-- The name of a family in messages. -/
def IntervalFamily.name : IntervalFamily → String
  | yearMonth => "year-month"
  | dayTime => "day-time"

/-- Why a calendar value could not be read or computed. -/
inductive CalendarError where
  /-- The named part of the text is missing, is no number or lies out of range. -/
  | invalidText (part : TextPart) (text : String)
  | unknownZone (text : String)
  | unknownUnit (text : String)
  | unsupportedUnit (unit : TimeUnit) (operation : UnitOperation)
  /-- The qualifier does not belong to the family of the interval. -/
  | foreignQualifier (qualifier : Qualifier) (family : IntervalFamily)
  deriving DecidableEq, Repr

/-- The words for a cause. -/
def CalendarError.message : CalendarError → String
  | invalidText part text => "invalid " ++ part.name ++ " in '" ++ text ++ "'"
  | unknownZone text => "unknown time zone '" ++ text ++ "'"
  | unknownUnit text => "unknown time unit '" ++ text ++ "'"
  | unsupportedUnit unit operation => unit.name ++ " is not supported by " ++ operation.name
  | foreignQualifier qualifier family =>
    qualifier.name ++ " is not a " ++ family.name ++ " interval qualifier"

/-- The unit a text names, or the cause for which there is none. -/
def TimeUnit.read (text : String) : Except CalendarError TimeUnit :=
  match TimeUnit.named? text with
  | some unit => .ok unit
  | none => .error (.unknownUnit text)

end TypedRows.Calendar
