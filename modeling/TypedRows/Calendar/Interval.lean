import TypedRows.Calendar.Text

/-!
# The texts of intervals

A year-month interval counts months, a day-time interval milliseconds. The text begins with a
sign; the leading field has no padding and every later field has two digits. What is finer than
the last field shown is rounded away, halves towards zero.

## Main definitions

* `TypedRows.Calendar.roundTo` — the nearest multiple of a unit.
* `TypedRows.Calendar.yearMonthText`, `TypedRows.Calendar.dayTimeText` — the texts.
-/

set_option autoImplicit false

namespace TypedRows.Calendar

/-- The multiple of `unit` nearest to `value`, the smaller one when two are equally near. -/
def roundTo (value unit : Nat) : Nat :=
  let rest := value % unit
  if unit < 2 * rest then value - rest + unit else value - rest

/-- The sign of an interval, which is never left out. -/
def signChar (value : Int) : Char :=
  if value < 0 then '-' else '+'

/-- The size of a 64-bit count; that of the least count is the greatest count. -/
def magnitude (value : Int) : Nat :=
  min value.natAbs 9223372036854775807

/-- The text of an interval of `months` months. -/
def yearMonthText (months : Int) (qualifier : Qualifier) : Except CalendarError String :=
  let v := magnitude months
  let written (body : List Char) : Except CalendarError String :=
    .ok (String.ofList (signChar months :: body))
  match qualifier with
  | .single .year => written (Text.padded 1 (roundTo v 12 / 12))
  | .yearToMonth => written (Text.padded 1 (v / 12) ++ '-' :: Text.padded 2 (v % 12))
  | .single .month => written (Text.padded 1 v)
  | other => .error (.foreignQualifier other .yearMonth)

/-- The text of an interval of `millis` milliseconds, with `scale` digits of a second (at most
three) where the qualifier ends in seconds. -/
def dayTimeText (millis : Int) (qualifier : Qualifier) (scale : Nat) :
    Except CalendarError String :=
  let scale := min scale maxPrecision
  let v := magnitude millis
  let hours := roundTo v 3600000 / 3600000
  let minutes := roundTo v 60000 / 60000
  let exact := roundTo v (10 ^ (maxPrecision - scale))
  let seconds := exact / 1000
  let fraction := fractionChars scale (exact % 1000 : Nat)
  let written (body : List Char) : Except CalendarError String :=
    .ok (String.ofList (signChar millis :: body))
  match qualifier with
  | .single .day => written (Text.padded 1 (roundTo v 86400000 / 86400000))
  | .dayToHour => written (Text.padded 1 (hours / 24) ++ ' ' :: Text.padded 2 (hours % 24))
  | .dayToMinute =>
    written (Text.padded 1 (minutes / 1440) ++ ' ' :: Text.padded 2 (minutes / 60 % 24)
      ++ ':' :: Text.padded 2 (minutes % 60))
  | .dayToSecond =>
    written (Text.padded 1 (seconds / 86400) ++ ' ' :: Text.padded 2 (seconds / 3600 % 24)
      ++ ':' :: Text.padded 2 (seconds / 60 % 60) ++ ':' :: Text.padded 2 (seconds % 60)
      ++ fraction)
  | .single .hour => written (Text.padded 1 hours)
  | .hourToMinute =>
    written (Text.padded 1 (minutes / 60) ++ ':' :: Text.padded 2 (minutes % 60))
  | .hourToSecond =>
    written (Text.padded 1 (seconds / 3600) ++ ':' :: Text.padded 2 (seconds / 60 % 60)
      ++ ':' :: Text.padded 2 (seconds % 60) ++ fraction)
  | .single .minute => written (Text.padded 1 minutes)
  | .minuteToSecond =>
    written (Text.padded 1 (seconds / 60) ++ ':' :: Text.padded 2 (seconds % 60) ++ fraction)
  | .single .second => written (Text.padded 1 seconds ++ fraction)
  | other => .error (.foreignQualifier other .dayTime)

end TypedRows.Calendar
