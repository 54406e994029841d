import TypedRows.Calendar.Error
import TypedRows.Calendar.Timestamp
import TypedRows.Text.Blank

/-!
# The texts of dates, clock times and timestamps

A date is written `YYYY-MM-DD`, a clock time `HH:MM:SS` with up to three digits of a second
after a point, and a timestamp as a date and a clock time with a blank between them. Readers
take fields of any number of digits; a clock time may leave out its later fields, and a `T` may
stand for the blank of a timestamp. Writers cut a fraction of a second short, readers round it.

## Main definitions

* `TypedRows.Calendar.dateText`, `TypedRows.Calendar.timeText`,
  `TypedRows.Calendar.timestampText` — the writers.
* `TypedRows.Calendar.readDate`, `TypedRows.Calendar.readTime`,
  `TypedRows.Calendar.readTimestamp` — the readers.
-/

set_option autoImplicit false

namespace TypedRows.Calendar

/-- The most digits of a second that are written or kept when read. -/
def maxPrecision : Nat := 3

/-! ## Writing -/

/-- The first digits of the thousandths of a second, after a point, if there are any. -/
def fractionChars (precision : Nat) (millis : Int) : List Char :=
  if precision = 0 then [] else '.' :: (Text.padded 3 millis.toNat).take precision

/-- The text of a time of day, given in milliseconds since midnight. -/
def clockChars (time : Int) (precision : Nat) : List Char :=
  Text.padded 2 (time / millisPerHour).toNat
    ++ ':' :: Text.padded 2 (time % millisPerHour / millisPerMinute).toNat
    ++ ':' :: Text.padded 2 (time % millisPerMinute / millisPerSecond).toNat
    ++ fractionChars (min precision maxPrecision) (time % millisPerSecond)

/-- The text of a date. -/
def dateText (date : EpochDay) : String :=
  String.ofList (YearMonthDay.ofEpochDay date).chars

/-- The text of a clock time; times outside the day are taken around the clock. -/
def timeText (time : Int) (precision : Nat) : String :=
  String.ofList (clockChars (time % millisPerDay) precision)

/-- The text of a timestamp. -/
def timestampText (timestamp : Int) (precision : Nat) : String :=
  String.ofList ((YearMonthDay.ofEpochDay (dayOf timestamp)).chars
    ++ ' ' :: clockChars (timeOfDay timestamp) precision)

/-! ## Reading -/

/-- The greatest year that a text may name; a sign does not count. -/
def maxYear : Nat := 2147483647

/-- The greatest number that any other field of a text may hold. -/
def maxField : Nat := 4294967295

/-- The number in a field. A field that is missing, is no number or holds more than `greatest`
is refused in the name of the whole text. -/
def readField (part : TextPart) (greatest : Nat) (text : String) (field : Option (List Char)) :
    Except CalendarError Nat :=
  match field.bind Text.natural? with
  | some n => if n ≤ greatest then .ok n else .error (.invalidText part text)
  | none => .error (.invalidText part text)

/-- The number in a field that may be left out. -/
def readOptionalField (part : TextPart) (text : String) (field : Option (List Char)) :
    Except CalendarError Nat :=
  if field.isNone then .ok 0 else readField part maxField text field

/-- The date written `[-]Y-M-D`; `text` is the text that a refusal names. -/
def readDateChars (text : String) (cs : List Char) : Except CalendarError EpochDay := do
  let cs := Text.trim cs
  let negative := cs.head? == some '-'
  let fields := Text.splitAtMost '-' 2 (if negative then cs.tail else cs)
  let y ← readField .year maxYear text fields[0]?
  let month ← readField .month maxField text fields[1]?
  let day ← readField .day maxField text fields[2]?
  let year : Int := if negative then -(y : Int) else y
  if month = 0 ∨ 12 < month then throw (.invalidText .month text)
  if day = 0 ∨ daysInMonth year month < day then throw (.invalidText .day text)
  return YearMonthDay.epochDay ⟨Int32.ofInt year, month, day⟩

/-- The milliseconds of a fraction of a second: its first `precision` digits, one more in the
last of them when the digit after them is at least five. -/
def roundFraction (digits : List Char) (precision : Nat) : Nat :=
  let precision := min precision maxPrecision
  let digit (i : Nat) : Nat := (digits[i]?.getD '0').toNat - '0'.toNat
  let kept := (List.range precision).foldl (fun n i => 10 * n + digit i) 0
  (if 5 ≤ digit precision then kept + 1 else kept) * 10 ^ (maxPrecision - precision)

/-- The time written `H[:M[:S]][.F]`, in milliseconds since midnight; `text` is the text that a
refusal names. -/
def readTimeChars (text : String) (cs : List Char) (precision : Nat) :
    Except CalendarError Int := do
  let (clock, fraction) := Text.cut (· == '.') (Text.trim cs)
  let fields := Text.splitAtMost ':' 2 clock
  let hour ← readField .hour maxField text fields[0]?
  let minute ← readOptionalField .minute text fields[1]?
  let second ← readOptionalField .second text fields[2]?
  if 23 < hour then throw (.invalidText .hour text)
  if 59 < minute then throw (.invalidText .minute text)
  if 59 < second then throw (.invalidText .second text)
  let millis ← match fraction with
    | none => pure 0
    | some digits =>
      if (Text.natural? digits).isNone then throw (.invalidText .fraction text)
      else pure (roundFraction digits precision)
  return hour * millisPerHour + minute * millisPerMinute + second * millisPerSecond + millis

/-- The date a text denotes. -/
def readDate (text : String) : Except CalendarError EpochDay :=
  readDateChars text text.toList

/-- The time of day a text denotes, rounded to `precision` digits of a second. -/
def readTime (text : String) (precision : Nat) : Except CalendarError Int :=
  readTimeChars text text.toList precision

/-- The timestamp a text denotes: a date, and after the first blank or `T` a time of day. -/
def readTimestamp (text : String) (precision : Nat) : Except CalendarError Int := do
  let (date, time) := Text.cut (fun c => c == ' ' || c == 'T') (Text.trim text.toList)
  let date ← readDateChars text date
  let time ← match time with
    | none => pure 0
    | some time => readTimeChars text time precision
  return atDay date time

end TypedRows.Calendar
