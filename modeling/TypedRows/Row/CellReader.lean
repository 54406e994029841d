import TypedRows.Calendar.Civil
import TypedRows.Calendar.Text
import TypedRows.Json.Writer
import TypedRows.Row.Selector
import TypedRows.Value.Client
import TypedRows.Value.Json

/-!
# Reading the cells of a column

A cell reader is bound to a column and reads its cells as one kind of client value or another.
The tag of the column decides what a cell can be read as: only cells of temporal columns are
dates or times, whereas any number can be read in any width, wrapping around where it does not
fit. Every reader answers none for null, and names the column in its errors.

## Main definitions

* `TypedRows.CellReader` — a column with the place of its cells and the zones they are read in.
* `TypedRows.CellReader.object` — the client value of a cell, as the tag of the column wants it.
* `TypedRows.CellReader.long`, `TypedRows.CellReader.double`, `TypedRows.CellReader.decimal`,
  `TypedRows.CellReader.text`, `TypedRows.CellReader.date`, `TypedRows.CellReader.time`,
  `TypedRows.CellReader.timestamp`, … — the client value of a cell as a value of one kind.
-/

set_option autoImplicit false

namespace TypedRows

open Calendar

/-! ## Plain text -/

/-- The text of a value whatever its column; composite values are shown as JSON. -/
def LocalValue.text : LocalValue → Except Error String
  | .null => .ok ""
  | .bool b => .ok (if b then "true" else "false")
  | .byte n => .ok (toString n.toInt)
  | .short n => .ok (toString n.toInt)
  | .int n => .ok (toString n.toInt)
  | .long n => .ok (toString n.toInt)
  | .float x => .ok x.text
  | .double x => .ok x.text
  | .decimal d => .ok d.text
  | .char c => .ok (String.singleton c)
  | .string s => .ok s
  | .bytes b => .ok (Base64.text b)
  | composite => do return (← composite.toPlainSerial).toJson.text

/-- The text of a timestamp, with thousandths of a second only where there are any. -/
def shownTimestamp (timestamp : Int) : String :=
  timestampText timestamp (if timestamp % millisPerSecond = 0 then 0 else 3)

/-! ## Readers -/

/-- A column with the place of its cells. Its own dates and times are read in `zone`, and the
elements of its arrays in `elementZone`. -/
structure CellReader where
  column : Column
  selector : Selector
  zone : Option Zone
  elementZone : Option Zone

namespace CellReader

/-- The tag that decides how cells are read. -/
def tag (r : CellReader) : Tag := r.column.tag.boxed

/-- The cell of a row. -/
def cell (r : CellReader) (row : LocalValue) : Except Error LocalValue :=
  within r.column.place (r.selector.cell row)

/-- The error of a cell that cannot be read as what was asked for. -/
def refuse {α : Type} (r : CellReader) (expected : Expectation) (v : LocalValue) :
    Except Error α :=
  .error ((Error.mismatch r.column.tag expected v.shape).within r.column.place)

/-- What is there, or the error of a cell that cannot be read as what was asked for. -/
def orRefuse {α : Type} (r : CellReader) (expected : Expectation) (v : LocalValue) :
    Option α → Except Error α
  | some a => .ok a
  | none => r.refuse expected v

/-! ### Numbers -/

/-- A cell as a 64-bit integer. Floats are cut off and clamped, decimals cut off. -/
def long (r : CellReader) : LocalValue → Except Error (Option Int64)
  | .null => .ok none
  | .bool b => .ok (some (if b then 1 else 0))
  | .float x => .ok (some x.value.toInt64)
  | .double x => .ok (some x.value.toInt64)
  | .decimal d => some <$> r.orRefuse .long (.decimal d) d.toInt64?
  | v => (some ∘ Int64.ofInt) <$> r.orRefuse .number v v.integer?

/-- A cell as a 32-bit integer: the low bits of the 64-bit one. -/
def int (r : CellReader) (v : LocalValue) : Except Error (Option Int32) := do
  return (← r.long v).map fun n => Int32.ofInt n.toInt

/-- A cell as a 16-bit integer: the low bits of the 64-bit one. -/
def short (r : CellReader) (v : LocalValue) : Except Error (Option Int16) := do
  return (← r.long v).map fun n => Int16.ofInt n.toInt

/-- A cell as an 8-bit integer: the low bits of the 64-bit one. -/
def byte (r : CellReader) (v : LocalValue) : Except Error (Option Int8) := do
  return (← r.long v).map fun n => Int8.ofInt n.toInt

/-- A cell as a double. -/
def double (r : CellReader) : LocalValue → Except Error (Option Binary64)
  | .null => .ok none
  | .bool b => .ok (some (.ofInt (if b then 1 else 0)))
  | .float x => .ok (some (.ofBinary32 x))
  | .double x => .ok (some x)
  | .decimal d => .ok (some d.toBinary64)
  | v => (some ∘ Binary64.ofInt) <$> r.orRefuse .number v v.integer?

/-- A cell as a float: the double, rounded. -/
def float (r : CellReader) (v : LocalValue) : Except Error (Option Binary32) := do
  return (← r.double v).map .ofBinary64

/-- A cell as a decimal; a float is taken for the decimal it is written as. -/
def decimal (r : CellReader) : LocalValue → Except Error (Option Decimal)
  | .null => .ok none
  | .bool b => .ok (some (.ofInt (if b then 1 else 0)))
  | .decimal d => .ok (some d)
  | .float x => some <$> r.orRefuse .finiteNumber (.float x) (Decimal.ofBinary32? x)
  | .double x => some <$> r.orRefuse .finiteNumber (.double x) (Decimal.ofBinary64? x)
  | v => (some ∘ Decimal.ofInt) <$> r.orRefuse .number v v.integer?

/-- A cell as a truth value: a truth value, the name of one, or a number, which is true unless
it is zero. -/
def bool (r : CellReader) (v : LocalValue) : Except Error (Option Bool) :=
  match v with
  | .bool b => .ok (some b)
  | .string s =>
    if Text.sameName s "true" then .ok (some true)
    else if Text.sameName s "false" then .ok (some false)
    else r.refuse .number v
  | v => do return (← r.double v).map fun x => !x.value.isZero

/-- The integer of a cell that holds a count of days or milliseconds. -/
def count (r : CellReader) (v : LocalValue) : Except Error Int := do
  match ← r.long v with
  | some n => return n.toInt
  | none => r.refuse .number v

/-- The count of a cell, cut to 32 bits. -/
def count32 (r : CellReader) (v : LocalValue) : Except Error Int32 :=
  Int32.ofInt <$> r.count v

/-- A cell as bytes. -/
def bytes (r : CellReader) : LocalValue → Except Error (Option (List UInt8))
  | .null => .ok none
  | .bytes b => .ok (some b)
  | v => r.refuse .bytes v

/-- The character of a cell: a character, a text of one, or the number of one. -/
def character (r : CellReader) (v : LocalValue) : Except Error Char :=
  match v with
  | .char c => .ok c
  | .string s => r.orRefuse .singleCharacter v (SerialValue.singleCharacter? s)
  | v =>
    r.orRefuse .character v <| v.integer?.bind fun n =>
      if 0 ≤ n ∧ n.toNat.isValidChar then some (Char.ofNat n.toNat) else none

/-! ### Dates and times -/

variable [Platform]

/-- The timestamp of a cell: a count of milliseconds or a decimal number of seconds. -/
def instant (r : CellReader) (v : LocalValue) : Except Error SqlTimestamp :=
  match v with
  | .decimal seconds => r.orRefuse .secondsInRange v (SqlTimestamp.ofSeconds? seconds)
  | v => (SqlTimestamp.ofMillis ∘ Int64.ofInt) <$> r.count v

/-- The milliseconds of the timestamp of a cell. -/
def millis (r : CellReader) (v : LocalValue) : Except Error Int := do
  return (← r.instant v).millis.toInt

/-- A cell as a date, which is the midnight of it in a zone. -/
def date (r : CellReader) (zone : Option Zone) (v : LocalValue) :
    Except Error (Option Int64) :=
  if v.isNull then .ok none
  else
    match r.tag with
    | .sqlDate => do return some (Int64.ofInt (instantOfDate (← r.count32 v) zone))
    | .sqlTimestamp | .utilDate => do
      return some (Int64.ofInt (instantOfTimestamp (← r.millis v) zone))
    | .instantTimestamp => do return some (Int64.ofInt (← r.millis v))
    | _ => r.refuse .date v

/-- A cell as a time of day in a zone. -/
def time (r : CellReader) (zone : Option Zone) (v : LocalValue) :
    Except Error (Option Int64) :=
  if v.isNull then .ok none
  else
    match r.tag with
    | .sqlTime => do return some (Int64.ofInt (instantOfTime (← r.count32 v).toInt zone))
    | .sqlTimestamp | .utilDate => do
      return some (Int64.ofInt (instantOfTimestamp (← r.millis v) zone))
    | .instantTime => do return some (Int64.ofInt (← r.count v))
    | .instantTimestamp => do return some (Int64.ofInt (← r.millis v))
    | _ => r.refuse .time v

/-- A cell as a timestamp in a zone. -/
def timestamp (r : CellReader) (zone : Option Zone) (v : LocalValue) :
    Except Error (Option SqlTimestamp) :=
  if v.isNull then .ok none
  else
    match r.tag with
    | .sqlTimestamp | .utilDate => do
      let t ← r.instant v
      return some (t.shifted (instantOfTimestamp t.millis.toInt zone - t.millis.toInt))
    | .sqlDate => do
      return some (.ofMillis (Int64.ofInt (instantOfDate (← r.count32 v) zone)))
    | .sqlTime => do
      return some (.ofMillis (Int64.ofInt (instantOfTime (← r.count32 v).toInt zone)))
    | .instantTime => do return some (.ofMillis (Int64.ofInt (← r.count v)))
    | .instantTimestamp => some <$> r.instant v
    | _ => r.refuse .timestamp v

/-- A cell as text. Dates and times are shown on the calendar, instants in the zone of the
reader. -/
def text (r : CellReader) (v : LocalValue) : Except Error (Option String) :=
  if v.isNull then .ok none
  else
    match r.tag with
    | .sqlDate => do return some (dateText (← r.count32 v))
    | .sqlTime => do return some (timeText (← r.count32 v).toInt 0)
    | .sqlTimestamp | .utilDate => do return some (shownTimestamp (← r.millis v))
    | .instantTime => do return some (timeText (timeOfInstant (← r.count v) r.zone) 0)
    | .instantTimestamp => do
      return some (shownTimestamp (timestampOfInstant (← r.millis v) r.zone))
    | _ => some <$> v.text

/-! ### Arrays and records -/

/-- The type of the elements of a list: the declared one, or that of the first element that is
not null. -/
def component (r : CellReader) (elements : List LocalValue) : ColumnType :=
  r.column.type.component?.getD (.ofTag (.ofElements elements))

/-- A cell as an array. -/
def array (r : CellReader) : LocalValue → Except Error (Option ArrayValue)
  | .null => .ok none
  | .list items => .ok (some ⟨r.component items, items, r.elementZone⟩)
  | .array a => .ok (some a)
  | v => r.refuse .array v

/-- A cell as a record. Where the column declares fields, there has to be a value for each of
them, and a record without names takes theirs. -/
def struct (r : CellReader) (v : LocalValue) : Except Error (Option StructValue) :=
  let declared := r.column.type.declaredFields
  let checked (s : StructValue) : Except Error (Option StructValue) :=
    if !declared.isEmpty && s.values.length != declared.length then r.refuse .declaredRecord v
    else .ok (some s)
  match v with
  | .null => .ok none
  | .list items => checked ((StructOf.ofValues items).withFields declared)
  | .record fields => checked (.ofFields fields)
  | .struct s => checked (s.withFields declared)
  | v => r.refuse .record v

/-! ### Objects -/

/-- The client value of a cell, of the kind that the tag of the column names, read in the zone
of the reader. Columns without such a kind take the value as it is. -/
def object (r : CellReader) (v : LocalValue) : Except Error ClientValue :=
  if v.isNull then .ok .null
  else
    match r.tag with
    | .boolean => do return (← r.bool v).elim .null .bool
    | .byte => do return (← r.byte v).elim .null .byte
    | .short => do return (← r.short v).elim .null .short
    | .integer => do return (← r.int v).elim .null .int
    | .long => do return (← r.long v).elim .null .long
    | .float => do return (← r.float v).elim .null .float
    | .double => do return (← r.double v).elim .null .double
    | .number => do return (← r.decimal v).elim .null .decimal
    | .character => do return .char (← r.character v)
    | .string => do return (← r.text v).elim .null .string
    | .byteString => do return (← r.bytes v).elim .null .bytes
    | .sqlDate => do return (← r.date r.zone v).elim .null .date
    | .sqlTime | .instantTime => do return (← r.time r.zone v).elim .null .time
    | .sqlTimestamp | .utilDate | .instantTimestamp => do
      return (← r.timestamp r.zone v).elim .null .timestamp
    | .array => do return (← r.array v).elim .null .array
    | .struct => do return (← r.struct v).elim .null .struct
    | _ => .ok (.ofLocal v)

/-- The client value of the cell of a row. -/
def objectOf (r : CellReader) (row : LocalValue) : Except Error ClientValue := do
  r.object (← r.cell row)

end CellReader

end TypedRows
