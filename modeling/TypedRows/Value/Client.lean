import TypedRows.Calendar.Timestamp
import TypedRows.Value.Local

/-!
# Client values

A client value is the form that readers of results are handed. Dates, times and timestamps are
instants here, in milliseconds since 1970-01-01 00:00:00 UTC.

## Main definitions

* `TypedRows.SqlTimestamp` — an instant with nanoseconds.
* `TypedRows.ClientValue` — the client values.
* `TypedRows.Tag.ofClient` — the tag that a client value has by itself.
-/

set_option autoImplicit false

namespace TypedRows

/-! ## Timestamps -/

/-- An instant in milliseconds, with the nanoseconds of its second. -/
structure SqlTimestamp where
  millis : Int64
  nanos : Nat
  deriving DecidableEq, Repr

namespace SqlTimestamp

/-- The nanoseconds of the second that the milliseconds of an instant account for. -/
def nanosOfMillis (millis : Int) : Nat :=
  (millis % Calendar.millisPerSecond).toNat * 1000000

/-- An instant without anything below a millisecond. -/
def ofMillis (millis : Int64) : SqlTimestamp :=
  ⟨millis, nanosOfMillis millis.toInt⟩

/-- The instant of a decimal number of seconds. Digits beyond the ninth are cut off; none when
the seconds do not fit the milliseconds of an instant. -/
def ofSeconds? (seconds : Decimal) : Option SqlTimestamp :=
  match (seconds.timesInt 1000000000).toSigned? 128 with
  | none => none
  | some total =>
    let whole := total / 1000000000
    let nanos := (total % 1000000000).toNat
    if whole * 1000 < -(2 ^ (63 : Nat)) ∨ 2 ^ (63 : Nat) ≤ whole * 1000 then none
    else some ⟨Int64.ofInt (whole * 1000 + (nanos / 1000000 : Nat)), nanos⟩

/-- The instant moved by milliseconds; what lies below a millisecond is kept. -/
def shifted (t : SqlTimestamp) (delta : Int) : SqlTimestamp :=
  let millis := Int64.ofInt (t.millis.toInt + delta)
  ⟨millis, nanosOfMillis millis.toInt + t.nanos % 1000000⟩

/-- The whole seconds since the epoch. -/
def epochSeconds (t : SqlTimestamp) : Int :=
  t.millis.toInt / Calendar.millisPerSecond

end SqlTimestamp

/-! ## Client values -/

/-- A client value. A `date` is the instant of its midnight, a `time` an instant of
1970-01-01. -/
inductive ClientValue where
  | null
  | bool (value : Bool)
  | byte (value : Int8)
  | short (value : Int16)
  | int (value : Int32)
  | long (value : Int64)
  | float (value : Binary32)
  | double (value : Binary64)
  | decimal (value : Decimal)
  | char (value : Char)
  | string (value : String)
  | bytes (value : List UInt8)
  | date (instant : Int64)
  | time (instant : Int64)
  | timestamp (instant : SqlTimestamp)
  | array (value : ArrayValue)
  | struct (value : StructValue)
  deriving Inhabited

namespace ClientValue

/-- Whether a value is null. -/
def isNull : ClientValue → Bool
  | null => true
  | _ => false

/-- Short description of a value, for messages. -/
def shape : ClientValue → String
  | null => "null"
  | bool _ => "bool"
  | byte _ => "byte"
  | short _ => "short"
  | int _ => "int"
  | long _ => "long"
  | float _ => "float"
  | double _ => "double"
  | decimal _ => "decimal"
  | char _ => "char"
  | string _ => "string"
  | bytes _ => "bytes"
  | date _ => "date"
  | time _ => "time"
  | timestamp _ => "timestamp"
  | array _ => "array"
  | struct _ => "struct"

/-- The milliseconds of a date, a time or a timestamp. -/
def instant? : ClientValue → Option Int64
  | date t => some t
  | time t => some t
  | timestamp t => some t.millis
  | _ => none

/-- The client form of a local value that needs no zone. Counts of days and milliseconds stay
numbers; a list becomes an array of the type its first element has that is not null. -/
def ofLocal : LocalValue → ClientValue
  | .null => null
  | .bool v => bool v
  | .byte v => byte v
  | .short v => short v
  | .int v => int v
  | .long v => long v
  | .float v => float v
  | .double v => double v
  | .decimal v => decimal v
  | .char v => char v
  | .string v => string v
  | .bytes v => bytes v
  | .list items => array ⟨.ofTag (.ofElements items), items, none⟩
  | .record fields => struct (.ofFields fields)
  | .struct s => struct s
  | .array a => array a

/-- The local form of a client value that is no instant. -/
def toLocal? : ClientValue → Option LocalValue
  | null => some .null
  | bool v => some (.bool v)
  | byte v => some (.byte v)
  | short v => some (.short v)
  | int v => some (.int v)
  | long v => some (.long v)
  | float v => some (.float v)
  | double v => some (.double v)
  | decimal v => some (.decimal v)
  | char v => some (.char v)
  | string v => some (.string v)
  | bytes v => some (.bytes v)
  | array a => some (.array a)
  | struct s => some (.struct s)
  | date _ | time _ | timestamp _ => none

end ClientValue

/-- The tag that a client value has by itself. -/
def Tag.ofClient : ClientValue → Tag
  | .null => .object
  | .bool _ => .boolean
  | .byte _ => .byte
  | .short _ => .short
  | .int _ => .integer
  | .long _ => .long
  | .float _ => .float
  | .double _ => .double
  | .decimal _ => .number
  | .char _ => .character
  | .string _ => .string
  | .bytes _ => .byteString
  | .date _ => .sqlDate
  | .time _ => .sqlTime
  | .timestamp _ => .sqlTimestamp
  | .array _ => .array
  | .struct _ => .struct

end TypedRows
