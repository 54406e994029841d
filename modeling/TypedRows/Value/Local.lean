import TypedRows.Calendar.Zone
import TypedRows.Column.Basic
import TypedRows.Fields
import TypedRows.Number.Shortest

/-!
# Local values

A local value is the form that rows carry and that computations use. Dates are `int` days since
1970-01-01, times `int` milliseconds of the day and timestamps `long` milliseconds.

## Main definitions

* `TypedRows.LocalValue` — the local values, with `TypedRows.StructValue` for records and
  `TypedRows.ArrayValue` for arrays of a declared element type.
* `TypedRows.LocalValue.field?`, `TypedRows.LocalValue.width?`,
  `TypedRows.LocalValue.fieldNamed?` — values as rows of fields.
* `TypedRows.Tag.ofLocal` — the tag that a local value has by itself.
-/

set_option autoImplicit false

namespace TypedRows

/-- A record over a notion of value: fields in a fixed order, which may have names. -/
structure StructOf (α : Type) where
  names : Option (List String)
  values : List α

/-- An array over a notion of value: elements of one type, whose dates and times are read in a
zone. -/
structure ArrayOf (α : Type) where
  component : ColumnType
  elements : List α
  zone : Option Calendar.Zone

/-- A local value. A `list` holds the elements of an array or the fields of a row, a `record`
the named fields of a row. -/
inductive LocalValue where
  | null
  | bool (value : Bool)
  | byte (value : Int8)
  | short (value : Int16)
  | int (value : Int32)
  | long (value : Int64)
  | float (value : Binary32)
  | double (value : Binary64)
  | decimal (value : Decimal)
  | char (value : Char)
  | string (value : String)
  | bytes (value : List UInt8)
  | list (items : List LocalValue)
  | record (fields : List (String × LocalValue))
  | struct (value : StructOf LocalValue)
  | array (value : ArrayOf LocalValue)
  deriving Inhabited

/-- A record of local values. -/
abbrev StructValue := StructOf LocalValue

/-- An array of local values. -/
abbrev ArrayValue := ArrayOf LocalValue

namespace LocalValue

/-- Whether a value is null. -/
def isNull : LocalValue → Bool
  | null => true
  | _ => false

/-- Only null is null. -/
theorem isNull_iff {v : LocalValue} : v.isNull = true ↔ v = null := by
  cases v <;> simp [isNull]

/-- Short description of a value, for messages. -/
def shape : LocalValue → String
  | null => "null"
  | bool _ => "bool"
  | byte _ => "byte"
  | short _ => "short"
  | int _ => "int"
  | long _ => "long"
  | float _ => "float"
  | double _ => "double"
  | decimal _ => "decimal"
  | char _ => "char"
  | string _ => "string"
  | bytes _ => "bytes"
  | list _ => "list"
  | record _ => "record"
  | struct _ => "struct"
  | array _ => "array"

/-- The integer that a value of one of the four widths holds. -/
def integer? : LocalValue → Option Int
  | byte n => some n.toInt
  | short n => some n.toInt
  | int n => some n.toInt
  | long n => some n.toInt
  | _ => none

/-! ## Values as rows -/

/-- The fields of a value that has fields. -/
def fields? : LocalValue → Option (List LocalValue)
  | list items => some items
  | record fields => some (fields.map (·.2))
  | struct s => some s.values
  | array a => some a.elements
  | _ => none

/-- The field at a position. -/
def field? (v : LocalValue) (index : Nat) : Option LocalValue :=
  v.fields?.bind (·[index]?)

/-- The number of fields. -/
def width? (v : LocalValue) : Option Nat :=
  v.fields?.map List.length

end LocalValue

namespace StructOf

variable {α : Type}

/-- A record of fields without names. -/
def ofValues (values : List α) : StructOf α := ⟨none, values⟩

/-- A record of named fields. -/
def ofFields (fields : List (String × α)) : StructOf α :=
  ⟨some (fields.map (·.1)), fields.map (·.2)⟩

/-- The record with its fields named after columns, if it has no names yet and there is a
column for every field. -/
def withFields (s : StructOf α) (columns : List Column) : StructOf α :=
  if s.names.isNone && !columns.isEmpty && columns.length == s.values.length then
    { s with names := some (columns.map (·.name)) }
  else s

/-- The field at a position, or the error that there is none. -/
def get (s : StructOf α) (index : Nat) : Except Error α :=
  match s.values[index]? with
  | some v => .ok v
  | none => .error (.of (.column index s.values.length))

/-- The first field with a name. -/
def getNamed? (s : StructOf α) (name : String) : Option α := do
  let names ← s.names
  let index ← names.findIdx? (· == name)
  s.values[index]?

/-- The name of the field at a position. -/
def name? (s : StructOf α) (index : Nat) : Option String :=
  s.names.bind (·[index]?)

end StructOf

namespace LocalValue

/-- The first field with a name, of a value that has named fields. -/
def fieldNamed? (v : LocalValue) (name : String) : Option LocalValue :=
  match v with
  | record fields => Fields.get? name fields
  | struct s => s.getNamed? name
  | _ => none

/-! ## Equality -/

mutual

/-- Equality of values of the same variant, given one of floats; decimals are compared as
numbers. -/
def sameUnder (e : FloatEquality) : LocalValue → LocalValue → Bool
  | null, null => true
  | bool a, bool b => a == b
  | byte a, byte b => a == b
  | short a, short b => a == b
  | int a, int b => a == b
  | long a, long b => a == b
  | float a, float b => e.single a b
  | double a, double b => e.double a b
  | decimal a, decimal b => a.sameNumber b
  | char a, char b => a == b
  | string a, string b => a == b
  | bytes a, bytes b => a == b
  | list a, list b => sameItemsUnder e a b
  | record a, record b => sameFieldsUnder e a b
  | struct ⟨names, a⟩, struct ⟨names', b⟩ => names == names' && sameItemsUnder e a b
  | array ⟨component, a, zone⟩, array ⟨component', b, zone'⟩ =>
    component.same component' && sameItemsUnder e a b && zone == zone'
  | _, _ => false

/-- Equality of lists of values. -/
def sameItemsUnder (e : FloatEquality) : List LocalValue → List LocalValue → Bool
  | [], [] => true
  | a :: as, b :: bs => sameUnder e a b && sameItemsUnder e as bs
  | _, _ => false

/-- Equality of lists of named values. -/
def sameFieldsUnder (e : FloatEquality) :
    List (String × LocalValue) → List (String × LocalValue) → Bool
  | [], [] => true
  | (m, a) :: as, (n, b) :: bs => m == n && sameUnder e a b && sameFieldsUnder e as bs
  | _, _ => false

end

/-- Equality of values of the same variant: floats are compared as numbers, so that a NaN equals
nothing, and so are decimals. -/
def same : LocalValue → LocalValue → Bool := sameUnder .ofNumbers

end LocalValue

/-! ## Tags of local values -/

/-- The tag that a local value has by itself. -/
def Tag.ofLocal : LocalValue → Tag
  | .null => .null
  | .bool _ => .boolean
  | .byte _ => .byte
  | .short _ => .short
  | .int _ => .integer
  | .long _ => .long
  | .float _ => .float
  | .double _ => .double
  | .decimal _ => .number
  | .char _ => .character
  | .string _ => .string
  | .bytes _ => .byteString
  | .list _ | .array _ => .array
  | .record _ | .struct _ => .struct

/-- The tag of the first element that is not null; that of objects when there is none. -/
def Tag.ofElements (elements : List LocalValue) : Tag :=
  match elements.find? (!·.isNull) with
  | some v => Tag.ofLocal v
  | none => .object

end TypedRows
