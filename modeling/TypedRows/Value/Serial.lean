import TypedRows.Error
import TypedRows.Number.Shortest

/-!
# Serial values

A serial value is the form in which a value travels as JSON, and a typed value is a serial value
with its tag. The tag mandates the shape of the serial value: integers for integers, dates and
times, text for byte strings, lists for arrays and records.

## Main definitions

* `TypedRows.SerialValue`, `TypedRows.TypedValue` — serial values, and serial values with a tag.
* `TypedRows.SerialValue.hasShape` — the serial values that a tag admits, null aside.
* `TypedRows.SerialValue.check` — the same as a check with an error.
* `TypedRows.SerialValue.integer?`, `TypedRows.SerialValue.float?`,
  `TypedRows.SerialValue.decimal` — the numbers that a serial value can be taken for.
-/

set_option autoImplicit false

namespace TypedRows

/-- A value with its tag. The tag of the elements is known only for arrays. -/
structure Tagged (α : Type) where
  tag : Tag
  value : α
  component : Option Tag

/-- A serial value. The elements of an array and the fields of a record may be typed values of
their own. -/
inductive SerialValue where
  | null
  | bool (value : Bool)
  | integer (value : Int64)
  | float (value : Binary64)
  | decimal (value : Decimal)
  | string (value : String)
  | list (items : List SerialValue)
  | typed (value : Tagged SerialValue)
  deriving Inhabited

/-- A serial value with its tag. -/
abbrev TypedValue := Tagged SerialValue

namespace SerialValue

/-- Whether a value is null. -/
def isNull : SerialValue → Bool
  | null => true
  | _ => false

/-- Only null is null. -/
theorem isNull_iff {v : SerialValue} : v.isNull = true ↔ v = null := by
  cases v <;> simp [isNull]

/-- Short description of a value, for messages. -/
def shape : SerialValue → String
  | null => "null"
  | bool _ => "bool"
  | integer _ => "integer"
  | float _ => "float"
  | decimal _ => "decimal"
  | string _ => "string"
  | list _ => "list"
  | typed _ => "typed value"

/-! ## Equality -/

mutual

/-- Equality of values of the same variant, given one of floats; decimals are compared as numbers,
and typed values by tag and value. -/
def sameUnder (e : FloatEquality) : SerialValue → SerialValue → Bool
  | null, null => true
  | bool a, bool b => a == b
  | integer a, integer b => a == b
  | float a, float b => e.double a b
  | decimal a, decimal b => a.sameNumber b
  | string a, string b => a == b
  | list a, list b => sameItemsUnder e a b
  | typed ⟨s, a, _⟩, typed ⟨t, b, _⟩ => s == t && sameUnder e a b
  | _, _ => false

/-- Equality of lists of values. -/
def sameItemsUnder (e : FloatEquality) : List SerialValue → List SerialValue → Bool
  | [], [] => true
  | a :: as, b :: bs => sameUnder e a b && sameItemsUnder e as bs
  | _, _ => false

end

/-- Equality of values of the same variant: floats and decimals are compared as numbers, and
typed values by tag and value. -/
def same : SerialValue → SerialValue → Bool := sameUnder .ofNumbers

/-! ## Shapes -/

/-- What a boxed tag expects of a serial value. -/
def expectation (tag : Tag) : Expectation :=
  if tag.isIntegral then .integer
  else
    match tag with
    | .boolean => .bool
    | .float | .double | .number => .number
    | .character => .singleCharacter
    | .string => .string
    | .byteString => .base64
    | _ => .list

/-- Whether a value that is not null has the shape that a boxed tag mandates. -/
def hasShape (tag : Tag) (v : SerialValue) : Bool :=
  match expectation tag, v with
  | .integer, integer _ => true
  | .bool, bool _ => true
  | .number, integer _ => true
  | .number, float _ => true
  | .number, decimal _ => tag == .number
  | .singleCharacter, string s => s.length == 1
  | .string, string _ => true
  | .base64, string _ => true
  | .list, list _ => true
  | _, _ => false

/-- Refuses a value that has not the shape its tag mandates. Null fits every tag, and nothing
else fits the tags of objects and nulls. -/
def check (tag : Tag) (v : SerialValue) : Except Error Unit :=
  if v.isNull then .ok ()
  else if tag.holdsNothing then .error (.unsupported tag v.shape)
  else if v.hasShape tag.boxed then .ok ()
  else .error (.mismatch tag.boxed (expectation tag.boxed) v.shape)

/-! ## Numbers -/

/-- A number as a 64-bit integer: floats are cut off towards zero and clamped, decimals cut off
and refused when they do not fit. -/
def integer? : SerialValue → Option Int64
  | integer n => some n
  | float x => some x.value.toInt64
  | decimal d => d.toInt64?
  | _ => none

/-- A number as a float. -/
def float? : SerialValue → Option Binary64
  | integer n => some (.ofInt n.toInt)
  | float x => some x
  | decimal d => some d.toBinary64
  | _ => none

/-- A number as a decimal. A float is taken for the decimal it is written as, and text for the
decimal it denotes, since large decimals travel as text. -/
def toDecimal (tag : Tag) : SerialValue → Except Error Decimal
  | integer n => .ok (.ofInt n.toInt)
  | float x =>
    match Decimal.ofBinary64? x with
    | some d => .ok d
    | none => .error (.mismatch tag .finiteNumber x.text)
  | decimal d => .ok d
  | string s =>
    match Decimal.read? s with
    | some d => .ok d
    | none => .error (.mismatch tag .decimal ("string '" ++ s ++ "'"))
  | other => .error (.mismatch tag .number other.shape)

end SerialValue

namespace Tagged

/-- The null that stands for itself, with the tag of objects. -/
def explicitNull : TypedValue := ⟨.object, .null, none⟩

/-- Whether a typed value is null. -/
def isNull (tv : TypedValue) : Bool := tv.value.isNull

/-- Equality of typed values: the tag of the elements does not count. -/
def same (a b : TypedValue) : Bool := a.tag == b.tag && a.value.same b.value

/-- A serial value with a tag whose shape it has. -/
def ofSerial (tag : Tag) (value : SerialValue) : Except Error TypedValue := do
  value.check tag
  return ⟨tag, value, none⟩

/-- An array with another tag for its elements; other values stay as they are. -/
def withComponent {α : Type} (t : Tagged α) (component : Tag) : Tagged α :=
  if t.tag = .array then { t with component := some component } else t

end Tagged

end TypedRows
