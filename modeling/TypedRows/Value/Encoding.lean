import TypedRows.Text.Base64
import TypedRows.Value.Local
import TypedRows.Value.Serial

/-!
# From local values to serial values

The serial form of a local value is decided by a tag. A byte string becomes base64 text, an
array the list of its elements under one element tag, and a record the list of its fields, each
a typed value under the tag it has by itself. Every other tag takes the plain form that the
value has without a tag, and the result has to have the shape that the tag mandates.

## Main definitions

* `TypedRows.LocalValue.toSerial` — the serial form under a tag.
* `TypedRows.LocalValue.toPlainSerial` — the serial form without a tag.
* `TypedRows.Tagged.ofLocal`, `TypedRows.Tagged.ofElements` — typed values of local values.
-/

set_option autoImplicit false

namespace TypedRows

/-- What a tag makes of a value that is not null. -/
inductive Carrier where
  /-- The tag refuses every value. -/
  | nothing
  /-- Bytes only. -/
  | bytes
  /-- Elements under a common tag, or each under its own when there is none. -/
  | elements (component : Option Tag)
  /-- Fields, each under its own tag. -/
  | fields
  /-- The form that the value has without a tag. -/
  | plain

/-- What a tag makes of a value, given the tag of the elements if it is known. -/
def Carrier.of (tag : Tag) (component : Option Tag) : Carrier :=
  match tag with
  | .object | .null => nothing
  | .byteString => bytes
  | .array => elements component
  | .struct => fields
  | _ => plain

/-- The error of a value of a shape that the tag cannot make anything of. -/
def Carrier.refusal (tag : Tag) (shape : String) : Carrier → Error
  | bytes => .mismatch tag .bytes shape
  | elements _ => .mismatch tag .list shape
  | fields => .mismatch tag .record shape
  | nothing | plain => .unsupported tag shape

/-- A serial form that has the shape its tag mandates. -/
def SerialValue.checked (tag : Tag) (form : Except Error SerialValue) :
    Except Error SerialValue := do
  let value ← form
  value.check tag
  return value

/-- The tag of the elements of a value under a tag: that of an array is declared, that of a list
is the tag of its first element that is not null. -/
def LocalValue.elementTag? (tag : Tag) (v : LocalValue) : Option Tag :=
  match tag, v with
  | .array, .array a => some a.component.tag
  | .array, .list items => some (.ofElements items)
  | _, _ => none

namespace LocalValue

/-- The plain form of a value without parts. -/
def scalarSerial : LocalValue → SerialValue
  | bool b => .bool b
  | byte n => .integer (Int64.ofInt n.toInt)
  | short n => .integer (Int64.ofInt n.toInt)
  | int n => .integer (Int64.ofInt n.toInt)
  | long n => .integer n
  | float x => .float (.ofBinary32 x)
  | double x => .float x
  | decimal d => .decimal d
  | char c => .string (String.singleton c)
  | string s => .string s
  | bytes b => .string (Base64.text b)
  | _ => .null

/-- What a tag makes of a value whose elements have the tag they have by themselves. -/
def ownCarrier (tag : Tag) (v : LocalValue) : Carrier := .of tag (v.elementTag? tag)

/-- A value as a typed value within another one, given its form under a tag. -/
def asTyped (tag : Tag) (v : LocalValue) (form : Except Error SerialValue) :
    Except Error SerialValue :=
  if v.isNull then .ok .null
  else do return .typed ⟨tag, ← SerialValue.checked tag form, v.elementTag? tag⟩

mutual

/-- The form that a tag with the given carrier gives to a value; the shape it mandates is not
checked here. -/
def carried (tag : Tag) (carrier : Carrier) : LocalValue → Except Error SerialValue
  | null => .ok .null
  | list items =>
    match carrier with
    | .elements component => return .list (← carriedElements component items)
    | .fields => return .list (← carriedFields items)
    | .plain => return .list (← carriedItems items)
    | other => .error (other.refusal tag "list")
  | record fields =>
    match carrier with
    | .fields => return .list (← carriedNamedFields fields)
    | .plain => return .list (← carriedNamedItems fields)
    | other => .error (other.refusal tag "record")
  | struct ⟨_, values⟩ =>
    match carrier with
    | .fields => return .list (← carriedFields values)
    | .plain => return .list (← carriedItems values)
    | other => .error (other.refusal tag "struct")
  | array ⟨type, elements, _⟩ =>
    match carrier with
    | .elements component => return .list (← carriedElements (component.getD type.tag) elements)
    | .plain => return .list (← carriedElements (some type.tag) elements)
    | other => .error (other.refusal tag "array")
  | bytes b =>
    match carrier with
    | .bytes | .plain => .ok (bytes b).scalarSerial
    | other => .error (other.refusal tag "bytes")
  | scalar =>
    match carrier with
    | .plain => .ok scalar.scalarSerial
    | other => .error (other.refusal tag scalar.shape)

/-- The elements of an array. Elements whose tag is unknown take their plain form, and nested
arrays are typed values, so that they keep their own element tag. -/
def carriedElements (component : Option Tag) : List LocalValue → Except Error (List SerialValue)
  | [] => .ok []
  | item :: items => do
    let tag := component.getD (.ofLocal item)
    let first ←
      if tag.holdsNothing then carried tag .plain item
      else if tag = .array then item.asTyped tag (carried tag (item.ownCarrier tag) item)
      else SerialValue.checked tag (carried tag (.of tag none) item)
    return first :: (← carriedElements component items)

/-- The fields of a record: typed values under their own tags. -/
def carriedFields : List LocalValue → Except Error (List SerialValue)
  | [] => .ok []
  | item :: items => do
    let tag := Tag.ofLocal item
    let first ← item.asTyped tag (carried tag (item.ownCarrier tag) item)
    return first :: (← carriedFields items)

/-- The named fields of a record: typed values under their own tags. -/
def carriedNamedFields : List (String × LocalValue) → Except Error (List SerialValue)
  | [] => .ok []
  | (_, item) :: items => do
    let tag := Tag.ofLocal item
    let first ← item.asTyped tag (carried tag (item.ownCarrier tag) item)
    return first :: (← carriedNamedFields items)

/-- Items in their plain form. -/
def carriedItems : List LocalValue → Except Error (List SerialValue)
  | [] => .ok []
  | item :: items => do
    let first ← carried .object .plain item
    return first :: (← carriedItems items)

/-- Named items in their plain form. -/
def carriedNamedItems : List (String × LocalValue) → Except Error (List SerialValue)
  | [] => .ok []
  | (_, item) :: items => do
    let first ← carried .object .plain item
    return first :: (← carriedNamedItems items)

end

/-- The serial form under a tag. The elements of an array have the tag `component`, or each its
own when it is not given. -/
def toSerial (tag : Tag) (component : Option Tag) (v : LocalValue) : Except Error SerialValue :=
  SerialValue.checked tag (v.carried tag (.of tag component))

/-- The serial form without a tag. -/
def toPlainSerial (v : LocalValue) : Except Error SerialValue :=
  v.carried .object .plain

end LocalValue

namespace Tagged

/-- The typed value of a local value. -/
def ofLocal (tag : Tag) (v : LocalValue) : Except Error TypedValue := do
  let component := v.elementTag? tag
  let value ← v.toSerial tag component
  return ⟨tag, value, component⟩

/-- The typed array of elements with a given tag. -/
def ofElements (component : Tag) (elements : List LocalValue) : Except Error TypedValue := do
  let value ← (LocalValue.list elements).toSerial .array (some component)
  return ⟨.array, value, some component⟩

end Tagged

end TypedRows
