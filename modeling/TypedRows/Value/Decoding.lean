import TypedRows.Text.Base64
import TypedRows.Value.Local
import TypedRows.Value.Serial

/-!
# From serial values to local values

The tag of a serial value names the local variant that it is read as. Numbers are cast to the
width of the variant, byte strings are read from base64, and a list is read as the elements of
an array or as the fields of a record. A typed value within is read under its own tag.

## Main definitions

* `TypedRows.SerialValue.toLocal` — the local form under a tag.
* `TypedRows.SerialValue.toPlainLocal` — the local form without a tag.
* `TypedRows.Tagged.toLocal`, `TypedRows.Tagged.values` — the local forms of typed values.
-/

set_option autoImplicit false

namespace TypedRows

namespace SerialValue

/-- A number as an integer, or the error of a tag that expected one. -/
def integral (tag : Tag) (v : SerialValue) : Except Error Int :=
  match v.integer? with
  | some n => .ok n.toInt
  | none => .error (.mismatch tag .number v.shape)

/-- A number as a float, or the error of a tag that expected one. -/
def floating (tag : Tag) (v : SerialValue) : Except Error Binary64 :=
  match v.float? with
  | some x => .ok x
  | none => .error (.mismatch tag .number v.shape)

/-- The character that a text consists of. -/
def singleCharacter? (text : String) : Option Char :=
  match text.toList with
  | [c] => some c
  | _ => none

/-- The local form of a value without parts, under a tag. -/
def scalarLocal (tag : Tag) (v : SerialValue) : Except Error LocalValue :=
  match tag.boxed with
  | .boolean =>
    match v with
    | bool b => .ok (.bool b)
    | other => .error (.mismatch tag .bool other.shape)
  | .byte => return .byte (Int8.ofInt (← v.integral tag))
  | .short => return .short (Int16.ofInt (← v.integral tag))
  | .integer | .sqlDate | .sqlTime | .instantTime => return .int (Int32.ofInt (← v.integral tag))
  | .long | .sqlTimestamp | .utilDate | .instantTimestamp =>
    return .long (Int64.ofInt (← v.integral tag))
  | .float => return .float (.ofBinary64 (← v.floating tag))
  | .double => return .double (← v.floating tag)
  | .number => return .decimal (← v.toDecimal tag)
  | .character =>
    match v with
    | string s =>
      match singleCharacter? s with
      | some c => .ok (.char c)
      | none => .error (.mismatch tag .singleCharacter v.shape)
    | other => .error (.mismatch tag .singleCharacter other.shape)
  | .string =>
    match v with
    | string s => .ok (.string s)
    | other => .error (.mismatch tag .string other.shape)
  | .byteString =>
    match v with
    | string s =>
      match Base64.read? s with
      | some b => .ok (.bytes b)
      | none => .error (.mismatch tag .base64 v.shape)
    | other => .error (.mismatch tag .base64 other.shape)
  | .array | .struct => .error (.mismatch tag .list v.shape)
  | _ => .error (.unsupported tag v.shape)

mutual

/-- The local form under a tag. The elements of an array are read under the tag `component`, or
without a tag when it is not known. -/
def toLocal (tag : Tag) (component : Option Tag) : SerialValue → Except Error LocalValue
  | null => .ok .null
  | typed ⟨tag, value, component⟩ => value.toLocal tag component
  | list items =>
    match tag.boxed with
    | .array => return .list (← toLocalElements component items)
    | .struct => return .struct (.ofValues (← toPlainItems items))
    | _ => scalarLocal tag (list items)
  | scalar => scalarLocal tag scalar

/-- The local forms of the elements of an array. -/
def toLocalElements (component : Option Tag) :
    List SerialValue → Except Error (List LocalValue)
  | [] => .ok []
  | item :: items => do
    let first ←
      match component with
      | some tag => if tag.holdsNothing then item.toPlainLocal else item.toLocal tag none
      | none => item.toPlainLocal
    return first :: (← toLocalElements component items)

/-- The local form without a tag: integers are long and floats are double. -/
def toPlainLocal : SerialValue → Except Error LocalValue
  | null => .ok .null
  | bool b => .ok (.bool b)
  | integer n => .ok (.long n)
  | float x => .ok (.double x)
  | decimal d => .ok (.decimal d)
  | string s => .ok (.string s)
  | list items => return .list (← toPlainItems items)
  | typed ⟨tag, value, component⟩ => value.toLocal tag component

/-- The local forms of items without a tag. -/
def toPlainItems : List SerialValue → Except Error (List LocalValue)
  | [] => .ok []
  | item :: items => do
    let first ← item.toPlainLocal
    return first :: (← toPlainItems items)

end

end SerialValue

namespace Tagged

/-- The local form of a typed value. -/
def toLocal (tv : TypedValue) : Except Error LocalValue :=
  tv.value.toLocal tv.tag tv.component

/-- The local forms of a list of parameters. -/
def values (parameters : List TypedValue) : Except Error (List LocalValue) :=
  parameters.mapM toLocal

end Tagged

end TypedRows
