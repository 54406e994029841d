import TypedRows.Json.Reader
import TypedRows.Value.Decoding
import TypedRows.Value.Encoding

/-!
# Serial and typed values as JSON

A typed value is an object with the members `type`, `value` and, for arrays, `componentType`;
within a value every object is a typed value of its own. A typed value is read by way of its
local form, so that the tags inside of it are those that the local form gives rise to.

## Main definitions

* `TypedRows.SerialValue.toJson`, `TypedRows.Tagged.toJson`
* `TypedRows.JsonValue.ofText` — the JSON value of a text.
* `TypedRows.SerialValue.ofJson`, `TypedRows.Tagged.ofJson`
-/

set_option autoImplicit false

namespace TypedRows

/-! ## Writing -/

/-- The JSON form of a decimal: an integer if it is one of 64 bits, a float if the float is
written as the same decimal, and text otherwise. -/
def Decimal.toJson (d : Decimal) : JsonValue :=
  match if d.isWhole then d.toInt64? else none with
  | some n => .number (.integer n.toInt)
  | none =>
    match Decimal.ofBinary64? d.toBinary64 with
    | some shown =>
      if shown.sameNumber d then .number (.float d.toBinary64) else .string d.text
    | none => .string d.text

/-- The JSON form of a float; there is none for NaN and the infinities but null. -/
def Binary64.toJson (x : Binary64) : JsonValue :=
  if x.value.isFinite then .number (.float x) else .null

/-- The JSON object of a tag, a value and the tag of its elements. -/
def JsonValue.ofParts (tag : Tag) (value : JsonValue) (component : Option Tag) : JsonValue :=
  .object ((component.toList.map fun c => ("componentType", .string c.name))
    ++ [("type", .string tag.name), ("value", value)])

mutual

/-- The JSON form of a serial value. -/
def SerialValue.toJson : SerialValue → JsonValue
  | .null => .null
  | .bool b => .bool b
  | .integer n => .number (.integer n.toInt)
  | .float x => x.toJson
  | .decimal d => d.toJson
  | .string s => .string s
  | .list items => .array (SerialValue.toJsonItems items)
  | .typed ⟨tag, value, component⟩ => .ofParts tag value.toJson component

/-- The JSON forms of serial values. -/
def SerialValue.toJsonItems : List SerialValue → List JsonValue
  | [] => []
  | item :: items => item.toJson :: SerialValue.toJsonItems items

end

/-- The JSON form of a typed value. -/
def Tagged.toJson (tv : TypedValue) : JsonValue :=
  .ofParts tv.tag tv.value.toJson tv.component

/-! ## Reading the parts of a typed value -/

/-- The settled JSON value that a text denotes. -/
def JsonValue.ofText (text : String) : Except Error JsonValue :=
  match read text with
  | .ok json => .ok json.settled
  | .error reason => .error (.of (.json reason))

/-- The tag that a JSON value names. -/
def Tag.ofJson : JsonValue → Except Error Tag
  | .string name =>
    match Tag.read name with
    | .ok tag => .ok tag
    | .error e => .error (.of (.json e.message))
  | other => .error (.of (.json ("a tag is text, not " ++ other.shape)))

/-- The tag that a JSON value names, if it is not null. -/
def Tag.ofJsonOrNull : JsonValue → Except Error (Option Tag)
  | .null => .ok none
  | other => some <$> Tag.ofJson other

/-- The tag and the tag of the elements that the members of an object name, in the order of the
members. -/
def Tagged.tagsOfMembers (members : List (String × JsonValue)) :
    Except Error (Tag × Option Tag) := do
  let (tag, component) ← members.foldlM
    (fun (tag, component) (key, value) =>
      if key = "type" then return (some (← Tag.ofJson value), component)
      else if key = "componentType" then return (tag, ← Tag.ofJsonOrNull value)
      else return (tag, component))
    ((none : Option Tag), (none : Option Tag))
  match tag with
  | some tag => return (tag, component)
  | none => .error (.of (.json "a typed value has a type"))

/-! ## Reading -/

/-- The typed value of a serial value that is read as a local value under a tag. Null is the
explicit null whatever the tag. -/
def Tagged.throughLocal (tag : Tag) (component : Option Tag) (value : SerialValue) :
    Except Error TypedValue :=
  if value.isNull then .ok explicitNull
  else do
    let v ← value.toLocal tag component
    match tag, component, v with
    | .array, some component, .list elements => ofElements component elements
    | tag, _, v => ofLocal tag v

/-- The serial form of a number. Integers beyond the signed ones are decimals. -/
def SerialValue.ofNumeral : Numeral → SerialValue
  | .integer n => if n < 2 ^ (63 : Nat) then .integer (Int64.ofInt n) else .decimal (.ofInt n)
  | .float x => .float x

mutual

/-- The serial value of a settled JSON value. -/
def SerialValue.ofJson : JsonValue → Except Error SerialValue
  | .null => .ok .null
  | .bool b => .ok (.bool b)
  | .number n => .ok (.ofNumeral n)
  | .string s => .ok (.string s)
  | .array items => return .list (← SerialValue.ofJsonItems items)
  | .object members => do
    let (tag, component) ← Tagged.tagsOfMembers members
    let value ← (Fields.get? "value" (SerialValue.ofJsonMembers members)).getD (.ok .null)
    return .typed (← Tagged.throughLocal tag component value)

/-- The serial values of JSON values. -/
def SerialValue.ofJsonItems : List JsonValue → Except Error (List SerialValue)
  | [] => .ok []
  | item :: items => do
    let first ← SerialValue.ofJson item
    return first :: (← SerialValue.ofJsonItems items)

/-- The outcome of reading each member of an object as a serial value. -/
def SerialValue.ofJsonMembers :
    List (String × JsonValue) → List (String × Except Error SerialValue)
  | [] => []
  | (key, value) :: members =>
    (key, SerialValue.ofJson value) :: SerialValue.ofJsonMembers members

end

namespace Tagged

/-- The parts of a typed value: an object by its members, a list by position. -/
def partsOfJson : JsonValue → Except Error (Tagged JsonValue)
  | .object members => do
    let (tag, component) ← tagsOfMembers members
    return ⟨tag, (Fields.get? "value" members).getD .null, component⟩
  | .array (type :: rest) => do
    let tag ← Tag.ofJson type
    match rest with
    | [] => return ⟨tag, .null, none⟩
    | [value] => return ⟨tag, value, none⟩
    | [value, component] => return ⟨tag, value, ← Tag.ofJsonOrNull component⟩
    | _ :: component :: _ =>
      let _ ← Tag.ofJsonOrNull component
      .error (.of (.json "a typed value has three parts"))
  | .array [] => .error (.of (.json "a typed value has a type"))
  | other => .error (.of (.json ("a typed value is an object, not " ++ other.shape)))

/-- The typed value of its parts. -/
def ofParts (parts : Tagged JsonValue) : Except Error TypedValue := do
  throughLocal parts.tag parts.component (← SerialValue.ofJson parts.value)

/-- The typed value of a settled JSON value. -/
def ofJson (json : JsonValue) : Except Error TypedValue :=
  partsOfJson json >>= ofParts

/-- The typed value of a settled JSON value as part of a larger text: whatever is wrong with it
is wrong with the text. -/
def ofJsonText (json : JsonValue) : Except Error TypedValue := do
  let parts ← partsOfJson json
  match ofParts parts with
  | .ok tv => return tv
  | .error e => .error (.of (.json e.message))

end Tagged

end TypedRows
