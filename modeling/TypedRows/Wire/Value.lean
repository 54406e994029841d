import TypedRows.Number.SignedBytes
import TypedRows.Value.ClientForm
import TypedRows.Wire.Message
import TypedRows.Wire.Tag

/-!
# Typed values as messages

A typed value is written as one message. The elements of an array and the fields of a record are
messages of their own; an element that carries no tag is written under the tag of the elements,
and a field that carries none under the tag its form suggests.

## Main definitions

* `TypedRows.Tagged.toWire`, `TypedRows.Tagged.toWireLegacy` — the message of a typed value, and
  the one in which decimals have the older layout.
* `TypedRows.Tagged.ofWire`, `TypedRows.Tagged.ofWireParameter` — the typed value of a message.
* `TypedRows.LocalValue.toWire`, `TypedRows.WireMessage.toClient`
-/

set_option autoImplicit false

namespace TypedRows

/-! ## Writing -/

namespace WireMessage

/-- The message of a tag that has no payload yet. -/
def tagged (tag : Tag) : WireMessage := { empty with type := (WireTag.plain tag).number }

/-- The message of a null. -/
def nullOf (tag : Tag) : WireMessage := { tagged tag with isNull := true }

end WireMessage

/-- The tag that the form of a serial value suggests. -/
def Tag.ofSerial : SerialValue → Tag
  | .null => .null
  | .bool _ => .boolean
  | .integer _ => .long
  | .float _ => .double
  | .decimal _ => .number
  | .string _ => .string
  | .list _ => .array
  | .typed tv => tv.tag

/-- The tag that the first item that is not null suggests for all; that of objects when there
is none. -/
def Tag.ofItems (items : List SerialValue) : Tag :=
  match items.find? (!·.isNull) with
  | some item => Tag.ofSerial item
  | none => .object

namespace SerialValue

/-- The message of a value without parts under a tag. -/
def scalarWire (tag : Tag) (v : SerialValue) : Except Error WireMessage :=
  let out := WireMessage.tagged tag
  let refuse {α : Type} (expected : Expectation) : Except Error α :=
    .error (.mismatch tag expected v.shape)
  match tag.boxed with
  | .array | .struct => refuse .list
  | .number =>
    match v with
    | integer n => .ok { out with numberValue := some n }
    | other => do
      let d ← other.toDecimal tag
      return { out with type := WireTag.bigDecimal.number, stringValue := some d.text }
  | .boolean =>
    match v with
    | bool b => .ok { out with boolValue := b }
    | _ => refuse .bool
  | .character | .string =>
    match v with
    | string s => .ok { out with stringValue := some s }
    | _ => refuse .string
  | .byteString =>
    match v with
    | string s =>
      match Base64.read? s with
      | some b => .ok { out with bytesValue := some b, stringValue := some s }
      | none => refuse .base64
    | _ => refuse .base64
  | .float =>
    match v.float? with
    | some x =>
      let bits := Int32.ofNat (Binary32.ofBinary64 x).bits.toNat
      .ok { out with numberValue := some (Int64.ofInt bits.toInt) }
    | none => refuse .number
  | .double =>
    match v.float? with
    | some x => .ok { out with doubleValue := x }
    | none => refuse .number
  | other =>
    if other.isIntegral then
      match v.integer? with
      | some n => .ok { out with numberValue := some n }
      | none => refuse .integer
    else .error (.unsupported tag v.shape)

mutual

/-- The message of a value under a tag. The tag of the elements of an array, when it is not
given, is the one that its first element suggests. -/
def toWire (tag : Tag) (component : Option Tag) : SerialValue → Except Error WireMessage
  | null => .ok (.nullOf tag)
  | typed ⟨tag, value, component⟩ => value.toWire tag component
  | list items =>
    match tag.boxed with
    | .array => do
      let component := component.getD (.ofItems items)
      return { WireMessage.tagged tag with
        componentType := (WireTag.plain component).number
        elements := ← toWireElements component items }
    | .struct => do return { WireMessage.tagged tag with elements := ← toWireFields items }
    | _ => scalarWire tag (list items)
  | scalar => scalarWire tag scalar

/-- The messages of the elements of an array. A list among them is an array of its own. -/
def toWireElements (component : Tag) : List SerialValue → Except Error (List WireMessage)
  | [] => .ok []
  | item :: items => do
    let first ←
      match item with
      | null => .ok (.nullOf .null)
      | list _ => item.toWire .array none
      | _ => item.toWire component none
    return first :: (← toWireElements component items)

/-- The messages of the fields of a record. -/
def toWireFields : List SerialValue → Except Error (List WireMessage)
  | [] => .ok []
  | item :: items => do
    let first ← item.toWire (.ofSerial item) none
    return first :: (← toWireFields items)

end

end SerialValue

namespace Tagged

/-- The message of a typed value. -/
def toWire (tv : TypedValue) : Except Error WireMessage :=
  tv.value.toWire tv.tag tv.component

/-- The message of a typed value, in which a decimal is written as the signed bytes of its
digits and its scale. -/
def toWireLegacy (tv : TypedValue) : Except Error WireMessage :=
  match tv.tag.boxed, tv.value with
  | .number, .decimal _ | .number, .float _ | .number, .string _ => do
    let d ← tv.value.toDecimal tv.tag
    return { WireMessage.tagged .number with
      bytesValue := some (SignedBytes.ofInt d.unscaled)
      numberValue := some d.scale }
  | _, _ => tv.toWire

end Tagged

/-! ## Reading -/

/-- The decimal that a text denotes; an empty text denotes zero. -/
def WireTag.readDecimal (tag : WireTag) (text : String) : Except Error SerialValue :=
  if text.isEmpty then .ok (.decimal (.ofInt 0))
  else
    match Decimal.read? text with
    | some d => .ok (.decimal d)
    | none => .error (.of (.malformedWire tag.name .stringValue))

namespace WireMessage

/-- The decimal of the older layout: signed bytes and a scale. -/
def legacyDecimal (m : WireMessage) (scale : Int64) : SerialValue :=
  .decimal ⟨SignedBytes.toInt (m.bytesValue.getD []), scale⟩

/-- The integer of a message, cut to the width of its tag. -/
def narrowed (m : WireMessage) (tag : Tag) : Int64 :=
  let n := m.numberValue.getD 0
  match tag.boxed with
  | .byte => Int64.ofInt (Int8.ofInt n.toInt).toInt
  | .short => Int64.ofInt (Int16.ofInt n.toInt).toInt
  | .integer | .sqlDate | .sqlTime | .instantTime => Int64.ofInt (Int32.ofInt n.toInt).toInt
  | _ => n

/-- The value of a message without parts that is not null. -/
def scalarValue (m : WireMessage) (wireTag : WireTag) (tag : Tag) : Except Error SerialValue :=
  match wireTag with
  | .bigDecimal =>
    match m.numberValue with
    | some scale => .ok (m.legacyDecimal scale)
    | none => wireTag.readDecimal (m.stringValue.getD "")
  | .bigInteger => .ok (m.legacyDecimal 0)
  | .multiset => .error (.unsupported tag "non-null wire value")
  | .plain tag =>
    match tag.boxed with
    | .byteString =>
      match m.stringValue, m.bytesValue with
      | some text, none => .ok (.string text)
      | _, bytes => .ok (.string (Base64.text (bytes.getD [])))
    | .number =>
      match m.numberValue, m.bytesValue with
      | some scale, some _ => .ok (m.legacyDecimal scale)
      | some n, none => .ok (.integer n)
      | none, _ =>
        match m.stringValue with
        | some text => wireTag.readDecimal text
        | none => .ok (.integer 0)
    | .float =>
      let bits := UInt32.ofInt (m.numberValue.getD 0).toInt
      .ok (.float (.ofBinary32 ⟨bits⟩))
    | .double => .ok (.float m.doubleValue)
    | .boolean => .ok (.bool m.boolValue)
    | .character | .string => .ok (.string (m.stringValue.getD ""))
    | .array | .struct | .null | .object => .error (.unsupported tag "non-null wire value")
    | _ => .ok (.integer (m.narrowed tag))

/-- An element of an array: a value of the common tag, which needs no tag of its own, or a typed
value. Arrays within keep their tag, and with it that of their elements. -/
def elementOf (component : Tag) (tv : TypedValue) : SerialValue :=
  if tv.isNull then .null
  else if tv.tag = component ∧ component ≠ .array then tv.value
  else .typed tv

/-- A field of a record, which keeps its tag. -/
def fieldOf (tv : TypedValue) : SerialValue :=
  if tv.isNull then .null else .typed tv

/-- The tag of the elements of an array, which other messages do not have. -/
def componentTag (m : WireMessage) (tag : Tag) : Except Error (Option Tag) :=
  if tag = .array then do
    return some (← (← WireTag.read .componentType m.componentType).toTag)
  else .ok none

mutual

/-- The typed value of a message that is not implicitly null. -/
def toTyped : WireMessage → Except Error TypedValue
  | ⟨type, boolValue, stringValue, numberValue, bytesValue, doubleValue, isNull, elements,
      componentType, implicitlyNull⟩ => do
    let m : WireMessage := ⟨type, boolValue, stringValue, numberValue, bytesValue, doubleValue,
      isNull, [], componentType, implicitlyNull⟩
    let wireTag ← WireTag.read .type type
    let tag ← wireTag.toTag
    let component ← m.componentTag tag
    if isNull then return ⟨tag, .null, component⟩
    let value ←
      match tag with
      | .array => do
        let items ← toTypedItems elements
        .ok (.list (items.map (elementOf (component.getD .object))))
      | .struct => do
        let items ← toTypedItems elements
        .ok (.list (items.map fieldOf))
      | _ => m.scalarValue wireTag tag
    return ⟨tag, value, component⟩

/-- The typed values of the elements of a message. -/
def toTypedItems : List WireMessage → Except Error (List TypedValue)
  | [] => .ok []
  | m :: rest => do
    let first ← m.toTyped
    return first :: (← toTypedItems rest)

end

end WireMessage

namespace Tagged

/-- The typed value of a message, or none for an absent value. -/
def ofWireParameter (m : WireMessage) : Except Error (Option TypedValue) :=
  if m.implicitlyNull then .ok none else some <$> m.toTyped

/-- The typed value of a message. An absent value is the explicit null. -/
def ofWire (m : WireMessage) : Except Error TypedValue :=
  if m.implicitlyNull then .ok explicitNull else m.toTyped

end Tagged

/-! ## Other forms -/

/-- The message of a local value under the tag that it has by itself. -/
def LocalValue.toWire (v : LocalValue) : Except Error WireMessage :=
  if v.isNull then .ok (.nullOf .null)
  else do (← Tagged.ofLocal (.ofLocal v) v).toWire

/-- The client value of a message, read in a zone. -/
def WireMessage.toClient [Calendar.Platform] (m : WireMessage) (zone : Option Calendar.Zone) :
    Except Error ClientValue := do
  (← Tagged.ofWire m).toClient zone

end TypedRows
