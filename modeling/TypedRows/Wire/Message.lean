import TypedRows.Error
import TypedRows.Number.Binary
import TypedRows.Wire.Field

/-!
# Messages

A message holds one value. Which of the payload fields counts is decided by the tag of the
value; fields that are left out read as zero, as empty or as absent.

## Main definitions

* `TypedRows.WireMessage` — messages.
* `TypedRows.WireMessage.encode`, `TypedRows.WireMessage.decode` — messages as bytes.
-/

set_option autoImplicit false

namespace TypedRows

/-- A message. Text also carries base64 for byte strings, and the number the scale of a decimal
in the older layout; tags are kept as numbers, which need not name a tag. A message is
implicitly null when there was no value, as opposed to a value that is null. -/
structure WireMessage where
  type : Int32
  boolValue : Bool
  stringValue : Option String
  numberValue : Option Int64
  bytesValue : Option (List UInt8)
  doubleValue : Binary64
  isNull : Bool
  elements : List WireMessage
  componentType : Int32
  implicitlyNull : Bool

namespace WireMessage

/-- The message in which every field is left out. -/
def empty : WireMessage := ⟨0, false, none, none, none, ⟨0⟩, false, [], 0, false⟩

instance : Inhabited WireMessage := ⟨empty⟩

/-- The message of a value that is absent. -/
def absent : WireMessage := { empty with implicitlyNull := true }

/-! ## Writing -/

/-- The bytes of a 64-bit word, the lowest first. -/
def wordBytes (word : UInt64) : List UInt8 :=
  (List.range 8).map fun i => UInt8.ofNat (word.toNat / 256 ^ i % 256)

/-- A field that is left out when it is zero. -/
def int32Field (number : Nat) (value : Int32) : List UInt8 :=
  if value = 0 then [] else RawField.varint number (Varint.ofInt32 value)

/-- A field that is left out when it is false. -/
def boolField (number : Nat) (value : Bool) : List UInt8 :=
  if value then RawField.varint number 1 else []

/-- A field that is left out when it is absent. -/
def optionalField {α : Type} (field : α → List UInt8) : Option α → List UInt8
  | none => []
  | some value => field value

/-- A field that is left out when it is zero, whatever the sign of the zero. -/
def doubleField (number : Nat) (value : Binary64) : List UInt8 :=
  if value.value.isZero then [] else RawField.fixed64 number (wordBytes value.bits)

mutual

/-- The bytes of a message: its fields in the order of their numbers. -/
def encode : WireMessage → List UInt8
  | ⟨type, boolValue, stringValue, numberValue, bytesValue, doubleValue, isNull, elements,
      componentType, implicitlyNull⟩ =>
    int32Field 1 type
      ++ boolField 2 boolValue
      ++ optionalField (fun s : String => RawField.block 3 s.toUTF8.data.toList) stringValue
      ++ optionalField (fun n => RawField.varint 4 (Varint.zigzag n)) numberValue
      ++ optionalField (RawField.block 5) bytesValue
      ++ doubleField 6 doubleValue
      ++ boolField 7 isNull
      ++ encodeElements elements
      ++ int32Field 9 componentType
      ++ boolField 10 implicitlyNull

/-- The fields of the elements of a message. -/
def encodeElements : List WireMessage → List UInt8
  | [] => []
  | element :: elements => RawField.block 8 element.encode ++ encodeElements elements

end

/-! ## Reading -/

/-- The 64-bit word of some bytes, the lowest first. -/
def wordOfBytes (bytes : List UInt8) : UInt64 :=
  UInt64.ofNat (bytes.foldr (fun b n => b.toNat + 256 * n) 0)

/-- The text that some bytes encode. -/
def textOfBytes (bytes : List UInt8) : Except String String :=
  match String.fromUTF8? ⟨bytes.toArray⟩ with
  | some text => .ok text
  | none => .error "text is not UTF-8"

/-- The message with one more field. The last field of a number wins, elements add up, and
unknown fields are dropped if they are no higher than `depth`. -/
def absorb (element : List UInt8 → Except String WireMessage) (depth : Nat)
    (m : WireMessage) (f : RawField) : Except String WireMessage :=
  match f.number with
  | 1 => do return { m with type := Varint.toInt32 (← f.integer) }
  | 2 => do return { m with boolValue := (← f.integer) != 0 }
  | 3 => do return { m with stringValue := some (← textOfBytes (← f.blockBytes)) }
  | 4 => do return { m with numberValue := some (Varint.unzigzag (← f.integer)) }
  | 5 => do return { m with bytesValue := some (← f.blockBytes) }
  | 6 => do return { m with doubleValue := ⟨wordOfBytes (← f.eightBytes)⟩ }
  | 7 => do return { m with isNull := (← f.integer) != 0 }
  | 8 => do return { m with elements := m.elements ++ [← element (← f.blockBytes)] }
  | 9 => do return { m with componentType := Varint.toInt32 (← f.integer) }
  | 10 => do return { m with implicitlyNull := (← f.integer) != 0 }
  | _ => if f.payload.height ≤ depth then .ok m else .error "nested too deeply"

/-- The message of some bytes, in which fields enclose one another at most `depth` deep. -/
def decodeWithin : (depth : Nat) → List UInt8 → Except String WireMessage
  | 0, bytes => do
    (← RawField.readAll bytes).foldlM (absorb (fun _ => .error "nested too deeply") 0) empty
  | depth + 1, bytes => do
    (← RawField.readAll bytes).foldlM (absorb (decodeWithin depth) (depth + 1)) empty

/-- How deep fields may enclose one another. -/
def depthLimit : Nat := 100

/-- The message of some bytes. -/
def decode (bytes : List UInt8) : Except Error WireMessage :=
  match decodeWithin depthLimit bytes with
  | .ok m => .ok m
  | .error reason => .error (.of (.wireBytes reason))

end WireMessage

end TypedRows
