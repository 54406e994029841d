import TypedRows.Wire.Varint

/-!
# Fields of a message

A message is a run of fields. Each has a key, which gives the number of the field and the kind
of its payload; the kind tells where the payload ends, so that fields can be told apart before
anything is known of their meaning. A group is an older kind of payload, a run of fields up to a
closing key; it can only be skipped.

## Main definitions

* `TypedRows.Payload` — what a field holds.
* `TypedRows.RawField` — a numbered payload.
* `TypedRows.RawField.readAll` — the fields that some bytes consist of.
* `TypedRows.RawField.varint`, `TypedRows.RawField.fixed64`, `TypedRows.RawField.block` — the
  bytes of single fields.
-/

set_option autoImplicit false

namespace TypedRows

/-- The kinds of payload. -/
inductive PayloadKind where
  | varint | fixed64 | block | groupStart | groupEnd | fixed32
  deriving DecidableEq, Repr

/-- The number of a kind within a key. -/
def PayloadKind.number : PayloadKind → Nat
  | varint => 0
  | fixed64 => 1
  | block => 2
  | groupStart => 3
  | groupEnd => 4
  | fixed32 => 5

/-- The kind of a number within a key. -/
def PayloadKind.ofNumber? : Nat → Option PayloadKind
  | 0 => some varint
  | 1 => some fixed64
  | 2 => some block
  | 3 => some groupStart
  | 4 => some groupEnd
  | 5 => some fixed32
  | _ => none

/-- What a field holds. Of a group only the height is kept, which is the number of fields that
enclose one another within it. -/
inductive Payload where
  | varint (value : Nat)
  | fixed64 (bytes : List UInt8)
  | block (bytes : List UInt8)
  | group (height : Nat)
  | fixed32 (bytes : List UInt8)
  deriving DecidableEq, Repr

/-- The number of fields that enclose one another, this one included. -/
def Payload.height : Payload → Nat
  | group height => height + 1
  | _ => 1

/-- A field of a message. -/
structure RawField where
  number : Nat
  payload : Payload
  deriving DecidableEq, Repr

namespace RawField

/-! ## Writing -/

/-- The key of a field. -/
def key (number : Nat) (kind : PayloadKind) : List UInt8 :=
  Varint.encode (number * 8 + kind.number)

/-- The bytes of a field that holds an integer. -/
def varint (number value : Nat) : List UInt8 :=
  key number .varint ++ Varint.encode value

/-- The bytes of a field that holds eight bytes. -/
def fixed64 (number : Nat) (bytes : List UInt8) : List UInt8 :=
  key number .fixed64 ++ bytes

/-- The bytes of a field that holds a block of bytes. -/
def block (number : Nat) (bytes : List UInt8) : List UInt8 :=
  key number .block ++ Varint.encode bytes.length ++ bytes

/-! ## Reading -/

/-- The integer at the start of some bytes. -/
def readVarint (bytes : List UInt8) : Except String (Nat × List UInt8) :=
  match Varint.decode? bytes with
  | some r => .ok r
  | none => .error "invalid varint"

/-- The first `length` bytes. -/
def readBytes (length : Nat) (bytes : List UInt8) : Except String (List UInt8 × List UInt8) :=
  if length ≤ bytes.length then .ok (bytes.splitAt length) else .error "field cut short"

/-- The key at the start of some bytes. It takes 32 bits at most, and fields count from one. -/
def readKey (bytes : List UInt8) : Except String (Nat × PayloadKind × List UInt8) := do
  let (key, rest) ← readVarint bytes
  if 2 ^ (32 : Nat) ≤ key then throw "invalid key"
  match PayloadKind.ofNumber? (key % 8) with
  | none => throw "invalid kind of payload"
  | some kind => if key / 8 = 0 then throw "invalid field number" else return (key / 8, kind, rest)

mutual

/-- The payload of a field whose key has been read. -/
def readPayload : (fuel : Nat) → (number : Nat) → PayloadKind → List UInt8 →
    Except String (Payload × List UInt8)
  | 0, _, _, _ => .error "field cut short"
  | fuel + 1, number, kind, bytes =>
    match kind with
    | .varint => do
      let (value, rest) ← readVarint bytes
      return (.varint value, rest)
    | .fixed64 => do
      let (payload, rest) ← readBytes 8 bytes
      return (.fixed64 payload, rest)
    | .block => do
      let (length, rest) ← readVarint bytes
      let (payload, rest) ← readBytes length rest
      return (.block payload, rest)
    | .groupStart => do
      let (height, rest) ← readGroup fuel number bytes
      return (.group height, rest)
    | .groupEnd => .error "unexpected end of a group"
    | .fixed32 => do
      let (payload, rest) ← readBytes 4 bytes
      return (.fixed32 payload, rest)

/-- The greatest height of the fields up to the end of a group. -/
def readGroup : (fuel : Nat) → (number : Nat) → List UInt8 → Except String (Nat × List UInt8)
  | 0, _, _ => .error "group cut short"
  | fuel + 1, number, bytes => do
    let (inner, kind, rest) ← readKey bytes
    if kind = .groupEnd then
      if inner = number then return (0, rest) else throw "unexpected end of a group"
    else
      let (payload, rest) ← readPayload fuel inner kind rest
      let (height, rest) ← readGroup fuel number rest
      return (max payload.height height, rest)

end

/-- The fields that some bytes consist of. -/
def readFields : (fuel : Nat) → List UInt8 → Except String (List RawField)
  | _, [] => .ok []
  | 0, _ => .error "field cut short"
  | fuel + 1, bytes => do
    let (number, kind, rest) ← readKey bytes
    let (payload, rest) ← readPayload (bytes.length + 1) number kind rest
    return ⟨number, payload⟩ :: (← readFields fuel rest)

/-- The fields that some bytes consist of; every field takes at least one byte. -/
def readAll (bytes : List UInt8) : Except String (List RawField) :=
  readFields bytes.length bytes

/-! ## Payloads of a certain kind -/

/-- The integer that a field holds. -/
def integer (f : RawField) : Except String Nat :=
  match f.payload with
  | .varint value => .ok value
  | _ => .error "wrong kind of payload"

/-- The eight bytes that a field holds. -/
def eightBytes (f : RawField) : Except String (List UInt8) :=
  match f.payload with
  | .fixed64 bytes => .ok bytes
  | _ => .error "wrong kind of payload"

/-- The block of bytes that a field holds. -/
def blockBytes (f : RawField) : Except String (List UInt8) :=
  match f.payload with
  | .block bytes => .ok bytes
  | _ => .error "wrong kind of payload"

end RawField

end TypedRows
