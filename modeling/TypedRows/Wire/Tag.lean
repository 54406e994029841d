import TypedRows.Error

/-!
# Tags on the wire

A message names the tag of its value by a number. The wire has three tags besides those of
values: two older forms of numbers, and multisets, which no value can have.

## Main definitions

* `TypedRows.WireTag` — the tags of messages.
* `TypedRows.WireTag.number`, `TypedRows.WireTag.ofNumber?` — their numbers.
* `TypedRows.WireTag.toTag` — the tag of the value that a message holds.
-/

set_option autoImplicit false

namespace TypedRows

/-- A tag on the wire. -/
inductive WireTag where
  | plain (tag : Tag)
  | bigInteger
  | bigDecimal
  | multiset
  deriving DecidableEq, Repr

namespace WireTag

/-- The tags in the order of their numbers, which start at zero. -/
def all : List WireTag :=
  [plain .primitiveBoolean, plain .primitiveByte, plain .primitiveChar, plain .primitiveShort,
    plain .primitiveInt, plain .primitiveLong, plain .primitiveFloat, plain .primitiveDouble,
    plain .boolean, plain .byte, plain .character, plain .short, plain .integer, plain .long,
    plain .float, plain .double, plain .sqlTime, plain .sqlTimestamp, plain .sqlDate,
    plain .utilDate, plain .byteString, plain .string, plain .number, plain .object,
    plain .null, bigInteger, bigDecimal, plain .array, plain .struct, multiset,
    plain .instantTime, plain .instantTimestamp]

/-- The number of a tag. -/
def number (t : WireTag) : Int32 := Int32.ofNat (all.idxOf t)

/-- The tag of a number. -/
def ofNumber? (n : Int32) : Option WireTag :=
  if n < 0 then none else all[n.toInt.toNat]?

/-- A tag of messages is known by its number. -/
@[simp] theorem ofNumber?_number (t : WireTag) : ofNumber? t.number = some t := by
  cases t with
  | plain tag => cases tag <;> rfl
  | _ => rfl

/-- The name of a tag. -/
def name : WireTag → String
  | plain tag => tag.name
  | bigInteger => "BIG_INTEGER"
  | bigDecimal => "BIG_DECIMAL"
  | multiset => "MULTISET"

/-- The tag of the value that a message holds. -/
def toTag : WireTag → Except Error Tag
  | plain tag => .ok tag
  | bigInteger | bigDecimal => .ok .number
  | multiset => .error (.unsupported .object "MULTISET wire tag")

/-- The tag that a field of a message names. -/
def read (field : WireField) (n : Int32) : Except Error WireTag :=
  match ofNumber? n with
  | some t => .ok t
  | none => .error (.of (.malformedWire ("tag " ++ toString n.toInt) field))

end WireTag

end TypedRows
