import TypedRows.Fields
import TypedRows.Number.Binary

/-!
# JSON values

## Main definitions

* `TypedRows.Numeral` — the numbers of JSON: 64-bit integers, signed or unsigned, and floats.
* `TypedRows.JsonValue` — the values of JSON.
* `TypedRows.JsonValue.settled` — the value with the members of its objects sorted by key, of
  repeated keys the last.
-/

set_option autoImplicit false

namespace TypedRows

/-- A number of JSON. Integers lie between the least signed and the greatest unsigned 64-bit
integer; every other number is a float. -/
inductive Numeral where
  | integer (value : Int)
  | float (value : Binary64)
  deriving DecidableEq, Repr

/-- A value of JSON. The members of an object stand in the order they were written in. -/
inductive JsonValue where
  | null
  | bool (value : Bool)
  | number (value : Numeral)
  | string (text : String)
  | array (items : List JsonValue)
  | object (members : List (String × JsonValue))
  deriving Inhabited

namespace JsonValue

mutual

/-- The value in which every object has its members sorted by key, of repeated keys the
last. -/
def settled : JsonValue → JsonValue
  | array items => array (settledItems items)
  | object members => object (Fields.sorted (settledMembers members))
  | other => other

/-- Every item settled. -/
def settledItems : List JsonValue → List JsonValue
  | [] => []
  | item :: items => item.settled :: settledItems items

/-- The value of every member settled. -/
def settledMembers : List (String × JsonValue) → List (String × JsonValue)
  | [] => []
  | (key, value) :: members => (key, value.settled) :: settledMembers members

end

/-- Short description of a value, for messages. -/
def shape : JsonValue → String
  | null => "null"
  | bool _ => "bool"
  | number _ => "number"
  | string _ => "string"
  | array _ => "array"
  | object _ => "object"

/-- Whether a value is null. -/
def isNull : JsonValue → Bool
  | null => true
  | _ => false

end JsonValue

end TypedRows
