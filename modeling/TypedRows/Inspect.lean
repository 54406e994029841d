import TypedRows.Text.Quoted
import TypedRows.Value.Client

/-!
# Values shown in full

For inspection a value is shown with its variant and all of its parts on one line.

## Main definitions

* `TypedRows.LocalValue.inspect`, `TypedRows.ClientValue.inspect`
-/

set_option autoImplicit false

namespace TypedRows

open Calendar

/-! ## Building blocks -/

namespace Inspect

/-- A variant with one part. -/
def variant (name part : String) : String := name ++ "(" ++ part ++ ")"

/-- A variant with named parts. -/
def parts (name : String) (fields : List (String × String)) : String :=
  name ++ " \x7b " ++ ", ".intercalate (fields.map fun (n, v) => n ++ ": " ++ v) ++ " \x7d"

/-- A list of parts. -/
def list (items : List String) : String := "[" ++ ", ".intercalate items ++ "]"

/-- A part that may be missing. -/
def optional : Option String → String
  | none => "None"
  | some part => variant "Some" part

/-- A truth value. -/
def truth (b : Bool) : String := if b then "true" else "false"

/-- The digits of a number to the base 2 ^ 64, the lowest first; none for zero. -/
def words (n : Nat) : List Nat :=
  if n = 0 then []
  else (List.range (n.log2 / 64 + 1)).map fun i => n / 2 ^ (64 * i) % 2 ^ (64 : Nat)

/-- A decimal: its sign, its scale and the digits of its magnitude. -/
def decimal (d : Decimal) : String :=
  let sign := if d.unscaled = 0 then "NoSign" else if d.unscaled < 0 then "Minus" else "Plus"
  "BigDecimal(sign=" ++ sign ++ ", scale=" ++ toString d.scale.toInt ++ ", digits="
    ++ list ((words d.unscaled.natAbs).map toString) ++ ")"

/-- A zone. -/
def zone : Zone → String
  | .utc => "Utc"
  | .fixed offset => variant "Fixed" (toString offset)
  | .named z => variant "Named" z.name
  | .platform => "Local"

/-- A tag. -/
def tag : Tag → String
  | .primitiveBoolean => "PrimitiveBoolean"
  | .primitiveByte => "PrimitiveByte"
  | .primitiveChar => "PrimitiveChar"
  | .primitiveShort => "PrimitiveShort"
  | .primitiveInt => "PrimitiveInt"
  | .primitiveLong => "PrimitiveLong"
  | .primitiveFloat => "PrimitiveFloat"
  | .primitiveDouble => "PrimitiveDouble"
  | .boolean => "Boolean"
  | .byte => "Byte"
  | .character => "Character"
  | .short => "Short"
  | .integer => "Integer"
  | .long => "Long"
  | .float => "Float"
  | .double => "Double"
  | .sqlTime => "SqlTime"
  | .sqlTimestamp => "SqlTimestamp"
  | .sqlDate => "SqlDate"
  | .utilDate => "UtilDate"
  | .instantTime => "InstantTime"
  | .instantTimestamp => "InstantTimestamp"
  | .byteString => "ByteString"
  | .string => "String"
  | .number => "Number"
  | .array => "Array"
  | .struct => "Struct"
  | .object => "Object"
  | .null => "Null"

mutual

/-- The type of a column. -/
def type : ColumnType → String
  | .scalar t => parts "Scalar" [("rep", tag t)]
  | .array component => parts "Array" [("component", type component)]
  | .struct fields => parts "Struct" [("fields", list (columns fields))]

/-- Columns. -/
def columns : List (ColumnOf ColumnType) → List String
  | [] => []
  | ⟨ordinal, name, t, nullable⟩ :: rest =>
    parts "ColumnMetaData" [("ordinal", toString ordinal), ("name", Text.quoted name),
      ("column_type", type t), ("nullable", truth nullable)] :: columns rest

end

end Inspect

/-! ## Values -/

namespace LocalValue

mutual

/-- A local value in full. -/
def inspect : LocalValue → String
  | null => "Null"
  | bool b => Inspect.variant "Bool" (Inspect.truth b)
  | byte n => Inspect.variant "Byte" (toString n.toInt)
  | short n => Inspect.variant "Short" (toString n.toInt)
  | int n => Inspect.variant "Int" (toString n.toInt)
  | long n => Inspect.variant "Long" (toString n.toInt)
  | float x => Inspect.variant "Float" (String.ofList (FloatStyle.inspect.chars .single x.value))
  | double x => Inspect.variant "Double" (String.ofList (FloatStyle.inspect.chars .double x.value))
  | decimal d => Inspect.variant "Decimal" (Inspect.decimal d)
  | char c => Inspect.variant "Char" (Text.quotedChar c)
  | string s => Inspect.variant "String" (Text.quoted s)
  | bytes b => Inspect.variant "Bytes" (Inspect.list (b.map toString))
  | list items => Inspect.variant "List" (Inspect.list (inspectItems items))
  | record fields => Inspect.variant "Record" (Inspect.list (inspectFields fields))
  | struct ⟨names, values⟩ =>
    Inspect.variant "Struct" <| Inspect.parts "StructValue"
      [("names", Inspect.optional (names.map fun names => Inspect.list (names.map Text.quoted))),
        ("values", Inspect.list (inspectItems values))]
  | array ⟨component, elements, zone⟩ =>
    Inspect.variant "Array" <| Inspect.parts "ArrayValue"
      [("component", Inspect.type component),
        ("elements", Inspect.list (inspectItems elements)),
        ("zone", Inspect.optional (zone.map Inspect.zone))]

/-- Every item in full. -/
def inspectItems : List LocalValue → List String
  | [] => []
  | item :: items => item.inspect :: inspectItems items

/-- Every field with its name. -/
def inspectFields : List (String × LocalValue) → List String
  | [] => []
  | (name, value) :: fields =>
    ("(" ++ Text.quoted name ++ ", " ++ value.inspect ++ ")") :: inspectFields fields

end

end LocalValue

/-- A client value in full. -/
def ClientValue.inspect : ClientValue → String
  | .date t => Inspect.variant "Date" (Inspect.variant "SqlDate" (toString t.toInt))
  | .time t => Inspect.variant "Time" (Inspect.variant "SqlTime" (toString t.toInt))
  | .timestamp t =>
    Inspect.variant "Timestamp" <| Inspect.parts "SqlTimestamp"
      [("millis", toString t.millis.toInt), ("nanos", toString t.nanos)]
  | other => other.toLocal?.elim "Null" LocalValue.inspect

end TypedRows
