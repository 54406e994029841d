import TypedRows.Text.Fields

/-!
# Representation tags

A tag names the logical type of a value and with it the shape the value takes in memory, in its
serial form and on the wire. Every scalar tag that has a primitive counterpart is reached from
it by `boxed`.

## Main definitions

* `TypedRows.Tag` — the tags.
* `TypedRows.Tag.name`, `TypedRows.Tag.named?` — the name of a tag and the tag of a name.
* `TypedRows.Tag.boxed` — the tag with primitive forms taken to their boxed counterpart.
* `TypedRows.Tag.isIntegral`, `TypedRows.Tag.isTemporal` — the tags held as integer counts, and
  those among them that stand for points in time.
-/

set_option autoImplicit false

namespace TypedRows

/-- A representation tag. Dates count days and times and timestamps milliseconds; the two
instant tags stand for points in time and not for wall-clock readings, so that no zone applies
to them. -/
inductive Tag where
  | primitiveBoolean | primitiveByte | primitiveChar | primitiveShort
  | primitiveInt | primitiveLong | primitiveFloat | primitiveDouble
  | boolean | byte | character | short | integer | long | float | double
  | sqlTime | sqlTimestamp | sqlDate | utilDate
  | instantTime | instantTimestamp
  | byteString | string | number
  | array | struct | object | null
  deriving DecidableEq, Repr

namespace Tag

/-- Every tag, in the order of declaration. -/
def all : List Tag :=
  [primitiveBoolean, primitiveByte, primitiveChar, primitiveShort, primitiveInt, primitiveLong,
    primitiveFloat, primitiveDouble, boolean, byte, character, short, integer, long, float,
    double, sqlTime, sqlTimestamp, sqlDate, utilDate, instantTime, instantTimestamp, byteString,
    string, number, array, struct, object, null]

/-- The name of a tag. -/
def name : Tag → String
  | primitiveBoolean => "PRIMITIVE_BOOLEAN"
  | primitiveByte => "PRIMITIVE_BYTE"
  | primitiveChar => "PRIMITIVE_CHAR"
  | primitiveShort => "PRIMITIVE_SHORT"
  | primitiveInt => "PRIMITIVE_INT"
  | primitiveLong => "PRIMITIVE_LONG"
  | primitiveFloat => "PRIMITIVE_FLOAT"
  | primitiveDouble => "PRIMITIVE_DOUBLE"
  | boolean => "BOOLEAN"
  | byte => "BYTE"
  | character => "CHARACTER"
  | short => "SHORT"
  | integer => "INTEGER"
  | long => "LONG"
  | float => "FLOAT"
  | double => "DOUBLE"
  | sqlTime => "JAVA_SQL_TIME"
  | sqlTimestamp => "JAVA_SQL_TIMESTAMP"
  | sqlDate => "JAVA_SQL_DATE"
  | utilDate => "JAVA_UTIL_DATE"
  | instantTime => "TIME_WITH_LOCAL_TIME_ZONE"
  | instantTimestamp => "TIMESTAMP_WITH_LOCAL_TIME_ZONE"
  | byteString => "BYTE_STRING"
  | string => "STRING"
  | number => "NUMBER"
  | array => "ARRAY"
  | struct => "STRUCT"
  | object => "OBJECT"
  | null => "NULL"

/-- The tag with a given name, the case of its letters aside. -/
def named? (text : String) : Option Tag :=
  all.find? fun t => Text.sameName t.name text

/-- The boxed counterpart of a primitive tag; the other tags are their own. -/
def boxed : Tag → Tag
  | primitiveBoolean => boolean
  | primitiveByte => byte
  | primitiveChar => character
  | primitiveShort => short
  | primitiveInt => integer
  | primitiveLong => long
  | primitiveFloat => float
  | primitiveDouble => double
  | other => other

/-- The tags that have a boxed counterpart. -/
def isPrimitive (t : Tag) : Bool :=
  t.boxed != t

/-- The tags of dates, times and timestamps. -/
def isTemporal : Tag → Bool
  | sqlTime | sqlTimestamp | sqlDate | utilDate | instantTime | instantTimestamp => true
  | _ => false

/-- The tags whose serial form is an integer. -/
def isIntegral (t : Tag) : Bool :=
  match t.boxed with
  | byte | short | integer | long => true
  | other => other.isTemporal

/-- The tags that no value but null can take. -/
def holdsNothing : Tag → Bool
  | object | null => true
  | _ => false

/-- Every tag is in the list of tags. -/
theorem mem_all (t : Tag) : t ∈ all := by
  cases t <;> decide

/-- A boxed tag is its own boxed counterpart. -/
@[simp] theorem boxed_boxed (t : Tag) : t.boxed.boxed = t.boxed := by
  cases t <;> rfl

end Tag

end TypedRows
