import TypedRows.Calendar.Error
import TypedRows.Tag

/-!
# What can go wrong with a value or a row

An error is a cause and the places it was met in. The places come first in the message, the
outermost in front, and the words for the cause last.

## Main definitions

* `TypedRows.Cause` — the causes.
* `TypedRows.Error` — a cause with the places it was met in.
* `TypedRows.Error.within` — the same error, met in one more place.
* `TypedRows.Error.message` — the words for an error.
-/

set_option autoImplicit false

namespace TypedRows

/-! ## Causes -/

/-- What a tag or a reader expected where it met something else. -/
inductive Expectation where
  | bool | integer | number | singleCharacter | character | string | base64 | bytes
  | list | record | declaredRecord | array | scalar | nonTemporal
  | finiteNumber | decimal | long | double | secondsInRange
  | date | time | timestamp | jsonRow
  deriving DecidableEq, Repr

/-- The words for an expectation. -/
def Expectation.text : Expectation → String
  | bool => "a bool"
  | integer => "an integer"
  | number => "a number"
  | singleCharacter => "a single character"
  | character => "a character"
  | string => "a string"
  | base64 => "base64 text"
  | bytes => "bytes"
  | list => "a list"
  | record => "a record"
  | declaredRecord => "a record of the declared arity"
  | array => "an array"
  | scalar => "a scalar"
  | nonTemporal => "a non-temporal value"
  | finiteNumber => "a finite number"
  | decimal => "a decimal"
  | long => "a long"
  | double => "a double"
  | secondsInRange => "seconds in range"
  | date => "a date"
  | time => "a time"
  | timestamp => "a timestamp"
  | jsonRow => "a JSON object or array"

/-- The payload fields of a wire message that a tag may require. -/
inductive WireField where
  | type | componentType | stringValue
  deriving DecidableEq, Repr

/-- The name of a payload field. -/
def WireField.name : WireField → String
  | type => "type"
  | componentType => "component_type"
  | stringValue => "string_value"

/-- Why a row cannot be read from a cursor. -/
inductive CursorFault where
  | notPositioned | exhausted | closed
  deriving DecidableEq, Repr

/-- The words for a cursor fault. -/
def CursorFault.message : CursorFault → String
  | notPositioned => "cursor not positioned on a row (before first row)"
  | exhausted => "cursor not positioned on a row (after last row)"
  | closed => "cursor closed"

/-- What went wrong, wherever it was met. -/
inductive Cause where
  /-- The tag has no conversion for the value it was given. -/
  | unsupportedTag (tag : Tag) (shape : String)
  | shapeMismatch (tag : Tag) (expected : Expectation) (shape : String)
  | malformedWire (tag : String) (field : WireField)
  | calendar (error : Calendar.CalendarError)
  | cursor (fault : CursorFault)
  /-- The text is no JSON, or the JSON is not of the form that was asked for. -/
  | json (reason : String)
  /-- The bytes are no message. -/
  | wireBytes (reason : String)
  | column (index count : Nat)
  | slice (offset length size : Nat)
  | unknownField (name : String)
  deriving DecidableEq, Repr, Inhabited

/-- The words for a cause. -/
def Cause.message : Cause → String
  | unsupportedTag tag shape => "no conversion defined for " ++ tag.name ++ " holding " ++ shape
  | shapeMismatch tag expected shape =>
    tag.name ++ " expects " ++ expected.text ++ ", got " ++ shape
  | malformedWire tag field =>
    "malformed wire value: " ++ tag ++ " requires field '" ++ field.name ++ "'"
  | calendar error => error.message
  | cursor fault => fault.message
  | json reason => "json: " ++ reason
  | wireBytes reason => "protobuf decode: " ++ reason
  | column index count =>
    "column " ++ toString index ++ " out of range for row of width " ++ toString count
  | slice offset length size =>
    "slice at " ++ toString offset ++ " of length " ++ toString length
      ++ " out of range for array of length " ++ toString size
  | unknownField name => "no field named '" ++ name ++ "'"

/-! ## Errors -/

/-- A cause and the places it was met in, the outermost first. -/
structure Error where
  places : List String
  cause : Cause
  deriving DecidableEq, Repr, Inhabited

namespace Error

/-- The error of a cause met in no particular place. -/
def of (cause : Cause) : Error := ⟨[], cause⟩

/-- The same error, met in one more place around it. -/
def within (e : Error) (place : String) : Error :=
  { e with places := place :: e.places }

/-- The places and the cause, with a colon after each place. -/
def message (e : Error) : String :=
  e.places.foldr (fun place rest => place ++ ": " ++ rest) e.cause.message

/-- The error of a tag that has no conversion for what it was given. -/
def unsupported (tag : Tag) (shape : String) : Error := of (.unsupportedTag tag shape)

/-- The error of a tag that met another shape than it expected. -/
def mismatch (tag : Tag) (expected : Expectation) (shape : String) : Error :=
  of (.shapeMismatch tag expected shape)

/-- The error of a place where a calendar value could not be read. -/
def ofCalendar (e : Calendar.CalendarError) : Error := of (.calendar e)

end Error

/-- An outcome with its error, if it is one, met in one more place. -/
def within {α : Type} (place : String) : Except Error α → Except Error α
  | .ok a => .ok a
  | .error e => .error (e.within place)

/-- The tag of a name, or the cause for which there is none. -/
def Tag.read (text : String) : Except Error Tag :=
  match Tag.named? text with
  | some tag => .ok tag
  | none => .error (.unsupported .object ("tag name '" ++ text ++ "'"))

end TypedRows
