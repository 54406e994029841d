import TypedRows.Calendar.Text
import TypedRows.Json.Reader
import TypedRows.Row.Source
import TypedRows.Value.Json

/-!
# Rows written as JSON

Each row is an object, whose members are found by the names of the columns, or an array, whose
items are found by the positions of the columns. The cells are read under the tags of the
columns, and the dates and times among them may be written as text. The row that is handed out
is a record of a field for every column.

## Main definitions

* `TypedRows.JsonRows` — a source of rows written as JSON.
* `TypedRows.JsonRows.read` — the source of the rows in a text.
* `TypedRows.JsonRows.decodeRow` — the record that a JSON row is read as.
-/

set_option autoImplicit false

namespace TypedRows

/-- Rows that are still to be read under a list of columns, and how many have been read. -/
structure JsonRows where
  rows : List JsonValue
  columns : List Column
  done : Nat

namespace JsonRows

/-- The rows of a text, which holds an array of them. -/
def read (text : String) (columns : List Column) : Except Error JsonRows :=
  match JsonValue.read text with
  | .ok (.array rows) => .ok ⟨JsonValue.settledItems rows, columns, 0⟩
  | .ok other => .error (.of (.json ("rows are an array, not " ++ other.shape)))
  | .error reason => .error (.of (.json reason))

/-- A date, a time or a timestamp written as text. -/
def temporalOfText (tag : Tag) (text : String) : Except Error LocalValue :=
  let outcome : Except Calendar.CalendarError LocalValue :=
    match tag with
    | .sqlDate => do return .int (← Calendar.readDate text)
    | .sqlTime | .instantTime => do return .int (Int32.ofInt (← Calendar.readTime text 3))
    | _ => do return .long (Int64.ofInt (← Calendar.readTimestamp text 3))
  match outcome with
  | .ok v => .ok v
  | .error e => .error (.ofCalendar e)

/-- The cell of a column in a JSON row, if the row has one. -/
def rawCell? (row : JsonValue) (index : Nat) (column : Column) :
    Except Error (Option JsonValue) :=
  match row with
  | .object members => .ok (Fields.get? column.name members)
  | .array items => .ok items[index]?
  | other => .error (.mismatch column.tag .jsonRow other.shape)

/-- The local value of a cell under the type of its column. -/
def decodeCell (column : Column) : JsonValue → Except Error LocalValue
  | .null => .ok .null
  | .string text =>
    within column.place <|
      if column.tag.isTemporal then temporalOfText column.tag text
      else (SerialValue.string text).toLocal column.tag (column.type.component?.map (·.tag))
  | json => do
    let value ← SerialValue.ofJson json
    within column.place (value.toLocal column.tag (column.type.component?.map (·.tag)))

/-- The fields that a row has for columns, the first of which stands at position `index`. -/
def decodeFields (row : JsonValue) :
    (index : Nat) → List Column → Except Error (List (String × LocalValue))
  | _, [] => .ok []
  | index, column :: columns => do
    let raw ← rawCell? row index column
    let value ← decodeCell column (raw.getD .null)
    return (column.name, value) :: (← decodeFields row (index + 1) columns)

/-- The record that a row is read as. -/
def decodeRow (columns : List Column) (row : JsonValue) : Except Error LocalValue :=
  .record <$> decodeFields row 0 columns

/-- The next row. A row that cannot be read is passed over all the same. -/
def nextRow (s : JsonRows) : Except Error (Option LocalValue) × JsonRows :=
  match s.rows with
  | [] => (.ok none, s)
  | row :: rest =>
    (within ("row " ++ toString (s.done + 1)) (some <$> decodeRow s.columns row),
      { s with rows := rest, done := s.done + 1 })

instance : FiniteRowSource JsonRows where
  nextRow := nextRow
  close s := { s with rows := [] }
  shape _ := .keyed
  remaining s := s.rows.length
  remaining_nextRow s row h := by
    unfold nextRow at h ⊢
    split at h <;> simp_all

end JsonRows

end TypedRows
