import TypedRows.Column.Reader
import TypedRows.Json.Reader

/-!
# Columns written as JSON text

A list of columns is read from its text column by column. The members of a column that are not
known are passed over, so that only their grammar matters; the type of a column is read as a
value like any other before it is looked at.

## Main definitions

* `TypedRows.Column.listOfText` — the columns of a text.
-/

set_option autoImplicit false

namespace TypedRows

namespace ColumnReader

open JsonReader

/-- Whether a column has a member of that name. -/
def isKnown (key : String) : Bool := key ∈ ["ordinal", "name", "type", "nullable"]

/-- The members of a column that are known, up to the closing brace. -/
def readDraft (cs : List Char) : Except String (List (String × JsonValue) × List Char) :=
  match skipSpace cs with
  | '\x7d' :: rest => .ok ([], rest)
  | rest => readMembers isKnown (enoughFuel rest) (depthLimit - 2) rest

/-- A column. -/
def readColumn (cs : List Char) : Except String (Column × List Char) :=
  match skipSpace cs with
  | '\x7b' :: rest => do
    let (members, rest) ← readDraft rest
    return (← columnOfMembers false {} members, rest)
  | rest => do
    let (value, rest) ← readValue (enoughFuel rest) (depthLimit - 1) rest
    return (← columnOf false value, rest)

/-- The columns up to the closing bracket; there is at least one. The fuel is a bound on their
number. -/
def readColumns : (fuel : Nat) → List Char → Except String (List Column × List Char)
  | 0, _ => .error "text too long"
  | fuel + 1, cs => do
    let (column, rest) ← readColumn cs
    match skipSpace rest with
    | ']' :: rest => return ([column], rest)
    | ',' :: rest =>
      let (columns, rest) ← readColumns fuel rest
      return (column :: columns, rest)
    | _ => throw "comma or bracket missing"

/-- The columns of a text, which holds an array of them and nothing else. -/
def columnsOfText (text : String) : Except String (List Column) := do
  let (columns, rest) ← match skipSpace text.toList with
    | '[' :: rest =>
      match skipSpace rest with
      | ']' :: rest => pure ([], rest)
      | rest => readColumns rest.length rest
    | _ => throw "column list missing"
  if (skipSpace rest).isEmpty then return columns else throw "text after the columns"

end ColumnReader

/-- The columns of a text. -/
def Column.listOfText (text : String) : Except Error (List Column) :=
  ColumnReader.orJsonError (ColumnReader.columnsOfText text)

end TypedRows
