import TypedRows.Column.Basic
import TypedRows.Json.Value

/-!
# Reading columns from JSON

A type is an object whose member `kind` says which of the three forms it has, and a column an
object with the members `name` and `type`, to which `ordinal` and `nullable` may be added. Both
may also be written as an array of their members in a fixed order. Members that are not known
are ignored; a known member may not be given twice. Within another type the form of a type may
be given by its number instead of its name.

## Main definitions

* `TypedRows.ColumnType.ofJson` — the type that a JSON value describes.
* `TypedRows.Column.ofJson`, `TypedRows.Column.listOfJson` — the columns.
-/

set_option autoImplicit false

namespace TypedRows

namespace ColumnReader

/-- A string. -/
def stringOf : JsonValue → Except String String
  | .string s => .ok s
  | _ => .error "string missing"

/-- The tag that a string names. -/
def tagOf : JsonValue → Except String Tag
  | .string s =>
    match Tag.read s with
    | .ok tag => .ok tag
    | .error e => .error e.message
  | _ => .error "tag name missing"

/-- A truth value. -/
def boolOf : JsonValue → Except String Bool
  | .bool b => .ok b
  | _ => .error "truth value missing"

/-- An unsigned integer. -/
def ordinalOf : JsonValue → Except String Nat
  | .number (.integer n) => if 0 ≤ n then .ok n.toNat else .error "negative ordinal"
  | _ => .error "ordinal missing"

/-- The three forms of types. -/
inductive TypeForm where
  | scalar | array | struct
  deriving DecidableEq, Repr

/-- The form that a name or, where types are `nested` in another one, a number stands for. -/
def formOf (nested : Bool) : JsonValue → Except String TypeForm
  | .string "scalar" => .ok .scalar
  | .string "array" => .ok .array
  | .string "struct" => .ok .struct
  | .number (.integer n) =>
    if nested ∧ 0 ≤ n then
      match [TypeForm.scalar, .array, .struct][n.toNat]? with
      | some form => .ok form
      | none => .error "unknown kind"
    else .error "kind is no name"
  | _ => .error "unknown kind"

/-- What is known of a member: a member may be given once only. -/
def once {α : Type} (known : Option α) (value : Except String α) :
    Except String (Option α) :=
  match known with
  | some _ => .error "member given twice"
  | none => value.map some

/-- A member that has to be given. -/
def required {α : Type} : Option α → Except String α
  | some a => .ok a
  | none => .error "member missing"

/-- The member of an object with a given key, read by `read`. -/
def soleMember {α : Type} (key : String) (read : JsonValue → Except String α)
    (members : List (String × JsonValue)) : Except String α := do
  let found ← members.foldlM
    (fun known member => if member.1 == key then once known (read member.2) else .ok known) none
  required found

/-- The members of a column that have been read so far. -/
structure Draft where
  ordinal : Option Nat := none
  name : Option String := none
  type : Option ColumnType := none
  nullable : Option Bool := none

/-- The column whose members have all been read. Columns are numbered 0 and may hold null
unless they say otherwise. -/
def Draft.finish (d : Draft) : Except String Column := do
  let name ← required d.name
  let type ← required d.type
  return ⟨d.ordinal.getD 0, name, type, d.nullable.getD true⟩

mutual

/-- The type that a JSON value describes, be it `nested` in another one or not. -/
def typeOf (nested : Bool) : JsonValue → Except String ColumnType
  | .object members => do
    match ← soleMember "kind" (formOf nested) members with
    | .scalar => return .scalar (← soleMember "rep" tagOf members)
    | .array => return .array (← componentOf none members)
    | .struct => return .struct (← fieldsOf none members)
  | .array (kind :: items) => do
    match ← formOf nested kind, items with
    | .scalar, tag :: rest =>
      let tag ← tagOf tag
      if rest.isEmpty then return .scalar tag else throw "too many items"
    | .array, component :: rest =>
      let component ← typeOf true component
      if rest.isEmpty then return .array component else throw "too many items"
    | .struct, .array fields :: rest =>
      let fields ← columnsOf true fields
      if rest.isEmpty then return .struct fields else throw "too many items"
    | _, _ => throw "item missing"
  | _ => .error "type missing"

/-- The member `component` of an object. -/
def componentOf : Option ColumnType → List (String × JsonValue) → Except String ColumnType
  | known, [] => required known
  | known, (key, value) :: members =>
    if key == "component" then do
      let known ← once known (typeOf true value)
      componentOf known members
    else componentOf known members

/-- The member `fields` of an object. -/
def fieldsOf : Option (List Column) → List (String × JsonValue) → Except String (List Column)
  | known, [] => required known
  | known, (key, .array items) :: members =>
    if key == "fields" then do
      let known ← once known (columnsOf true items)
      fieldsOf known members
    else fieldsOf known members
  | known, (key, _) :: members =>
    if key == "fields" then .error "field list missing" else fieldsOf known members

/-- The column that a JSON value describes, its type `nested` in another one or not. -/
def columnOf (nested : Bool) : JsonValue → Except String Column
  | .object members => columnOfMembers nested {} members
  | .array (ordinal :: name :: type :: rest) => do
    let ordinal ← ordinalOf ordinal
    let name ← stringOf name
    let type ← typeOf nested type
    match rest with
    | [] => return ⟨ordinal, name, type, true⟩
    | nullable :: rest =>
      let nullable ← boolOf nullable
      if rest.isEmpty then return ⟨ordinal, name, type, nullable⟩ else throw "too many items"
  | .array _ => .error "too few items"
  | _ => .error "column missing"

/-- The column whose further members are given. -/
def columnOfMembers (nested : Bool) : Draft → List (String × JsonValue) → Except String Column
  | draft, [] => draft.finish
  | draft, (key, value) :: members =>
    match key with
    | "ordinal" => do
      let known ← once draft.ordinal (ordinalOf value)
      columnOfMembers nested { draft with ordinal := known } members
    | "name" => do
      let known ← once draft.name (stringOf value)
      columnOfMembers nested { draft with name := known } members
    | "type" => do
      let known ← once draft.type (typeOf nested value)
      columnOfMembers nested { draft with type := known } members
    | "nullable" => do
      let known ← once draft.nullable (boolOf value)
      columnOfMembers nested { draft with nullable := known } members
    | _ => columnOfMembers nested draft members

/-- The columns that the items of an array describe. -/
def columnsOf (nested : Bool) : List JsonValue → Except String (List Column)
  | [] => .ok []
  | item :: items => do
    let column ← columnOf nested item
    let columns ← columnsOf nested items
    return column :: columns

end

/-- A reading whose failure is an error of the library. -/
def orJsonError {α : Type} : Except String α → Except Error α
  | .ok a => .ok a
  | .error reason => .error (.of (.json reason))

end ColumnReader

/-- The type that a JSON value describes. -/
def ColumnType.ofJson (v : JsonValue) : Except Error ColumnType :=
  ColumnReader.orJsonError (ColumnReader.typeOf false v)

/-- The column that a JSON value describes. -/
def Column.ofJson (v : JsonValue) : Except Error Column :=
  ColumnReader.orJsonError (ColumnReader.columnOf false v)

/-- The columns that a JSON array describes. -/
def Column.listOfJson : JsonValue → Except Error (List Column)
  | .array items => ColumnReader.orJsonError (ColumnReader.columnsOf false items)
  | _ => .error (.of (.json "column list missing"))

end TypedRows
