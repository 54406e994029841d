import TypedRows.Value.Local

/-!
# Selecting the cell of a row

## Main definitions

* `TypedRows.Selector` — where in a row the cell of a column stands.
* `TypedRows.Selector.cell` — the cell that a row has there.
-/

set_option autoImplicit false

namespace TypedRows

/-- Where in a row the cell of a column stands. -/
inductive Selector where
  /-- The field at a position. A row that is a single value is its own field 0. -/
  | position (index : Nat)
  /-- The field of a name; null where the row has no such field. -/
  | field (name : String)
  /-- The row as a whole. -/
  | row
  deriving DecidableEq, Repr

namespace Selector

/-- The cell of a row, or the error that the row has no place for it. -/
def cell : Selector → LocalValue → Except Error LocalValue
  | row, v => .ok v
  | position index, v =>
    match v.fields? with
    | some fields =>
      match fields[index]? with
      | some cell => .ok cell
      | none => .error (.of (.column index fields.length))
    | none => if index = 0 then .ok v else .error (.of (.column index 1))
  | field name, v =>
    match v with
    | .record _ | .struct _ => .ok ((v.fieldNamed? name).getD .null)
    | _ => .error (.of (.unknownField name))

end Selector

end TypedRows
