import TypedRows.Error

/-!
# Columns

A column has a name and a type. A type is a scalar tag, an array of some element type, or a
record whose fields are columns themselves.

## Main definitions

* `TypedRows.ColumnType`, `TypedRows.Column` — types of columns, and columns.
* `TypedRows.ColumnType.ofTag` — the type that a bare tag stands for.
* `TypedRows.Projection` — the columns of a row that a reader asked for, by their positions.
-/

set_option autoImplicit false

namespace TypedRows

/-! ## Types and columns -/

/-- A column over a notion of type. -/
structure ColumnOf (α : Type) where
  ordinal : Nat
  name : String
  type : α
  nullable : Bool

/-- The type of a column. -/
inductive ColumnType where
  | scalar (tag : Tag)
  | array (component : ColumnType)
  | struct (fields : List (ColumnOf ColumnType))

/-- A column. -/
abbrev Column := ColumnOf ColumnType

namespace ColumnType

/-- The type that a bare tag stands for: an array holds elements of no known tag, and a record
has no declared fields. -/
def ofTag : Tag → ColumnType
  | .array => array (scalar .object)
  | .struct => struct []
  | tag => scalar tag

/-- The tag of a type. -/
def tag : ColumnType → Tag
  | scalar tag => tag
  | array _ => .array
  | struct _ => .struct

/-- The element type of an array type. -/
def component? : ColumnType → Option ColumnType
  | array component => some component
  | _ => none

/-- The declared fields of a record type. -/
def declaredFields : ColumnType → List Column
  | struct fields => fields
  | _ => []

mutual

/-- Equality of types. -/
def same : ColumnType → ColumnType → Bool
  | scalar a, scalar b => a == b
  | array a, array b => same a b
  | struct a, struct b => sameFields a b
  | _, _ => false

/-- Equality of field lists. -/
def sameFields : List (ColumnOf ColumnType) → List (ColumnOf ColumnType) → Bool
  | [], [] => true
  | ⟨i, a, s, p⟩ :: as, ⟨j, b, t, q⟩ :: bs =>
    i == j && a == b && same s t && p == q && sameFields as bs
  | _, _ => false

end

/-- The type of a bare tag has the tag. -/
@[simp] theorem tag_ofTag (t : Tag) : (ofTag t).tag = t := by
  cases t <;> rfl

end ColumnType

namespace ColumnOf

/-- A column that may hold null. -/
def new {α : Type} (ordinal : Nat) (name : String) (type : α) : ColumnOf α :=
  ⟨ordinal, name, type, true⟩

/-- The tag of a column. -/
def tag (c : ColumnOf ColumnType) : Tag := c.type.tag

/-- The place that errors met in a column are reported in. -/
def place {α : Type} (c : ColumnOf α) : String := "column '" ++ c.name ++ "'"

end ColumnOf

/-! ## Projections -/

/-- The positions, in a row, of the columns that were asked for. -/
structure Projection where
  ordinals : List Nat
  deriving DecidableEq, Repr

namespace Projection

/-- The positions of the named columns, in the order of the names. The first name that no column
has is reported. -/
def deduce (requested : List String) (native : List Column) : Except Error Projection := do
  let ordinals ← requested.mapM fun name =>
    match native.findIdx? (·.name == name) with
    | some i => .ok i
    | none => .error (.of (.unknownField name))
  return ⟨ordinals⟩

/-- The projection that keeps the columns of a row of the given width. -/
def identity (width : Nat) : Projection := ⟨List.range width⟩

/-- The columns that a projection selects, each with its position in the row. -/
def selected (p : Projection) (native : List Column) : List (Nat × Column) :=
  p.ordinals.filterMap fun i => (native[i]?).map fun c => (i, c)

/-- The columns that a projection selects, numbered from zero. -/
def columns (p : Projection) (native : List Column) : List Column :=
  (p.ordinals.zipIdx).filterMap fun (i, k) => (native[i]?).map fun c => { c with ordinal := k }

end Projection

end TypedRows
