import TypedRows.Row.ResultSet

/-!
# Views of arrays and records

The elements of an array and the fields of a record are local values. Here they are handed out
as client values, one by one or as the rows of a table, and arrays are cut into slices.
Positions in an array count from one.

## Main definitions

* `TypedRows.ArrayOf.slice` — a run of elements as an array of its own.
* `TypedRows.ArrayOf.clientValues` — the client values of the elements.
* `TypedRows.ArrayOf.table`, `TypedRows.ArrayOf.tableSlice` — the elements as rows.
* `TypedRows.ArrayOf.toLocal` — the elements as a list.
* `TypedRows.StructOf.clientFields` — the client values of the fields of a record.
-/

set_option autoImplicit false

namespace TypedRows

open Calendar

/-! ## Arrays -/

mutual

/-- The value with the arrays that it consists of, one inside the other, turned into lists. -/
def LocalValue.unwrapped : LocalValue → LocalValue
  | .array ⟨_, elements, _⟩ => .list (LocalValue.unwrappedItems elements)
  | other => other

/-- Every element unwrapped. -/
def LocalValue.unwrappedItems : List LocalValue → List LocalValue
  | [] => []
  | item :: items => item.unwrapped :: LocalValue.unwrappedItems items

end

namespace ArrayOf

/-- The difference of two numbers of 64 bits; none when it is negative. -/
def wordDifference? (m n : Nat) : Option Nat :=
  if n ≤ m then some (m - n) else none

/-- The sum of two numbers of 64 bits; none when it does not fit 64 bits. -/
def wordSum? (m n : Nat) : Option Nat :=
  if m + n < UInt64.size then some (m + n) else none

/-- The number of elements before the position `offset`, if `length` elements follow there. The
position and the length are any numbers of 64 bits. -/
def sliceStart (a : ArrayValue) (offset length : Nat) : Except Error Nat :=
  match (wordDifference? offset 1).filter fun start =>
      (wordSum? start length).any (· ≤ a.elements.length) with
  | some start => .ok start
  | none => .error (.of (.slice offset length a.elements.length))

/-- The array of `length` elements from the position `offset`. -/
def slice (a : ArrayValue) (offset length : Nat) : Except Error ArrayValue := do
  let start ← a.sliceStart offset length
  return { a with elements := (a.elements.drop start).take length }

/-- The reader of single elements. -/
def elementReader (a : ArrayValue) : CellReader :=
  ⟨.new 0 "VALUE" a.component, .row, a.zone, a.zone⟩

/-- The client value of every element. -/
def clientValues [Platform] (a : ArrayValue) : Except Error (List ClientValue) :=
  a.elements.mapM a.elementReader.objectOf

/-- The columns of an array as a table: the position of an element, and the element. -/
def tableColumns (a : ArrayValue) : List Column :=
  [.new 0 "INDEX" (.scalar .long), .new 1 "VALUE" a.component]

/-- The table of `length` elements, before which there are `start` more. -/
def tableFrom (a : ArrayValue) (start length : Nat) : ResultSet RowQueue :=
  let elements := (a.elements.drop start).take length
  let rows := elements.zipIdx.map fun (element, i) =>
    [LocalValue.long (Int64.ofInt (start + i + 1 : Nat)), element]
  ResultSet.new (RowQueue.ofLists rows) a.tableColumns a.zone a.zone

/-- A row for every element. -/
def table (a : ArrayValue) : ResultSet RowQueue :=
  a.tableFrom 0 a.elements.length

/-- A row for each of `length` elements from the position `offset`. -/
def tableSlice (a : ArrayValue) (offset length : Nat) : Except Error (ResultSet RowQueue) := do
  let start ← a.sliceStart offset length
  return a.tableFrom start length

/-- The elements as a list; the arrays among them become lists too. -/
def toLocal (a : ArrayValue) : LocalValue :=
  (LocalValue.array a).unwrapped

end ArrayOf

/-! ## Records -/

namespace StructOf

/-- The columns that the fields of a record have by themselves. -/
def ownColumns (s : StructValue) : List Column :=
  s.values.zipIdx.map fun (v, i) => .new i ((s.name? i).getD "") (.ofTag (.ofLocal v))

/-- The client values of the fields, read under given columns, or under their own when none are
given. -/
def clientFields [Platform] (s : StructValue) (columns : List Column) (zone : Option Zone) :
    Except Error (List ClientValue) :=
  let columns := if columns.isEmpty then s.ownColumns else columns
  columns.zipIdx.mapM fun (column, i) =>
    (CellReader.mk column (.position i) zone zone).objectOf (.list s.values)

end StructOf

end TypedRows
