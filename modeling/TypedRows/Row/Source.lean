import TypedRows.Value.Local

/-!
# Sources of rows

A source hands out rows one after the other until it runs dry; handing out a row may fail. The
shape of a source says how columns are found in its rows.

## Main definitions

* `TypedRows.RowShape` — how columns are found in rows.
* `TypedRows.RowSource` — the operations of a source.
* `TypedRows.FiniteRowSource` — the sources that are known to run dry.
* `TypedRows.RowQueue` — the source that hands out given rows.
-/

set_option autoImplicit false

namespace TypedRows

/-- How columns are found in the rows of a source. -/
inductive RowShape where
  /-- The cell of a column is the field at its position. -/
  | positional
  /-- The cell of a column is the field of its name. -/
  | keyed
  /-- Every row is a single cell. -/
  | single
  deriving DecidableEq, Repr

/-- A source of rows: each step gives the next row, or nothing once there are no more rows. -/
class RowSource (σ : Type) where
  nextRow : σ → Except Error (Option LocalValue) × σ
  close : σ → σ
  shape : σ → RowShape

/-- A source that is known to run dry: every row leaves fewer rows to come. -/
class FiniteRowSource (σ : Type) extends RowSource σ where
  remaining : σ → Nat
  remaining_nextRow : ∀ s row, (nextRow s).1 = .ok (some row) →
    remaining (nextRow s).2 < remaining s

/-- The rows that a source has still to hand out, and how columns are found in them. -/
structure RowQueue where
  rows : List LocalValue
  shape : RowShape

namespace RowQueue

/-- Rows that are lists of cells. -/
def ofLists (rows : List (List LocalValue)) : RowQueue :=
  ⟨rows.map .list, .positional⟩

/-- Rows of named cells, which are found by position. -/
def ofRecords (rows : List (List (String × LocalValue))) : RowQueue :=
  ⟨rows.map .record, .positional⟩

/-- Rows of named cells, which are found by name. Of cells with one name the last is kept. -/
def ofMaps (rows : List (List (String × LocalValue))) : RowQueue :=
  ⟨rows.map fun row => .record (Fields.sorted row), .keyed⟩

/-- Rows that are a single cell each. -/
def ofValues (rows : List LocalValue) : RowQueue :=
  ⟨rows, .single⟩

/-- The next row, which leaves the queue. -/
def nextRow (q : RowQueue) : Except Error (Option LocalValue) × RowQueue :=
  match q.rows with
  | [] => (.ok none, q)
  | row :: rest => (.ok (some row), { q with rows := rest })

instance : FiniteRowSource RowQueue where
  nextRow := nextRow
  close q := { q with rows := [] }
  shape := shape
  remaining q := q.rows.length
  remaining_nextRow q row h := by
    unfold nextRow at h ⊢
    split at h <;> simp_all

end RowQueue

end TypedRows
