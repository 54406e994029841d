import TypedRows.Row.CellReader
import TypedRows.Row.Source

/-!
# Cursors

A cursor walks over the rows of a source and stands on one of them at a time. Cells are read
from the row it stands on, and the cursor remembers whether the last cell was null.

## Main definitions

* `TypedRows.Cursor` — a source with the position in it.
* `TypedRows.Cursor.next`, `TypedRows.Cursor.close` — the moves.
* `TypedRows.Cursor.read` — reads a cell of the row that the cursor stands on.
* `TypedRows.Cursor.readers`, `TypedRows.Cursor.projectedReaders` — the readers of columns.
-/

set_option autoImplicit false

namespace TypedRows

/-- Where a cursor stands with regard to its rows. -/
inductive CursorPhase where
  | unopened | iterating | exhausted | closed
  deriving DecidableEq, Repr

/-- A position over the rows of a source: how many rows it has met, the row it stands on, and
whether the cell read last was null. -/
structure Cursor (σ : Type) where
  source : σ
  phase : CursorPhase
  position : Nat
  current : Option LocalValue
  wasNull : Bool

namespace Cursor

variable {σ : Type}

/-- A cursor before the first row of a source. -/
def new (source : σ) : Cursor σ := ⟨source, .unopened, 0, none, false⟩

/-! ## Moves -/

/-- Moves to the next row, and tells whether there is one. After the last row the source is not
asked any more; a row that fails to come leaves the cursor where it stands. -/
def next [RowSource σ] (c : Cursor σ) : Except Error Bool × Cursor σ :=
  match c.phase with
  | .closed => (.error (.of (.cursor .closed)), c)
  | .exhausted => (.ok false, c)
  | .unopened | .iterating =>
    match RowSource.nextRow c.source with
    | (.ok (some row), source) =>
      (.ok true, { c with
        source, phase := .iterating, position := c.position + 1, current := some row })
    | (.ok none, source) => (.ok false, { c with source, phase := .exhausted, current := none })
    | (.error e, source) => (.error e, { c with source })

/-- Releases the source, once. -/
def close [RowSource σ] (c : Cursor σ) : Cursor σ :=
  if c.phase = .closed then c
  else { c with source := RowSource.close c.source, phase := .closed, current := none }

/-! ## Reading -/

/-- The row that the cursor stands on. -/
def row (c : Cursor σ) : Except Error LocalValue :=
  match c.phase, c.current with
  | .iterating, some row => .ok row
  | .unopened, _ => .error (.of (.cursor .notPositioned))
  | .closed, _ => .error (.of (.cursor .closed))
  | _, _ => .error (.of (.cursor .exhausted))

/-- Reads the cell of a column in the row that the cursor stands on. The cell is remembered as
null or not before it is converted. -/
def read {α : Type} (c : Cursor σ) (r : CellReader) (convert : LocalValue → Except Error α) :
    Except Error α × Cursor σ :=
  match c.row.bind r.cell with
  | .ok v => (convert v, { c with wasNull := v.isNull })
  | .error e => (.error e, c)

/-! ## Readers -/

/-- Readers of columns, the cells of which stand in the order of the columns. -/
def readers [RowSource σ] (c : Cursor σ) (columns : List Column)
    (zone elementZone : Option Calendar.Zone) : List CellReader :=
  columns.zipIdx.map fun (column, i) =>
    let selector := match RowSource.shape c.source with
      | .positional => .position i
      | .keyed => .field column.name
      | .single => .row
    ⟨column, selector, zone, elementZone⟩

/-- Readers of the columns that a projection selects out of those of a row. They are numbered
in the order of the selection. -/
def projectedReaders [RowSource σ] (c : Cursor σ) (projection : Projection)
    (native : List Column) (zone elementZone : Option Calendar.Zone) : List CellReader :=
  (projection.selected native).zipIdx.map fun ((ordinal, column), i) =>
    let selector := match RowSource.shape c.source with
      | .keyed => .field column.name
      | .positional | .single => .position ordinal
    ⟨{ column with ordinal := i }, selector, zone, elementZone⟩

end Cursor

end TypedRows
