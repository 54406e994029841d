import TypedRows.Row.Cursor

/-!
# Result sets

A result set is a cursor together with the readers of its columns.

## Main definitions

* `TypedRows.ResultSet`
* `TypedRows.ResultSet.object`, `TypedRows.ResultSet.text` — read one column of the row.
* `TypedRows.ResultSet.collect` — the client values of every row that is left.
-/

set_option autoImplicit false

namespace TypedRows

/-- A cursor with the readers of its columns. -/
structure ResultSet (σ : Type) where
  cursor : Cursor σ
  readers : List CellReader

namespace ResultSet

variable {σ : Type}

/-- The result set over a source with the given columns. -/
def new [RowSource σ] (source : σ) (columns : List Column)
    (zone elementZone : Option Calendar.Zone) : ResultSet σ :=
  let cursor := Cursor.new source
  ⟨cursor, cursor.readers columns zone elementZone⟩

/-- The columns. -/
def columns (s : ResultSet σ) : List Column := s.readers.map (·.column)

/-- Moves to the next row. -/
def next [RowSource σ] (s : ResultSet σ) : Except Error Bool × ResultSet σ :=
  let (moved, cursor) := s.cursor.next
  (moved, { s with cursor })

/-- Releases the source. -/
def close [RowSource σ] (s : ResultSet σ) : ResultSet σ :=
  { s with cursor := s.cursor.close }

/-- The reader of a column. -/
def reader (s : ResultSet σ) (index : Nat) : Except Error CellReader :=
  match s.readers[index]? with
  | some r => .ok r
  | none => .error (.of (.column index s.readers.length))

/-- Reads a column of the row. -/
def read {α : Type} (s : ResultSet σ) (index : Nat)
    (convert : CellReader → LocalValue → Except Error α) : Except Error α × ResultSet σ :=
  match s.reader index with
  | .error e => (.error e, s)
  | .ok r =>
    let (outcome, cursor) := s.cursor.read r (convert r)
    (outcome, { s with cursor })

/-- The client value of a column. -/
def object [Calendar.Platform] (s : ResultSet σ) (index : Nat) :
    Except Error ClientValue × ResultSet σ :=
  s.read index CellReader.object

/-- The text of a column. -/
def text [Calendar.Platform] (s : ResultSet σ) (index : Nat) :
    Except Error (Option String) × ResultSet σ :=
  s.read index CellReader.text

/-! ## Whole rows -/

/-- The client values of the given columns in the row that a cursor stands on, up to the first
one that fails. -/
def readAll [Calendar.Platform] (cursor : Cursor σ) :
    List CellReader → Except Error (List ClientValue) × Cursor σ
  | [] => (.ok [], cursor)
  | r :: rest =>
    match cursor.read r r.object with
    | (.error e, cursor) => (.error e, cursor)
    | (.ok v, cursor) =>
      let (values, cursor) := readAll cursor rest
      (values.map (v :: ·), cursor)

/-- Reading cells leaves the source as it is. -/
theorem source_readAll [Calendar.Platform] (cursor : Cursor σ) (readers : List CellReader) :
    (readAll cursor readers).2.source = cursor.source := by
  induction readers generalizing cursor with
  | nil => rfl
  | cons r rest ih =>
    have h : (cursor.read r r.object).2.source = cursor.source := by
      unfold Cursor.read; split <;> rfl
    unfold readAll
    split
    · next heq => rw [heq] at h; exact h
    · next heq => rw [heq] at h; exact (ih _).trans h

/-- A row that comes leaves fewer rows to come. -/
theorem remaining_next [FiniteRowSource σ] {cursor moved : Cursor σ}
    (h : cursor.next = (.ok true, moved)) :
    FiniteRowSource.remaining moved.source < FiniteRowSource.remaining cursor.source := by
  unfold Cursor.next at h
  split at h
  · simp at h
  · simp at h
  all_goals
    split at h
    · next row source heq =>
      have := FiniteRowSource.remaining_nextRow cursor.source row (by rw [heq])
      rw [heq] at this
      simp only [Prod.mk.injEq, true_and] at h
      exact h ▸ this
    · simp at h
    · simp at h

/-- The client values of every row that is left. The first row or cell that fails ends it. -/
def collect [Calendar.Platform] [FiniteRowSource σ] (s : ResultSet σ) :
    Except Error (List (List ClientValue)) × ResultSet σ :=
  match _moved : s.cursor.next with
  | (.error e, cursor) => (.error e, { s with cursor })
  | (.ok false, cursor) => (.ok [], { s with cursor })
  | (.ok true, cursor) =>
    match _read : readAll cursor s.readers with
    | (.error e, cursor) => (.error e, { s with cursor })
    | (.ok row, cursor') =>
      let (rows, s) := collect { s with cursor := cursor' }
      (rows.map (row :: ·), s)
termination_by FiniteRowSource.remaining s.cursor.source
decreasing_by
  have hs := source_readAll cursor s.readers
  rw [_read] at hs
  simp only at hs
  rw [hs]
  exact remaining_next _moved

end ResultSet

end TypedRows
