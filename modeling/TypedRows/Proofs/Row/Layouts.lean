import TypedRows.Proofs.Row.Binding

/-!
# Layouts of rows

The same rows may be lists of cells, records with a field for every column, or maps from the names
of the columns. Cells are found by position in the first two and by name in maps, whose fields
stand in the order of their names. As long as no name repeats, the reader of a column reads the
same value in every layout, also when columns were asked for in another order or more than once.

## Main definitions

* `TypedRows.RowLayout` — lists, records and maps; `TypedRows.RowLayout.queue` — rows laid out.
* `TypedRows.Getter` — the kinds that a cell can be read as.
* `TypedRows.RowLayout.Serves` — a reader reads the values of a column at a position.

## Main results

* `TypedRows.Fields.get?_sorted` — sorted fields keep the last value of every name.
* `TypedRows.RowLayout.cell_row` — every layout has the cell of a column in its place.
* `TypedRows.Projection.selected_of_deduce`, `TypedRows.Projection.deduce_eq_error_iff` — the
  columns that are found for names, and the name that none is found for.
* `TypedRows.RowLayout.readers_serve_columns` — readers in all layouts.
-/

set_option autoImplicit false

namespace TypedRows

/-! ## Fields by name -/

namespace Fields

variable {α : Type} {fields : List (String × α)} {name : String}

/-- The first field of a name, by the first field of all. -/
lemma get?_cons (name : String) (field : String × α) (fields : List (String × α)) :
    get? name (field :: fields) = if field.1 = name then some field.2 else get? name fields := by
  by_cases h : field.1 = name <;> simp [get?, h]

/-- The first field of a name in one list or else in the other. -/
lemma get?_append (name : String) (fields rest : List (String × α)) :
    get? name (fields ++ rest) = (get? name fields).or (get? name rest) := by
  rw [get?, List.find?_append, get?, get?]
  cases fields.find? (·.1 == name) <;> rfl

/-- A field that is put into its place is found by its name. -/
lemma get?_insert (name key : String) (x : α) (fields : List (String × α)) :
    get? name (insert key x fields) = if key = name then some x else get? name fields := by
  induction fields with
  | nil => rw [insert, get?_cons]
  | cons field fields ih =>
    obtain ⟨n, v⟩ := field
    rw [insert]
    split_ifs with hlt heq hname hname <;> simp only [get?_cons, ih] <;> split_ifs <;> simp_all

/-- **Sorted fields keep the last value of every name.** -/
theorem get?_sorted (name : String) (fields : List (String × α)) :
    get? name (sorted fields) = get? name fields.reverse := by
  have hfold (acc : List (String × α)) :
      get? name (fields.foldl (fun acc field => insert field.1 field.2 acc) acc)
        = (get? name fields.reverse).or (get? name acc) := by
    induction fields generalizing acc with
    | nil => rfl
    | cons field fields ih =>
      rw [List.foldl_cons, ih, get?_insert, List.reverse_cons, get?_append, Option.or_assoc,
        get?_cons]
      split_ifs <;> rfl
  rw [sorted, hfold]
  exact Option.or_none

/-- A field is found by its name when no name repeats. -/
lemma get?_eq_some_of_mem {x : α} (hnames : (fields.map (·.1)).Nodup) (h : (name, x) ∈ fields) :
    get? name fields = some x := by
  induction fields with
  | nil => cases h
  | cons field fields ih =>
    rw [List.map_cons, List.nodup_cons] at hnames
    rw [get?_cons]
    rcases List.mem_cons.1 h with rfl | h
    · exact if_pos rfl
    · rw [if_neg, ih hnames.2 h]
      rintro rfl
      exact hnames.1 (List.mem_map.2 ⟨_, h, rfl⟩)

/-- So it is in the order of the names. -/
lemma get?_sorted_eq_some_of_mem {x : α} (hnames : (fields.map (·.1)).Nodup)
    (h : (name, x) ∈ fields) : get? name (sorted fields) = some x := by
  rw [get?_sorted]
  refine get?_eq_some_of_mem ?_ (List.mem_reverse.2 h)
  rw [List.map_reverse]
  exact List.nodup_reverse.2 hnames

end Fields

/-! ## Rows in their layouts -/

/-- The layouts of rows. -/
inductive RowLayout where
  | lists | records | maps
  deriving DecidableEq, Repr

namespace RowLayout

variable {names : List String} {values : List LocalValue}

/-- How columns are found in the rows of a layout. -/
def shape : RowLayout → RowShape
  | lists | records => .positional
  | maps => .keyed

/-- The row of some values, which are named where the layout has names. -/
def row (names : List String) (values : List LocalValue) : RowLayout → LocalValue
  | lists => .list values
  | records => .record (names.zip values)
  | maps => .record (Fields.sorted (names.zip values))

/-- The source of some rows. -/
def queue (names : List String) (rows : List (List LocalValue)) : RowLayout → RowQueue
  | lists => .ofLists rows
  | records => .ofRecords (rows.map names.zip)
  | maps => .ofMaps (rows.map names.zip)

/-- A queue of rows in a layout hands out the rows as the layout has them. -/
lemma queue_eq (layout : RowLayout) (names : List String) (rows : List (List LocalValue)) :
    layout.queue names rows = ⟨rows.map (layout.row names), layout.shape⟩ := by
  cases layout with
  | lists => rfl
  | records | maps =>
    simp only [queue, RowQueue.ofRecords, RowQueue.ofMaps, List.map_map]
    rfl

/-- Where the cell of a named column at a position stands. -/
def selector (layout : RowLayout) (name : String) (k : Nat) : Selector :=
  match layout.shape with
  | .keyed => .field name
  | .positional | .single => .position k

/-- **Every layout has the cell of a column in its place.** -/
theorem cell_row (layout : RowLayout) (hnames : names.Nodup) (hlength : values.length = names.length)
    {k : Nat} {name : String} {v : LocalValue} (hname : names[k]? = some name)
    (hv : values[k]? = some v) : (layout.selector name k).cell (layout.row names values) = .ok v := by
  have hfields : (names.zip values).map (·.1) = names := List.map_fst_zip (Nat.le_of_eq hlength.symm)
  have hfield : (names.zip values)[k]? = some (name, v) :=
    List.getElem?_zip_eq_some.2 ⟨hname, hv⟩
  cases layout with
  | lists => simp only [selector, shape, row, Selector.cell, LocalValue.fields?, hv]
  | records =>
    simp only [selector, shape, row, Selector.cell, LocalValue.fields?, List.getElem?_map, hfield,
      Option.map_some]
  | maps =>
    change Except.ok ((Fields.get? name (Fields.sorted (names.zip values))).getD .null) = _
    rw [Fields.get?_sorted_eq_some_of_mem (by rwa [hfields]) (List.mem_of_getElem? hfield)]
    rfl

end RowLayout

/-! ## Cursors over queues -/

namespace Cursor

/-- A cursor after some moves. -/
def advanced {σ : Type} [RowSource σ] (c : Cursor σ) : (moves : Nat) → Cursor σ
  | 0 => c
  | moves + 1 => advanced c.next.2 moves

variable {c : Cursor RowQueue}

/-- A move leaves the shape of the rows as it is. -/
lemma shape_next (c : Cursor RowQueue) : c.next.2.source.shape = c.source.shape := by
  obtain ⟨⟨rows, shape⟩, phase, position, current, wasNull⟩ := c
  cases phase <;> cases rows <;> rfl

/-- Moving does not change the shape of rows. -/
lemma shape_advanced (c : Cursor RowQueue) (moves : Nat) :
    (c.advanced moves).source.shape = c.source.shape := by
  induction moves generalizing c with
  | zero => rfl
  | succ moves ih => exact (ih c.next.2).trans c.shape_next

/-- A cursor that may still move stands on the rows to come one after the other. -/
lemma row_advanced {n : Nat} {v : LocalValue} (hopen : c.phase = .unopened ∨ c.phase = .iterating)
    (h : c.source.rows[n]? = some v) : (c.advanced (n + 1)).row = .ok v := by
  obtain ⟨⟨rows, shape⟩, phase, position, current, wasNull⟩ := c
  induction n generalizing rows phase position current with
  | zero =>
    cases rows with
    | nil => cases h
    | cons w rows =>
      obtain rfl : w = v := Option.some.inj h
      obtain rfl | rfl := hopen <;> rfl
  | succ n ih =>
    cases rows with
    | nil => cases h
    | cons w rows =>
      have hnext := ih .iterating (position + 1) (some w) rows (.inr rfl) h
      obtain rfl | rfl := hopen <;> exact hnext

end Cursor

namespace RowLayout

variable {native : List Column} {rows : List (List LocalValue)}
  {zone elementZone : Option Calendar.Zone}

/-- A cursor, after some moves, over rows with a value for every column. -/
def cursor (layout : RowLayout) (native : List Column) (rows : List (List LocalValue))
    (moves : Nat) : Cursor RowQueue :=
  (Cursor.new (layout.queue (native.map (·.name)) rows)).advanced moves

/-- The rows of a cursor have the shape of their layout. -/
lemma shape_cursor (layout : RowLayout) (native : List Column) (rows : List (List LocalValue))
    (moves : Nat) : RowSource.shape (layout.cursor native rows moves).source = layout.shape := by
  change (layout.cursor native rows moves).source.shape = layout.shape
  rw [cursor, Cursor.shape_advanced, Cursor.new, queue_eq]

/-- After its moves a cursor is on the row of their number. -/
lemma row_cursor (layout : RowLayout) (native : List Column) {n : Nat} {values : List LocalValue}
    (h : rows[n]? = some values) :
    (layout.cursor native rows (n + 1)).row
      = .ok (layout.row (native.map (·.name)) values) := by
  refine Cursor.row_advanced (.inl rfl) ?_
  rw [Cursor.new, queue_eq, List.getElem?_map, h]
  rfl

/-! ## Readers -/

/-- The readers of columns find their cells where the layout has them. -/
lemma readers_cursor (layout : RowLayout) (columns : List Column) (moves : Nat) :
    (layout.cursor native rows moves).readers columns zone elementZone
      = columns.zipIdx.map fun (column, i) =>
        ⟨column, layout.selector column.name i, zone, elementZone⟩ := by
  rw [Cursor.readers, shape_cursor]
  cases layout <;> rfl

/-- So do the readers of a projection. -/
lemma projectedReaders_cursor (layout : RowLayout) (p : Projection) (columns : List Column)
    (moves : Nat) :
    (layout.cursor native rows moves).projectedReaders p columns zone elementZone
      = (p.selected columns).zipIdx.map fun ((k, column), i) =>
        ⟨{ column with ordinal := i }, layout.selector column.name k, zone, elementZone⟩ := by
  rw [Cursor.projectedReaders, shape_cursor]
  cases layout <;> rfl

end RowLayout

/-! ## Getters -/

/-- The kinds that a cell can be read as. Dates and times are read in a zone of their own. -/
inductive Getter where
  | object | bool | byte | short | int | long | float | double | decimal | text | bytes
  | date (zone : Option Calendar.Zone)
  | time (zone : Option Calendar.Zone)
  | timestamp (zone : Option Calendar.Zone)
  | array | struct

namespace Getter

/-- What a getter answers. -/
def Answer : Getter → Type
  | object => ClientValue
  | bool => Option Bool
  | byte => Option Int8
  | short => Option Int16
  | int => Option Int32
  | long => Option Int64
  | float => Option Binary32
  | double => Option Binary64
  | decimal => Option Decimal
  | text => Option String
  | bytes => Option (List UInt8)
  | date _ | time _ => Option Int64
  | timestamp _ => Option SqlTimestamp
  | array => Option ArrayValue
  | struct => Option StructValue

variable [Calendar.Platform]

/-- What a getter makes of a cell of a reader. -/
def answer (r : CellReader) : (g : Getter) → LocalValue → Except Error g.Answer
  | object => r.object
  | bool => r.bool
  | byte => r.byte
  | short => r.short
  | int => r.int
  | long => r.long
  | float => r.float
  | double => r.double
  | decimal => r.decimal
  | text => r.text
  | bytes => r.bytes
  | date zone => r.date zone
  | time zone => r.time zone
  | timestamp zone => r.timestamp zone
  | array => r.array
  | struct => r.struct

/-- What a getter makes of a cell of a column, wherever the cell stands. -/
def outcome (g : Getter) (column : Column) (zone elementZone : Option Calendar.Zone) :
    LocalValue → Except Error g.Answer :=
  g.answer ⟨column, .row, zone, elementZone⟩

/-- What a getter answers is what comes of it on the cell. -/
lemma answer_eq_outcome (g : Getter) (column : Column) (s : Selector)
    (zone elementZone : Option Calendar.Zone) :
    g.answer ⟨column, s, zone, elementZone⟩ = g.outcome column zone elementZone := by
  cases g <;> rfl

end Getter

/-! ## Projections -/

namespace Projection

variable {requested : List String} {native : List Column} {p : Projection}

/-- The position of the column that is found for a name. -/
def position (native : List Column) (name : String) : Except Error Nat :=
  match native.findIdx? (·.name == name) with
  | some i => .ok i
  | none => .error (.of (.unknownField name))

/-- A projection is deduced name by name. -/
lemma deduce_eq_map (requested : List String) (native : List Column) :
    deduce requested native = Projection.mk <$> requested.mapM (position native) := by
  rw [map_eq_pure_bind]
  rfl

/-- The position of a name is that of a column of the name. -/
lemma exists_of_position {name : String} {k : Nat} (h : position native name = .ok k) :
    ∃ column, native[k]? = some column ∧ column.name = name := by
  rw [position] at h
  split at h
  · next i hi =>
    obtain rfl := Except.ok.inj h
    obtain ⟨hlt, hname, -⟩ := List.findIdx?_eq_some_iff_getElem.1 hi
    exact ⟨_, List.getElem?_eq_getElem hlt, by simpa using hname⟩
  · cases h

/-- No column is found for a name exactly when no column has it. -/
lemma position_eq_error_iff {name : String} {e : Error} : position native name = .error e
    ↔ name ∉ native.map (·.name) ∧ e = .of (.unknownField name) := by
  have hnone : native.findIdx? (·.name == name) = none ↔ name ∉ native.map (·.name) := by
    simp [List.findIdx?_eq_none_iff]
  rw [position, ← hnone]
  cases native.findIdx? (·.name == name) <;> simp [eq_comm]

/-- The names that have a position are those of the columns. -/
lemma exists_position_iff {name : String} :
    (∃ k, position native name = .ok k) ↔ name ∈ native.map (·.name) := by
  cases h : position native name with
  | ok k =>
    obtain ⟨column, hcolumn, hname⟩ := exists_of_position h
    exact iff_of_true ⟨k, rfl⟩ (List.mem_map.2 ⟨column, List.mem_of_getElem? hcolumn, hname⟩)
  | error e => exact iff_of_false nofun (position_eq_error_iff.1 h).1

/-- Names are found exactly when columns have them all. -/
lemma exists_deduce_iff :
    (∃ p, deduce requested native = .ok p) ↔ ∀ n ∈ requested, n ∈ native.map (·.name) := by
  have hwalk : (∃ p, deduce requested native = .ok p)
      ↔ ∃ ks, requested.mapM (position native) = .ok ks := by
    rw [deduce_eq_map]
    cases requested.mapM (position native) <;> simp
  rw [hwalk, exists_mapM_eq_ok_iff]
  simp only [exists_position_iff]

/-- **The first name that no column has is reported.** -/
theorem deduce_eq_error_iff {e : Error} : deduce requested native = .error e
    ↔ ∃ before name after, requested = before ++ name :: after
      ∧ (∀ n ∈ before, n ∈ native.map (·.name)) ∧ name ∉ native.map (·.name)
      ∧ e = .of (.unknownField name) := by
  have hwalk : deduce requested native = .error e
      ↔ requested.mapM (position native) = .error e := by
    rw [deduce_eq_map]
    cases requested.mapM (position native) <;> simp
  rw [hwalk, mapM_eq_error_iff]
  simp only [exists_position_iff, position_eq_error_iff]

/-- **The columns that a projection selects** are those that were asked for, one by one. -/
theorem selected_of_deduce (h : deduce requested native = .ok p) :
    List.Forall₂ (fun name s => native[s.1]? = some s.2 ∧ s.2.name = name) requested
      (p.selected native) := by
  rw [deduce_eq_map] at h
  obtain ⟨ordinals, hordinals, rfl⟩ := map_eq_ok_iff.1 h
  rw [mapM_eq_ok_iff] at hordinals
  rw [selected]
  clear h
  induction hordinals with
  | nil => exact .nil
  | @cons name k names ks hk _ ih =>
    obtain ⟨column, hcolumn, hname⟩ := exists_of_position hk
    rw [List.filterMap_cons_some (by rw [hcolumn]; rfl)]
    exact .cons ⟨hcolumn, hname⟩ ih

end Projection

/-! ## Readers in all layouts -/

namespace RowLayout

section

variable [Calendar.Platform]

/-- A reader carries a column and reads, in every row of a layout, the value at a position. What a
getter answers is what it makes of that value under the column, the same in every layout. -/
structure Serves (layout : RowLayout) (native : List Column) (rows : List (List LocalValue))
    (zone elementZone : Option Calendar.Zone) (r : CellReader) (column : Column) (k : Nat) :
    Prop where
  carries : r.column = column
  reads : ∀ n values, rows[n]? = some values → ∃ v, values[k]? = some v
    ∧ (layout.cursor native rows (n + 1)).Reads r v
    ∧ ∀ g : Getter, ((layout.cursor native rows (n + 1)).read r (g.answer r)).1
      = g.outcome column zone elementZone v

variable {native : List Column} {rows : List (List LocalValue)}
  {zone elementZone : Option Calendar.Zone}

/-- A reader that finds its cells where the layout has those of a native column. -/
lemma serves_of_selector (layout : RowLayout) (hnames : (native.map (·.name)).Nodup)
    (hrows : ∀ values ∈ rows, values.length = native.length) {k : Nat} {own : Column}
    (hown : native[k]? = some own) (column : Column) :
    layout.Serves native rows zone elementZone
      ⟨column, layout.selector own.name k, zone, elementZone⟩ column k := by
  refine ⟨rfl, fun n values hn => ?_⟩
  have hlength := hrows values (List.mem_of_getElem? hn)
  obtain ⟨v, hv⟩ : ∃ v, values[k]? = some v := by
    obtain ⟨hlt, -⟩ := List.getElem?_eq_some_iff.1 hown
    exact ⟨_, List.getElem?_eq_getElem (Nat.lt_of_lt_of_eq hlt hlength.symm)⟩
  have hname : (native.map (·.name))[k]? = some own.name := by
    rw [List.getElem?_map, hown]
    rfl
  have hcell := layout.cell_row hnames (by rw [List.length_map, hlength]) hname hv
  have hreads : (layout.cursor native rows (n + 1)).Reads
      ⟨column, layout.selector own.name k, zone, elementZone⟩ v := by
    refine Cursor.reads_of_cell ?_
    rw [layout.row_cursor native hn]
    exact congrArg (within column.place) hcell
  refine ⟨v, hv, hreads, fun g => ?_⟩
  rw [hreads, g.answer_eq_outcome]

/-- The readers of a projection, one for every name that was asked for. -/
lemma projectedReaders_serve (layout : RowLayout) (hnames : (native.map (·.name)).Nodup)
    (hrows : ∀ values ∈ rows, values.length = native.length) {requested : List String}
    {p : Projection} (hp : Projection.deduce requested native = .ok p) (moves : Nat) {i : Nat}
    {name : String} (hi : requested[i]? = some name) : ∃ k own r, native[k]? = some own
      ∧ own.name = name
      ∧ ((layout.cursor native rows moves).projectedReaders p native zone elementZone)[i]? = some r
      ∧ layout.Serves native rows zone elementZone r { own with ordinal := i } k := by
  obtain ⟨⟨k, own⟩, hs, hown, hname⟩ := getElem?_of_forall₂ (Projection.selected_of_deduce hp) hi
  refine ⟨k, own, _, hown, hname, ?_, layout.serves_of_selector hnames hrows hown _⟩
  rw [projectedReaders_cursor, List.getElem?_map, List.getElem?_zipIdx, hs]
  simp

/-- The readers of all columns, one for every column. -/
lemma readers_serve (layout : RowLayout) (hnames : (native.map (·.name)).Nodup)
    (hrows : ∀ values ∈ rows, values.length = native.length) (moves : Nat) {k : Nat} {own : Column}
    (hown : native[k]? = some own) : ∃ r,
      ((layout.cursor native rows moves).readers native zone elementZone)[k]? = some r
      ∧ layout.Serves native rows zone elementZone r own k := by
  refine ⟨_, ?_, layout.serves_of_selector hnames hrows hown own⟩
  rw [readers_cursor, List.getElem?_map, List.getElem?_zipIdx, hown]
  simp

/-- **The layout of rows does not matter**, as long as no name of a column repeats. A request fails
when some name in it is that of no column, and with the first such name. Otherwise there is one
reader for every name, which carries the column of the name and reads its values in every layout,
however far the cursor had moved when the readers were made; and so it is for the readers of all
columns. -/
theorem readers_serve_columns (native : List Column) (hnames : (native.map (·.name)).Nodup)
    (rows : List (List LocalValue)) (hrows : ∀ values ∈ rows, values.length = native.length)
    (zone elementZone : Option Calendar.Zone) :
    (∀ requested, (∃ p, Projection.deduce requested native = .ok p)
      ↔ ∀ n ∈ requested, n ∈ native.map (·.name))
    ∧ (∀ requested e, Projection.deduce requested native = .error e
      ↔ ∃ before name after, requested = before ++ name :: after
        ∧ (∀ n ∈ before, n ∈ native.map (·.name)) ∧ name ∉ native.map (·.name)
        ∧ e = .of (.unknownField name))
    ∧ (∀ requested p, Projection.deduce requested native = .ok p →
      ∀ (layout : RowLayout) (moves : Nat),
        ((layout.cursor native rows moves).projectedReaders p native zone elementZone).length
          = requested.length
        ∧ ∀ (i : Nat) (name : String), requested[i]? = some name →
          ∃ k own r, native[k]? = some own ∧ own.name = name
            ∧ ((layout.cursor native rows moves).projectedReaders p native zone elementZone)[i]?
              = some r
            ∧ layout.Serves native rows zone elementZone r { own with ordinal := i } k)
    ∧ ∀ (layout : RowLayout) (moves : Nat),
      ((layout.cursor native rows moves).readers native zone elementZone).length = native.length
      ∧ ∀ (k : Nat) (own : Column), native[k]? = some own →
        ∃ r, ((layout.cursor native rows moves).readers native zone elementZone)[k]? = some r
          ∧ layout.Serves native rows zone elementZone r own k := by
  refine ⟨fun requested => Projection.exists_deduce_iff,
    fun requested e => Projection.deduce_eq_error_iff, fun requested p hp layout moves => ?_,
    fun layout moves => ?_⟩
  · refine ⟨?_, fun i name hi => layout.projectedReaders_serve hnames hrows hp moves hi⟩
    rw [projectedReaders_cursor, List.length_map, List.length_zipIdx]
    exact (Projection.selected_of_deduce hp).length_eq.symm
  · refine ⟨?_, fun k own hown => layout.readers_serve hnames hrows moves hown⟩
    rw [readers_cursor, List.length_map, List.length_zipIdx]

end

section

attribute [local instance] Calendar.Platform.utc

/-- Two columns that are asked for in another order, one of them twice. -/
theorem readers_serve_reordered_columns :
    let native : List Column := [.new 0 "id" (.scalar .long), .new 1 "name" (.scalar .string)]
    let rows : List (List LocalValue) := [[.long 7, .string "x"]]
    ∃ p, Projection.deduce ["name", "id", "name"] native = .ok p
      ∧ ∀ layout : RowLayout, ∃ r,
        ((layout.cursor native rows 0).projectedReaders p native none none)[2]? = some r
        ∧ r.column = .new 2 "name" (.scalar .string)
        ∧ ((layout.cursor native rows 1).read r (Getter.text.answer r)).1 = .ok (some "x") := by
  intro native rows
  have hserve := (readers_serve_columns native (by decide) rows (by decide) none none).2.2.1
    ["name", "id", "name"] ⟨[1, 0, 1]⟩ rfl
  refine ⟨⟨[1, 0, 1]⟩, rfl, fun layout => ?_⟩
  obtain ⟨k, own, r, hown, hname, hr, hserves⟩ := (hserve layout 0).2 2 "name" rfl
  -- the second column is the only one of this name
  obtain rfl : k = 1 := by
    match k, hown with
    | 0, h =>
      obtain rfl := Option.some.inj h
      exact absurd hname (by decide)
    | 1, _ => rfl
  obtain rfl := Option.some.inj hown
  obtain ⟨v, hv, -, hget⟩ := hserves.reads 0 [.long 7, .string "x"] rfl
  obtain rfl := Option.some.inj hv
  exact ⟨r, hr, hserves.carries, hget .text⟩

end

end RowLayout

end TypedRows
