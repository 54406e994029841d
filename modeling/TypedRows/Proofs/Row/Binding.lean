import Mathlib.Data.List.Nodup
import Mathlib.Data.Nat.Find
import TypedRows.Proofs.Json.Reading
import TypedRows.Row.Cursor
import TypedRows.Row.JsonRows

/-!
# The columns of JSON rows and their readers

A JSON row that is an array is read item by item, each under the column at its position, and handed
out as a record of named fields. The readers of the columns find their fields by name. Each reader
therefore reads the item of the first column of its name, which is its own item for all readers
exactly when no name repeats.

## Main definitions

* `TypedRows.Cursor.OnArrayRow` — a cursor that has moved onto a row written as an array.
* `TypedRows.Cursor.Reads` — the local value that a reader reads at a cursor.

## Main results

* `TypedRows.JsonRows.field_of_decodeFields` — a row is read column by column.
* `TypedRows.Fields.get?_eq_some_of_first` — a field is found by its name when it is the first.
* `TypedRows.Cursor.reads_by_position_iff` — which items the readers of columns read.
-/

set_option autoImplicit false

namespace TypedRows

/-! ## Fields by position and by name -/

/-- A field is found by its name when no field before it has the name. -/
lemma Fields.get?_eq_some_of_first {α : Type} {fields : List (String × α)} {i : Nat}
    {name : String} {x : α} (h : fields[i]? = some (name, x))
    (hfirst : ∀ j < i, (fields[j]?).map (·.1) ≠ some name) : get? name fields = some x := by
  obtain ⟨hi, hx⟩ := List.getElem?_eq_some_iff.1 h
  have hfind : fields.find? (·.1 == name) = some (name, x) := by
    refine List.find?_eq_some_iff_getElem.2 ⟨by simp, i, hi, hx, fun j hj => ?_⟩
    have hj' := hfirst j hj
    rw [List.getElem?_eq_getElem (Nat.lt_trans hj hi)] at hj'
    simpa using hj'
  rw [get?, hfind]
  rfl

namespace JsonRows

variable {row : JsonValue} {columns : List Column} {fields : List (String × LocalValue)}

/-- The field that a row has for the column at a position. -/
def decodeField (row : JsonValue) (column : Column) (index : Nat) :
    Except Error (String × LocalValue) := do
  let raw ← rawCell? row index column
  let value ← decodeCell column (raw.getD .null)
  return (column.name, value)

/-- A row is decoded by a walk along the numbered columns. -/
lemma decodeFields_eq_mapM (row : JsonValue) (index : Nat) (columns : List Column) :
    decodeFields row index columns
      = (columns.zipIdx index).mapM fun (column, i) => decodeField row column i := by
  induction columns generalizing index with
  | nil => rfl
  | cons column columns ih =>
    simp only [decodeFields, ih, List.zipIdx_cons, List.mapM_cons, decodeField, bind_assoc,
      pure_bind]

/-- A field has the name of its column and the value of the cell at its position. -/
lemma decodeField_eq_ok_iff {column : Column} {i : Nat} {field : String × LocalValue} :
    decodeField row column i = .ok field ↔ ∃ raw x, rawCell? row i column = .ok raw
      ∧ decodeCell column (raw.getD .null) = .ok x ∧ (column.name, x) = field := by
  simp only [decodeField, bind_eq_ok_iff, pure, Except.pure, Except.ok.injEq, exists_and_left]

/-- **A row is read column by column**: there is a field for every column, which has the name of
the column and the value of its cell. -/
theorem field_of_decodeFields (h : decodeFields row 0 columns = .ok fields) {i : Nat}
    {column : Column} (hi : columns[i]? = some column) :
    ∃ raw x, rawCell? row i column = .ok raw ∧ decodeCell column (raw.getD .null) = .ok x
      ∧ fields[i]? = some (column.name, x) := by
  rw [decodeFields_eq_mapM, mapM_eq_ok_iff] at h
  have hi' : columns.zipIdx[i]? = some (column, i) := by simp [hi]
  obtain ⟨field, hfield, hdecode⟩ := getElem?_of_forall₂ h hi'
  obtain ⟨raw, x, hraw, hx, rfl⟩ := decodeField_eq_ok_iff.1 hdecode
  exact ⟨raw, x, hraw, hx, hfield⟩

/-- The fields of a row have the names of the columns. -/
lemma names_of_decodeFields {index : Nat} (h : decodeFields row index columns = .ok fields) :
    fields.map (·.1) = columns.map (·.name) := by
  induction columns generalizing index fields with
  | nil =>
    obtain rfl := Except.ok.inj h
    rfl
  | cons column columns ih =>
    obtain ⟨raw, -, h⟩ := bind_eq_ok_iff.1 h
    obtain ⟨x, -, h⟩ := bind_eq_ok_iff.1 h
    obtain ⟨fields, hfields, h⟩ := bind_eq_ok_iff.1 h
    obtain rfl := Except.ok.inj h
    rw [List.map_cons, List.map_cons, ih hfields]

/-- A row can be read when the cells of all columns can. -/
lemma exists_decodeFields
    (h : ∀ i column, columns[i]? = some column →
      ∃ raw x, rawCell? row i column = .ok raw ∧ decodeCell column (raw.getD .null) = .ok x) :
    ∃ fields, decodeFields row 0 columns = .ok fields := by
  rw [decodeFields_eq_mapM, exists_mapM_eq_ok_iff]
  rintro ⟨column, i⟩ hmem
  obtain ⟨raw, x, hraw, hx⟩ := h i column (by simpa using List.mem_zipIdx_iff_getElem?.1 hmem)
  exact ⟨_, decodeField_eq_ok_iff.2 ⟨raw, x, hraw, hx, rfl⟩⟩

/-- The place of an error does not matter to what succeeds. -/
lemma within_eq_ok_iff {α : Type} {place : String} {outcome : Except Error α} {a : α} :
    within place outcome = .ok a ↔ outcome = .ok a := by
  cases outcome <;> simp [within]

/-- A row that is handed out is the record of the fields that were read of the next JSON row. -/
lemma exists_fields_of_nextRow {s s' : JsonRows} {v : LocalValue}
    (h : s.nextRow = (.ok (some v), s')) :
    ∃ row rest fields, s.rows = row :: rest ∧ decodeFields row 0 s.columns = .ok fields
      ∧ v = .record fields := by
  unfold nextRow at h
  split at h
  · cases h
  · next row rest hrows =>
    obtain ⟨w, hw, hv⟩ := map_eq_ok_iff.1 (within_eq_ok_iff.1 (Prod.mk.inj h).1)
    obtain ⟨fields, hfields, rfl⟩ := map_eq_ok_iff.1 hw
    exact ⟨row, rest, fields, hrows, hfields, (Option.some.inj hv).symm⟩

end JsonRows

/-! ## Readers at a row -/

namespace Cursor

/-- A reader reads a local value at a cursor, whatever it is converted to. -/
def Reads {σ : Type} (c : Cursor σ) (r : CellReader) (v : LocalValue) : Prop :=
  ∀ {α : Type} (convert : LocalValue → Except Error α),
    c.read r convert = (convert v, { c with wasNull := v.isNull })

/-- A cursor has moved onto a row that was written as an array, with an item for every column. -/
structure OnArrayRow (columns : List Column) (items : List JsonValue) (c moved : Cursor JsonRows) :
    Prop where
  columns_eq : c.source.columns = columns
  rows_eq : ∃ rest, c.source.rows = .array items :: rest
  length_le : columns.length ≤ items.length
  next_eq : c.next = (.ok true, moved)

variable {columns : List Column} {items : List JsonValue} {c moved : Cursor JsonRows}
  {zone elementZone : Option Calendar.Zone}

/-- A reader reads the cell that its selector finds. -/
lemma reads_of_cell {σ : Type} {c : Cursor σ} {r : CellReader} {v : LocalValue}
    (h : c.row.bind r.cell = .ok v) : c.Reads r v := by
  intro α convert
  rw [read, h]

/-- A reader reads one value. -/
lemma Reads.unique {σ : Type} {c : Cursor σ} {r : CellReader} {v w : LocalValue}
    (hv : c.Reads r v) (hw : c.Reads r w) : v = w := by
  have h := (hv Except.ok).symm.trans (hw Except.ok)
  exact Except.ok.inj (Prod.mk.inj h).1

/-- The readers of columns of JSON rows find their fields by name. -/
lemma getElem?_readers (c : Cursor JsonRows) (columns : List Column)
    (zone elementZone : Option Calendar.Zone) (i : Nat) :
    (c.readers columns zone elementZone)[i]?
      = columns[i]?.map fun column => ⟨column, .field column.name, zone, elementZone⟩ := by
  rw [readers, List.getElem?_map, List.getElem?_zipIdx, Option.map_map]
  rfl

/-- A cursor that has moved onto a row stands on the row that its source handed out. -/
lemma exists_row_of_next {σ : Type} [RowSource σ] {c moved : Cursor σ}
    (h : c.next = (.ok true, moved)) :
    ∃ row s, RowSource.nextRow c.source = (.ok (some row), s) ∧ moved.row = .ok row := by
  unfold next at h
  split at h
  · cases h
  · cases h
  all_goals
    split at h
    · next row s hrow =>
      obtain ⟨-, rfl⟩ := Prod.mk.inj h
      exact ⟨row, s, hrow, rfl⟩
    · cases h
    · cases h

/-- The row that a cursor has moved onto is the record that was read of the array. -/
lemma OnArrayRow.exists_fields (h : OnArrayRow columns items c moved) :
    ∃ fields, JsonRows.decodeFields (.array items) 0 columns = .ok fields
      ∧ moved.row = .ok (.record fields) := by
  obtain ⟨hcolumns, ⟨rest, hrows⟩, -, hnext⟩ := h
  obtain ⟨v, s, hrow, hstands⟩ := exists_row_of_next hnext
  obtain ⟨row, rest', fields, hrows', hfields, rfl⟩ := JsonRows.exists_fields_of_nextRow hrow
  obtain ⟨rfl, -⟩ := List.cons.inj (hrows.symm.trans hrows')
  exact ⟨fields, hcolumns ▸ hfields, hstands⟩

/-- The first of some columns that has a name. -/
def IsFirstNamed (columns : List Column) (name : String) (j : Nat) (column : Column) : Prop :=
  columns[j]? = some column ∧ column.name = name
    ∧ ∀ k < j, (columns[k]?).map (·.name) ≠ some name

/-- Some column is the first one that has the name of a column, and it does not come after it. -/
lemma exists_isFirstNamed {i : Nat} {column : Column} (hi : columns[i]? = some column) :
    ∃ j first, j ≤ i ∧ IsFirstNamed columns column.name j first := by
  classical
  have hsome : ∃ j, (columns[j]?).map ColumnOf.name = some column.name := ⟨i, by rw [hi]; rfl⟩
  obtain ⟨first, hfirst, hname⟩ := Option.map_eq_some_iff.1 (Nat.find_spec hsome)
  exact ⟨Nat.find hsome, first, Nat.find_min' hsome (by rw [hi]; rfl), hfirst, hname,
    fun k hk => Nat.find_min hsome hk⟩

/-- **A reader reads the item of the first column of its name.** -/
theorem OnArrayRow.reads_first (h : OnArrayRow columns items c moved) {i : Nat} {r : CellReader}
    (hr : (c.readers columns zone elementZone)[i]? = some r) :
    ∃ j first item v, j ≤ i ∧ IsFirstNamed columns r.column.name j first ∧ items[j]? = some item
      ∧ JsonRows.decodeCell first item = .ok v ∧ moved.Reads r v := by
  rw [getElem?_readers, Option.map_eq_some_iff] at hr
  obtain ⟨column, hcolumn, rfl⟩ := hr
  obtain ⟨j, first, hle, hj, hname, hfirst⟩ := exists_isFirstNamed hcolumn
  obtain ⟨fields, hfields, hrow⟩ := h.exists_fields
  obtain ⟨raw, v, hraw, hv, hfield⟩ := JsonRows.field_of_decodeFields hfields hj
  obtain ⟨hlt, -⟩ := List.getElem?_eq_some_iff.1 hj
  obtain ⟨item, hitem⟩ : ∃ item, items[j]? = some item :=
    ⟨_, List.getElem?_eq_getElem (Nat.lt_of_lt_of_le hlt h.length_le)⟩
  obtain rfl : some item = raw := hitem.symm.trans (Except.ok.inj hraw)
  have hget : Fields.get? column.name fields = some v := by
    refine Fields.get?_eq_some_of_first (hname ▸ hfield) fun k hk => ?_
    rw [← List.getElem?_map, JsonRows.names_of_decodeFields hfields, List.getElem?_map]
    exact hfirst k hk
  refine ⟨j, first, item, v, hle, ⟨hj, hname, hfirst⟩, hitem, hv, reads_of_cell ?_⟩
  rw [hrow]
  change within column.place (Except.ok ((Fields.get? column.name fields).getD .null)) = .ok v
  rw [hget]
  rfl

/-! ## Readers and positions -/

/-- Every reader of columns reads the item at its own position under its own column. -/
def ReadsOwnItems (columns : List Column) (zone elementZone : Option Calendar.Zone) : Prop :=
  ∀ (items : List JsonValue) (c moved : Cursor JsonRows), OnArrayRow columns items c moved →
    ∀ (i : Nat) (column : Column) (item : JsonValue) (r : CellReader),
      columns[i]? = some column → items[i]? = some item →
      (c.readers columns zone elementZone)[i]? = some r →
      ∃ v, JsonRows.decodeCell column item = .ok v ∧ moved.Reads r v

/-- A truth value with its tag. -/
def truth : JsonValue := .ofParts .boolean (.bool true) none

/-- A truth value with its tag is read under its tag, whatever the column. -/
lemma decodeCell_truth (column : Column) :
    JsonRows.decodeCell column truth = .ok (.bool true) := by
  have hserial : SerialValue.ofJson truth = .ok (.typed ⟨.boolean, .bool true, none⟩) := by
    rw [truth, SerialValue.ofJson_ofParts, Tagged.ofJson_ofParts]
    rfl
  change (SerialValue.ofJson truth >>= fun s => within column.place (s.toLocal column.tag _)) = _
  rw [hserial]
  rfl

/-- The row of nulls with a truth value at one position can be read under any columns. -/
lemma exists_onArrayRow_truth (columns : List Column) (i : Nat) :
    ∃ c moved, OnArrayRow columns ((List.replicate columns.length .null).set i truth) c moved := by
  generalize hitems : (List.replicate columns.length .null).set i truth = items
  have hcell (k : Nat) (column : Column) : ∃ x,
      JsonRows.decodeCell column (items[k]?.getD .null) = .ok x := by
    rw [← hitems, List.getElem?_set, List.getElem?_replicate]
    split_ifs
    · exact ⟨_, decodeCell_truth column⟩
    all_goals exact ⟨.null, rfl⟩
  obtain ⟨fields, hfields⟩ : ∃ fields,
      JsonRows.decodeFields (.array items) 0 columns = .ok fields :=
    JsonRows.exists_decodeFields fun k column _ =>
      ⟨items[k]?, (hcell k column).choose, rfl, (hcell k column).choose_spec⟩
  have hnext : ∃ moved, (Cursor.new (⟨[.array items], columns, 0⟩ : JsonRows)).next
      = (.ok true, moved) := by
    simp only [next, new, RowSource.nextRow, JsonRows.nextRow, JsonRows.decodeRow, hfields]
    exact ⟨_, rfl⟩
  obtain ⟨moved, hnext⟩ := hnext
  exact ⟨_, moved, rfl, ⟨[], rfl⟩, by simp [← hitems], hnext⟩

/-- **Readers read by position exactly when no name repeats.** -/
theorem readsOwnItems_iff (columns : List Column) (zone elementZone : Option Calendar.Zone) :
    ReadsOwnItems columns zone elementZone ↔ (columns.map (·.name)).Nodup := by
  constructor
  · intro h
    rw [List.nodup_iff_getElem?_ne_getElem?]
    intro j i hji hi hname
    rw [List.length_map] at hi
    rw [List.getElem?_map, List.getElem?_map, List.getElem?_eq_getElem hi] at hname
    have hcolumn := List.getElem?_eq_getElem hi
    obtain ⟨c, moved, hrow⟩ := exists_onArrayRow_truth columns i
    have hr := getElem?_readers c columns zone elementZone i
    rw [hcolumn] at hr
    obtain ⟨v, hv, hown⟩ := h _ c moved hrow i _ truth _ hcolumn (by simp [hi]) hr
    obtain ⟨k, first, item, w, -, ⟨hk, -, hfirst⟩, hitem, hw, hreads⟩ := hrow.reads_first hr
    -- the first column of the name comes before this one, where the row has a null
    have hle : k ≤ j := Nat.le_of_not_lt fun hlt => hfirst j hlt hname
    obtain ⟨hlt, -⟩ := List.getElem?_eq_some_iff.1 hk
    obtain rfl : JsonValue.null = item := by
      rw [List.getElem?_set_ne (by omega), List.getElem?_replicate, if_pos hlt] at hitem
      exact Option.some.inj hitem
    obtain rfl : LocalValue.null = w := Except.ok.inj hw
    obtain rfl : LocalValue.bool true = v := Except.ok.inj ((decodeCell_truth _).symm.trans hv)
    cases hown.unique hreads
  · intro hnodup items c moved hrow i column item r hcolumn hitem hr
    obtain ⟨j, first, item', v, hle, ⟨hj, hname, -⟩, hitem', hv, hreads⟩ := hrow.reads_first hr
    rw [getElem?_readers, hcolumn] at hr
    obtain rfl := Option.some.inj hr
    have hsame : (columns.map (·.name))[j]? = (columns.map (·.name))[i]? := by
      rw [List.getElem?_map, List.getElem?_map, hj, hcolumn]
      exact congrArg some hname
    obtain ⟨hlt, -⟩ := List.getElem?_eq_some_iff.1 hj
    obtain rfl := (List.getElem?_inj (by simpa using hlt) hnodup).1 hsame
    obtain rfl := Option.some.inj (hj.symm.trans hcolumn)
    obtain rfl := Option.some.inj (hitem'.symm.trans hitem)
    exact ⟨v, hv, hreads⟩

/-- **The readers of columns over JSON rows written as arrays.** Whatever the columns, each reader
reads the item of the first column of its name, under that column; and all of them read the items
at their own positions, in every row that can be read, exactly when no name repeats. -/
theorem reads_by_position_iff (columns : List Column) (zone elementZone : Option Calendar.Zone) :
    (∀ (items : List JsonValue) (c moved : Cursor JsonRows), OnArrayRow columns items c moved →
      ∀ (i : Nat) (r : CellReader), (c.readers columns zone elementZone)[i]? = some r →
        ∃ j first item v, j ≤ i ∧ IsFirstNamed columns r.column.name j first
          ∧ items[j]? = some item ∧ JsonRows.decodeCell first item = .ok v ∧ moved.Reads r v)
    ∧ (ReadsOwnItems columns zone elementZone ↔ (columns.map (·.name)).Nodup) :=
  ⟨fun _ _ _ hrow _ _ hr => hrow.reads_first hr, readsOwnItems_iff columns zone elementZone⟩

/-- Two columns of different names over a row of two integers. -/
theorem reads_by_position_two_names :
    let columns : List Column := [.new 0 "a" (.scalar .integer), .new 1 "b" (.scalar .integer)]
    let items : List JsonValue := [.number (.integer 1), .number (.integer 2)]
    ∃ c moved r, OnArrayRow columns items c moved ∧ (c.readers columns none none)[1]? = some r
      ∧ moved.Reads r (.int 2) := by
  intro columns items
  have hrow : OnArrayRow columns items (.new ⟨[.array items], columns, 0⟩) _ :=
    ⟨rfl, ⟨[], rfl⟩, by decide, rfl⟩
  obtain ⟨v, hv, hreads⟩ := (reads_by_position_iff columns none none).2.2 (by decide) _ _ _ hrow
    1 _ _ _ rfl rfl rfl
  obtain rfl := Except.ok.inj hv
  exact ⟨_, _, _, hrow, rfl, hreads⟩

/-- The second of two columns of one name reads the first item. -/
theorem second_of_one_name_reads_first_item :
    let columns : List Column := [.new 0 "a" (.scalar .integer), .new 1 "a" (.scalar .integer)]
    let items : List JsonValue := [.number (.integer 1), .number (.integer 2)]
    ∃ c moved r, OnArrayRow columns items c moved ∧ (c.readers columns none none)[1]? = some r
      ∧ JsonRows.decodeCell (.new 1 "a" (.scalar .integer)) (.number (.integer 2)) = .ok (.int 2)
      ∧ moved.Reads r (.int 1) ∧ ¬ moved.Reads r (.int 2) := by
  intro columns items
  have hrow : OnArrayRow columns items (.new ⟨[.array items], columns, 0⟩) _ :=
    ⟨rfl, ⟨[], rfl⟩, by decide, rfl⟩
  refine ⟨_, _, _, hrow, rfl, rfl, reads_of_cell rfl, fun h => ?_⟩
  cases h.unique (reads_of_cell (v := .int 1) rfl)

end Cursor

end TypedRows
