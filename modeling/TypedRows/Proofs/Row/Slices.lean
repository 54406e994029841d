import TypedRows.Proofs.Outcome
import TypedRows.Row.Composite

/-!
# Slices and tables of arrays

The elements of an array are handed out by two readers. One reads the elements themselves; the
other one reads the rows of a table, in which every element stands after its position in the array.
Both come to the same client values, since the rows of a queue are read one by one behind a cursor
and the reader of a cell does not see where in the row the cell stood. A slice is a run of the
elements, and its table the same run of rows, which keep the positions of the whole array.

## Main definitions

* `TypedRows.ArrayOf.HasRun`, `TypedRows.ArrayOf.IsRun` — the runs of elements that an array has,
  and the arrays that are made of them.
* `TypedRows.ArrayOf.elementRows` — the elements of an array behind a cursor, one a row.
* `TypedRows.ArrayOf.AreNumbered` — rows of client values that stand after their positions.

## Main results

* `TypedRows.ResultSet.collect_eq_mapM` — the rows of a queue are read one by one.
* `TypedRows.ArrayOf.sliceStart_eq` — which slices there are, in spite of sums of 64 bits.
* `TypedRows.ArrayOf.collect_tableFrom` — the rows of a table are the elements with their positions.
* `TypedRows.ArrayOf.slices_are_runs`
-/

set_option autoImplicit false

namespace TypedRows

/-! ## Rows behind a cursor -/

namespace ResultSet

variable [Calendar.Platform] {σ : Type}

/-- A cell is read at a cursor as it is read from the row that the cursor stands on. Nothing of the
cursor changes but what it remembers of the cell. -/
lemma exists_read_object {cursor : Cursor σ} {row : LocalValue} (h : cursor.row = .ok row)
    (r : CellReader) :
    ∃ wasNull, cursor.read r r.object = (r.objectOf row, { cursor with wasNull }) := by
  have hcell : cursor.row.bind r.cell = r.cell row := by
    rw [h]
    rfl
  unfold Cursor.read
  rw [hcell, CellReader.objectOf]
  cases r.cell row with
  | ok v => exact ⟨v.isNull, rfl⟩
  | error e => exact ⟨cursor.wasNull, rfl⟩

/-- The columns of the row that a cursor stands on are read one by one. -/
lemma exists_readAll {cursor : Cursor σ} {row : LocalValue} (h : cursor.row = .ok row)
    (readers : List CellReader) : ∃ wasNull,
      readAll cursor readers = (readers.mapM (·.objectOf row), { cursor with wasNull }) := by
  induction readers generalizing cursor with
  | nil => exact ⟨cursor.wasNull, rfl⟩
  | cons r readers ih =>
    obtain ⟨wasNull, hread⟩ := exists_read_object h r
    rw [readAll, hread, List.mapM_cons]
    cases r.objectOf row with
    | error e => exact ⟨wasNull, rfl⟩
    | ok v =>
      obtain ⟨wasNull', hrest⟩ := @ih { cursor with wasNull } h
      refine ⟨wasNull', ?_⟩
      simp only [hrest]
      cases readers.mapM (·.objectOf row) <;> rfl

/-- What one move does before the last row of a queue: the next row is read, and then those after
it. -/
lemma collect_step {s : ResultSet RowQueue}
    (h : s.cursor.phase = .unopened ∨ s.cursor.phase = .iterating) :
    (s.cursor.source.rows = [] → s.collect.1 = .ok [])
      ∧ ∀ row rest, s.cursor.source.rows = row :: rest → ∃ s' : ResultSet RowQueue,
        s'.cursor.phase = .iterating ∧ s'.cursor.source.rows = rest ∧ s'.readers = s.readers
          ∧ s.collect.1 = (do
            let values ← s.readers.mapM (·.objectOf row)
            let others ← s'.collect.1
            return values :: others) := by
  obtain ⟨⟨⟨rows, shape⟩, phase, position, current, wasNull⟩, readers⟩ := s
  dsimp only at h ⊢
  constructor
  · rintro rfl
    have hnext : (Cursor.mk (RowQueue.mk [] shape) phase position current wasNull).next
        = (.ok false, ⟨⟨[], shape⟩, .exhausted, position, none, wasNull⟩) := by
      rcases h with rfl | rfl <;> rfl
    rw [collect]
    split
    · next heq => rw [hnext] at heq; cases heq
    · rfl
    · next heq => rw [hnext] at heq; cases heq
  · rintro row rest rfl
    have hnext : (Cursor.mk (RowQueue.mk (row :: rest) shape) phase position current wasNull).next
        = (.ok true, ⟨⟨rest, shape⟩, .iterating, position + 1, some row, wasNull⟩) := by
      rcases h with rfl | rfl <;> rfl
    obtain ⟨wasNull', hread⟩ := @exists_readAll _ _
      ⟨RowQueue.mk rest shape, .iterating, position + 1, some row, wasNull⟩ row rfl readers
    refine ⟨⟨⟨⟨rest, shape⟩, .iterating, position + 1, some row, wasNull'⟩, readers⟩, rfl, rfl, rfl,
      ?_⟩
    rw [collect]
    split
    · next heq => rw [hnext] at heq; cases heq
    · next heq => rw [hnext] at heq; cases heq
    · next cursor heq =>
      rw [hnext] at heq
      cases heq
      -- the row fails to be read, or those after it are still to be read
      split
      · next heq =>
        rw [hread] at heq
        obtain ⟨hfailed, -⟩ := Prod.mk.inj heq
        simp only [hfailed]
        rfl
      · next heq =>
        rw [hread] at heq
        obtain ⟨hvalues, rfl⟩ := Prod.mk.inj heq
        simp only [hvalues]
        generalize collect (σ := RowQueue) _ = others
        obtain ⟨outcome, s⟩ := others
        cases outcome <;> rfl

/-- **The rows of a queue are read one by one**, and each of them column by column. -/
theorem collect_eq_mapM {s : ResultSet RowQueue}
    (h : s.cursor.phase = .unopened ∨ s.cursor.phase = .iterating) :
    s.collect.1 = s.cursor.source.rows.mapM fun row => s.readers.mapM (·.objectOf row) := by
  generalize hrows : s.cursor.source.rows = rows
  induction rows generalizing s with
  | nil => exact (collect_step h).1 hrows
  | cons row rows ih =>
    obtain ⟨s', hphase, hrest, hreaders, hcollect⟩ := (collect_step h).2 row rows hrows
    rw [hcollect, ih (.inr hphase) hrest, hreaders, List.mapM_cons]

end ResultSet

namespace ArrayOf

variable {a s : ArrayValue} {start offset length : Nat}

/-! ## Slices -/

/-- There are `length` elements from the position `offset`. -/
def HasRun (a : ArrayValue) (offset length : Nat) : Prop :=
  1 ≤ offset ∧ offset - 1 + length ≤ a.elements.length

instance (a : ArrayValue) (offset length : Nat) : Decidable (a.HasRun offset length) :=
  inferInstanceAs (Decidable (_ ∧ _))

/-- The array of `length` elements, before which there are `start` more. -/
def run (a : ArrayValue) (start length : Nat) : ArrayValue :=
  { a with elements := (a.elements.drop start).take length }

/-- **Which slices there are.** A slice begins after the elements before its position, and it is
refused exactly when the array has not all of its elements. A sum that does not fit 64 bits is more
than there are elements in any array. -/
lemma sliceStart_eq (h : a.elements.length < UInt64.size) (offset length : Nat) :
    a.sliceStart offset length = if a.HasRun offset length then .ok (offset - 1)
      else .error (.of (.slice offset length a.elements.length)) := by
  have hsum : (wordSum? (offset - 1) length).any (· ≤ a.elements.length)
      = decide (offset - 1 + length ≤ a.elements.length) := by
    unfold wordSum?
    split_ifs with hfits
    · rfl
    · exact (decide_eq_false (by omega)).symm
  unfold sliceStart wordDifference?
  by_cases hfirst : 1 ≤ offset
  · rw [if_pos hfirst, Option.filter_some, hsum]
    by_cases hlast : offset - 1 + length ≤ a.elements.length
    · rw [decide_eq_true hlast, if_pos rfl, if_pos ⟨hfirst, hlast⟩]
    · rw [decide_eq_false hlast, if_neg Bool.false_ne_true, if_neg fun hrun => hlast hrun.2]
  · rw [if_neg hfirst, if_neg fun hrun => hfirst hrun.1, Option.filter_none]

/-- A slice is the run that it asks for, or the error of one that is not there. -/
lemma slice_eq (h : a.elements.length < UInt64.size) (offset length : Nat) :
    a.slice offset length = if a.HasRun offset length then .ok (a.run (offset - 1) length)
      else .error (.of (.slice offset length a.elements.length)) := by
  rw [slice, sliceStart_eq h]
  split_ifs <;> rfl

/-- A slice of the table is the run of rows that it asks for, or the error of one that is not
there. -/
lemma tableSlice_eq (h : a.elements.length < UInt64.size) (offset length : Nat) :
    a.tableSlice offset length
      = if a.HasRun offset length then .ok (a.tableFrom (offset - 1) length)
        else .error (.of (.slice offset length a.elements.length)) := by
  rw [tableSlice, sliceStart_eq h]
  split_ifs <;> rfl

/-- An array is made of `length` elements of another one from the position `offset`. -/
structure IsRun (s a : ArrayValue) (offset length : Nat) : Prop where
  component_eq : s.component = a.component
  zone_eq : s.zone = a.zone
  length_eq : s.elements.length = length
  element_eq : ∀ i < length, s.elements[i]? = a.elements[offset + i - 1]?

/-- A run is one of its array. -/
lemma HasRun.isRun (h : a.HasRun offset length) :
    (a.run (offset - 1) length).IsRun a offset length := by
  obtain ⟨hfirst, hlast⟩ := h
  refine ⟨rfl, rfl, ?_, fun i hi => ?_⟩
  · simp only [run, List.length_take, List.length_drop]
    omega
  · rw [run, List.getElem?_take_of_lt hi, List.getElem?_drop, Nat.sub_add_comm hfirst]

/-- A run of a run is a run. -/
lemma run_run {offset' length' : Nat} (h : a.HasRun offset length)
    (h' : (a.run (offset - 1) length).HasRun offset' length') :
    a.HasRun (offset + offset' - 1) length'
      ∧ (a.run (offset - 1) length).run (offset' - 1) length'
        = a.run (offset + offset' - 1 - 1) length' := by
  have hlength := h.isRun.length_eq
  obtain ⟨hfirst, hlast⟩ := h
  obtain ⟨hfirst', hlast'⟩ := h'
  rw [hlength] at hlast'
  refine ⟨⟨by omega, by omega⟩, ?_⟩
  simp only [run, List.drop_take, List.drop_drop, List.take_take]
  congr 3 <;> omega

/-! ## Tables -/

/-- The elements behind a cursor, one a row. -/
def elementRows (a : ArrayValue) : ResultSet RowQueue :=
  ⟨.new (.ofValues a.elements), [a.elementReader]⟩

/-- Rows of client values, each after its position, the first one after `first`. -/
structure AreNumbered (rows : List (List ClientValue)) (first : Nat) (values : List ClientValue) :
    Prop where
  length_eq : rows.length = values.length
  row_eq : ∀ (i : Nat) (v : ClientValue), values[i]? = some v →
    ∃ n : Int64, n.toInt = (first + i : Nat) ∧ rows[i]? = some [ClientValue.long n, v]

/-- The rows of client values, the first of which has the position `first`. -/
def numbered (first : Nat) (values : List ClientValue) : List (List ClientValue) :=
  (values.zipIdx first).map fun x => [.long (Int64.ofInt x.2), x.1]

/-- A row of the table has the position and the element. -/
lemma getElem?_numbered (first : Nat) (values : List ClientValue) (i : Nat) :
    (numbered first values)[i]?
      = values[i]?.map fun v => [.long (Int64.ofInt (first + i : Nat)), v] := by
  rw [numbered, List.getElem?_map, List.getElem?_zipIdx, Option.map_map]
  rfl

/-- Positions that fit 64 bits are the numbers that rows begin with. -/
lemma areNumbered_numbered {first : Nat} {values : List ClientValue}
    (h : first + values.length ≤ 9223372036854775808) :
    AreNumbered (numbered first values) first values := by
  refine ⟨by simp [numbered], fun i v hv => ?_⟩
  obtain ⟨hi, -⟩ := List.getElem?_eq_some_iff.1 hv
  exact ⟨_, Int64.toInt_ofInt_of_le (by omega) (by omega), by rw [getElem?_numbered, hv]; rfl⟩

/-- A run of rows is made of the same run of values. -/
lemma numbered_run (values : List ClientValue) (start length : Nat) :
    ((numbered 1 values).drop start).take length
      = numbered (start + 1) ((values.drop start).take length) := by
  refine List.ext_getElem? fun i => ?_
  rw [getElem?_numbered]
  by_cases hi : i < length
  · rw [List.getElem?_take_of_lt hi, List.getElem?_take_of_lt hi, List.getElem?_drop,
      List.getElem?_drop, getElem?_numbered, ← Nat.add_assoc, Nat.add_comm 1 start]
  · rw [List.getElem?_take_eq_none (by omega), List.getElem?_take_eq_none (by omega)]
    rfl

section

variable [Calendar.Platform]

/-- **Behind a cursor the elements are read** as they are without one. -/
theorem collect_elementRows (a : ArrayValue) :
    a.elementRows.collect.1 = List.map ([·]) <$> a.clientValues := by
  have hrow (row : LocalValue) : [a.elementReader].mapM (·.objectOf row)
      = ([·]) <$> a.elementReader.objectOf row := by
    rw [List.mapM_cons]
    cases a.elementReader.objectOf row <;> rfl
  rw [ResultSet.collect_eq_mapM (.inl rfl)]
  simp only [elementRows, hrow]
  exact mapM_map_results _ _ _

/-- The readers of a table find the position and the element in a row, and read the element as the
reader of single elements does. -/
lemma mapM_readers_tableFrom (a : ArrayValue) (n : Int64) (element : LocalValue) :
    (a.tableFrom start length).readers.mapM (·.objectOf (.list [.long n, element]))
      = ([.long n, ·]) <$> a.elementReader.objectOf element := by
  have hreaders : (a.tableFrom start length).readers
      = [⟨.new 0 "INDEX" (.scalar .long), .position 0, a.zone, a.zone⟩,
        ⟨.new 1 "VALUE" a.component, .position 1, a.zone, a.zone⟩] := rfl
  have hvalue : (CellReader.mk (.new 1 "VALUE" a.component) (.position 1) a.zone a.zone).objectOf
      (.list [.long n, element]) = a.elementReader.objectOf element := rfl
  have hindex : (CellReader.mk (.new 0 "INDEX" (.scalar .long)) (.position 0) a.zone
      a.zone).objectOf (.list [.long n, element]) = .ok (.long n) :=
    congrArg (Except.ok ∘ ClientValue.long) (Int64.ofInt_toInt n)
  rw [hreaders, List.mapM_cons, List.mapM_cons, hindex, hvalue]
  cases a.elementReader.objectOf element <;> rfl

/-- **The rows of a table** are the client values of its elements, each after its position. -/
theorem collect_tableFrom (a : ArrayValue) (start length : Nat) :
    (a.tableFrom start length).collect.1
      = numbered (start + 1) <$> (a.run start length).clientValues := by
  have hrows : (a.tableFrom start length).cursor.source.rows
      = ((a.run start length).elements.zipIdx (start + 1)).map fun x =>
        .list [.long (Int64.ofInt x.2), x.1] := by
    rw [List.zipIdx_eq_map_add, List.map_map]
    change List.map _ (List.map _ _) = _
    rw [List.map_map]
    refine List.map_congr_left fun x _ => ?_
    rw [Function.comp_apply, Function.comp_apply]
    dsimp only
    rw [Nat.add_right_comm]
  rw [ResultSet.collect_eq_mapM (.inl rfl), hrows, List.mapM_map]
  simp only [Function.comp_def, mapM_readers_tableFrom]
  exact mapM_zipIdx_results (fun n v => [ClientValue.long (Int64.ofInt n), v])
    a.elementReader.objectOf _ _

/-- When all rows of an array can be read, so can those of a run. -/
lemma exists_clientValues_run {rows : List (List ClientValue)} (h : a.table.collect.1 = .ok rows)
    (start length : Nat) : ∃ values, (a.run start length).clientValues = .ok values
      ∧ (rows.drop start).take length = numbered (start + 1) values := by
  have hwhole : a.run 0 a.elements.length = a := by simp [run]
  rw [table, collect_tableFrom, hwhole] at h
  obtain ⟨values, hvalues, rfl⟩ := map_eq_ok_iff.1 h
  exact ⟨_, mapM_run hvalues start length, numbered_run values start length⟩

/-- **Slices and their tables are runs** of the elements of an array and of the rows of its table.
Take an array whose length fits a signed number of 64 bits, and any position and length. There are a
slice and a table of it exactly when the array has all of the elements, and otherwise both are
refused with the same error. A slice is made of these elements. When all rows of the array can be
read, its rows are the same run of them; they are the client values of the slice, which are also
what is read of its elements behind a cursor, each after its position in the whole array. A slice of
a slice is a slice.

**Proof sketch.** Behind a cursor the rows are read one by one, so that a table comes to the walk
along its elements, and a walk along a run has the same run of results. -/
theorem slices_are_runs (h : a.elements.length < 9223372036854775808) (offset length : Nat) :
    ((∃ s, a.slice offset length = .ok s) ↔ a.HasRun offset length)
      ∧ ((∃ t, a.tableSlice offset length = .ok t) ↔ a.HasRun offset length)
      ∧ (¬ a.HasRun offset length →
        a.slice offset length = .error (.of (.slice offset length a.elements.length))
          ∧ a.tableSlice offset length = .error (.of (.slice offset length a.elements.length)))
      ∧ ∀ s, a.slice offset length = .ok s →
        s.IsRun a offset length
          ∧ (∀ rows, a.table.collect.1 = .ok rows → ∃ t values,
            a.tableSlice offset length = .ok t ∧ s.clientValues = .ok values
              ∧ s.elementRows.collect.1 = .ok (values.map ([·]))
              ∧ t.collect.1 = .ok ((rows.drop (offset - 1)).take length)
              ∧ AreNumbered ((rows.drop (offset - 1)).take length) offset values)
          ∧ ∀ offset' length' s', s.slice offset' length' = .ok s' →
            a.slice (offset + offset' - 1) length' = .ok s' := by
  have hsize : a.elements.length < UInt64.size := Nat.lt_trans h (by decide)
  rw [slice_eq hsize, tableSlice_eq hsize]
  by_cases hrun : a.HasRun offset length
  · have hstart : offset - 1 + 1 = offset := Nat.sub_add_cancel hrun.1
    have hlast := hrun.2
    have hlength := hrun.isRun.length_eq
    rw [if_pos hrun, if_pos hrun]
    refine ⟨⟨fun _ => hrun, fun _ => ⟨_, rfl⟩⟩, ⟨fun _ => hrun, fun _ => ⟨_, rfl⟩⟩,
      fun hnone => absurd hrun hnone, ?_⟩
    rintro s hs
    obtain rfl := Except.ok.inj hs
    refine ⟨hrun.isRun, fun rows hrows => ?_, fun offset' length' s' hs' => ?_⟩
    · obtain ⟨values, hvalues, hnumbered⟩ := exists_clientValues_run hrows (offset - 1) length
      rw [hstart] at hnumbered
      have hcount : values.length = length := by
        rw [← (mapM_eq_ok_iff.1 hvalues).length_eq, hlength]
      refine ⟨_, values, rfl, hvalues, ?_, ?_, ?_⟩
      · rw [collect_elementRows, hvalues]
        rfl
      · rw [collect_tableFrom, hvalues, hnumbered, hstart]
        rfl
      · rw [hnumbered]
        exact areNumbered_numbered (by omega)
    · rw [slice_eq (by omega)] at hs'
      split_ifs at hs' with hrun'
      obtain ⟨hboth, heq⟩ := run_run hrun hrun'
      rw [slice_eq hsize, if_pos hboth, ← heq]
      exact hs'
  · rw [if_neg hrun, if_neg hrun]
    simp [hrun]

end

section

attribute [local instance] Calendar.Platform.utc

/-- Of three elements the last two are a slice, whose table begins at the second row; the second of
them is the third element of all. The greatest length of 64 bits is refused. -/
theorem slices_are_runs_of_three_elements :
    let a : ArrayValue := ⟨.scalar .integer, [.int 10, .int 20, .int 30], none⟩
    let s : ArrayValue := ⟨.scalar .integer, [.int 20, .int 30], none⟩
    a.elements.length < 9223372036854775808 ∧ a.HasRun 2 2 ∧ a.slice 2 2 = .ok s ∧ s.IsRun a 2 2
      ∧ a.table.collect.1 = .ok [[.long 1, .int 10], [.long 2, .int 20], [.long 3, .int 30]]
      ∧ (∃ t, a.tableSlice 2 2 = .ok t
        ∧ t.collect.1 = .ok [[.long 2, .int 20], [.long 3, .int 30]])
      ∧ (∃ s', s.slice 2 1 = .ok s' ∧ a.slice 3 1 = .ok s')
      ∧ a.slice 2 18446744073709551615 = .error (.of (.slice 2 18446744073709551615 3)) := by
  intro a s
  have hsize : a.elements.length < 9223372036854775808 := by decide
  have hrun : a.HasRun 2 2 := by decide
  have hslice : a.slice 2 2 = .ok s := rfl
  have htable : a.table.collect.1
      = .ok [[.long 1, .int 10], [.long 2, .int 20], [.long 3, .int 30]] :=
    collect_tableFrom a 0 3
  obtain ⟨-, -, -, hslices⟩ := slices_are_runs hsize 2 2
  obtain ⟨hisRun, htables, hagain⟩ := hslices s hslice
  obtain ⟨t, values, ht, -, -, hrows, -⟩ := htables _ htable
  obtain ⟨-, -, hrefused, -⟩ := slices_are_runs hsize 2 18446744073709551615
  exact ⟨hsize, hrun, hslice, hisRun, htable, ⟨t, ht, hrows⟩, ⟨_, rfl, hagain 2 1 _ rfl⟩,
    (hrefused (by decide)).1⟩

end

end ArrayOf

end TypedRows
