import TypedRows.Proofs.Value.ArrayElements
import TypedRows.Row.Cursor
import TypedRows.Value.ClientForm

/-!
# Two ways to a client value

A cell is read as a client value by the reader of its column. The same value can be made a typed
value under the tag of the column, and that be turned into a client value in the zone of the
reader. Both have their own rules for every tag, and both come to the same result, but for three
things. The typed value has been through floats of 64 bits, so that signalling NaNs of 32 bits
within arrays and records are quiet in it. Where a column has the bare tag of arrays its type says
that the elements are objects, whereas the typed value has the tag of the elements. And an array
in such a column is handed out as it is, whereas the typed value puts it together again, in the
zone of the reader and with what arrays of its tag keep of the elements.

## Main definitions

* `TypedRows.ClientValue.quieted` — the client value with the NaNs within it made quiet.
* `TypedRows.ClientValue.Agree` — two ways come to the same client value.
* `TypedRows.LocalValue.ElementsOf` — elements that are null or of the variant of one tag.

## Main results

* `TypedRows.CellReader.object_of_takes` — both ways agree on scalars.
* `TypedRows.Tagged.toClient_ofElements_iff` — the client value of a typed array.
* `TypedRows.CellReader.object_agrees_with_typed_value` — both ways agree on whole columns.
-/

set_option autoImplicit false

namespace TypedRows

open Calendar

namespace ClientValue

/-- The client value with the local values within it widened and narrowed, which makes their NaNs
quiet. -/
def quieted : ClientValue → ClientValue
  | array ⟨component, elements, zone⟩ => array ⟨component, elements.map (·.reread id), zone⟩
  | struct ⟨names, values⟩ => struct ⟨names, values.map (·.reread id)⟩
  | other => other

/-- Two ways agree on a local value: both succeed with the same client value, but for signalling
NaNs within it, which the second one makes quiet. -/
def Agree (v : LocalValue) (direct typed : Except Error ClientValue) : Prop :=
  ∃ o, direct = .ok o ∧ typed = .ok o.quieted
    ∧ (¬ v.Holds LocalValue.IsSignalling → o.quieted = o)

/-- The client value of a scalar has no values within it. -/
lemma quieted_ofLocal {v : LocalValue} (h : v.isScalar = true) :
    (ofLocal v).quieted = ofLocal v := by
  cases v <;> first | rfl | cases h

end ClientValue

namespace LocalValue

variable {items values : List LocalValue}

/-- The elements of an array of one tag are null or of its variant. -/
def ElementsOf (tag : Tag) (items : List LocalValue) : Prop :=
  ∀ v ∈ items, v.isNull = true ∨ v.Uniform ∧ Tag.ofLocal v = tag.native

/-- A list of elements of one variant is one of one tag. -/
lemma ElementsOf.uniform {tag : Tag} (h : ElementsOf tag items) : (list items).Uniform := by
  refine .list tag.native (fun v hv => (h v hv).imp_right And.right) fun v hv => ?_
  exact .of_not_null fun hn => ((h v hv).resolve_left (by simp [hn])).1

/-- An array keeps elements of the variant of its tag. -/
lemma ElementsOf.keptUnder {tag : Tag} (h : ElementsOf tag items) : ∀ v ∈ items, v.KeptUnder tag :=
  fun v hv => (h v hv).elim .inl fun ⟨huniform, ht⟩ => huniform.keptUnder ht

/-- Both ways agree on a list of one tag when both give an array of its elements, which the
second one has reread. -/
lemma Uniform.agree_list {component : ColumnType} {zone : Option Zone}
    {typed : Except Error ClientValue} (h : (LocalValue.list items).Uniform)
    (htyped : typed = .ok (.array ⟨component, items.map (·.reread id), zone⟩)) :
    ClientValue.Agree (.list items) (.ok (.array ⟨component, items, zone⟩)) typed := by
  refine ⟨_, rfl, htyped, fun hquiet => ?_⟩
  have hsame := reread_id h hquiet
  rw [reread_list, LocalValue.list.injEq] at hsame
  rw [ClientValue.quieted, hsame]

/-- Both ways agree on a record when both give a record of its fields, which the second one has
reread. -/
lemma Uniform.agree_struct {typed : Except Error ClientValue}
    (h : (LocalValue.struct (.ofValues values)).Uniform)
    (htyped : typed = .ok (.struct (.ofValues (values.map (·.reread id))))) :
    ClientValue.Agree (.struct (.ofValues values)) (.ok (.struct (.ofValues values))) typed := by
  refine ⟨_, rfl, htyped, fun hquiet => ?_⟩
  have hsame := reread_id h hquiet
  rw [reread_struct_ofValues, LocalValue.struct.injEq] at hsame
  exact congrArg ClientValue.struct hsame

end LocalValue

/-! ## Scalars -/

/-- A timestamp of whole milliseconds is one of whole milliseconds after it was moved. -/
lemma SqlTimestamp.shifted_ofMillis (m : Int64) (n : Int) :
    (ofMillis m).shifted (n - m.toInt) = ofMillis (Int64.ofInt n) := by
  have hmillis : m.toInt + (n - m.toInt) = n := by omega
  simp [shifted, ofMillis, hmillis, nanosOfMillis]

namespace CellReader

variable {r : CellReader} {tag : Tag} {v : LocalValue}

/-- A column of a bare tag has its boxed form. -/
lemma tag_of_bare {tag : Tag} (h : r.column.type = .scalar tag ∨ r.column.type = .ofTag tag) :
    r.tag = tag.boxed := by
  rw [CellReader.tag, ColumnOf.tag]
  rcases h with h | h
  · rw [h]
    rfl
  · rw [h, ColumnType.tag_ofTag]

/-- An integer cell has one count, whichever way it is asked for. -/
lemma exists_count (r : CellReader) (h : v.integer?.isSome = true) :
    ∃ k, v.scalarSerial = .integer k ∧ r.long v = .ok (some k) ∧ r.count v = .ok k.toInt
      ∧ r.instant v = .ok (.ofMillis k) := by
  obtain ⟨n, hn⟩ := Option.isSome_iff_exists.1 h
  have hlong : r.long v = .ok (some (Int64.ofInt n)) := by
    cases v <;> cases hn <;> rfl
  have hcount : r.count v = .ok (Int64.ofInt n).toInt := by
    rw [count, hlong]
    rfl
  refine ⟨Int64.ofInt n, ?_, hlong, hcount, ?_⟩
  · cases v <;> cases hn <;> simp [LocalValue.scalarSerial]
  · cases v <;> cases hn <;> simp [instant, hcount]

end CellReader

section

variable [Platform]

namespace CellReader

variable {r : CellReader} {tag : Tag} {v : LocalValue}

/-- **Integers are read alike** under every integral tag: they are cut to the width of the tag, or
they are counts of days or milliseconds, which become instants in the zone. -/
lemma object_of_integer (hr : r.tag = tag.boxed) (hi : tag.isIntegral = true)
    (hv : v.integer?.isSome = true) :
    ∃ o, r.object v = .ok o
      ∧ (⟨tag, v.scalarSerial, none⟩ : TypedValue).toClient r.zone = .ok o ∧ o.quieted = o := by
  obtain ⟨k, hserial, hlong, hcount, hinstant⟩ := exists_count r hv
  have hnull : v.isNull = false := by cases v <;> first | rfl | cases hv
  have hwide : Int64.ofInt k.toInt = k := Int64.ofInt_toInt k
  rw [hserial, object, if_neg (by simp [hnull]), hr]
  -- one case for each way to take the count: as it is, cut, as a date or time, as a timestamp
  cases tag with
  | long | primitiveLong =>
    refine ⟨.long k, ?_, ?_, rfl⟩
    · simp only [Tag.boxed, hlong]
      rfl
    · exact congrArg (fun n => Except.ok (ClientValue.long n)) hwide
  | byte | short | integer | primitiveByte | primitiveShort | primitiveInt =>
    refine ⟨_, ?_, rfl, rfl⟩
    simp only [Tag.boxed, byte, short, int, hlong]
    rfl
  | sqlDate | sqlTime | instantTime =>
    refine ⟨_, ?_, rfl, rfl⟩
    simp only [Tag.boxed, date, time, hnull, hr, count32, hcount]
    rfl
  | sqlTimestamp | utilDate =>
    refine ⟨_, ?_, rfl, rfl⟩
    simp only [Tag.boxed, timestamp, hnull, hr, hinstant, ← SqlTimestamp.shifted_ofMillis k]
    rfl
  | instantTimestamp =>
    refine ⟨.timestamp (.ofMillis k), ?_, ?_, rfl⟩
    · simp only [Tag.boxed, timestamp, hnull, hr, hinstant]
      rfl
    · exact congrArg (fun n => Except.ok (ClientValue.timestamp (.ofMillis n))) hwide
  | _ => cases hi

/-- A scalar that is no integer is read as it is, with its NaN made quiet. -/
lemma object_of_ofLocal (hr : r.tag = Tag.ofLocal v) (h : v.isScalar = true)
    (hi : (Tag.ofLocal v).isIntegral = false) : r.object v = .ok (.ofLocal (v.reread id)) := by
  rw [object, hr]
  cases v with
  | byte | short | int | long => cases hi
  | null | list | record | struct | array => cases h
  | string s =>
    simp only [Tag.ofLocal, text, hr]
    rfl
  | _ => rfl

end CellReader

/-- The client value of a scalar that is no count is the one of the local value. -/
lemma SerialValue.toClient_of_toLocal {tag : Tag} {component : Option Tag} {s : SerialValue}
    {v : LocalValue} (zone : Option Zone) (hs : s.isScalar = true)
    (ht : tag.isTemporal = false) (h : s.toLocal tag.boxed component = .ok v) :
    s.toClient tag component zone = .ok (.ofLocal v) := by
  cases tag with
  | array =>
    cases s with
    | null | list | typed => cases hs
    | _ => cases h
  | sqlDate | sqlTime | sqlTimestamp | utilDate | instantTime | instantTimestamp => cases ht
  | _ =>
    cases s with
    | null | list | typed => cases hs
    | _ =>
      simp only [toClient, Tag.boxed] at h ⊢
      rw [h]
      rfl

namespace CellReader

variable {r : CellReader} {tag : Tag} {v : LocalValue}

/-- **Scalars are read alike** under every tag that takes them. -/
theorem object_of_takes (hr : r.tag = tag.boxed) (h : v.isScalar = true) (ht : tag.Takes v) :
    ∃ o, r.object v = .ok o
      ∧ (⟨tag, v.scalarSerial, none⟩ : TypedValue).toClient r.zone = .ok o ∧ o.quieted = o := by
  by_cases hi : tag.isIntegral = true
  · exact object_of_integer hr hi (LocalValue.isSome_integer?_of_takes ht hi)
  rw [Bool.not_eq_true] at hi
  have hown : Tag.ofLocal v = tag.boxed := by
    rw [← Tag.native_eq_boxed hi]
    exact ht.resolve_right (by simp [hi])
  have hnative : Tag.ofLocal v = tag.boxed.native := by
    rw [← hown, Tag.native_ofLocal]
  have htemporal : tag.isTemporal = false := by
    cases tag <;> first | rfl | cases hi
  have hback := LocalValue.toLocal_scalarSerial_of_native id h hnative none
  rw [SerialValue.mapDecimals_id] at hback
  refine ⟨.ofLocal (v.reread id), ?_, ?_, ?_⟩
  · refine object_of_ofLocal (hr.trans hown.symm) h ?_
    rw [hown, ← Tag.native_eq_boxed hi, Tag.isIntegral_native, hi]
  · exact SerialValue.toClient_of_toLocal r.zone (LocalValue.isScalar_scalarSerial h) htemporal
      hback
  · exact ClientValue.quieted_ofLocal (by rw [LocalValue.isScalar_reread, h])

end CellReader

/-! ## Arrays and records -/

section Composite

variable {tag : Tag} {items values : List LocalValue}

/-- The client value of an array has the elements that are read of it. -/
lemma Tagged.toClient_array_eq_ok_iff {ss : List SerialValue} {o : ClientValue}
    {zone : Option Zone} : (⟨.array, .list ss, some tag⟩ : TypedValue).toClient zone = .ok o
      ↔ ∃ ws, (⟨.array, .list ss, some tag⟩ : TypedValue).toLocal = .ok (.list ws)
        ∧ o = .array ⟨.ofTag tag, ws, zone⟩ := by
  simp only [toLocal_array_iff, toClient, SerialValue.toClient, Tag.boxed, Option.getD_some,
    SerialValue.toLocal_list_array]
  cases ss.mapM (LocalValue.readElement (some tag)) <;>
    simp [bind, Except.bind, pure, Except.pure, eq_comm]

/-- The client value of a typed array has its tag and the zone. -/
lemma Tagged.exists_of_toClient_ofElements {o : ClientValue} {zone : Option Zone}
    (h : (Tagged.ofElements tag items >>= (·.toClient zone)) = .ok o) :
    ∃ ws, (Tagged.ofElements tag items >>= (·.toLocal)) = .ok (.list ws)
      ∧ o = .array ⟨.ofTag tag, ws, zone⟩ := by
  obtain ⟨tv, htv, ho⟩ := bind_eq_ok_iff.1 h
  obtain ⟨ss, -, rfl⟩ := ofElements_eq_ok_iff.1 htv
  obtain ⟨ws, hws, rfl⟩ := toClient_array_eq_ok_iff.1 ho
  exact ⟨ws, bind_eq_ok_iff.2 ⟨_, htv, hws⟩, rfl⟩

/-- **The client value of a typed array** has its elements, which were reread, exactly when arrays
of the tag keep them. -/
theorem Tagged.toClient_ofElements_iff (zone : Option Zone) :
    (Tagged.ofElements tag items >>= (·.toClient zone))
        = .ok (.array ⟨.ofTag tag, items.map (·.reread id), zone⟩)
      ↔ ∀ v ∈ items, v.KeptUnder tag := by
  rw [← ofElements_toLocal_iff]
  constructor
  · intro h
    obtain ⟨ws, hws, ho⟩ := exists_of_toClient_ofElements h
    rw [hws]
    simpa using ho.symm
  · intro h
    obtain ⟨tv, htv, hlocal⟩ := bind_eq_ok_iff.1 h
    obtain ⟨ss, -, rfl⟩ := ofElements_eq_ok_iff.1 htv
    exact bind_eq_ok_iff.2 ⟨_, htv, toClient_array_eq_ok_iff.2 ⟨_, hlocal, rfl⟩⟩

/-- What a record is read as has its fields. -/
lemma Tagged.toClient_struct {ss : List SerialValue} {s : StructValue} (zone : Option Zone)
    (h : (⟨.struct, .list ss, none⟩ : TypedValue).toLocal = .ok (.struct s)) :
    (⟨.struct, .list ss, none⟩ : TypedValue).toClient zone = .ok (.struct s) := by
  simp only [toLocal] at h
  simp only [toClient, SerialValue.toClient, Tag.boxed, h]
  rfl

/-- A list of one tag comes back as an array of its elements, which were reread. -/
lemma LocalValue.toClient_ofLocal_list (h : (LocalValue.list items).Uniform) (zone : Option Zone) :
    (Tagged.ofLocal .array (.list items) >>= (·.toClient zone))
      = .ok (.array ⟨.ofTag (.ofElements items), items.map (·.reread id), zone⟩) :=
  (Tagged.toClient_ofElements_iff zone).2 (LocalValue.uniform_list_iff_keptUnder.1 h)

/-- A record without names is read as the record of its fields. -/
lemma LocalValue.toClient_ofLocal_struct (h : (LocalValue.struct (.ofValues values)).Uniform)
    (zone : Option Zone) :
    (Tagged.ofLocal .struct (.struct (.ofValues values)) >>= (·.toClient zone))
      = .ok (.struct (.ofValues (values.map (·.reread id)))) := by
  have hback := LocalValue.toLocal_form id h
  rw [Tagged.mapDecimals_id, LocalValue.form_struct, LocalValue.reread_struct_ofValues] at hback
  have hform := LocalValue.ofLocal_eq_form h
  rw [Tag.ofLocal, LocalValue.form_struct] at hform
  rw [hform]
  exact Tagged.toClient_struct zone hback

end Composite

/-! ## Columns -/

namespace CellReader

variable {r : CellReader} {items values : List LocalValue}

/-- A list is read as an array under the tag of arrays. -/
lemma object_list (hr : r.tag = .array) :
    r.object (.list items) = .ok (.array ⟨r.component items, items, r.elementZone⟩) := by
  rw [object, hr]
  rfl

/-- An array is handed out as it is under the tag of arrays. -/
lemma object_array {a : ArrayValue} (hr : r.tag = .array) :
    r.object (.array a) = .ok (.array a) := by
  rw [object, hr]
  rfl

/-- A record without names is read as it is where no fields are declared. -/
lemma object_struct (hr : r.tag = .struct) (hd : r.column.type.declaredFields = []) :
    r.object (.struct (.ofValues values)) = .ok (.struct (.ofValues values)) := by
  rw [object, hr]
  simp only [LocalValue.isNull, Bool.false_eq_true, ↓reduceIte, struct, hd]
  rfl

/-- Both ways agree on null in every column of a bare tag. -/
lemma agree_null (r : CellReader) (tag : Tag) :
    ClientValue.Agree .null (r.object .null)
      (Tagged.ofLocal tag .null >>= (·.toClient r.zone)) := by
  have htyped : Tagged.ofLocal tag .null = .ok ⟨tag, .null, none⟩ := by
    cases tag <;> rfl
  rw [htyped]
  exact ⟨.null, rfl, rfl, fun _ => rfl⟩

/-- Both ways agree on the values that a bare tag takes, arrays aside when their column declares
the type of the elements. -/
lemma agree_of_takes {tag : Tag} {v : LocalValue} (hzone : r.elementZone = r.zone)
    (htype : r.column.type = .scalar tag ∨ r.column.type = .ofTag tag ∧ tag ≠ .array)
    (hv : v.Uniform) (ht : tag.Takes v) :
    ClientValue.Agree v (r.object v) (Tagged.ofLocal tag v >>= (·.toClient r.zone)) := by
  have hr : r.tag = tag.boxed := tag_of_bare (htype.imp_right And.left)
  by_cases hs : v.isScalar = true
  · obtain ⟨o, hdirect, htyped, hquiet⟩ := object_of_takes hr hs ht
    rw [LocalValue.ofLocal_scalar hs ht]
    exact ⟨o, hdirect, htyped.trans (by rw [hquiet]), fun _ => hquiet⟩
  have hown : Tag.ofLocal v = tag.native := by
    refine ht.resolve_right fun ⟨_, hint⟩ => hs ?_
    cases v <;> first | rfl | cases hint
  obtain rfl := Tag.eq_ofLocal_of_not_isScalar hs hown
  cases hv with
  | null => exact agree_null r _
  | scalar h => exact absurd h hs
  | @list items tag htag h =>
    have huniform : (LocalValue.list items).Uniform := .list tag htag h
    have hcomponent : r.column.type.component? = none := by
      rcases htype with h | ⟨-, h⟩
      · rw [h]
        rfl
      · exact absurd rfl h
    rw [object_list hr, component, hcomponent, hzone]
    exact huniform.agree_list (LocalValue.toClient_ofLocal_list huniform r.zone)
  | @struct values h =>
    have huniform : (LocalValue.struct (.ofValues values)).Uniform := .struct h
    have hd : r.column.type.declaredFields = [] := by
      rcases htype with h | ⟨h, -⟩ <;> rw [h] <;> rfl
    rw [object_struct hr hd]
    exact huniform.agree_struct (LocalValue.toClient_ofLocal_struct huniform r.zone)

/-- Both ways agree on arrays in a column of arrays whose elements have a bare tag. -/
lemma agree_of_elements {tag : Tag} (hzone : r.elementZone = r.zone)
    (htype : r.column.type = .array (.ofTag tag)) (hitems : LocalValue.ElementsOf tag items) :
    ClientValue.Agree (.list items) (r.object (.list items))
      (Tagged.ofElements tag items >>= (·.toClient r.zone)) := by
  have hr : r.tag = .array := by
    rw [CellReader.tag, ColumnOf.tag, htype]
    rfl
  rw [object_list hr, component, htype, hzone]
  exact hitems.uniform.agree_list ((Tagged.toClient_ofElements_iff r.zone).2 hitems.keptUnder)

/-- **Both ways to a client value agree.** In a column of a bare tag they agree on null, on the
values of the variant of the tag and, where the tag is integral, on integers of any width; in a
column of arrays of a tag they agree on lists of elements of the variant of that tag.

In a column of the bare tag of arrays, one way makes a list an array of the declared type, the other
an array of the tag of its elements, both in one zone, and with the same elements exactly when the
list is one of lists of one tag. An array is handed out as it is on the one way; on the other it has
the bare tag of its elements and the zone of the reader, and the same elements exactly when arrays
of that tag keep them. -/
theorem object_agrees_with_typed_value {σ : Type} (c : Cursor σ) (r : CellReader) (v : LocalValue)
    (hcell : c.row.bind r.cell = .ok v) (hzone : r.elementZone = r.zone) :
    (∀ tag, r.column.type = .scalar tag
        ∨ r.column.type = .ofTag tag ∧ (tag = .array → v.isNull = true) →
      v.isNull = true ∨ v.Uniform ∧ tag.Takes v →
      ClientValue.Agree v (c.read r r.object).1 (Tagged.ofLocal tag v >>= (·.toClient r.zone)))
    ∧ (∀ tag items, r.column.type = .array (.ofTag tag) → v = .list items →
      (∀ e ∈ items, e.isNull = true ∨ e.Uniform ∧ Tag.ofLocal e = tag.native) →
      ClientValue.Agree v (c.read r r.object).1
        (Tagged.ofElements tag items >>= (·.toClient r.zone)))
    ∧ (r.column.type = .scalar .array ∨ r.column.type = .ofTag .array →
      let typed := Tagged.ofLocal .array v >>= (·.toClient r.zone)
      (∀ items, v = .list items →
        (c.read r r.object).1 = .ok (.array
          ⟨r.column.type.component?.getD (.ofTag (.ofElements items)), items, r.zone⟩)
        ∧ (∀ o, typed = .ok o → ∃ ws, o = .array ⟨.ofTag (.ofElements items), ws, r.zone⟩)
        ∧ (typed = .ok (.array ⟨.ofTag (.ofElements items), items.map (·.reread id), r.zone⟩)
          ↔ v.Uniform))
      ∧ ∀ a, v = .array a →
        (c.read r r.object).1 = .ok (.array a)
        ∧ (∀ o, typed = .ok o → ∃ ws, o = .array ⟨.ofTag a.component.tag, ws, r.zone⟩)
        ∧ (typed = .ok (.array ⟨.ofTag a.component.tag, a.elements.map (·.reread id), r.zone⟩)
          ↔ ∀ e ∈ a.elements, e.KeptUnder a.component.tag)) := by
  have hread : (c.read r r.object).1 = r.object v := by
    rw [Cursor.read, hcell]
  rw [hread]
  refine ⟨fun tag htype hv => ?_, ?_, fun htype => ⟨?_, ?_⟩⟩
  -- a column of a bare tag
  · by_cases hn : v.isNull = true
    · rw [LocalValue.isNull_iff.1 hn]
      exact agree_null r tag
    · obtain ⟨huniform, ht⟩ := hv.resolve_left hn
      exact agree_of_takes hzone (htype.imp_right fun h => ⟨h.1, fun ha => hn (h.2 ha)⟩) huniform ht
  -- a column of arrays of a bare tag
  · rintro tag items htype rfl hitems
    exact agree_of_elements hzone htype hitems
  -- a list, and then an array, in a column of the bare tag of arrays
  · rintro items rfl
    rw [object_list (tag_of_bare htype), hzone, LocalValue.uniform_list_iff_keptUnder]
    refine ⟨rfl, fun o ho => ?_, Tagged.toClient_ofElements_iff r.zone⟩
    obtain ⟨ws, -, rfl⟩ := Tagged.exists_of_toClient_ofElements ho
    exact ⟨ws, rfl⟩
  · rintro a rfl
    refine ⟨object_array (tag_of_bare htype), fun o ho => ?_, Tagged.toClient_ofElements_iff r.zone⟩
    obtain ⟨ws, -, rfl⟩ := Tagged.exists_of_toClient_ofElements ho
    exact ⟨ws, rfl⟩

end CellReader

end

namespace CellReader

attribute [local instance] Platform.utc

/-- A date, an array of integers with a null in it, and a list and an array with a zone of its own
in a column of the bare tag of arrays. -/
theorem object_agrees_with_typed_value_date_and_arrays :
    let zone : Option Zone := some (.fixed 3600000)
    let cursor (row : LocalValue) : Cursor Unit := ⟨(), .iterating, 1, some row, false⟩
    let reader (type : ColumnType) : CellReader := ⟨.new 0 "cell" type, .row, zone, zone⟩
    let direct (type : ColumnType) (v : LocalValue) : Except Error ClientValue :=
      ((cursor v).read (reader type) (reader type).object).1
    ClientValue.Agree (.int 19000) (direct (.ofTag .sqlDate) (.int 19000))
        (Tagged.ofLocal .sqlDate (.int 19000) >>= (·.toClient zone))
      ∧ ClientValue.Agree (.list [.int 1, .null])
        (direct (.array (.ofTag .integer)) (.list [.int 1, .null]))
        (Tagged.ofElements .integer [.int 1, .null] >>= (·.toClient zone))
      ∧ direct (.ofTag .array) (.list [.int 1]) = .ok (.array ⟨.scalar .object, [.int 1], zone⟩)
      ∧ (Tagged.ofLocal .array (.list [.int 1]) >>= (·.toClient zone))
        = .ok (.array ⟨.scalar .integer, [.int 1], zone⟩)
      ∧ direct (.ofTag .array) (.array ⟨.scalar .integer, [.int 1], some .utc⟩)
        = .ok (.array ⟨.scalar .integer, [.int 1], some .utc⟩)
      ∧ (Tagged.ofLocal .array (.array ⟨.scalar .integer, [.int 1], some .utc⟩)
          >>= (·.toClient zone)) = .ok (.array ⟨.scalar .integer, [.int 1], zone⟩) := by
  intro zone cursor reader direct
  have hone : LocalValue.ElementsOf .integer [.int 1] := fun e he =>
    .inr (by rw [List.mem_singleton.1 he]; exact ⟨.scalar rfl, rfl⟩)
  refine ⟨?_, ?_, ?_⟩
  · exact (object_agrees_with_typed_value _ _ _ rfl rfl).1 .sqlDate
      (.inr ⟨rfl, nofun⟩) (.inr ⟨.scalar rfl, .inl rfl⟩)
  · refine (object_agrees_with_typed_value _ _ _ rfl rfl).2.1 .integer _ rfl rfl fun e he => ?_
    rcases List.mem_cons.1 he with rfl | he
    · exact .inr ⟨.scalar rfl, rfl⟩
    · rw [List.mem_singleton.1 he]
      exact .inl rfl
  · have hlist := ((object_agrees_with_typed_value (cursor (.list [.int 1]))
      (reader (.ofTag .array)) _ rfl rfl).2.2 (.inr rfl)).1 _ rfl
    have harray := ((object_agrees_with_typed_value
      (cursor (.array ⟨.scalar .integer, [.int 1], some .utc⟩))
      (reader (.ofTag .array)) _ rfl rfl).2.2 (.inr rfl)).2 _ rfl
    exact ⟨hlist.1, hlist.2.2.2 hone.uniform, harray.1, harray.2.2.2 hone.keptUnder⟩

/-- The two ways differ on a list in a column of the bare tag of arrays, whose type says that the
elements are objects; on a list of two tags, the elements of which the typed value brings to one
tag; on an array with a zone that is not the reader's; and on a signalling NaN within an array. -/
theorem object_differs_from_typed_value :
    let cursor (row : LocalValue) : Cursor Unit := ⟨(), .iterating, 1, some row, false⟩
    let reader (type : ColumnType) : CellReader := ⟨.new 0 "v" type, .row, none, none⟩
    let direct (type : ColumnType) (v : LocalValue) : Except Error ClientValue :=
      ((cursor v).read (reader type) (reader type).object).1
    let typed (tv : Except Error TypedValue) : Except Error ClientValue := tv >>= (·.toClient none)
    direct (.ofTag .array) (.list [.int 1]) ≠ typed (Tagged.ofLocal .array (.list [.int 1]))
      ∧ direct (.scalar .array) (.list [.int 1, .long 2])
        ≠ typed (Tagged.ofLocal .array (.list [.int 1, .long 2]))
      ∧ direct (.scalar .array) (.array ⟨.scalar .integer, [.int 1], some .utc⟩)
        ≠ typed (Tagged.ofLocal .array (.array ⟨.scalar .integer, [.int 1], some .utc⟩))
      ∧ direct (.array (.ofTag .float)) (.list [.float ⟨0x7f800001⟩])
        ≠ typed (Tagged.ofElements .float [.float ⟨0x7f800001⟩]) := by
  intro cursor reader direct typed
  have htag : direct (.ofTag .array) (.list [.int 1])
        = .ok (.array ⟨.scalar .object, [.int 1], none⟩)
      ∧ typed (Tagged.ofLocal .array (.list [.int 1]))
        = .ok (.array ⟨.scalar .integer, [.int 1], none⟩) := ⟨rfl, rfl⟩
  have hwidth : direct (.scalar .array) (.list [.int 1, .long 2])
        = .ok (.array ⟨.scalar .integer, [.int 1, .long 2], none⟩)
      ∧ typed (Tagged.ofLocal .array (.list [.int 1, .long 2]))
        = .ok (.array ⟨.scalar .integer, [.int 1, .int 2], none⟩) := ⟨rfl, rfl⟩
  have hzone : direct (.scalar .array) (.array ⟨.scalar .integer, [.int 1], some .utc⟩)
        = .ok (.array ⟨.scalar .integer, [.int 1], some .utc⟩)
      ∧ typed (Tagged.ofLocal .array (.array ⟨.scalar .integer, [.int 1], some .utc⟩))
        = .ok (.array ⟨.scalar .integer, [.int 1], none⟩) := ⟨rfl, rfl⟩
  have hquiet : direct (.array (.ofTag .float)) (.list [.float ⟨0x7f800001⟩])
        = .ok (.array ⟨.scalar .float, [.float ⟨0x7f800001⟩], none⟩)
      ∧ typed (Tagged.ofElements .float [.float ⟨0x7f800001⟩])
        = .ok (.array ⟨.scalar .float, [.float ⟨0x7fc00001⟩], none⟩) := ⟨rfl, rfl⟩
  rw [htag.1, htag.2, hwidth.1, hwidth.2, hzone.1, hzone.2, hquiet.1, hquiet.2]
  simp

end CellReader

end TypedRows
