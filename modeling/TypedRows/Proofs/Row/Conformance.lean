import TypedRows.Proofs.Row.Binding
import TypedRows.Proofs.Value.Settled

/-!
# Rows and the types of their columns

A cell of a JSON row is read under the tag of its column and, where the column is one of arrays,
the tag of the elements. What stands deeper is read without the type that is declared for it: the
elements of arrays within arrays and the fields of records without any tag, and what has a tag of
its own under that. The cell conforms to the type of the column exactly when every such part has
the declared variant by itself.

## Main definitions

* `TypedRows.ColumnType.admits` — the local values that conform to a type at every depth.
* `TypedRows.Reading` — how a serial value is read: under a tag or without one.
* `TypedRows.SerialValue.suits` — the serial values that, read in some way, conform to a type.
* `TypedRows.JsonRows.cellSuits` — the cells that conform to their column when they are read.

## Main results

* `TypedRows.SerialValue.readsConform` — what is read conforms exactly when it suits the type.
* `TypedRows.JsonRows.admits_of_isFlat` — types that declare nothing deeper than elements.
* `TypedRows.JsonRows.row_conforms_iff` — which cells of a row conform to their columns.
-/

set_option autoImplicit false

namespace TypedRows

/-! ## Values that conform to types -/

mutual

/-- The local values that conform to a type at every depth: null, values of the variant of a
scalar tag, lists of conforming elements, and records of conforming fields where fields are
declared. The tag of objects names no variant. -/
def ColumnType.admits : ColumnType → LocalValue → Bool
  | _, .null => true
  | .scalar tag, v => tag == .object || Tag.ofLocal v == tag.native
  | .array component, .list items => items.all component.admits
  | .struct fields, .struct s => fields.isEmpty || ColumnType.admitsFields fields s.values
  | _, _ => false

/-- The values that conform, one by one, to the types of columns. -/
def ColumnType.admitsFields : List (ColumnOf ColumnType) → List LocalValue → Bool
  | [], [] => true
  | ⟨_, _, type, _⟩ :: fields, v :: vs => type.admits v && ColumnType.admitsFields fields vs
  | _, _ => false

end

/-- A scalar type admits what is of the variant of its tag. -/
lemma ColumnType.admits_scalar {tag : Tag} {v : LocalValue} (hn : v.isNull = false) :
    (scalar tag).admits v = (tag == .object || Tag.ofLocal v == tag.native) := by
  cases v <;> first | rfl | cases hn

/-- No array type admits a scalar. -/
lemma ColumnType.admits_array_of_isScalar {component : ColumnType} {v : LocalValue}
    (hv : v.isScalar = true) : (array component).admits v = false := by
  cases v <;> first | rfl | cases hv

/-- No record type admits a scalar. -/
lemma ColumnType.admits_struct_of_isScalar {fields : List Column} {v : LocalValue}
    (hv : v.isScalar = true) : (struct fields).admits v = false := by
  cases v <;> first | rfl | cases hv

/-! ## Ways of reading -/

/-- How a serial value is read. -/
inductive Reading where
  /-- Under a tag, and a tag of the elements if it is an array. -/
  | under (tag : Tag) (component : Option Tag)
  /-- Without a tag. -/
  | bare

namespace Reading

/-- The tag whose variant a list is read as. -/
def listTag : Reading → Tag
  | under tag _ => tag.native
  | bare => .array

/-- How the elements of a list are read. -/
def elements : Reading → Reading
  | under _ (some tag) => if tag.holdsNothing then bare else under tag none
  | under _ none => bare
  | bare => bare

/-- The tag whose variant a value without parts is read as. -/
def scalarTag : Reading → SerialValue → Tag
  | under tag _, _ => tag.native
  | bare, .bool _ => .boolean
  | bare, .integer _ => .long
  | bare, .float _ => .double
  | bare, .decimal _ => .number
  | bare, .string _ => .string
  | bare, _ => .null

end Reading

namespace SerialValue

/-- The outcome of reading a serial value. -/
def read : Reading → SerialValue → Except Error LocalValue
  | .under tag component, s => s.toLocal tag component
  | .bare, s => s.toPlainLocal

mutual

/-- The serial values that conform to a type when they are read. What has a tag of its own is read
under that tag, and has to suit the type in that way. -/
def suits (r : Reading) (type : ColumnType) : SerialValue → Bool
  | null => true
  | typed ⟨tag, s, component⟩ => s.suits (.under tag component) type
  | list items =>
    match type with
    | .scalar tag => tag == .object || r.listTag == tag.native
    | .array component => r.listTag == .array && suitsItems r.elements component items
    | .struct fields => r.listTag == .struct && (fields.isEmpty || suitsFields fields items)
  | scalar =>
    match type with
    | .scalar tag => tag == .object || r.scalarTag scalar == tag.native
    | _ => false

/-- Items that conform to one type when they are read. -/
def suitsItems (r : Reading) (type : ColumnType) : List SerialValue → Bool
  | [] => true
  | s :: ss => s.suits r type && suitsItems r type ss

/-- Items that conform, one by one, to the types of columns when they are read without a tag. -/
def suitsFields : List Column → List SerialValue → Bool
  | [], [] => true
  | field :: fields, s :: ss => s.suits .bare field.type && suitsFields fields ss
  | _, _ => false

end

/-! ## What is read -/

variable {r : Reading} {type : ColumnType} {s : SerialValue} {v : LocalValue}
  {items : List SerialValue} {values : List LocalValue}

/-- Items are read one by one in some way. -/
def ReadItems (r : Reading) (items : List SerialValue) (values : List LocalValue) : Prop :=
  List.Forall₂ (fun s v => s.read r = .ok v) items values

/-- A value without parts is read as one of the variant that the reading gives it. -/
lemma ofLocal_read (hs : s.isScalar = true) (h : s.read r = .ok v) :
    v.isScalar = true ∧ Tag.ofLocal v = r.scalarTag s := by
  cases r with
  | under tag component =>
    rw [read, toLocal_of_isScalar hs] at h
    exact variant_of_scalarLocal h
  | bare =>
    cases s with
    | null | list | typed => cases hs
    | _ =>
      obtain rfl := Except.ok.inj h
      exact ⟨rfl, rfl⟩

/-- Lists are read under the tags of arrays and of records only. -/
lemma tag_of_toLocal_list {tag : Tag} {component : Option Tag}
    (h : (list items).toLocal tag component = .ok v) : tag = .array ∨ tag = .struct := by
  cases tag <;> first | exact .inl rfl | exact .inr rfl | cases h

/-- The elements of an array are read under the tag of the elements, if it holds something. -/
lemma readElement_eq_read (component : Option Tag) :
    LocalValue.readElement component = read (Reading.elements (.under .array component)) := by
  funext s
  cases component with
  | none => rfl
  | some tag =>
    rw [LocalValue.readElement, Reading.elements]
    split <;> rfl

/-- A list is read as a list or as a record, item by item. -/
lemma read_list (h : (list items).read r = .ok v) :
    (r.listTag = .array ∧ ∃ values, v = .list values ∧ ReadItems r.elements items values)
      ∨ r.listTag = .struct ∧ ∃ values, v = .struct (.ofValues values)
        ∧ ReadItems .bare items values := by
  cases r with
  | under tag component =>
    rw [read] at h
    rcases tag_of_toLocal_list h with rfl | rfl
    · rw [toLocal_list_array] at h
      obtain ⟨values, hvalues, rfl⟩ := map_eq_ok_iff.1 h
      refine .inl ⟨rfl, values, rfl, ?_⟩
      rw [readElement_eq_read] at hvalues
      exact mapM_eq_ok_iff.1 hvalues
    · rw [toLocal_list_struct] at h
      obtain ⟨values, hvalues, rfl⟩ := map_eq_ok_iff.1 h
      exact .inr ⟨rfl, values, rfl, mapM_eq_ok_iff.1 hvalues⟩
  | bare =>
    rw [read, toPlainLocal, LocalValue.toPlainItems_eq_mapM] at h
    obtain ⟨values, hvalues, h⟩ := bind_eq_ok_iff.1 h
    obtain rfl := Except.ok.inj h
    exact .inl ⟨rfl, values, rfl, mapM_eq_ok_iff.1 hvalues⟩

/-! ## Conformance of what is read -/

/-- What is read of a value conforms to a type exactly when the value suits it. -/
def ReadsConform (s : SerialValue) : Prop :=
  ∀ {r : Reading} {type : ColumnType} {v : LocalValue}, s.read r = .ok v →
    type.admits v = s.suits r type

/-- All items conform to a type when what they were read of suits it. -/
lemma ReadItems.all_admits (h : ReadItems r items values) (hall : ∀ s ∈ items, s.ReadsConform) :
    values.all type.admits = suitsItems r type items := by
  induction h with
  | nil => rfl
  | cons hread _ ih =>
    rw [List.forall_mem_cons] at hall
    rw [List.all_cons, suitsItems, hall.1 hread, ih hall.2]

/-- All items conform to fields when what they were read of suits them. -/
lemma ReadItems.admitsFields (h : ReadItems .bare items values)
    (hall : ∀ s ∈ items, s.ReadsConform) (fields : List Column) :
    ColumnType.admitsFields fields values = suitsFields fields items := by
  induction h generalizing fields with
  | nil => cases fields <;> rfl
  | cons hread _ ih =>
    rw [List.forall_mem_cons] at hall
    cases fields with
    | nil => rfl
    | cons field fields =>
      rw [ColumnType.admitsFields, suitsFields, hall.1 hread, ih hall.2]

/-- A list conforms when it is read as a list or as a record and its items conform. -/
lemma readsConform_list (hall : ∀ s ∈ items, s.ReadsConform) : (list items).ReadsConform := by
  intro r type v h
  rcases read_list h with ⟨htag, values, rfl, hvalues⟩ | ⟨htag, values, rfl, hvalues⟩
  · cases type with
    | scalar tag => rw [suits, htag, ColumnType.admits_scalar rfl]; rfl
    | array component => rw [suits, htag, ColumnType.admits, hvalues.all_admits hall]; rfl
    | struct fields => rw [suits, htag]; rfl
  · cases type with
    | scalar tag => rw [suits, htag, ColumnType.admits_scalar rfl]; rfl
    | array component => rw [suits, htag]; rfl
    | struct fields =>
      rw [suits, htag, StructOf.ofValues, ColumnType.admits, hvalues.admitsFields hall]
      rfl

/-- A value without parts conforms to the tags of its variant. -/
lemma readsConform_scalar (hs : s.isScalar = true) : s.ReadsConform := by
  intro r type v h
  obtain ⟨hv, htag⟩ := ofLocal_read hs h
  cases type with
  | scalar tag =>
    rw [ColumnType.admits_scalar (LocalValue.isNull_of_isScalar hv), htag]
    cases s <;> first | rfl | cases hs
  | array component =>
    rw [ColumnType.admits_array_of_isScalar hv]
    cases s <;> first | rfl | cases hs
  | struct fields =>
    rw [ColumnType.admits_struct_of_isScalar hv]
    cases s <;> first | rfl | cases hs

/-- **What is read conforms to a type exactly when the value suits it.** -/
theorem readsConform (s : SerialValue) : s.ReadsConform := by
  induction s using list_induction with
  | null =>
    intro r type v h
    obtain rfl : LocalValue.null = v := by cases r <;> exact Except.ok.inj h
    cases type <;> rfl
  | list items ih => exact readsConform_list ih
  | typed tag s component ih =>
    intro r type v h
    have hread : s.read (.under tag component) = .ok v := by cases r <;> exact h
    exact ih hread
  | _ => exact readsConform_scalar rfl

/-! ## Types that declare nothing deeper than elements -/

/-- The values that have no tag of their own. -/
def isUntagged : SerialValue → Bool
  | typed _ => false
  | _ => true

/-- There are no tags in a scalar. -/
lemma isUntagged_of_isScalar (hs : s.isScalar = true) : s.isUntagged = true := by
  cases s <;> first | rfl | cases hs

/-- Under a tag every value without a tag of its own has the variant of the tag. -/
lemma suits_scalar {tag : Tag} (hs : s.isUntagged = true) (component : Option Tag) :
    s.suits (.under tag component) (.scalar tag) = true := by
  cases s with
  | typed => cases hs
  | _ => simp [suits, Reading.listTag, Reading.scalarTag]

/-- Every variant is one of objects. -/
lemma suits_object (hs : s.isUntagged = true) (r : Reading) :
    s.suits r (.scalar .object) = true := by
  cases s with
  | typed => cases hs
  | _ => simp [suits]

/-- A list suits a type when its items do. -/
lemma suitsItems_of_forall (h : ∀ s ∈ items, s.suits r type = true) :
    suitsItems r type items = true := by
  induction items with
  | nil => rfl
  | cons s items ih =>
    rw [List.forall_mem_cons] at h
    rw [suitsItems, h.1, ih h.2]
    rfl

/-- The elements of an array suit the tag that is declared for them. -/
lemma suitsItems_elements {tag : Tag} (htag : tag ≠ .null) (h : ∀ s ∈ items, s.isUntagged = true) :
    suitsItems (Reading.elements (.under .array (some tag))) (.scalar tag) items = true := by
  refine suitsItems_of_forall fun s hs => ?_
  rw [Reading.elements]
  split
  · next hnothing =>
    obtain rfl : tag = .object := by
      cases tag <;> first | rfl | exact absurd rfl htag | cases hnothing
    exact suits_object (h s hs) .bare
  · exact suits_scalar (h s hs) none

end SerialValue

/-- The types of scalars, of arrays of scalars other than nulls, and of records without declared
fields. -/
def ColumnType.isFlat : ColumnType → Bool
  | scalar _ => true
  | array (scalar tag) => tag != .null
  | struct [] => true
  | _ => false

/-- How the cells of a column are read. -/
def Reading.ofColumn (column : Column) : Reading :=
  .under column.tag (column.type.component?.map (·.tag))

namespace SerialValue

/-- What is read under a flat type suits it when neither it nor its items have tags. -/
lemma suits_of_isFlat {s : SerialValue} {column : Column} {v : LocalValue}
    (hflat : column.type.isFlat = true) (hs : s.isUntagged = true)
    (hitems : ∀ items, s = list items → ∀ i ∈ items, i.isUntagged = true)
    (h : s.read (.ofColumn column) = .ok v) : s.suits (.ofColumn column) column.type = true := by
  obtain ⟨ordinal, name, type, nullable⟩ := column
  cases type with
  | scalar tag => exact suits_scalar hs none
  | array component =>
    cases component with
    | scalar tag =>
      have htag : tag ≠ .null := by simpa [ColumnType.isFlat] using hflat
      cases s with
      | null => rfl
      | typed => cases hs
      | list items => exact suitsItems_elements htag (hitems items rfl)
      | _ => cases h
    | _ => cases hflat
  | struct fields =>
    cases fields with
    | cons => cases hflat
    | nil =>
      cases s with
      | null => rfl
      | typed => cases hs
      | list items => rfl
      | _ => cases h

end SerialValue

/-! ## Cells and rows -/

namespace JsonRows

variable {column : Column} {json : JsonValue} {v : LocalValue}

/-- The cells that conform to the type of their column when they are read. Text is read under the
tag of the column only. -/
def cellSuits (column : Column) : JsonValue → Bool
  | .null | .string _ => true
  | json =>
    match SerialValue.ofJson json with
    | .ok s => s.suits (.ofColumn column) column.type
    | .error _ => false

/-- A date, a time or a timestamp that is read from text has the variant of its tag. -/
lemma variant_of_temporalOfText {tag : Tag} {text : String} (ht : tag.isTemporal = true)
    (h : temporalOfText tag text = .ok v) : v.isNull = false ∧ Tag.ofLocal v = tag.native := by
  unfold temporalOfText at h
  generalize Calendar.readDate text = date, Calendar.readTime text 3 = time,
    Calendar.readTimestamp text 3 = timestamp at h
  cases tag with
  | sqlDate =>
    cases date with
    | ok n =>
      obtain rfl := Except.ok.inj h
      exact ⟨rfl, rfl⟩
    | error e => cases h
  | sqlTime | instantTime =>
    cases time with
    | ok n =>
      obtain rfl := Except.ok.inj h
      exact ⟨rfl, rfl⟩
    | error e => cases h
  | sqlTimestamp | utilDate | instantTimestamp =>
    cases timestamp with
    | ok n =>
      obtain rfl := Except.ok.inj h
      exact ⟨rfl, rfl⟩
    | error e => cases h
  | _ => cases ht

/-- A text is read under the tag of its column. -/
lemma admits_of_string {text : String} (h : decodeCell column (.string text) = .ok v) :
    column.type.admits v = true := by
  rw [decodeCell, within_eq_ok_iff] at h
  split at h
  · next ht =>
    obtain ⟨hn, htag⟩ := variant_of_temporalOfText ht h
    have htype : column.type = .scalar column.tag := by
      obtain ⟨_, _, type, _⟩ := column
      cases type <;> first | rfl | cases ht
    rw [htype, ColumnType.admits_scalar hn, htag]
    simp
  · rw [(SerialValue.string text).readsConform (r := .ofColumn column) h]
    obtain ⟨ordinal, name, type, nullable⟩ := column
    cases type with
    | scalar tag => exact SerialValue.suits_scalar rfl none
    | array component => cases h
    | struct fields => cases h

/-- **A cell conforms to its column exactly when it suits it.** -/
theorem admits_iff_cellSuits (h : decodeCell column json = .ok v) :
    column.type.admits v = cellSuits column json := by
  cases json with
  | null =>
    obtain rfl := Except.ok.inj h
    cases column.type <;> rfl
  | string text => exact admits_of_string h
  | _ =>
    obtain ⟨s, hs, hread⟩ := bind_eq_ok_iff.1 h
    rw [within_eq_ok_iff] at hread
    rw [cellSuits, hs]
    · exact s.readsConform (r := .ofColumn column) hread
    all_goals nofun

/-- The JSON values that are no objects. -/
def isNoObject : JsonValue → Bool
  | .object _ => false
  | _ => true

/-- Numbers are scalars. -/
lemma isScalar_ofNumeral (n : Numeral) : (SerialValue.ofNumeral n).isScalar = true := by
  cases n with
  | integer n =>
    rw [SerialValue.ofNumeral]
    split <;> rfl
  | float x => rfl

/-- Only objects are read as values with tags of their own. -/
lemma isUntagged_of_ofJson {s : SerialValue} (hjson : isNoObject json = true)
    (h : SerialValue.ofJson json = .ok s) : s.isUntagged = true := by
  cases json with
  | object members => cases hjson
  | array items =>
    obtain ⟨ss, -, h⟩ := bind_eq_ok_iff.1 h
    obtain rfl := Except.ok.inj h
    rfl
  | number n =>
    obtain rfl := Except.ok.inj h
    exact SerialValue.isUntagged_of_isScalar (isScalar_ofNumeral n)
  | _ =>
    obtain rfl := Except.ok.inj h
    rfl

/-- Lists without objects are read as lists without tags. -/
lemma isUntagged_items {ss : List SerialValue}
    (hitems : ∀ items, json = .array items → ∀ i ∈ items, isNoObject i = true)
    (h : SerialValue.ofJson json = .ok (.list ss)) : ∀ s ∈ ss, s.isUntagged = true := by
  cases json with
  | array items =>
    obtain ⟨ss', hss, h⟩ := bind_eq_ok_iff.1 h
    obtain rfl := SerialValue.list.inj (Except.ok.inj h)
    rw [SerialValue.ofJsonItems_eq_mapM, mapM_eq_ok_iff] at hss
    intro s hs
    obtain ⟨i, hi, hread⟩ := exists_of_mem_right hss hs
    exact isUntagged_of_ofJson (hitems items rfl i hi) hread
  | number n =>
    have hn := isScalar_ofNumeral n
    rw [Except.ok.inj h] at hn
    cases hn
  | object members =>
    obtain ⟨_, -, h⟩ := bind_eq_ok_iff.1 h
    obtain ⟨_, -, h⟩ := bind_eq_ok_iff.1 h
    obtain ⟨_, -, h⟩ := bind_eq_ok_iff.1 h
    cases h
  | _ => cases h

/-- **Cells without tags of their own conform to flat columns**: those of scalars, of arrays of
scalars and of records without declared fields. -/
theorem admits_of_isFlat (hflat : column.type.isFlat = true) (hjson : isNoObject json = true)
    (hitems : ∀ items, json = .array items → ∀ i ∈ items, isNoObject i = true)
    (h : decodeCell column json = .ok v) : column.type.admits v = true := by
  rw [admits_iff_cellSuits h]
  cases json with
  | null | string => rfl
  | object => cases hjson
  | _ =>
    obtain ⟨s, hs, hread⟩ := bind_eq_ok_iff.1 h
    rw [within_eq_ok_iff] at hread
    rw [cellSuits, hs]
    · exact s.suits_of_isFlat hflat (isUntagged_of_ofJson hjson hs)
        (fun ss hss => isUntagged_items hitems (hss ▸ hs)) hread
    all_goals nofun

/-- **Rows and the types of their columns.** A row that is read has a field for every column, which
conforms to the type of the column at every depth exactly when the cell suits the column. -/
theorem row_conforms_iff {s s' : JsonRows} (h : s.nextRow = (.ok (some v), s')) :
    ∃ row rest fields, s.rows = row :: rest ∧ v = .record fields
      ∧ fields.map (·.1) = s.columns.map (·.name)
      ∧ ∀ i column, s.columns[i]? = some column → ∃ raw x, rawCell? row i column = .ok raw
        ∧ fields[i]? = some (column.name, x)
        ∧ (column.type.admits x = true ↔ cellSuits column (raw.getD .null) = true) := by
  obtain ⟨row, rest, fields, hrows, hfields, rfl⟩ := exists_fields_of_nextRow h
  refine ⟨row, rest, fields, hrows, rfl, names_of_decodeFields hfields, fun i column hi => ?_⟩
  obtain ⟨raw, x, hraw, hx, hfield⟩ := field_of_decodeFields hfields hi
  exact ⟨raw, x, hraw, hfield, by rw [admits_iff_cellSuits hx]⟩

/-- A row of integers and of a record of a long and a text, all of which have the declared types. -/
theorem row_conforms_integers_and_record :
    let columns : List Column := [.new 0 "a" (.array (.scalar .integer)),
      .new 1 "b" (.struct [.new 0 "x" (.scalar .long), .new 1 "y" (.scalar .string)])]
    let row : JsonValue := .array [.array [.number (.integer 1), .null],
      .array [.number (.integer 2), .string "z"]]
    ∃ s fields, (⟨[row], columns, 0⟩ : JsonRows).nextRow = (.ok (some (.record fields)), s)
      ∧ ∀ (i : Nat) (column : Column), columns[i]? = some column →
        ∃ x, fields[i]? = some (column.name, x) ∧ column.type.admits x = true := by
  intro columns row
  have hnext : (⟨[row], columns, 0⟩ : JsonRows).nextRow
      = (.ok (some (.record [("a", .list [.int 1, .null]),
          ("b", .struct (.ofValues [.long 2, .string "z"]))])), ⟨[], columns, 1⟩) := rfl
  refine ⟨_, _, hnext, fun i column hi => ?_⟩
  obtain ⟨_, _, _, hrows, hv, -, hcolumns⟩ := row_conforms_iff hnext
  obtain ⟨rfl, -⟩ := List.cons.inj hrows
  obtain rfl := LocalValue.record.inj hv
  obtain ⟨raw, x, hraw, hx, hiff⟩ := hcolumns i column hi
  refine ⟨x, hx, hiff.2 ?_⟩
  match i with
  | 0 =>
    obtain rfl := Option.some.inj hi
    obtain rfl := Except.ok.inj hraw
    decide
  | 1 =>
    obtain rfl := Option.some.inj hi
    obtain rfl := Except.ok.inj hraw
    decide

/-- The integers of an array within an array are read as longs, whatever the column declares. -/
theorem array_within_array_of_integers_reads_longs :
    let column : Column := .new 0 "v" (.array (.array (.scalar .integer)))
    let row : JsonValue := .array [.array [.array [.number (.integer 1)]]]
    ∃ s x, (⟨[row], [column], 0⟩ : JsonRows).nextRow = (.ok (some (.record [("v", x)])), s)
      ∧ x = .list [.list [.long 1]] ∧ column.type.admits x = false
      ∧ column.type.admits (.list [.list [.int 1]]) = true :=
  ⟨_, _, rfl, rfl, by decide, by decide⟩

end JsonRows

end TypedRows
