import TypedRows.Proofs.Value.ClientSerial

/-!
# Lists within lists in client form

The client value of a list has the tag of its elements and their local values. Where the elements
are lists, each of them becomes an array of objects on the way back, so that what is in them is
written under the tags it has by itself and read without a tag, which knows long integers, doubles,
decimals, truth values and texts only. One level of lists comes back as it was; of more than one
level only those come back that hold no other scalars than these.

## Main definitions

* `TypedRows.LocalValue.Nested` — the values of scalars and of lists of one tag.
* `TypedRows.LocalValue.bare` — the form of a value of lists and scalars that has no tags in it.
* `TypedRows.LocalValue.widened` — the value that is read of the bare form.
* `TypedRows.LocalValue.returned` — what comes back of an element of a list.

## Main results

* `TypedRows.LocalValue.Nested.toSerial_array` — arrays of lists are written in the bare form.
* `TypedRows.LocalValue.Nested.exists_comesBackAs` — every nested list comes back from client form.
* `TypedRows.Tagged.nested_list_comes_back_iff` — which lists come back as they were.
-/

set_option autoImplicit false

namespace TypedRows

open Calendar

namespace LocalValue

/-! ## Forms without tags -/

mutual

/-- The form of a value of lists and scalars that has no tags in it. -/
def bare : LocalValue → SerialValue
  | list items => .list (bareItems items)
  | other => other.scalarSerial

/-- The bare forms of items. -/
def bareItems : List LocalValue → List SerialValue
  | [] => []
  | item :: items => item.bare :: bareItems items

end

mutual

/-- The value with every scalar in it brought to a variant that is known without a tag. -/
def widened : LocalValue → LocalValue
  | byte n => long (Int64.ofInt n.toInt)
  | short n => long (Int64.ofInt n.toInt)
  | int n => long (Int64.ofInt n.toInt)
  | float x => double (.ofBinary32 x)
  | char c => string (String.singleton c)
  | bytes b => string (Base64.text b)
  | list items => list (widenedItems items)
  | other => other

/-- Items that were widened. -/
def widenedItems : List LocalValue → List LocalValue
  | [] => []
  | item :: items => item.widened :: widenedItems items

end

/-- The values of scalars and of lists whose elements have one tag, nested to any depth. -/
inductive Nested : LocalValue → Prop
  | null : Nested .null
  | scalar {v : LocalValue} (h : v.isScalar = true) : Nested v
  | list {items : List LocalValue} (tag : Tag)
    (htag : ∀ v ∈ items, v.isNull = true ∨ Tag.ofLocal v = tag) (h : ∀ v ∈ items, Nested v) :
    Nested (.list items)

variable {v w : LocalValue} {items : List LocalValue}

/-- Lists within lists are values of lists and records. -/
lemma Nested.uniform (hv : v.Nested) : v.Uniform := by
  induction hv with
  | null => exact .null
  | scalar h => exact .scalar h
  | list tag htag _ ih => exact .list tag htag ih

/-- The bare form of a list has the bare forms of its items. -/
@[simp] lemma bare_list (items : List LocalValue) : (list items).bare = .list (items.map bare) := by
  have h : bareItems items = items.map bare := by
    induction items with
    | nil => rfl
    | cons v vs ih => rw [bareItems, ih, List.map_cons]
  rw [bare, h]

/-- A list is widened item by item. -/
@[simp] lemma widened_list (items : List LocalValue) :
    (list items).widened = list (items.map widened) := by
  have h : widenedItems items = items.map widened := by
    induction items with
    | nil => rfl
    | cons v vs ih => rw [widenedItems, ih, List.map_cons]
  rw [widened, h]

/-- The bare form of a scalar is its plain one. -/
lemma bare_scalar (h : v.isScalar = true) : v.bare = v.scalarSerial := by
  cases v <;> first | rfl | cases h

/-- The bare form does not tell whether a value was reread. -/
lemma Nested.bare_reread (hv : v.Nested) : (v.reread id).bare = v.bare := by
  induction hv with
  | null => rfl
  | scalar h =>
    rw [bare_scalar h, bare_scalar (by rw [isScalar_reread, h]), scalarSerial_reread h]
  | list tag htag h ih =>
    rw [reread_list, bare_list, bare_list, List.map_map]
    exact congrArg SerialValue.list (List.map_congr_left ih)

/-- What is read of the bare form without a tag is widened. -/
lemma Nested.toPlainLocal_bare (hv : v.Nested) : v.bare.toPlainLocal = .ok v.widened := by
  induction hv with
  | null => rfl
  | @scalar v h => cases v <;> first | rfl | cases h
  | list tag htag h ih =>
    rw [bare_list, widened_list, SerialValue.toPlainLocal, toPlainItems_eq_mapM,
      mapM_map_eq_ok_map ih]
    rfl

/-- A map changes nothing when it changes no item. -/
lemma map_eq_self_iff {f : LocalValue → LocalValue} :
    items.map f = items ↔ ∀ v ∈ items, f v = v := by
  simpa using List.map_inj_left (l := items) (f := f) (g := id)

/-- A value is widened to itself when it holds no narrow scalars. -/
lemma Nested.widened_eq_self_iff (hv : v.Nested) : v.widened = v ↔ ¬ v.Holds IsNarrow := by
  induction hv with
  | null => simp [widened, holds_null_iff, IsNarrow]
  | @scalar v h =>
    rw [holds_scalar_iff h]
    cases v <;> simp_all [widened, IsNarrow, isScalar]
  | list tag htag h ih =>
    rw [widened_list, list.injEq, map_eq_self_iff, holds_list_iff]
    simp only [IsNarrow, false_or, not_exists, not_and]
    exact forall₂_congr ih

end LocalValue

/-! ## Writing arrays of lists -/

namespace ArrayOf

variable [Platform] {a : ArrayValue} {v : LocalValue}

/-- The elements of an array of objects are read as they are. -/
lemma object_of_objects (hc : a.component = .scalar .object) (hn : v.isNull = false) :
    a.elementReader.object v = .ok (.ofLocal v) := by
  have htag : a.elementReader.tag = Tag.object.boxed := CellReader.tag_of_bare (.inl hc)
  rw [CellReader.object, htag, if_neg (by simp [hn])]
  rfl

omit [Platform] in
/-- The elements of an array of objects are written under the tags they have by themselves. -/
lemma elementTag_of_objects (hc : a.component = .scalar .object) (o : ClientValue) :
    a.elementTag o = .ofClient o := by
  rw [elementTag, hc]
  rfl

/-- A scalar among them is written in its plain form. -/
lemma elementSerial_of_objects (hc : a.component = .scalar .object) (hv : v.isScalar = true)
    (zone : Option Zone) : a.elementSerial zone v = .ok v.scalarSerial := by
  have hn : v.isNull = false := LocalValue.isNull_of_isScalar hv
  have htag : Tag.ofClient (.ofLocal v) = Tag.ofLocal v := by cases v <;> first | rfl | cases hv
  have htemporal : (Tag.ofLocal v).isTemporal = false := by cases v <;> rfl
  rw [elementSerial_of_object (object_of_objects hc hn), elementTag_of_objects hc, htag]
  exact ClientValue.toSerial_ofLocal htemporal hv (Tag.native_ofLocal v).symm zone

/-- A list among the elements is written as an array, of objects or of elements of its own tag. -/
lemma exists_elementSerial_list (hc : a.component = .scalar .object ∨ a.component = .ofTag .array)
    (items : List LocalValue) (zone : Option Zone) :
    ∃ b : ArrayValue, b.elements = items
      ∧ (b.component = .scalar .object ∨ b.component = .ofTag (.ofElements items))
      ∧ a.elementSerial zone (.list items) = (ClientValue.array b).toSerial .array zone := by
  rcases hc with hc | hc
  · refine ⟨⟨.ofTag (.ofElements items), items, none⟩, rfl, .inr rfl, ?_⟩
    rw [elementSerial_of_object (object_of_objects hc rfl), elementTag_of_objects hc]
    rfl
  · have htag : a.elementReader.tag = Tag.array.boxed := CellReader.tag_of_bare (.inr hc)
    refine ⟨⟨.scalar .object, items, a.zone⟩, rfl, .inl rfl, ?_⟩
    rw [elementSerial_of_object (CellReader.object_list htag), elementTag_of_component hc rfl,
      CellReader.component]
    have hcomponent : a.elementReader.column.type = .array (.scalar .object) := hc
    rw [hcomponent]
    rfl

end ArrayOf

namespace LocalValue

variable {v : LocalValue} {items : List LocalValue}

/-- **Arrays of lists are written in the bare form**, whether their type says that the elements are
objects or names the tag of the elements. -/
theorem Nested.toSerial_array [Platform] (hv : v.Nested) (zone : Option Zone) : ∀ {a : ArrayValue},
    v = .list a.elements →
    a.component = .scalar .object ∨ a.component = .ofTag (.ofElements a.elements) →
    (ClientValue.array a).toSerial .array zone = .ok v.bare := by
  induction hv with
  | null => nofun
  | @scalar v h =>
    rintro a rfl
    cases h
  | @list items tag htag h ih =>
    rintro a hitems hc
    obtain rfl := list.inj hitems
    refine ClientValue.toSerial_array_eq_ok_iff.2
      ⟨_, mapM_eq_ok_map (g := bare) fun w hw => ?_, bare_list _⟩
    -- the element type, seen from an element that is not null
    have hown (hn : w.isNull = false) :
        a.component = .scalar .object ∨ a.component = .ofTag (.ofLocal w) := by
      rwa [ofElements_eq htag hw hn] at hc
    cases h w hw with
    | null => exact ArrayOf.elementSerial_null a zone
    | @scalar w hs =>
      rw [bare_scalar hs]
      rcases hown (by cases w <;> first | rfl | cases hs) with hc | hc
      · exact ArrayOf.elementSerial_of_objects hc hs zone
      · have hown : (Tag.ofLocal w).boxed = Tag.ofLocal w := by cases w <;> rfl
        have htemporal : (Tag.ofLocal w).isTemporal = false := by cases w <;> rfl
        refine ArrayOf.elementSerial_scalar hc hs (Tag.native_ofLocal w).symm ?_
        rw [hown]
        exact Tagged.exists_client_of_timeless hs (Tag.native_ofLocal w).symm htemporal a.zone zone
    | @list items tag htag h =>
      obtain ⟨b, rfl, hb, hserial⟩ := ArrayOf.exists_elementSerial_list (hown rfl) items zone
      rw [hserial]
      exact ih _ hw rfl hb

/-! ## Reading them -/

/-- What comes back of an element of a list: within lists the scalars are widened. -/
def returned : LocalValue → LocalValue
  | list items => (list items).widened
  | other => other.reread id

/-- What comes back of a scalar element is the scalar, reread. -/
lemma returned_scalar (h : v.isScalar = true) : v.returned = v.reread id := by
  cases v <;> first | rfl | cases h

/-- An element is read under its tag, and what is in it without one. -/
lemma Nested.readElement_bare {tag : Tag}
    (htag : ∀ v ∈ items, v.isNull = true ∨ Tag.ofLocal v = tag) (hmem : v ∈ items)
    (hv : v.Nested) : readElement (some (.ofElements items)) v.bare = .ok v.returned := by
  cases hv with
  | null => exact readElement_null _
  | @scalar v h =>
    have hn : v.isNull = false := isNull_of_isScalar h
    rw [ofElements_eq htag hmem hn, bare_scalar h, readElement, holdsNothing_ofLocal hn,
      returned_scalar h]
    exact toLocal_scalarSerial_id h (Tag.native_ofLocal v).symm none
  | @list items _ _ h =>
    have hread : (items.map bare).mapM (readElement none) = .ok (items.map widened) :=
      mapM_map_eq_ok_map fun w hw => (h w hw).toPlainLocal_bare
    rw [ofElements_eq htag hmem rfl, bare_list, returned, widened_list]
    change (SerialValue.list _).toLocal .array none = _
    rw [SerialValue.toLocal_list_array, hread]
    rfl

/-- The elements that come back as they are: scalars other than signalling NaNs, and lists in which
no scalars are narrow. -/
lemma Nested.returned_eq_self_iff (hv : v.Nested) : v.returned = v
    ↔ ¬ v.Holds IsSignalling ∧ (Tag.ofLocal v = .array → ¬ v.Holds IsNarrow) := by
  have hnarrow : v.Holds IsSignalling → v.Holds IsNarrow := fun h => h.mono fun w hw => by
    cases w with
    | float => exact .self True.intro
    | _ => cases hw
  cases hv with
  | null => simp [returned, reread, holds_null_iff, IsSignalling, Tag.ofLocal]
  | @scalar v h =>
    have ha : Tag.ofLocal v ≠ .array := by
      cases v <;> simp_all [Tag.ofLocal, isScalar]
    rw [returned_scalar h, holds_scalar_iff h]
    simp only [ha, false_imp_iff, and_true]
    cases v with
    | float x => simp [reread, IsSignalling, Binary32.ofBinary64_ofBinary32_eq_iff]
    | list | record | struct | array => cases h
    | _ => simp [reread, IsSignalling]
  | list tag htag h =>
    rw [returned, (Nested.list tag htag h).widened_eq_self_iff]
    exact ⟨fun h => ⟨h ∘ hnarrow, fun _ => h⟩, fun h => h.2 rfl⟩

/-- Lists within lists are so after they were reread. -/
lemma Nested.reread (hv : v.Nested) : (v.reread id).Nested := by
  induction hv with
  | null => exact .null
  | scalar h => exact .scalar (by rw [isScalar_reread, h])
  | list tag htag _ ih =>
    rw [reread_list]
    refine .list tag ?_ ?_
    · simpa using htag
    · simpa using ih

/-- **What comes back of a list** are its elements, each as it is returned. -/
theorem Nested.exists_comesBackAs [Platform] (h : (LocalValue.list items).Nested)
    (zone : Option Zone) :
    ∃ tv o, Tagged.ofLocal .array (.list items) = .ok tv ∧ tv.toClient zone = .ok o
      ∧ o.ComesBackAs .array zone (.list (items.map returned)) := by
  obtain ⟨tv, htv, ho⟩ := bind_eq_ok_iff.1 (toClient_ofLocal_list h.uniform zone)
  refine ⟨tv, _, htv, ho, ?_⟩
  generalize ha : (⟨.ofTag (.ofElements items), items.map (·.reread id), zone⟩ : ArrayValue) = a
  have helements : (LocalValue.list items).reread id = .list a.elements := by
    rw [← ha, reread_list]
  have hcomponent : a.component = .ofTag (.ofElements a.elements) := by
    rw [← ha, ofElements_reread]
  have hserial := h.reread.toSerial_array zone helements (.inr hcomponent)
  rw [h.bare_reread, bare_list] at hserial
  have hread : (items.map bare).mapM (readElement (some (.ofElements items)))
      = .ok (items.map returned) := by
    cases h with
    | scalar h => cases h
    | list tag htag h => exact mapM_map_eq_ok_map fun v hv => (h v hv).readElement_bare htag hv
  refine ⟨_, Tagged.ofClient_array hserial, rfl, ?_⟩
  have htag : a.component.tag = .ofElements items := by rw [← ha, ColumnType.tag_ofTag]
  rw [Tagged.toLocal, htag, SerialValue.toLocal_list_array, hread]
  rfl

/-- In a list of one tag either nothing is a list, or everything is one that is not null. -/
lemma Nested.returned_items_iff (h : (LocalValue.list items).Nested) :
    (∀ v ∈ items, v.returned = v) ↔ (∀ v ∈ items, ¬ v.Holds IsSignalling)
      ∧ ((∃ v ∈ items, Tag.ofLocal v = .array) → ∀ v ∈ items, ¬ v.Holds IsNarrow) := by
  obtain ⟨tag, htag, -⟩ := h.uniform.of_list
  have hitems : ∀ v ∈ items, v.Nested := by
    cases h with
    | scalar h => cases h
    | list _ _ h => exact h
  constructor
  · intro hall
    have hiff v hv := ((hitems v hv).returned_eq_self_iff).1 (hall v hv)
    refine ⟨fun v hv => (hiff v hv).1, ?_⟩
    rintro ⟨u, hu, hlist⟩ v hv
    have hown : Tag.ofLocal u = tag := by
      refine (htag u hu).resolve_left fun hn => ?_
      rw [isNull_iff.1 hn] at hlist
      cases hlist
    rcases htag v hv with hn | hv'
    · rw [isNull_iff.1 hn, holds_null_iff]
      exact id
    · exact (hiff v hv).2 (hv'.trans (hown.symm.trans hlist))
  · rintro ⟨hquiet, hwide⟩ v hv
    exact (hitems v hv).returned_eq_self_iff.2 ⟨hquiet v hv, fun ha => hwide ⟨v, hv, ha⟩ v hv⟩

end LocalValue

open LocalValue in
/-- **Nested lists through client form.** A list of one tag, with scalars innermost, is made a typed
value, that a client value in any zone, and that a typed value of arrays again. What is read of it
is the list itself exactly when no signalling NaN is in it and either its elements are no lists or
no scalar in it is narrow. -/
theorem Tagged.nested_list_comes_back_iff [Platform] {items : List LocalValue}
    (h : (LocalValue.list items).Nested) (zone : Option Zone) :
    ∃ tv o w, Tagged.ofLocal .array (.list items) = .ok tv ∧ tv.toClient zone = .ok o
      ∧ o.ComesBackAs .array zone w
      ∧ (w = .list items ↔ ¬ (LocalValue.list items).Holds IsSignalling
        ∧ ((∃ v ∈ items, Tag.ofLocal v = .array) → ¬ (LocalValue.list items).Holds IsNarrow)) := by
  obtain ⟨tv, o, htv, ho, hback⟩ := h.exists_comesBackAs zone
  refine ⟨tv, o, _, htv, ho, hback, ?_⟩
  rw [list.injEq, map_eq_self_iff, h.returned_items_iff, holds_list_iff, holds_list_iff]
  simp only [IsSignalling, IsNarrow, false_or, not_exists, not_and]

section

attribute [local instance] Platform.utc

/-- A list of integers, and lists of long integers, in a zone whose offset changes. -/
theorem Tagged.nested_list_comes_back_integers_and_longs :
    let zone : Option Zone := some (.named .london)
    let integers : LocalValue := .list [.int 1, .null]
    let longs : LocalValue := .list [.list [.long 1, .null], .null, .list []]
    (∃ tv o, Tagged.ofLocal .array integers = .ok tv ∧ tv.toClient zone = .ok o
        ∧ o.ComesBackAs .array zone integers)
      ∧ ∃ tv o, Tagged.ofLocal .array longs = .ok tv ∧ tv.toClient zone = .ok o
        ∧ o.ComesBackAs .array zone longs := by
  intro zone integers longs
  have hintegers : integers.Nested := by
    refine .list .integer ?_ ?_
    · simp [Tag.ofLocal, LocalValue.isNull]
    · simpa using ⟨.scalar rfl, .null⟩
  have hlongs : longs.Nested := by
    have hinner : (LocalValue.list [.long 1, .null]).Nested := by
      refine .list .long ?_ ?_
      · simp [Tag.ofLocal, LocalValue.isNull]
      · simpa using ⟨.scalar rfl, .null⟩
    refine .list .array ?_ ?_
    · simp [Tag.ofLocal, LocalValue.isNull]
    · simpa using ⟨hinner, .null, .list .long (by simp) (by simp)⟩
  have hscalar (P : LocalValue → Prop) : ((LocalValue.int 1).Holds P ↔ P (.int 1))
      ∧ ((LocalValue.long 1).Holds P ↔ P (.long 1)) :=
    ⟨LocalValue.holds_scalar_iff rfl, LocalValue.holds_scalar_iff rfl⟩
  have hquiet : ¬ integers.Holds LocalValue.IsSignalling := by
    simp [integers, LocalValue.holds_list_iff, LocalValue.holds_null_iff, hscalar,
      LocalValue.IsSignalling]
  have hwide : ¬ longs.Holds LocalValue.IsSignalling ∧ ¬ longs.Holds LocalValue.IsNarrow := by
    simp [longs, LocalValue.holds_list_iff, LocalValue.holds_null_iff, hscalar,
      LocalValue.IsSignalling, LocalValue.IsNarrow]
  constructor
  · obtain ⟨tv, o, w, htv, ho, hback, hiff⟩ := nested_list_comes_back_iff hintegers zone
    obtain rfl : w = integers := hiff.2 ⟨hquiet, by simp [Tag.ofLocal]⟩
    exact ⟨tv, o, htv, ho, hback⟩
  · obtain ⟨tv, o, w, htv, ho, hback, hiff⟩ := nested_list_comes_back_iff hlongs zone
    obtain rfl : w = longs := hiff.2 ⟨hwide.1, fun _ => hwide.2⟩
    exact ⟨tv, o, htv, ho, hback⟩

/-- A list of a list of integers comes back as a list of a list of long integers. -/
theorem Tagged.nested_list_of_integers_comes_back_as_longs :
    ∃ tv o, Tagged.ofLocal .array (.list [.list [.int 1]]) = .ok tv ∧ tv.toClient none = .ok o
      ∧ o.ComesBackAs .array none (.list [.list [.long 1]])
      ∧ ¬ o.ComesBackAs .array none (.list [.list [.int 1]]) := by
  have hinner : (LocalValue.list [.int 1]).Nested :=
    .list .integer (by simp [Tag.ofLocal]) (by simpa using .scalar rfl)
  have h : (LocalValue.list [.list [.int 1]]).Nested :=
    .list .array (by simp [Tag.ofLocal]) (by simpa using hinner)
  obtain ⟨tv, o, htv, ho, hback⟩ := h.exists_comesBackAs none
  refine ⟨tv, o, htv, ho, hback, fun hints => ?_⟩
  cases hback.unique hints

end

end TypedRows
