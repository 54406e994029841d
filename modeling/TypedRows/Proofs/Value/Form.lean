import TypedRows.Proofs.Outcome
import TypedRows.Proofs.Value.Uniform
import TypedRows.Value.Decoding
import TypedRows.Value.Encoding

/-!
# The typed values of lists and records

A value made of lists of one tag and of records without names always has a typed value under the
tag that it has by itself. Elements of scalar lists stand bare in it, whereas lists within lists
and the fields of records are typed values of their own; the elements of a list of records are
bare lists. Reading the typed value gives the value back.

## Main definitions

* `TypedRows.LocalValue.form` — the typed value of a value under its own tag.

## Main results

* `TypedRows.LocalValue.ofLocal_eq_form` — encoding succeeds and gives the form.
* `TypedRows.LocalValue.toLocal_form` — reading the form gives the value back.
-/

set_option autoImplicit false

namespace TypedRows

/-- The first item with a property is one of the items, when there is such an item. -/
lemma exists_find?_eq_some {α : Type} {p : α → Bool} {as : List α} {a : α} (ha : a ∈ as)
    (hp : p a = true) : ∃ b ∈ as, as.find? p = some b ∧ p b = true := by
  obtain ⟨b, hb⟩ := Option.isSome_iff_exists.1 (List.find?_isSome.2 ⟨a, ha, hp⟩)
  exact ⟨b, List.mem_of_find?_eq_some hb, hb, List.find?_some hb⟩

/-- A typed value as an element of an array whose elements have its tag: arrays keep their tag,
other values need none. -/
def Tagged.asElement (tv : TypedValue) : SerialValue :=
  if tv.tag = .array then .typed tv else tv.value

/-- An element has its decimals replaced within it. -/
lemma Tagged.mapDecimals_asElement (f : Decimal → Decimal) (tv : TypedValue) :
    tv.asElement.mapDecimals f = (tv.mapDecimals f).asElement := by
  by_cases h : tv.tag = .array <;> simp [asElement, mapDecimals, h]

namespace LocalValue

mutual

/-- The typed value of a value made of lists and records, under the tag that it has by itself. -/
def form : LocalValue → TypedValue
  | list items => ⟨.array, .list (elementForms items), some (.ofElements items)⟩
  | struct ⟨_, values⟩ => ⟨.struct, .list (fieldForms values), none⟩
  | other => ⟨.ofLocal other, other.scalarSerial, none⟩

/-- The forms of the elements of a list. -/
def elementForms : List LocalValue → List SerialValue
  | [] => []
  | v :: vs => (if v.isNull then .null else v.form.asElement) :: elementForms vs

/-- The forms of the fields of a record. -/
def fieldForms : List LocalValue → List SerialValue
  | [] => []
  | v :: vs => (if v.isNull then .null else .typed v.form) :: fieldForms vs

end

/-- The form of an element of a list. -/
def elementForm (v : LocalValue) : SerialValue := if v.isNull then .null else v.form.asElement

/-- The form of a field of a record. -/
def fieldForm (v : LocalValue) : SerialValue := if v.isNull then .null else .typed v.form

/-- The form of a list has the forms of its elements. -/
lemma form_list (items : List LocalValue) :
    (list items).form = ⟨.array, .list (items.map elementForm), some (.ofElements items)⟩ := by
  have h : elementForms items = items.map elementForm := by
    induction items with
    | nil => rfl
    | cons v vs ih => rw [elementForms, ih, List.map_cons, elementForm]
  rw [form, h]

/-- The form of a record has the forms of its fields. -/
lemma form_struct (values : List LocalValue) :
    (struct (.ofValues values)).form = ⟨.struct, .list (values.map fieldForm), none⟩ := by
  have h : fieldForms values = values.map fieldForm := by
    induction values with
    | nil => rfl
    | cons v vs ih => rw [fieldForms, ih, List.map_cons, fieldForm]
  rw [StructOf.ofValues, form, h]

/-- The form of a scalar is its plain one. -/
lemma form_scalar {v : LocalValue} (h : v.isScalar = true) :
    v.form = ⟨.ofLocal v, v.scalarSerial, none⟩ := by
  cases v <;> simp_all [form, isScalar]

/-- A form has the tag of the value. -/
@[simp] lemma tag_form (v : LocalValue) : v.form.tag = .ofLocal v := by
  cases v <;> simp [form, Tag.ofLocal]

/-! ## Tags of elements -/

/-- The elements of a list of one tag give that tag to the list. -/
lemma ofElements_eq {items : List LocalValue} {tag : Tag}
    (htag : ∀ v ∈ items, v.isNull = true ∨ Tag.ofLocal v = tag) {v : LocalValue} (hv : v ∈ items)
    (hn : v.isNull = false) : Tag.ofElements items = Tag.ofLocal v := by
  obtain ⟨w, hw, hfind, hnotnull⟩ := exists_find?_eq_some (p := (!·.isNull)) hv (by simp [hn])
  have h₁ := (htag w hw).resolve_left (by simpa using hnotnull)
  have h₂ := (htag v hv).resolve_left (by simp [hn])
  rw [Tag.ofElements, hfind]
  exact h₁.trans h₂.symm

/-- A value that is not null has a tag that holds something. -/
lemma holdsNothing_ofLocal {v : LocalValue} (hn : v.isNull = false) :
    (Tag.ofLocal v).holdsNothing = false := by
  cases v <;> simp_all [isNull, Tag.ofLocal, Tag.holdsNothing]

/-! ## Encoding -/

/-- The plain form of a value without parts has the shape of its tag. -/
lemma check_scalarSerial (v : LocalValue) : v.scalarSerial.check (.ofLocal v) = .ok () := by
  cases v with
  | char c =>
    simp [scalarSerial, Tag.ofLocal, SerialValue.check, SerialValue.isNull, Tag.holdsNothing,
      SerialValue.hasShape, SerialValue.expectation, Tag.boxed, Tag.isIntegral, Tag.isTemporal]
  | _ => rfl

/-- The outcome of encoding an element of an array. -/
def encodeElement (component : Option Tag) (v : LocalValue) : Except Error SerialValue :=
  let tag := component.getD (.ofLocal v)
  if tag.holdsNothing then carried tag .plain v
  else if tag = .array then v.asTyped tag (carried tag (v.ownCarrier tag) v)
  else v.toSerial tag none

/-- Elements are encoded one by one. -/
lemma carriedElements_eq_mapM (component : Option Tag) (items : List LocalValue) :
    carriedElements component items = items.mapM (encodeElement component) := by
  induction items with
  | nil => rfl
  | cons v vs ih =>
    rw [carriedElements, ih, List.mapM_cons, encodeElement]
    dsimp only
    split_ifs <;> rfl

/-- Fields are encoded one by one, each under its own tag. -/
lemma carriedFields_eq_mapM (values : List LocalValue) :
    carriedFields values = values.mapM fun v =>
      v.asTyped (.ofLocal v) (carried (.ofLocal v) (v.ownCarrier (.ofLocal v)) v) := by
  induction values with
  | nil => rfl
  | cons v vs ih => rw [carriedFields, ih, List.mapM_cons]

/-- Items without tags are written one by one. -/
lemma carriedItems_eq_mapM (items : List LocalValue) :
    carriedItems items = items.mapM (carried .object .plain) := by
  induction items with
  | nil => rfl
  | cons v vs ih => rw [carriedItems, ih, List.mapM_cons]

/-- A value that is not null, as a typed value within another one. -/
lemma asTyped_eq {tag : Tag} {v : LocalValue} (hn : v.isNull = false) :
    v.asTyped tag (carried tag (v.ownCarrier tag) v) = .typed <$> Tagged.ofLocal tag v := by
  rw [asTyped, if_neg (by simp [hn]), Tagged.ofLocal, toSerial, ownCarrier]
  cases SerialValue.checked tag (carried tag (.of tag (v.elementTag? tag)) v) <;> rfl

/-- A null among the elements is encoded as null. -/
lemma encodeElement_null (c : Tag) : encodeElement (some c) .null = .ok .null := by
  cases c <;> rfl

/-- Only arrays have elements under a common tag. -/
lemma elementTag?_eq_none {tag : Tag} (ha : tag ≠ .array) (v : LocalValue) :
    v.elementTag? tag = none := by
  cases tag <;> first | rfl | exact absurd rfl ha

/-- An element that is not null is encoded as the element that its typed value is. -/
lemma encodeElement_eq {c : Tag} {v : LocalValue} (hn : v.isNull = false)
    (hc : c.holdsNothing = false) :
    encodeElement (some c) v = Tagged.asElement <$> Tagged.ofLocal c v := by
  simp only [encodeElement, Option.getD_some, hc, Bool.false_eq_true, ↓reduceIte]
  by_cases ha : c = .array
  · rw [if_pos ha, asTyped_eq hn, ha, Tagged.ofLocal]
    cases v.toSerial .array (v.elementTag? .array) <;> rfl
  · rw [if_neg ha, Tagged.ofLocal, elementTag?_eq_none ha]
    cases v.toSerial c none <;> simp [Tagged.asElement, ha, bind, Except.bind, pure, Except.pure]

/-- An element of a list of one tag is encoded as an element. -/
lemma encodeElement_of_mem {items : List LocalValue} {tag : Tag}
    (htag : ∀ v ∈ items, v.isNull = true ∨ Tag.ofLocal v = tag) {v : LocalValue} (hv : v ∈ items)
    (h : Tagged.ofLocal (.ofLocal v) v = .ok v.form) :
    encodeElement (some (.ofElements items)) v = .ok (elementForm v) := by
  by_cases hn : v.isNull = true
  · rw [isNull_iff.1 hn, encodeElement_null]
    rfl
  rw [Bool.not_eq_true] at hn
  rw [ofElements_eq htag hv hn, encodeElement_eq hn (holdsNothing_ofLocal hn), h, elementForm,
    if_neg (by simp [hn])]
  rfl

/-- A field of a record is encoded as a field. -/
lemma asTyped_eq_fieldForm {v : LocalValue} (h : Tagged.ofLocal (.ofLocal v) v = .ok v.form) :
    v.asTyped (.ofLocal v) (carried (.ofLocal v) (v.ownCarrier (.ofLocal v)) v)
      = .ok (fieldForm v) := by
  by_cases hn : v.isNull = true
  · rw [isNull_iff.1 hn]
    rfl
  · rw [asTyped_eq (by simpa using hn), h, fieldForm, if_neg hn]
    rfl

/-- **Encoding succeeds** on a value made of lists and records, and gives its form. -/
theorem ofLocal_eq_form {v : LocalValue} (hv : v.Uniform) :
    Tagged.ofLocal (.ofLocal v) v = .ok v.form := by
  induction hv with
  | null => rfl
  | @scalar v h =>
    have hc : v.elementTag? (.ofLocal v) = none := by
      cases v <;> simp_all [isScalar, elementTag?, Tag.ofLocal]
    have hw : v.carried (.ofLocal v) (.of (.ofLocal v) none) = .ok v.scalarSerial := by
      cases v <;> first | rfl | simp [isScalar] at h
    rw [form_scalar h, Tagged.ofLocal, hc, toSerial, hw, SerialValue.checked]
    simp only [bind, Except.bind, check_scalarSerial]
    rfl
  | @list items tag htag h ih =>
    have hwalk : items.mapM (encodeElement (some (.ofElements items)))
        = .ok (items.map elementForm) :=
      mapM_eq_ok_map fun v hv => encodeElement_of_mem htag hv (ih v hv)
    rw [form_list, Tag.ofLocal, Tagged.ofLocal, elementTag?, toSerial, Carrier.of, carried,
      carriedElements_eq_mapM, hwalk]
    rfl
  | @struct values h ih =>
    have hwalk : (values.mapM fun v =>
        v.asTyped (.ofLocal v) (carried (.ofLocal v) (v.ownCarrier (.ofLocal v)) v))
        = .ok (values.map fieldForm) :=
      mapM_eq_ok_map fun v hv => asTyped_eq_fieldForm (ih v hv)
    have hc : (struct (.ofValues values)).elementTag? .struct = none := rfl
    rw [form_struct, Tag.ofLocal, Tagged.ofLocal, hc, toSerial, Carrier.of, StructOf.ofValues,
      carried, carriedFields_eq_mapM, hwalk]
    rfl

/-! ## Decoding -/

/-- The outcome of reading an element of an array. -/
def readElement (component : Option Tag) (s : SerialValue) : Except Error LocalValue :=
  match component with
  | some tag => if tag.holdsNothing then s.toPlainLocal else s.toLocal tag none
  | none => s.toPlainLocal

/-- Elements are read one by one. -/
lemma toLocalElements_eq_mapM (component : Option Tag) (items : List SerialValue) :
    SerialValue.toLocalElements component items = items.mapM (readElement component) := by
  induction items with
  | nil => rfl
  | cons s ss ih =>
    rw [List.mapM_cons, ← ih]
    cases component with
    | none => rfl
    | some tag =>
      simp only [SerialValue.toLocalElements, readElement]
      split_ifs <;> rfl

/-- Items are read one by one. -/
lemma toPlainItems_eq_mapM (items : List SerialValue) :
    SerialValue.toPlainItems items = items.mapM SerialValue.toPlainLocal := by
  induction items with
  | nil => rfl
  | cons s ss ih => rw [SerialValue.toPlainItems, ih, List.mapM_cons]

end LocalValue

namespace SerialValue

/-- A list is read as an array element by element. -/
lemma toLocal_list_array (component : Option Tag) (items : List SerialValue) :
    (list items).toLocal .array component
      = LocalValue.list <$> items.mapM (LocalValue.readElement component) := by
  rw [toLocal, Tag.boxed, LocalValue.toLocalElements_eq_mapM]
  · cases items.mapM (LocalValue.readElement component) <;> rfl
  all_goals simp

/-- A list is read as a record field by field. -/
lemma toLocal_list_struct (component : Option Tag) (items : List SerialValue) :
    (list items).toLocal .struct component
      = (fun values => LocalValue.struct (.ofValues values)) <$> items.mapM toPlainLocal := by
  rw [toLocal, Tag.boxed, LocalValue.toPlainItems_eq_mapM]
  · cases items.mapM toPlainLocal <;> rfl
  all_goals simp

end SerialValue

namespace LocalValue

/-- A null among the elements is read as null. -/
lemma readElement_null (component : Option Tag) : readElement component .null = .ok .null := by
  cases component with
  | none => rfl
  | some tag => cases tag <;> rfl

/-- Only forms of lists have a tag for elements. -/
lemma component_form {v : LocalValue} (h : Tag.ofLocal v ≠ .array) : v.form.component = none := by
  cases v <;> simp_all [form, Tag.ofLocal]

/-- An element under the tag of the elements is read as its typed value is. -/
lemma readElement_asElement {c : Tag} {tv : TypedValue} (htag : tv.tag = c)
    (hc : c.holdsNothing = false) (hcomponent : c ≠ .array → tv.component = none) :
    readElement (some c) tv.asElement = tv.toLocal := by
  obtain ⟨_, value, component⟩ := tv
  obtain rfl := htag
  simp only [readElement, hc, Bool.false_eq_true, ↓reduceIte, Tagged.asElement, Tagged.toLocal]
  split_ifs with ha
  · rfl
  · rw [show component = none from hcomponent ha]

/-- An element of a list of one tag is read as its form is. -/
lemma readElement_of_mem (f : Decimal → Decimal) {items : List LocalValue} {tag : Tag}
    (htag : ∀ v ∈ items, v.isNull = true ∨ Tag.ofLocal v = tag) {v : LocalValue}
    (hv : v ∈ items) :
    readElement (some (.ofElements items)) ((elementForm v).mapDecimals f)
      = (v.form.mapDecimals f).toLocal := by
  by_cases hn : v.isNull = true
  · rw [isNull_iff.1 hn]
    exact readElement_null _
  rw [Bool.not_eq_true] at hn
  rw [ofElements_eq htag hv hn, elementForm, if_neg (by simp [hn]), Tagged.mapDecimals_asElement]
  exact readElement_asElement (tag_form v) (holdsNothing_ofLocal hn) component_form

/-- A field of a record is read as its form is. -/
lemma toPlainLocal_fieldForm (f : Decimal → Decimal) (v : LocalValue) :
    ((fieldForm v).mapDecimals f).toPlainLocal = (v.form.mapDecimals f).toLocal := by
  by_cases hn : v.isNull = true
  · rw [isNull_iff.1 hn]
    rfl
  · rw [fieldForm, if_neg hn, SerialValue.mapDecimals_typed]
    rfl

/-- A value without parts is read from its plain form. -/
lemma toLocal_scalarSerial (f : Decimal → Decimal) {v : LocalValue} (h : v.isScalar = true) :
    (v.scalarSerial.mapDecimals f).toLocal (.ofLocal v) none = .ok (v.reread f) := by
  cases v with
  | byte n | short n | int n | long n =>
    simp [scalarSerial, Tag.ofLocal, SerialValue.mapDecimals, SerialValue.toLocal,
      SerialValue.scalarLocal, Tag.boxed, reread, SerialValue.integral, SerialValue.integer?]
  | char c =>
    have hc : SerialValue.singleCharacter? (String.singleton c) = some c := by
      simp [SerialValue.singleCharacter?]
    simp [scalarSerial, Tag.ofLocal, SerialValue.mapDecimals, SerialValue.toLocal,
      SerialValue.scalarLocal, Tag.boxed, reread, hc]
  | bytes b =>
    simp [scalarSerial, Tag.ofLocal, SerialValue.mapDecimals, SerialValue.toLocal,
      SerialValue.scalarLocal, Tag.boxed, reread]
  | _ => first | rfl | simp [isScalar] at h

/-- **Reading gives the value back**, with its decimals replaced as they were in its form. -/
theorem toLocal_form (f : Decimal → Decimal) {v : LocalValue} (hv : v.Uniform) :
    (v.form.mapDecimals f).toLocal = .ok (v.reread f) := by
  induction hv with
  | null => rfl
  | scalar h =>
    rw [form_scalar h]
    exact toLocal_scalarSerial f h
  | @list items tag htag h ih =>
    have hwalk : ((items.map elementForm).map (SerialValue.mapDecimals f)).mapM
        (readElement (some (.ofElements items))) = .ok (items.map (reread f)) := by
      rw [List.map_map]
      refine mapM_map_eq_ok_map fun v hv => ?_
      rw [Function.comp_apply, readElement_of_mem f htag hv, ih v hv]
    rw [form_list, Tagged.mapDecimals, Tagged.toLocal, SerialValue.mapDecimals_list,
      SerialValue.toLocal_list_array, hwalk, reread_list]
    rfl
  | @struct values h ih =>
    have hwalk : ((values.map fieldForm).map (SerialValue.mapDecimals f)).mapM
        SerialValue.toPlainLocal = .ok (values.map (reread f)) := by
      rw [List.map_map]
      refine mapM_map_eq_ok_map fun v hv => ?_
      rw [Function.comp_apply, toPlainLocal_fieldForm, ih v hv]
    rw [form_struct, Tagged.mapDecimals, Tagged.toLocal, SerialValue.mapDecimals_list,
      SerialValue.toLocal_list_struct, hwalk, reread_struct_ofValues]
    rfl

end LocalValue

end TypedRows
