import TypedRows.Proofs.Value.Native
import TypedRows.Proofs.Value.Shape

/-!
# What is read of what was written

Whatever the serial form of a value says, the local value that is read of it has no names and no
declared element types. When such a value is written under a tag, the elements of its lists are
brought to one tag, and what is read again is made of lists of one tag and of records: from then
on writing and reading change nothing but decimals. The same is read of every value whose arrays
declare what they hold; only the elements of arrays of objects keep tags of their own.

## Main definitions

* `TypedRows.LocalValue.Unnamed` — the values of scalars, lists and records without names.
* `TypedRows.LocalValue.Declared` — the values whose arrays declare what they hold.

## Main results

* `TypedRows.SerialValue.read_induction` — induction on what is read.
* `TypedRows.LocalValue.Declared.settles` — what is read of what a value was written as.
-/

set_option autoImplicit false

namespace TypedRows

/-- The values of scalars, of lists and of records without names. -/
inductive LocalValue.Unnamed : LocalValue → Prop
  | null : Unnamed .null
  | scalar {v : LocalValue} (h : v.isScalar = true) : Unnamed v
  | list {items : List LocalValue} (h : ∀ v ∈ items, Unnamed v) : Unnamed (.list items)
  | struct {values : List LocalValue} (h : ∀ v ∈ values, Unnamed v) :
    Unnamed (.struct (.ofValues values))

/-- The values in which every array declares a tag that its elements can have. -/
inductive LocalValue.Declared : LocalValue → Prop
  | null : Declared .null
  | scalar {v : LocalValue} (h : v.isScalar = true) : Declared v
  | list {items : List LocalValue} (h : ∀ v ∈ items, Declared v) : Declared (.list items)
  | record {fields : List (String × LocalValue)} (h : ∀ f ∈ fields, Declared f.2) :
    Declared (.record fields)
  | struct {s : StructValue} (h : ∀ v ∈ s.values, Declared v) : Declared (.struct s)
  | array {a : ArrayValue} (hc : a.component.tag.holdsNothing = false)
    (h : ∀ v ∈ a.elements, Declared v) : Declared (.array a)

variable {tag : Tag} {component : Option Tag} {s : SerialValue} {v w : LocalValue}

/-- A value without names is made of lists of one tag when it is so after it was reread. -/
lemma LocalValue.Unnamed.uniform_reread_iff (f : Decimal → Decimal) (hv : v.Unnamed) :
    (v.reread f).Uniform ↔ v.Uniform := by
  refine ⟨fun h => ?_, Uniform.reread f⟩
  induction hv with
  | null => exact .null
  | scalar hs => exact .scalar hs
  | list _ ih =>
    rw [reread_list] at h
    obtain ⟨tag, htag, hitems⟩ := h.of_list
    simp only [List.forall_mem_map, isNull_reread, ofLocal_reread] at htag hitems
    exact .list tag htag fun v hv => ih v hv (hitems v hv)
  | struct _ ih =>
    rw [reread_struct_ofValues] at h
    exact .struct fun v hv => ih v hv (h.of_struct _ (List.mem_map_of_mem hv))

/-! ## Reading -/

namespace SerialValue

/-- A scalar is read as a scalar of the variant that the tag names. -/
lemma variant_of_scalarLocal (h : s.scalarLocal tag = .ok w) :
    w.isScalar = true ∧ Tag.ofLocal w = tag.native := by
  cases tag with
  | array | struct | object | null => cases h
  | boolean | primitiveBoolean | string =>
    cases s <;> cases h
    exact ⟨rfl, rfl⟩
  | character | primitiveChar | byteString =>
    simp only [scalarLocal, Tag.boxed] at h
    split at h
    · split at h
      · obtain rfl := Except.ok.inj h
        exact ⟨rfl, rfl⟩
      · cases h
    · cases h
  | _ =>
    obtain ⟨_, -, h⟩ := bind_eq_ok_iff.1 h
    obtain rfl := Except.ok.inj h
    exact ⟨rfl, rfl⟩

/-- Lists have the shape of the tags of arrays and records only. -/
lemma tag_of_check_list {ss : List SerialValue}
    (hc : (list ss).check tag = .ok ()) : tag = .array ∨ tag = .struct := by
  by_contra h
  rw [not_or] at h
  exact (scalar_of_check hc h.1 h.2).1 ss rfl

/-- What has the shape of a tag is read as null when it is null, and only then. -/
lemma isNull_of_toLocal (hc : s.check tag = .ok ()) (h : s.toLocal tag component = .ok v) :
    v.isNull = s.isNull := by
  cases s with
  | null =>
    obtain rfl := Except.ok.inj h
    rfl
  | list items =>
    rcases tag_of_check_list hc with rfl | rfl
    · rw [toLocal_list_array] at h
      obtain ⟨vs, -, rfl⟩ := map_eq_ok_iff.1 h
      rfl
    · rw [toLocal_list_struct] at h
      obtain ⟨vs, -, rfl⟩ := map_eq_ok_iff.1 h
      rfl
  | typed tv =>
    obtain ⟨-, hshape⟩ := (check_eq_ok_iff.1 hc).resolve_left nofun
    cases tag <;> cases hshape
  | _ =>
    obtain ⟨hv, -⟩ := variant_of_scalarLocal (s := _) h
    cases v <;> first | rfl | cases hv

/-- A float of 32 bits that is read was narrowed, which leaves no signalling NaN. -/
lemma reread_of_scalarLocal (h : s.scalarLocal tag = .ok v) : v.reread id = v := by
  obtain ⟨hv, htag⟩ := variant_of_scalarLocal h
  cases v with
  | float x =>
    obtain ⟨y, rfl⟩ : ∃ y, x = .ofBinary64 y := by
      cases tag with
      | float | primitiveFloat =>
        obtain ⟨y, -, h⟩ := bind_eq_ok_iff.1 h
        exact ⟨y, (LocalValue.float.inj (Except.ok.inj h)).symm⟩
      | _ => cases htag
    rw [LocalValue.reread, Binary32.ofBinary64_ofBinary32_ofBinary64]
  | list | record | struct | array => cases hv
  | _ => rfl

/-- **Induction on what is read**, under a tag and without one: scalars, lists and records without
names of what was read. -/
theorem read_induction {P : LocalValue → Prop} (null : P .null)
    (scalar : ∀ v : LocalValue, v.isScalar = true → v.reread id = v → P v)
    (list : ∀ items, (∀ v ∈ items, P v) → P (.list items))
    (struct : ∀ values, (∀ v ∈ values, P v) → P (.struct (.ofValues values))) (s : SerialValue) :
    (∀ {tag : Tag} {component : Option Tag} {v : LocalValue},
      s.toLocal tag component = .ok v → P v)
    ∧ ∀ {v : LocalValue}, s.toPlainLocal = .ok v → P v := by
  have hscalar {s : SerialValue} {tag : Tag} {v : LocalValue} (h : s.scalarLocal tag = .ok v) :
      P v := scalar v (variant_of_scalarLocal h).1 (reread_of_scalarLocal h)
  induction s using list_induction with
  | null =>
    refine ⟨fun h => ?_, fun h => ?_⟩ <;> obtain rfl := Except.ok.inj h <;> exact null
  | list items ih =>
    have hplain {vs : List LocalValue} (h : items.mapM toPlainLocal = .ok vs) : ∀ v ∈ vs, P v := by
      intro v hv
      obtain ⟨s, hs, h⟩ := exists_of_mem_right (mapM_eq_ok_iff.1 h) hv
      exact (ih s hs).2 h
    refine ⟨fun {tag component v} h => ?_, fun {v} h => ?_⟩
    · cases hboxed : tag.boxed with
      | array =>
        obtain rfl : tag = .array := by cases tag <;> first | rfl | cases hboxed
        rw [toLocal_list_array] at h
        obtain ⟨vs, hvs, rfl⟩ := map_eq_ok_iff.1 h
        refine list vs fun v hv => ?_
        obtain ⟨s, hs, h⟩ := exists_of_mem_right (mapM_eq_ok_iff.1 hvs) hv
        -- without a tag for elements, or under one that holds nothing, elements are read plainly
        unfold LocalValue.readElement at h
        split at h
        · split at h
          · exact (ih s hs).2 h
          · exact (ih s hs).1 h
        · exact (ih s hs).2 h
      | struct =>
        obtain rfl : tag = .struct := by cases tag <;> first | rfl | cases hboxed
        rw [toLocal_list_struct] at h
        obtain ⟨vs, hvs, rfl⟩ := map_eq_ok_iff.1 h
        exact struct vs (hplain hvs)
      | _ =>
        simp only [toLocal, hboxed] at h
        exact hscalar h
    · rw [toPlainLocal, LocalValue.toPlainItems_eq_mapM] at h
      obtain ⟨vs, hvs, h⟩ := bind_eq_ok_iff.1 h
      obtain rfl := Except.ok.inj h
      exact list vs (hplain hvs)
  | typed tag s component ih => exact ⟨fun h => ih.1 h, fun h => ih.1 h⟩
  | _ =>
    refine ⟨fun h => hscalar h, fun h => ?_⟩
    obtain rfl := Except.ok.inj h
    exact scalar _ rfl rfl

/-- What is read has no names. -/
lemma unnamed_of_toLocal (s : SerialValue) :
    (∀ {tag : Tag} {component : Option Tag} {v : LocalValue},
      s.toLocal tag component = .ok v → v.Unnamed)
    ∧ ∀ {v : LocalValue}, s.toPlainLocal = .ok v → v.Unnamed :=
  read_induction .null (fun _ h _ => .scalar h) (fun _ => .list) (fun _ => .struct) s

/-- Rereading changes nothing about what is read. -/
lemma reread_of_toLocal (s : SerialValue) :
    (∀ {tag : Tag} {component : Option Tag} {v : LocalValue},
      s.toLocal tag component = .ok v → v.reread id = v)
    ∧ ∀ {v : LocalValue}, s.toPlainLocal = .ok v → v.reread id = v :=
  @read_induction (fun v => v.reread id = v) rfl (fun _ _ h => h)
    (fun _ h => by rw [LocalValue.reread_list, List.map_congr_left h, List.map_id'])
    (fun _ h => by rw [LocalValue.reread_struct_ofValues, List.map_congr_left h, List.map_id']) s

end SerialValue

/-! ## Writing and reading again -/

namespace LocalValue

/-- What is read of what a value was written as is made of lists of one tag and of records, and it
is null or of the variant that the tag names. -/
def Settles (v : LocalValue) : Prop :=
  ∀ {tag : Tag} {tv : TypedValue} {w : LocalValue}, Tagged.ofLocal tag v = .ok tv →
    tv.toLocal = .ok w → w.Uniform ∧ (w.isNull = true ∨ Tag.ofLocal w = tag.native)

/-- A typed value of a local value has the tag, the form under it and the tag of the elements. -/
lemma ofLocal_eq_ok_iff {tv : TypedValue} : Tagged.ofLocal tag v = .ok tv
    ↔ ∃ s, v.toSerial tag (v.elementTag? tag) = .ok s ∧ tv = ⟨tag, s, v.elementTag? tag⟩ := by
  rw [Tagged.ofLocal, bind_eq_ok_iff]
  simp only [pure, Except.pure, Except.ok.injEq, eq_comm]

/-- The form under a tag is what the tag makes of a value, when it has the shape of the tag. -/
lemma toSerial_eq_ok_iff : v.toSerial tag component = .ok s
    ↔ v.carried tag (.of tag component) = .ok s ∧ s.check tag = .ok () := by
  rw [toSerial, SerialValue.checked, bind_eq_ok_iff]
  constructor
  · rintro ⟨r, hr, h⟩
    obtain ⟨⟨⟩, hc, h⟩ := bind_eq_ok_iff.1 h
    obtain rfl := Except.ok.inj h
    exact ⟨hr, hc⟩
  · rintro ⟨hs, hc⟩
    exact ⟨s, hs, by rw [hc]; rfl⟩

/-- A list in which something is not null gives a tag that holds something to its elements. -/
lemma holdsNothing_ofElements {items : List LocalValue} (hv : v ∈ items) (hn : v.isNull = false) :
    (Tag.ofElements items).holdsNothing = false := by
  obtain ⟨w, -, hfind, hw⟩ := exists_find?_eq_some (p := (!·.isNull)) hv (by simp [hn])
  rw [Tag.ofElements, hfind]
  exact holdsNothing_ofLocal (by simpa using hw)

/-- A null in a list or in a record is read as null. -/
lemma settles_null : Settles null := by
  intro tag tv w h hw
  obtain ⟨s, hs, rfl⟩ := ofLocal_eq_ok_iff.1 h
  obtain ⟨hs, -⟩ := toSerial_eq_ok_iff.1 hs
  obtain rfl := Except.ok.inj hs
  obtain rfl := Except.ok.inj hw
  exact ⟨.null, .inl rfl⟩

/-- What is read of a scalar is of the variant of its tag. -/
lemma settles_scalar (hv : v.isScalar = true) : v.Settles := by
  intro tag tv w h hw
  obtain ⟨s, hs, rfl⟩ := ofLocal_eq_ok_iff.1 h
  obtain ⟨hs, -⟩ := toSerial_eq_ok_iff.1 hs
  have hform : s.isScalar = true := by
    have hcases : s = v.scalarSerial := by
      cases v <;> cases tag <;> first | exact (Except.ok.inj hs).symm | cases hs | cases hv
    rw [hcases]
    cases v <;> first | rfl | cases hv
  rw [Tagged.toLocal, SerialValue.toLocal_of_isScalar hform] at hw
  obtain ⟨hw, htag⟩ := SerialValue.variant_of_scalarLocal hw
  exact ⟨.scalar hw, .inr htag⟩

/-- An element of an array is written and read as its typed value under the tag of all elements. -/
lemma exists_typed_of_element {c : Tag} (hn : v.isNull = false) (hc : c.holdsNothing = false)
    (hw : encodeElement (some c) v >>= readElement (some c) = .ok w) :
    ∃ tv, Tagged.ofLocal c v = .ok tv ∧ tv.toLocal = .ok w := by
  rw [encodeElement_eq hn hc] at hw
  obtain ⟨s, hs, hw⟩ := bind_eq_ok_iff.1 hw
  obtain ⟨tv, htv, rfl⟩ := map_eq_ok_iff.1 hs
  have hread : readElement (some c) tv.asElement = tv.toLocal := by
    obtain ⟨_, -, rfl⟩ := ofLocal_eq_ok_iff.1 htv
    exact readElement_asElement rfl hc (elementTag?_eq_none · v)
  exact ⟨tv, htv, hread ▸ hw⟩

/-- A null in an array is read as null. -/
lemma null_of_element {c : Tag}
    (hw : encodeElement (some c) null >>= readElement (some c) = .ok w) : w = null := by
  rw [encodeElement_null] at hw
  obtain ⟨_, hs, hw⟩ := bind_eq_ok_iff.1 hw
  rw [← Except.ok.inj hs, readElement_null] at hw
  exact (Except.ok.inj hw).symm

/-- What is read of an element is of the variant of the tag of all elements. -/
lemma Settles.element {c : Tag} (h : v.Settles)
    (hc : v.isNull = false → c.holdsNothing = false)
    (hw : encodeElement (some c) v >>= readElement (some c) = .ok w) :
    w.Uniform ∧ (w.isNull = true ∨ Tag.ofLocal w = c.native) := by
  by_cases hn : v.isNull = true
  · rw [isNull_iff.1 hn] at hw
    obtain rfl := null_of_element hw
    exact ⟨.null, .inl rfl⟩
  rw [Bool.not_eq_true] at hn
  obtain ⟨tv, htv, hw⟩ := exists_typed_of_element hn (hc hn) hw
  exact h htv hw

/-- A field of a record is written and read under its own tag. -/
lemma Settles.field (h : v.Settles)
    (hw : v.asTyped (.ofLocal v) (carried (.ofLocal v) (v.ownCarrier (.ofLocal v)) v)
      >>= SerialValue.toPlainLocal = .ok w) : w.Uniform := by
  by_cases hn : v.isNull = true
  · rw [isNull_iff.1 hn] at hw
    obtain rfl := Except.ok.inj hw
    exact .null
  · rw [asTyped_eq (by simpa using hn)] at hw
    obtain ⟨s, hs, hw⟩ := bind_eq_ok_iff.1 hw
    obtain ⟨tv, htv, rfl⟩ := map_eq_ok_iff.1 hs
    exact (h htv hw).1

/-- The elements of a list, as those of an array whose tag holds what they are. -/
lemma settles_elements {c : Tag} {items : List LocalValue} {ss : List SerialValue}
    (hc : ∀ v ∈ items, v.isNull = false → c.holdsNothing = false) (h : ∀ v ∈ items, v.Settles)
    (hs : carriedElements (some c) items = .ok ss)
    (hw : (SerialValue.list ss).toLocal .array (some c) = .ok w) :
    w.Uniform ∧ Tag.ofLocal w = .array := by
  rw [carriedElements_eq_mapM] at hs
  rw [SerialValue.toLocal_list_array] at hw
  obtain ⟨ws, hws, rfl⟩ := map_eq_ok_iff.1 hw
  have hall := mapM_bind_mapM_eq_ok_iff.1 (bind_eq_ok_iff.2 ⟨ss, hs, hws⟩)
  have hitem : ∀ w ∈ ws, w.Uniform ∧ (w.isNull = true ∨ Tag.ofLocal w = c.native) := by
    intro w hw
    obtain ⟨v, hv, hw⟩ := exists_of_mem_right hall hw
    exact Settles.element (h v hv) (hc v hv) hw
  exact ⟨.list _ (fun w hw => (hitem w hw).2) (fun w hw => (hitem w hw).1), rfl⟩

/-- The fields of a record, and the items of a list under the tag of records. -/
lemma settles_fields {values : List LocalValue} {ss : List SerialValue}
    (h : ∀ v ∈ values, v.Settles) (hs : carriedFields values = .ok ss)
    (hw : (SerialValue.list ss).toLocal .struct component = .ok w) :
    w.Uniform ∧ Tag.ofLocal w = .struct := by
  rw [carriedFields_eq_mapM] at hs
  rw [SerialValue.toLocal_list_struct] at hw
  obtain ⟨ws, hws, rfl⟩ := map_eq_ok_iff.1 hw
  have hall := mapM_bind_mapM_eq_ok_iff.1 (bind_eq_ok_iff.2 ⟨ss, hs, hws⟩)
  refine ⟨.struct fun w hw => ?_, rfl⟩
  obtain ⟨v, hv, hw⟩ := exists_of_mem_right hall hw
  exact Settles.field (h v hv) hw

/-- Named fields are encoded like fields without names. -/
lemma carriedNamedFields_eq (fields : List (String × LocalValue)) :
    carriedNamedFields fields = carriedFields (fields.map (·.2)) := by
  induction fields with
  | nil => rfl
  | cons f fs ih => rw [carriedNamedFields, ih, List.map_cons, carriedFields]

/-- What is made of a value with parts is a list. -/
lemma exists_list_of_carried {carrier : Carrier} (hp : v.isScalar = false) (hn : v.isNull = false)
    (h : v.carried tag carrier = .ok s) : ∃ ss, s = .list ss := by
  cases v with
  | list | record | struct | array =>
    cases carrier <;> first
      | cases h
      | (obtain ⟨ss, -, h⟩ := bind_eq_ok_iff.1 h
         exact ⟨ss, (Except.ok.inj h).symm⟩)
  | null => cases hn
  | _ => cases hp

/-- A value with parts is written under the tags of arrays and of records only. -/
lemma settles_parts (hp : v.isScalar = false) (hn : v.isNull = false)
    (harray : ∀ {ss w}, v.carried .array (v.ownCarrier .array) = .ok (.list ss) →
      (SerialValue.list ss).toLocal .array (v.elementTag? .array) = .ok w →
      w.Uniform ∧ Tag.ofLocal w = .array)
    (hstruct : ∀ {ss w}, v.carried .struct .fields = .ok (.list ss) →
      (SerialValue.list ss).toLocal .struct none = .ok w → w.Uniform ∧ Tag.ofLocal w = .struct) :
    v.Settles := by
  intro tag tv w htv hw
  obtain ⟨s, hs, rfl⟩ := ofLocal_eq_ok_iff.1 htv
  obtain ⟨hs, hc⟩ := toSerial_eq_ok_iff.1 hs
  obtain ⟨ss, rfl⟩ := exists_list_of_carried hp hn hs
  rcases SerialValue.tag_of_check_list hc with rfl | rfl
  · exact (harray hs hw).imp_right .inr
  · have hown : v.elementTag? .struct = none := elementTag?_eq_none (by decide) v
    rw [hown] at hs hw
    exact (hstruct hs hw).imp_right .inr

/-- What is read of a list settles when the items do. -/
lemma settles_list {items : List LocalValue} (h : ∀ v ∈ items, v.Settles) :
    (list items).Settles := by
  refine settles_parts rfl rfl (fun hs hw => ?_) fun hs hw => ?_ <;>
    obtain ⟨ss, hss, hs⟩ := bind_eq_ok_iff.1 hs <;>
    obtain rfl := SerialValue.list.inj (Except.ok.inj hs)
  · exact settles_elements (fun v hv => holdsNothing_ofElements hv) h hss hw
  · exact settles_fields h hss hw

/-- What is read of an array settles when its elements do and its tag names a variant. -/
lemma settles_array {a : ArrayValue} (hc : a.component.tag.holdsNothing = false)
    (h : ∀ v ∈ a.elements, v.Settles) : (array a).Settles := by
  refine settles_parts rfl rfl (fun hs hw => ?_) fun hs _ => by cases hs
  obtain ⟨ss, hss, hs⟩ := bind_eq_ok_iff.1 hs
  obtain rfl := SerialValue.list.inj (Except.ok.inj hs)
  exact settles_elements (fun _ _ _ => hc) h hss hw

/-- What is read of a record settles when its fields do. -/
lemma settles_struct {s : StructValue} (h : ∀ v ∈ s.values, v.Settles) : (struct s).Settles := by
  refine settles_parts rfl rfl (fun hs _ => by cases hs) fun hs hw => ?_
  obtain ⟨ss, hss, hs⟩ := bind_eq_ok_iff.1 hs
  obtain rfl := SerialValue.list.inj (Except.ok.inj hs)
  exact settles_fields h hss hw

/-- What is read of a record of named fields settles when the fields do. -/
lemma settles_record {fields : List (String × LocalValue)} (h : ∀ f ∈ fields, f.2.Settles) :
    (record fields).Settles := by
  refine settles_parts rfl rfl (fun hs _ => by cases hs) fun hs hw => ?_
  obtain ⟨ss, hss, hs⟩ := bind_eq_ok_iff.1 hs
  obtain rfl := SerialValue.list.inj (Except.ok.inj hs)
  exact settles_fields (List.forall_mem_map.2 h) (carriedNamedFields_eq fields ▸ hss) hw

/-- **What is read of what was written is settled**: whatever is written of a value whose arrays
declare what they hold is read as a value made of lists of one tag and of records, which is null or
of the variant that the tag names. -/
theorem Declared.settles (hv : v.Declared) : v.Settles := by
  induction hv with
  | null => exact settles_null
  | scalar h => exact settles_scalar h
  | list _ ih => exact settles_list ih
  | record _ ih => exact settles_record ih
  | struct _ ih => exact settles_struct ih
  | array hc _ ih => exact settles_array hc ih

/-- A value without names has no arrays that could declare anything. -/
lemma Unnamed.declared (hv : v.Unnamed) : v.Declared := by
  induction hv with
  | null => exact .null
  | scalar h => exact .scalar h
  | list _ ih => exact .list ih
  | struct _ ih => exact .struct ih

/-- What is read of a value without names settles. -/
lemma Unnamed.settles (hv : v.Unnamed) : v.Settles := hv.declared.settles

end LocalValue

end TypedRows
