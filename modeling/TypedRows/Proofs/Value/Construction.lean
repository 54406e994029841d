import TypedRows.Proofs.Value.ClientSerial
import TypedRows.Proofs.Value.Settled

/-!
# Typed values as they are made

A typed value is made from a local value, from local elements, from JSON, from a serial value or
from a client value, and an array may be given another tag for its elements. Each way checks the
value against its tag. The ways that start with local values, those from JSON among them, also see
to what stands within: fields and nested arrays keep their own tags as typed values, and other
elements have the shape of the tag of the elements.

## Main definitions

* `TypedRows.Tagged.Coherent` — the value has the shape of its tag.
* `TypedRows.Tagged.WellTagged` — so do its parts, or they carry their tags.
* `TypedRows.Tagged.FromLocal`, `TypedRows.Tagged.Constructed` — the ways to make typed values.

## Main results

* `TypedRows.Tagged.wellTagged_of_ofLocal` — what one step of encoding makes of the parts.
* `TypedRows.LocalValue.tagsKept_of_carried` — all typed values within are well tagged.
* `TypedRows.Tagged.constructed_values_keep_shape` — whichever way a typed value is made.
-/

set_option autoImplicit false

namespace TypedRows

/-! ## What holds of typed values -/

namespace SerialValue

/-- The fields of a record that are not null are typed values. -/
def KeepsFieldTags : SerialValue → Prop
  | list fields => ∀ s ∈ fields, s.isNull = false → ∃ t, s = .typed t
  | _ => True

/-- The elements of an array under a tag: arrays are typed values, and other values have the shape
of the tag unless nothing has it. -/
def IsElement (c : Tag) (s : SerialValue) : Prop :=
  if c = .array then ∃ t, s = .typed t ∧ t.tag = .array
  else c.holdsNothing = false → s.check c = .ok () ∧ (c = .struct → s.KeepsFieldTags)

end SerialValue

namespace Tagged

/-- A typed value has the shape of its tag, and only an array has a tag for its elements. -/
structure Coherent (tv : TypedValue) : Prop where
  component : tv.component ≠ none → tv.tag = .array
  check : tv.value.check tv.tag = .ok ()

/-- The fields of a record are typed values, and the elements of an array are elements under the
tag that it has for them. -/
structure WellTagged (tv : TypedValue) : Prop extends tv.Coherent where
  fields : tv.tag = .struct → tv.value.KeepsFieldTags
  elements : ∀ items, tv.tag = .array → tv.value = .list items →
    ∃ c, tv.component = some c ∧ ∀ s ∈ items, s.isNull = false → s.IsElement c

/-- The typed values that are made from local values. -/
inductive FromLocal : TypedValue → Prop
  | ofLocal {tag : Tag} {v : LocalValue} {tv : TypedValue} (h : Tagged.ofLocal tag v = .ok tv) :
    FromLocal tv
  | ofElements {component : Tag} {elements : List LocalValue} {tv : TypedValue}
    (h : Tagged.ofElements component elements = .ok tv) : FromLocal tv
  | ofJson {json : JsonValue} {tv : TypedValue} (h : Tagged.ofJson json = .ok tv) : FromLocal tv

/-- The typed values that are made in any way, and then given other tags for their elements. -/
inductive Constructed [Calendar.Platform] : TypedValue → Prop
  | fromLocal {tv : TypedValue} (h : tv.FromLocal) : Constructed tv
  | ofSerial {tag : Tag} {s : SerialValue} {tv : TypedValue} (h : Tagged.ofSerial tag s = .ok tv) :
    Constructed tv
  | ofClient {tag : Tag} {o : ClientValue} {zone : Option Calendar.Zone} {tv : TypedValue}
    (h : Tagged.ofClient tag o zone = .ok tv) : Constructed tv
  | deduced {o : ClientValue} {zone : Option Calendar.Zone} {tv : TypedValue}
    (h : Tagged.deduced o zone = .ok tv) : Constructed tv
  | withComponent {tv : TypedValue} (h : Constructed tv) (c : Tag) :
    Constructed (tv.withComponent c)

end Tagged

/-! ## One step of encoding -/

namespace LocalValue

variable {tag c : Tag} {v : LocalValue} {s : SerialValue}

/-- What is written as a typed value is one, unless it is null. -/
lemma exists_typed_of_asTyped {form : Except Error SerialValue} (h : v.asTyped tag form = .ok s)
    (hn : s.isNull = false) : ∃ t, s = .typed t := by
  rw [asTyped] at h
  split_ifs at h
  · obtain rfl := Except.ok.inj h
    cases hn
  · obtain ⟨r, -, h⟩ := bind_eq_ok_iff.1 h
    exact ⟨_, (Except.ok.inj h).symm⟩

/-- Fields are written with their own tags. -/
lemma keepsFieldTags_of_carriedFields {values : List LocalValue} {ss : List SerialValue}
    (h : carriedFields values = .ok ss) : (SerialValue.list ss).KeepsFieldTags := by
  rw [carriedFields_eq_mapM] at h
  intro s hs hn
  obtain ⟨v, -, hv⟩ := exists_of_mem_right (mapM_eq_ok_iff.1 h) hs
  exact exists_typed_of_asTyped hv hn

/-- The fields of a record keep their tags. -/
lemma keepsFieldTags_of_carried (h : v.carried tag .fields = .ok s) : s.KeepsFieldTags := by
  cases v with
  | list | struct =>
    obtain ⟨ss, hss, h⟩ := bind_eq_ok_iff.1 h
    obtain rfl := Except.ok.inj h
    exact keepsFieldTags_of_carriedFields hss
  | record fields =>
    obtain ⟨ss, hss, h⟩ := bind_eq_ok_iff.1 h
    obtain rfl := Except.ok.inj h
    exact keepsFieldTags_of_carriedFields (carriedNamedFields_eq fields ▸ hss)
  | null =>
    obtain rfl := Except.ok.inj h
    trivial
  | _ => cases h

/-- An element that is not null is an element under the tag. -/
lemma isElement_of_encodeElement (h : encodeElement (some c) v = .ok s) (hn : s.isNull = false) :
    s.IsElement c := by
  by_cases hv : v.isNull = true
  · rw [isNull_iff.1 hv, encodeElement_null] at h
    obtain rfl := Except.ok.inj h
    cases hn
  rw [SerialValue.IsElement]
  by_cases hc : c.holdsNothing = true
  · rw [if_neg (by rintro rfl; cases hc)]
    simp [hc]
  rw [Bool.not_eq_true] at hv hc
  rw [encodeElement_eq hv hc] at h
  obtain ⟨tv, htv, rfl⟩ := map_eq_ok_iff.1 h
  have hcheck := Tagged.check_of_ofLocal htv
  obtain ⟨r, hr, rfl⟩ := ofLocal_eq_ok_iff.1 htv
  simp only [Tagged.asElement]
  split_ifs with ha
  · exact ⟨_, rfl, ha⟩
  · refine fun _ => ⟨hcheck, ?_⟩
    rintro rfl
    exact keepsFieldTags_of_carried (toSerial_eq_ok_iff.1 hr).1

/-- Elements are written in the shape of the tag of the array. -/
lemma isElement_of_carriedElements {items : List LocalValue} {ss : List SerialValue}
    (h : carriedElements (some c) items = .ok ss) : ∀ s ∈ ss, s.isNull = false → s.IsElement c := by
  rw [carriedElements_eq_mapM] at h
  intro s hs hn
  obtain ⟨v, -, hv⟩ := exists_of_mem_right (mapM_eq_ok_iff.1 h) hs
  exact isElement_of_encodeElement hv hn

end LocalValue

namespace Tagged

open LocalValue

/-- **What is made from a local value is well tagged**, as far as its own parts go. -/
theorem wellTagged_of_ofLocal {tag : Tag} {v : LocalValue} {tv : TypedValue}
    (h : Tagged.ofLocal tag v = .ok tv) : tv.WellTagged := by
  have hcheck := check_of_ofLocal h
  obtain ⟨s, hs, rfl⟩ := ofLocal_eq_ok_iff.1 h
  obtain ⟨hcarried, -⟩ := toSerial_eq_ok_iff.1 hs
  refine ⟨⟨?_, hcheck⟩, ?_, ?_⟩
  · intro hne
    by_contra ha
    exact hne (elementTag?_eq_none ha v)
  · rintro rfl
    exact keepsFieldTags_of_carried hcarried
  · rintro ss rfl rfl
    cases v with
    | list items =>
      obtain ⟨ss, hss, h⟩ := bind_eq_ok_iff.1 hcarried
      obtain rfl := SerialValue.list.inj (Except.ok.inj h)
      exact ⟨_, rfl, isElement_of_carriedElements hss⟩
    | array a =>
      obtain ⟨ss, hss, h⟩ := bind_eq_ok_iff.1 hcarried
      obtain rfl := SerialValue.list.inj (Except.ok.inj h)
      exact ⟨_, rfl, isElement_of_carriedElements hss⟩
    | _ => cases hcarried

/-- An array of elements is well tagged, as far as its elements go. -/
lemma wellTagged_of_ofElements {c : Tag} {elements : List LocalValue} {tv : TypedValue}
    (h : Tagged.ofElements c elements = .ok tv) : tv.WellTagged := by
  obtain ⟨s, hs, h⟩ := bind_eq_ok_iff.1 h
  obtain rfl := Except.ok.inj h
  obtain ⟨hcarried, hcheck⟩ := toSerial_eq_ok_iff.1 hs
  obtain ⟨ss, hss, h⟩ := bind_eq_ok_iff.1 hcarried
  obtain rfl := Except.ok.inj h
  refine ⟨⟨fun _ => rfl, hcheck⟩, nofun, ?_⟩
  rintro _ - ⟨⟩
  exact ⟨c, rfl, isElement_of_carriedElements hss⟩

end Tagged

/-! ## What stands within -/

/-- All typed values within a value are well tagged. -/
def SerialValue.TagsKept (s : SerialValue) : Prop := ∀ t, s.Contains t → t.WellTagged

namespace SerialValue

/-- A list keeps its tags when its items do. -/
lemma tagsKept_list {ss : List SerialValue} (h : ∀ s ∈ ss, s.TagsKept) : (list ss).TagsKept := by
  rintro t (_ | ⟨hs, ht⟩ | _)
  exact h _ hs t ht

/-- A typed value keeps its tags when what is within it does. -/
lemma tagsKept_typed {tv : TypedValue} (h : tv.WellTagged) (hvalue : tv.value.TagsKept) :
    (typed tv).TagsKept := by
  rintro t (_ | _ | ht)
  · exact h
  · exact hvalue t ht

/-- There are no tags in null. -/
lemma tagsKept_null : null.TagsKept := nofun

/-- There are no tags in a scalar. -/
lemma tagsKept_scalar {s : SerialValue} (h : s.isScalar = true) : s.TagsKept := by
  intro t ht
  cases ht <;> cases h

end SerialValue

namespace LocalValue

/-- **Induction on local values**: on the elements of arrays and on the fields of records. -/
theorem parts_induction {P : LocalValue → Prop} (null : P .null)
    (scalar : ∀ v : LocalValue, v.isScalar = true → P v)
    (list : ∀ items, (∀ v ∈ items, P v) → P (.list items))
    (record : ∀ fields : List (String × LocalValue), (∀ f ∈ fields, P f.2) → P (.record fields))
    (struct : ∀ s : StructValue, (∀ v ∈ s.values, P v) → P (.struct s))
    (array : ∀ a : ArrayValue, (∀ v ∈ a.elements, P v) → P (.array a)) : ∀ v, P v
  | .null => null
  | .list items => list items fun v _ => parts_induction null scalar list record struct array v
  | .record fields =>
    record fields fun ⟨name, v⟩ hf =>
      have : sizeOf (name, v) < sizeOf fields := List.sizeOf_lt_of_mem hf
      have : sizeOf v < sizeOf (name, v) := by simp +arith
      parts_induction null scalar list record struct array v
  | .struct ⟨names, values⟩ => struct ⟨names, values⟩ fun v _ =>
    parts_induction null scalar list record struct array v
  | .array ⟨component, elements, zone⟩ => array ⟨component, elements, zone⟩ fun v _ =>
    parts_induction null scalar list record struct array v
  | .bool _ | .byte _ | .short _ | .int _ | .long _ | .float _ | .double _ | .decimal _ | .char _
  | .string _ | .bytes _ => scalar _ rfl

variable {tag : Tag} {carrier : Carrier} {v : LocalValue} {s : SerialValue}

/-- Whatever a value is written as keeps the tags within. -/
def WrittenTagged (v : LocalValue) : Prop :=
  ∀ ⦃tag : Tag⦄ ⦃carrier : Carrier⦄ ⦃s : SerialValue⦄, v.carried tag carrier = .ok s → s.TagsKept

/-- A typed value within another one. -/
lemma WrittenTagged.asTyped (hv : v.WrittenTagged)
    (h : v.asTyped tag (v.carried tag (v.ownCarrier tag)) = .ok s) : s.TagsKept := by
  by_cases hn : v.isNull = true
  · rw [isNull_iff.1 hn] at h
    obtain rfl := Except.ok.inj h
    exact SerialValue.tagsKept_null
  · rw [asTyped_eq (by simpa using hn)] at h
    obtain ⟨tv, htv, rfl⟩ := map_eq_ok_iff.1 h
    refine SerialValue.tagsKept_typed (Tagged.wellTagged_of_ofLocal htv) ?_
    obtain ⟨r, hr, rfl⟩ := ofLocal_eq_ok_iff.1 htv
    exact hv (toSerial_eq_ok_iff.1 hr).1

/-- An element keeps its tags. -/
lemma WrittenTagged.element {component : Option Tag} (hv : v.WrittenTagged)
    (h : encodeElement component v = .ok s) : s.TagsKept := by
  simp only [encodeElement] at h
  split_ifs at h
  · exact hv h
  · exact hv.asTyped h
  · exact hv (toSerial_eq_ok_iff.1 h).1

/-- A list that is written item by item. -/
lemma tagsKept_of_walk {f : LocalValue → Except Error SerialValue} {items : List LocalValue}
    (hf : ∀ v ∈ items, ∀ s, f v = .ok s → s.TagsKept)
    (h : (do return SerialValue.list (← items.mapM f)) = Except.ok s) : s.TagsKept := by
  obtain ⟨ss, hss, h⟩ := bind_eq_ok_iff.1 h
  obtain rfl := Except.ok.inj h
  refine SerialValue.tagsKept_list fun s hs => ?_
  obtain ⟨v, hv, h⟩ := exists_of_mem_right (mapM_eq_ok_iff.1 hss) hs
  exact hf v hv s h

section Parts

variable {items : List LocalValue} (hitems : ∀ v ∈ items, v.WrittenTagged)

include hitems

/-- The list of the elements of an array keeps its tags. -/
lemma tagsKept_of_elements {component : Option Tag}
    (h : (do return SerialValue.list (← carriedElements component items)) = Except.ok s) :
    s.TagsKept := by
  rw [carriedElements_eq_mapM] at h
  exact tagsKept_of_walk (fun v hv _ => (hitems v hv).element) h

/-- The list of the fields of a record keeps its tags. -/
lemma tagsKept_of_fields
    (h : (do return SerialValue.list (← carriedFields items)) = Except.ok s) : s.TagsKept := by
  rw [carriedFields_eq_mapM] at h
  exact tagsKept_of_walk (fun v hv _ => (hitems v hv).asTyped) h

/-- A list that is written without tags keeps its tags. -/
lemma tagsKept_of_items
    (h : (do return SerialValue.list (← carriedItems items)) = Except.ok s) : s.TagsKept := by
  rw [carriedItems_eq_mapM] at h
  exact tagsKept_of_walk (fun v hv s h => hitems v hv h) h

end Parts

/-- Named items are written like items without names. -/
lemma carriedNamedItems_eq (fields : List (String × LocalValue)) :
    carriedNamedItems fields = carriedItems (fields.map (·.2)) := by
  induction fields with
  | nil => rfl
  | cons f fs ih => rw [carriedNamedItems, ih, List.map_cons, carriedItems]

/-- A scalar is written in its plain form or refused. -/
lemma eq_of_carried_scalar (hv : v.isScalar = true) (h : v.carried tag carrier = .ok s) :
    s = v.scalarSerial := by
  cases v <;> cases carrier <;> first | exact (Except.ok.inj h).symm | cases h | cases hv

/-- **All typed values within what a value is written as are well tagged.** -/
theorem writtenTagged (v : LocalValue) : v.WrittenTagged := by
  induction v using parts_induction with
  | null =>
    intro tag carrier s h
    obtain rfl := Except.ok.inj h
    exact SerialValue.tagsKept_null
  | scalar v hv =>
    intro tag carrier s h
    rw [eq_of_carried_scalar hv h]
    exact SerialValue.tagsKept_scalar (isScalar_scalarSerial hv)
  | list items ih =>
    intro tag carrier s h
    cases carrier with
    | nothing | bytes => cases h
    | elements component => exact tagsKept_of_elements ih h
    | fields => exact tagsKept_of_fields ih h
    | plain => exact tagsKept_of_items ih h
  | record fields ih =>
    intro tag carrier s h
    have hvalues : ∀ v ∈ fields.map (·.2), v.WrittenTagged := List.forall_mem_map.2 ih
    cases carrier with
    | nothing | bytes | elements => cases h
    | fields =>
      rw [carried, carriedNamedFields_eq] at h
      exact tagsKept_of_fields hvalues h
    | plain =>
      rw [carried, carriedNamedItems_eq] at h
      exact tagsKept_of_items hvalues h
  | struct r ih =>
    intro tag carrier s h
    cases carrier with
    | nothing | bytes | elements => cases h
    | fields => exact tagsKept_of_fields ih h
    | plain => exact tagsKept_of_items ih h
  | array a ih =>
    intro tag carrier s h
    cases carrier with
    | nothing | bytes | fields => cases h
    | elements => exact tagsKept_of_elements ih h
    | plain => exact tagsKept_of_elements ih h

end LocalValue

/-! ## All ways -/

namespace Tagged

variable {tag : Tag} {zone : Option Calendar.Zone} {tv : TypedValue}

/-- The typed value of a local value keeps its tags. -/
lemma keepsTags_of_ofLocal {v : LocalValue} (h : Tagged.ofLocal tag v = .ok tv) :
    tv.WellTagged ∧ tv.value.TagsKept := by
  refine ⟨wellTagged_of_ofLocal h, ?_⟩
  obtain ⟨s, hs, rfl⟩ := LocalValue.ofLocal_eq_ok_iff.1 h
  exact v.writtenTagged (LocalValue.toSerial_eq_ok_iff.1 hs).1

/-- A typed array keeps its tags. -/
lemma keepsTags_of_ofElements {c : Tag} {elements : List LocalValue}
    (h : Tagged.ofElements c elements = .ok tv) : tv.WellTagged ∧ tv.value.TagsKept := by
  refine ⟨wellTagged_of_ofElements h, ?_⟩
  obtain ⟨s, hs, h⟩ := bind_eq_ok_iff.1 h
  obtain rfl := Except.ok.inj h
  exact (LocalValue.list elements).writtenTagged (LocalValue.toSerial_eq_ok_iff.1 hs).1

/-- What is read as a local value on the way keeps its tags. -/
lemma keepsTags_of_throughLocal {component : Option Tag} {s : SerialValue}
    (h : throughLocal tag component s = .ok tv) : tv.WellTagged ∧ tv.value.TagsKept := by
  obtain rfl | ⟨c, elements, h⟩ | ⟨v, h⟩ := made_of_throughLocal h
  · refine ⟨⟨⟨(absurd rfl ·), rfl⟩, ?_, ?_⟩, SerialValue.tagsKept_null⟩
    · rintro ⟨⟩
    · rintro _ ⟨⟩
  · exact keepsTags_of_ofElements h
  · exact keepsTags_of_ofLocal h

/-- **What is made from local values keeps its tags**, also within. -/
theorem FromLocal.keepsTags (h : tv.FromLocal) : tv.WellTagged ∧ tv.value.TagsKept := by
  cases h with
  | ofLocal h => exact keepsTags_of_ofLocal h
  | ofElements h => exact keepsTags_of_ofElements h
  | ofJson h =>
    obtain ⟨parts, -, h⟩ := bind_eq_ok_iff.1 h
    obtain ⟨s, -, h⟩ := bind_eq_ok_iff.1 h
    exact keepsTags_of_throughLocal h

/-- An instant is a count of days or milliseconds, and other client values are written as local
values. -/
lemma check_of_scalarSerial [Calendar.Platform] {o : ClientValue} {s : SerialValue}
    (h : o.scalarSerial tag.boxed zone = .ok s) : s.check tag = .ok () := by
  rw [ClientValue.scalarSerial] at h
  split at h
  · next hinstant =>
    obtain rfl := Except.ok.inj h
    have htemporal : tag.boxed.isTemporal = true := by
      by_contra hne
      simp [hne] at hinstant
    cases tag <;> first | rfl | cases htemporal
  · split at h
    · exact (SerialValue.check_boxed _ _).1 (LocalValue.toSerial_eq_ok_iff.1 h).2
    · cases h

/-- Client values are written in the shape of the tag. -/
lemma coherent_of_ofClient [Calendar.Platform] {o : ClientValue}
    (h : Tagged.ofClient tag o zone = .ok tv) : tv.Coherent := by
  obtain ⟨s, hs, h⟩ := bind_eq_ok_iff.1 h
  obtain rfl := Except.ok.inj h
  cases o with
  | array a =>
    obtain rfl : tag = .array := by
      by_contra hne
      have hboxed : tag.boxed ≠ .array := by
        cases tag <;> first | exact absurd rfl hne | decide
      rw [ClientValue.toSerial, if_pos hboxed] at hs
      cases hs
    obtain ⟨ss, -, rfl⟩ := ClientValue.toSerial_array_eq_ok_iff.1 hs
    exact ⟨fun _ => rfl, rfl⟩
  | null =>
    rw [ClientValue.toSerial_null] at hs
    obtain rfl := Except.ok.inj hs
    exact ⟨(absurd rfl ·), rfl⟩
  | _ =>
    rw [ClientValue.toSerial_eq_scalarSerial _ _ _ (by simp) (by simp)] at hs
    exact ⟨(absurd rfl ·), check_of_scalarSerial hs⟩

/-- Another tag for the elements changes no shape. -/
lemma Coherent.withComponent (h : tv.Coherent) (c : Tag) : (tv.withComponent c).Coherent := by
  rw [Tagged.withComponent]
  split_ifs with ha
  · exact ⟨fun _ => ha, h.check⟩
  · exact h

/-- **Every typed value that is made has the shape of its tag.** -/
theorem Constructed.coherent [Calendar.Platform] (h : tv.Constructed) : tv.Coherent := by
  induction h with
  | fromLocal h => exact h.keepsTags.1.toCoherent
  | ofSerial h =>
    obtain ⟨⟨⟩, hc, h⟩ := bind_eq_ok_iff.1 h
    obtain rfl := Except.ok.inj h
    exact ⟨nofun, hc⟩
  | ofClient h => exact coherent_of_ofClient h
  | deduced h =>
    rw [Tagged.deduced] at h
    split_ifs at h
    · obtain rfl := Except.ok.inj h
      exact ⟨nofun, rfl⟩
    · exact coherent_of_ofClient h
  | withComponent _ c ih => exact ih.withComponent c

/-- **Typed values keep the shape of their tags**, whichever way they are made, and so do the typed
values within those that are made from local values. -/
theorem constructed_values_keep_shape [Calendar.Platform] (tv : TypedValue) :
    (tv.Constructed → tv.Coherent)
      ∧ (tv.FromLocal → tv.WellTagged ∧ ∀ t, tv.value.Contains t → t.WellTagged) :=
  ⟨Constructed.coherent, FromLocal.keepsTags⟩

section

attribute [local instance] Calendar.Platform.utc

/-- A list of records, one of which has a list as its field: the inner list is a typed value within
a bare element. -/
theorem constructed_values_keep_shape_of_records :
    ∃ tv t : TypedValue,
      Tagged.ofLocal .array (.list [.record [("a", .list [.int 1]), ("b", .null)], .null]) = .ok tv
        ∧ t = ⟨.array, .list [.integer 1], some .integer⟩
        ∧ (tv.withComponent .object).Coherent ∧ tv.WellTagged
        ∧ tv.value.Contains t ∧ t.WellTagged := by
  obtain ⟨tv, htv⟩ : ∃ tv, Tagged.ofLocal .array
      (.list [.record [("a", .list [.int 1]), ("b", .null)], .null]) = .ok tv := ⟨_, rfl⟩
  have hlocal : tv.FromLocal := .ofLocal htv
  obtain ⟨hkeeps, hwithin⟩ := (constructed_values_keep_shape tv).2 hlocal
  have hcoherent := (constructed_values_keep_shape _).1 (.withComponent (.fromLocal hlocal) .object)
  obtain rfl := Except.ok.inj htv
  have hcontains : SerialValue.Contains ⟨.array, .list [.integer 1], some .integer⟩
      (.list [.list [.typed ⟨.array, .list [.integer 1], some .integer⟩, .null], .null]) :=
    .list (.head _) (.list (.head _) .self)
  exact ⟨_, _, rfl, rfl, hcoherent, hkeeps, hcontains, hwithin _ hcontains⟩

end

end Tagged

end TypedRows
