import TypedRows.Proofs.Json.RoundTrip
import TypedRows.Proofs.Value.Settled
import TypedRows.Proofs.Wire.Legibility

/-!
# The tags of fields through JSON

Every field of a record is written to JSON with its tag. Reading the record goes by way of its
local value, in which a field is a value of some variant and nothing else, and the tag that it gets
there is the one that the variant has by itself. So a field keeps its tag when it is null or when
its tag is that one; the tags of dates, times and timestamps and the primitive ones are lost.

## Main definitions

* `TypedRows.JsonField` — a tagged field of a record in JSON.
* `TypedRows.JsonField.KeepTags` — the fields of a record have their tags when it is read.

## Main results

* `TypedRows.Tagged.ofJson_record_eq_ok_iff` — a record is read field by field.
* `TypedRows.Tagged.fields_keep_tags_iff` — which records keep the tags of their fields, read from
  JSON or read from the wire and sent through JSON.
-/

set_option autoImplicit false

namespace TypedRows

/-- A field of a record in JSON that is not null: a tag and a value. -/
structure JsonField where
  tag : Tag
  value : JsonValue
  isNull_value : value.isNull = false

/-- The finite scalars of a serial form: the others have no JSON form but null. -/
def SerialValue.isFinite : SerialValue → Bool
  | float x => x.value.isFinite
  | _ => true

/-- Parts of two records that are both null or have one tag. -/
def SerialValue.SameTag (s t : SerialValue) : Prop :=
  (s = null ∧ t = null) ∨ ∃ tv tv', s = typed tv ∧ t = typed tv' ∧ tv'.tag = tv.tag

namespace JsonField

/-- The object of a field. -/
def json (f : JsonField) : JsonValue := .ofParts f.tag f.value none

/-- The JSON form of a field that may be null. -/
def jsonOrNull (f : Option JsonField) : JsonValue := (f.map json).getD .null

/-- The object of a record of fields. -/
def recordJson (fields : List (Option JsonField)) : JsonValue :=
  .ofParts .struct (.array (fields.map jsonOrNull)) none

/-- A part of a record has the tag of a field: it is null, which the part of a field that is null
has to be, or a typed value of the tag. -/
def IsTagOf (f : Option JsonField) (s : SerialValue) : Prop :=
  s = .null ∨ ∃ g tv, f = some g ∧ s = .typed tv ∧ tv.tag = g.tag

/-- The record of the fields is read, and its parts have the tags of the fields. -/
def KeepTags (fields : List (Option JsonField)) : Prop :=
  ∃ items, Tagged.ofJson (recordJson fields) = .ok ⟨.struct, .list items, none⟩
    ∧ List.Forall₂ IsTagOf fields items

end JsonField

/-! ## Reading a record -/

/-- The local value of a part of a record in JSON. -/
def JsonValue.readPart (json : JsonValue) : Except Error LocalValue :=
  SerialValue.ofJson json >>= SerialValue.toPlainLocal

/-- **A record is read part by part** into a local value, and this is encoded again. -/
lemma Tagged.ofJson_record_eq_ok_iff {parts : List JsonValue} {tv : TypedValue} :
    ofJson (.ofParts .struct (.array parts) none) = .ok tv
      ↔ ∃ vs, List.Forall₂ (fun j v => j.readPart = .ok v) parts vs
        ∧ ofLocal .struct (.struct (.ofValues vs)) = .ok tv := by
  have hthrough (ss : List SerialValue) : throughLocal .struct none (.list ss)
      = ss.mapM SerialValue.toPlainLocal
        >>= fun vs => ofLocal .struct (.struct (.ofValues vs)) := by
    rw [throughLocal_none rfl, SerialValue.toLocal_list_struct]
    cases ss.mapM SerialValue.toPlainLocal <;> rfl
  have hread : ofJson (.ofParts .struct (.array parts) none)
      = (parts.mapM SerialValue.ofJson >>= fun ss => ss.mapM SerialValue.toPlainLocal)
        >>= fun vs => ofLocal .struct (.struct (.ofValues vs)) := by
    rw [ofJson_ofParts, SerialValue.ofJson, SerialValue.ofJsonItems_eq_mapM]
    cases parts.mapM SerialValue.ofJson with
    | error e => rfl
    | ok ss => exact hthrough ss
  simp only [hread, bind_eq_ok_iff (x := _ >>= _), mapM_bind_mapM_eq_ok_iff]
  rfl

/-- **A record that is read** stands in a relation to what it was written of, part by part, when
every part denotes a value whose part in the record that is read does. -/
lemma Tagged.exists_record_iff {α : Type} {R : α → SerialValue → Prop} {as : List α}
    {json : α → JsonValue} (huniform : ∀ a ∈ as, ∀ v, (json a).readPart = .ok v → v.Uniform) :
    (∃ items, ofJson (.ofParts .struct (.array (as.map json)) none)
        = .ok ⟨.struct, .list items, none⟩ ∧ List.Forall₂ R as items)
      ↔ ∀ a ∈ as, ∃ v, (json a).readPart = .ok v ∧ R a (LocalValue.fieldForm v) := by
  have hform {vs : List LocalValue}
      (h : List.Forall₂ (fun a v => (json a).readPart = .ok v) as vs) :
      ofLocal .struct (.struct (.ofValues vs))
        = .ok ⟨.struct, .list (vs.map LocalValue.fieldForm), none⟩ := by
    rw [← LocalValue.form_struct]
    refine LocalValue.ofLocal_eq_form (.struct fun v hv => ?_)
    obtain ⟨a, ha, hv⟩ := exists_of_mem_right h hv
    exact huniform a ha v hv
  constructor
  · rintro ⟨items, hread, hrel⟩ a ha
    obtain ⟨vs, hvs, hlocal⟩ := ofJson_record_eq_ok_iff.1 hread
    rw [List.forall₂_map_left_iff] at hvs
    rw [hform hvs] at hlocal
    obtain ⟨-, hlist, -⟩ := Tagged.mk.inj (Except.ok.inj hlocal)
    rw [← SerialValue.list.inj hlist, List.forall₂_map_right_iff] at hrel
    exact exists_of_forall₂ hvs hrel.flip ha
  · intro h
    choose! value hvalue hrel using h
    have hvs : List.Forall₂ (fun a v => (json a).readPart = .ok v) as (as.map value) := by
      rw [List.forall₂_map_right_iff, List.forall₂_same]
      exact hvalue
    refine ⟨_, ofJson_record_eq_ok_iff.2 ⟨as.map value, ?_, hform hvs⟩, ?_⟩
    · rwa [List.forall₂_map_left_iff]
    · rw [List.forall₂_map_right_iff, List.forall₂_map_right_iff, List.forall₂_same]
      exact hrel

namespace JsonField

/-- The part of a field is read as the typed value of its object and then as a local value. -/
lemma readPart_json_eq_ok_iff {f : JsonField} {v : LocalValue} :
    f.json.readPart = .ok v ↔ ∃ tv, Tagged.ofJson f.json = .ok tv ∧ tv.toLocal = .ok v := by
  rw [JsonValue.readPart, json, SerialValue.ofJson_ofParts, bind_eq_ok_iff]
  simp only [map_eq_ok_iff]
  constructor
  · rintro ⟨_, ⟨tv, htv, rfl⟩, hv⟩
    exact ⟨tv, htv, hv⟩
  · rintro ⟨tv, htv, hv⟩
    exact ⟨_, ⟨tv, htv, rfl⟩, hv⟩

/-- What is not null in JSON is not null as a serial value. -/
lemma isNull_of_ofJson {j : JsonValue} {s : SerialValue} (hj : j.isNull = false)
    (h : SerialValue.ofJson j = .ok s) : s.isNull = false := by
  cases j with
  | null => cases hj
  | number n =>
    obtain rfl := Except.ok.inj h
    cases n with
    | integer n =>
      rw [SerialValue.ofNumeral]
      split <;> rfl
    | float x => rfl
  | array items =>
    obtain ⟨ss, -, h⟩ := bind_eq_ok_iff.1 h
    obtain rfl := Except.ok.inj h
    rfl
  | object members =>
    obtain ⟨_, -, h⟩ := bind_eq_ok_iff.1 h
    obtain ⟨_, -, h⟩ := bind_eq_ok_iff.1 h
    obtain ⟨_, -, h⟩ := bind_eq_ok_iff.1 h
    obtain rfl := Except.ok.inj h
    rfl
  | _ =>
    obtain rfl := Except.ok.inj h
    rfl

/-- **What a field denotes** is made of lists of one tag and of records; it is null when the typed
value of the field is, and else of the variant that the tag of the field names. -/
lemma settles {f : JsonField} {tv : TypedValue} {v : LocalValue}
    (h : Tagged.ofJson f.json = .ok tv) (hv : tv.toLocal = .ok v) :
    v.Uniform ∧ v.isNull = tv.isNull ∧ (v.isNull = true ∨ Tag.ofLocal v = f.tag.native) := by
  rw [json, Tagged.ofJson_ofParts] at h
  obtain ⟨s, hs, h⟩ := bind_eq_ok_iff.1 h
  have hcheck := Tagged.check_of_throughLocal h
  rw [Tagged.throughLocal_none (isNull_of_ofJson f.isNull_value hs)] at h
  obtain ⟨w, hw, hlocal⟩ := bind_eq_ok_iff.1 h
  obtain ⟨huniform, htag⟩ := ((SerialValue.unnamed_of_toLocal s).1 hw).settles hlocal hv
  exact ⟨huniform, SerialValue.isNull_of_toLocal hcheck hv, htag⟩

/-- The part that a field becomes has the tag of the variant of what the field denotes. -/
lemma isTagOf_fieldForm_iff {f : JsonField} {tv : TypedValue} {v : LocalValue}
    (h : Tagged.ofJson f.json = .ok tv) (hv : tv.toLocal = .ok v) :
    IsTagOf (some f) (LocalValue.fieldForm v) ↔ tv.isNull = true ∨ f.tag.native = f.tag := by
  obtain ⟨-, hnull, htag⟩ := settles h hv
  by_cases hn : v.isNull = true
  · exact iff_of_true (.inl (by rw [LocalValue.fieldForm, if_pos hn])) (.inl (hnull ▸ hn))
  · have htv : ¬ tv.isNull = true := hnull ▸ hn
    rw [LocalValue.fieldForm, if_neg hn, IsTagOf, or_iff_right htv, ← htag.resolve_left hn]
    constructor
    · rintro (h | ⟨g, t, hg, ht, heq⟩)
      · cases h
      · obtain rfl := Option.some.inj hg
        obtain rfl := SerialValue.typed.inj ht
        rw [← heq, LocalValue.tag_form]
    · intro heq
      exact .inr ⟨f, v.form, rfl, rfl, by rw [LocalValue.tag_form, heq]⟩

/-- **A record in JSON keeps the tags of its fields** exactly when every field is read, denotes a
local value, and is null or has a tag that its variant has by itself.

**Proof sketch.** The record is read as the local value of what its parts denote. These are made of
lists of one tag and of records, so that they can be encoded, and each becomes a part with the tag
of its variant. -/
theorem keepTags_iff (fields : List (Option JsonField)) :
    KeepTags fields ↔ ∀ f, some f ∈ fields → ∃ tv v, Tagged.ofJson f.json = .ok tv
      ∧ tv.toLocal = .ok v ∧ (tv.isNull = true ∨ f.tag.native = f.tag) := by
  rw [KeepTags, recordJson, Tagged.exists_record_iff]
  · constructor
    · intro h f hf
      obtain ⟨v, hv, htag⟩ := h _ hf
      obtain ⟨tv, htv, hv⟩ := readPart_json_eq_ok_iff.1 hv
      exact ⟨tv, v, htv, hv, (isTagOf_fieldForm_iff htv hv).1 htag⟩
    · rintro h (_ | f) hf
      · exact ⟨.null, rfl, .inl rfl⟩
      · obtain ⟨tv, v, htv, hv, htag⟩ := h f hf
        exact ⟨v, readPart_json_eq_ok_iff.2 ⟨tv, htv, hv⟩, (isTagOf_fieldForm_iff htv hv).2 htag⟩
  · rintro (_ | f) - v hv
    · obtain rfl := Except.ok.inj hv
      exact .null
    · obtain ⟨tv, htv, hv⟩ := readPart_json_eq_ok_iff.1 hv
      exact (settles htv hv).1

end JsonField

/-! ## Records from the wire -/

namespace WireMessage

variable {m : WireMessage} {tv : TypedValue}

/-- A decimal stands in a number and under no other tag. -/
lemma tag_of_decimal {d : Decimal} (h : m.toTyped = .ok tv) (hv : tv.value = .decimal d) :
    tv.tag = .number := by
  obtain ⟨wireTag, htags, hpayload⟩ := toTyped_eq_ok_iff.1 h
  obtain ⟨hw, ht, -⟩ := ofNumber?_of_tags htags
  rw [hv] at hpayload
  split_ifs at hpayload with hn
  by_cases hc : tv.tag = .array ∨ tv.tag = .struct
  · obtain ⟨_, hlist, -⟩ := (payload_eq_ok_iff hc).1 hpayload
    cases hlist
  rw [not_or] at hc
  rw [payload_scalar hc.1 hc.2] at hpayload
  rcases scalar_cases hw ht hpayload with ⟨-, _, hs, -⟩ | ⟨-, _, hs, -⟩ | ⟨-, hcheck, -⟩
  · cases hs
  · cases hs
  · obtain ⟨-, hshape⟩ := (SerialValue.check_eq_ok_iff.1 hcheck).resolve_left nofun
    generalize tv.tag = tag at hshape
    cases tag <;> first | rfl | cases hshape

/-- A scalar stands under no tag of an array, so that it has no tag of elements. -/
lemma component_of_isScalar (h : m.toTyped = .ok tv) (hs : tv.value.isScalar = true) :
    tv.component = none := by
  refine ((component_cases h).resolve_left fun ⟨ha, _⟩ => ?_).2
  obtain ⟨wireTag, -, hpayload⟩ := toTyped_eq_ok_iff.1 h
  split_ifs at hpayload with hn
  · rw [hpayload] at hs
    cases hs
  · obtain ⟨_, hlist, -⟩ := (payload_eq_ok_iff (.inl ha)).1 hpayload
    rw [hlist] at hs
    cases hs

/-- The JSON form of a scalar is read as a scalar that denotes something when the scalar does. -/
lemma exists_ofJson_toJson (h : m.toTyped = .ok tv) (hs : tv.value.isScalar = true)
    (hfin : tv.value.isFinite = true) :
    ∃ s, SerialValue.ofJson tv.value.toJson = .ok s ∧ s.isScalar = true
      ∧ ((∃ v, s.scalarLocal tv.tag = .ok v) ↔ ∃ v, tv.toLocal = .ok v) := by
  have hsame : (∃ v, tv.value.scalarLocal tv.tag = .ok v) ↔ ∃ v, tv.toLocal = .ok v := by
    rw [Tagged.toLocal, SerialValue.toLocal_of_isScalar hs]
  cases hv : tv.value with
  | null | list | typed =>
    rw [hv] at hs
    cases hs
  | decimal d =>
    obtain ⟨s, hjson, hscalar, hlocal⟩ := d.exists_ofJson_toJson
    rw [hv, tag_of_decimal h hv] at hsame
    rw [SerialValue.toLocal_of_isScalar hscalar] at hlocal
    rw [tag_of_decimal h hv]
    exact ⟨s, hjson, hscalar, iff_of_true ⟨_, hlocal⟩ (hsame.1 ⟨_, rfl⟩)⟩
  | float x =>
    rw [hv] at hfin hsame
    exact ⟨.float x, SerialValue.ofJson_finite hfin, rfl, hsame⟩
  | integer n =>
    rw [hv] at hsame
    exact ⟨.integer n, SerialValue.ofJson_integer n, rfl, hsame⟩
  | _ =>
    rw [hv] at hsame
    exact ⟨_, rfl, rfl, hsame⟩

/-- The object of a scalar in a record. -/
lemma toJson_typed (h : m.toTyped = .ok tv) (hs : tv.value.isScalar = true)
    (hfin : tv.value.isFinite = true) :
    ∃ f : JsonField, f.tag = tv.tag ∧ f.value = tv.value.toJson
      ∧ (SerialValue.typed tv).toJson = f.json := by
  have hn : tv.value.toJson.isNull = false := by
    obtain ⟨s, hjson, hscalar, -⟩ := exists_ofJson_toJson h hs hfin
    by_contra hn
    cases hj : tv.value.toJson <;> simp_all [JsonValue.isNull]
    obtain rfl := Except.ok.inj hjson
    cases hscalar
  refine ⟨⟨tv.tag, tv.value.toJson, hn⟩, rfl, rfl, ?_⟩
  rw [SerialValue.toJson, component_of_isScalar h hs, JsonField.json]

/-- The object of a scalar is read as a typed value that denotes a scalar when the scalar denotes
something. -/
lemma exists_ofJson_scalar_iff {f : JsonField} (h : m.toTyped = .ok tv)
    (hs : tv.value.isScalar = true) (hfin : tv.value.isFinite = true) (htag : f.tag = tv.tag)
    (hvalue : f.value = tv.value.toJson) :
    (∃ u v, Tagged.ofJson f.json = .ok u ∧ u.toLocal = .ok v ∧ v.isNull = false)
      ↔ ∃ v, tv.toLocal = .ok v := by
  obtain ⟨s, hjson, hscalar, hsame⟩ := exists_ofJson_toJson h hs hfin
  have hread : Tagged.ofJson f.json = s.scalarLocal tv.tag >>= Tagged.ofLocal tv.tag := by
    rw [JsonField.json, Tagged.ofJson_ofParts, hvalue, htag, hjson]
    change Tagged.throughLocal tv.tag none s = _
    rw [Tagged.throughLocal_none (SerialValue.isNull_of_isScalar hscalar),
      SerialValue.toLocal_of_isScalar hscalar]
  rw [← hsame]
  constructor
  · rintro ⟨u, v, hu, -⟩
    obtain ⟨w, hw, -⟩ := bind_eq_ok_iff.1 (hread ▸ hu)
    exact ⟨w, hw⟩
  · rintro ⟨w, hw⟩
    obtain ⟨hscalar, hvariant⟩ := SerialValue.variant_of_scalarLocal hw
    have hback := LocalValue.toLocal_scalarSerial_of_native id hscalar hvariant none
    rw [SerialValue.mapDecimals_id] at hback
    refine ⟨⟨tv.tag, w.scalarSerial, none⟩, w.reread id, ?_, hback, ?_⟩
    · rw [hread, hw]
      exact LocalValue.ofLocal_scalar hscalar (.inl hvariant)
    · cases w <;> first | rfl | cases hscalar

/-- A scalar keeps its tag when it denotes something and its variant has the tag by itself. -/
lemma sameTag_iff (h : m.toTyped = .ok tv) (hs : tv.value.isScalar = true)
    (hfin : tv.value.isFinite = true) :
    (∃ v, (SerialValue.typed tv).toJson.readPart = .ok v
        ∧ SerialValue.SameTag (.typed tv) (LocalValue.fieldForm v))
      ↔ tv.tag.native = tv.tag ∧ ∃ v, tv.toLocal = .ok v := by
  obtain ⟨f, htag, hvalue, hjson⟩ := toJson_typed h hs hfin
  rw [hjson, ← exists_ofJson_scalar_iff h hs hfin htag hvalue]
  constructor
  · rintro ⟨v, hv, ⟨hnull, -⟩ | ⟨t, t', ht, hform, heq⟩⟩
    · cases hnull
    obtain rfl := SerialValue.typed.inj ht
    obtain ⟨u, hu, hv⟩ := JsonField.readPart_json_eq_ok_iff.1 hv
    rw [LocalValue.fieldForm] at hform
    split_ifs at hform with hn
    obtain rfl := SerialValue.typed.inj hform
    refine ⟨?_, u, v, hu, hv, by simpa using hn⟩
    rw [← heq, LocalValue.tag_form, Tag.native_ofLocal]
  · rintro ⟨hnative, u, v, hu, hv, hn⟩
    obtain ⟨-, -, hvariant⟩ := JsonField.settles hu hv
    refine ⟨v, JsonField.readPart_json_eq_ok_iff.2 ⟨u, hu, hv⟩, .inr ⟨tv, v.form, rfl, ?_, ?_⟩⟩
    · rw [LocalValue.fieldForm, if_neg (by simp [hn])]
    · rw [LocalValue.tag_form, hvariant.resolve_left (by simp [hn]), htag, hnative]

/-- The parts of a record from the wire are null or typed values that were read of elements. -/
lemma exists_toTyped_of_mem {items : List SerialValue} {s : SerialValue}
    (h : Tagged.ofWire m = .ok ⟨.struct, .list items, none⟩) (hs : s ∈ items) :
    s = .null ∨ ∃ (e : WireMessage) (tv : TypedValue), s = .typed tv ∧ e.toTyped = .ok tv := by
  rw [Tagged.ofWire] at h
  split_ifs at h
  · cases Except.ok.inj h
  obtain ⟨wireTag, -, hpayload⟩ := toTyped_eq_ok_iff.1 h
  split_ifs at hpayload
  obtain ⟨tvs, hlist, hread⟩ := (payload_eq_ok_iff (.inr rfl)).1 hpayload
  rw [SerialValue.list.inj hlist] at hs
  obtain ⟨tv, htv, rfl⟩ := List.mem_map.1 hs
  obtain ⟨e, -, he⟩ := exists_of_mem_right hread htv
  rw [partOf, if_neg (by decide), fieldOf]
  split_ifs
  · exact .inl rfl
  · exact .inr ⟨e, tv, rfl, he⟩

end WireMessage

/-! ## Which records keep the tags of their fields -/

/-- **Which records keep the tags of their fields.** A record in JSON does exactly when every field
is read, denotes a local value, and is null or has a tag that its variant has by itself. A record
of finite scalars from the wire that is sent through JSON does exactly when every scalar denotes a
local value and has such a tag: dates, times, timestamps and primitive tags come back as the tags
of their variants.

**Proof sketch.** Both are read as the local value of what the parts denote, whose parts get the
tags of their variants when it is encoded. -/
theorem Tagged.fields_keep_tags_iff (fields : List (Option JsonField)) (m : WireMessage)
    (items : List SerialValue) :
    (JsonField.KeepTags fields
      ↔ ∀ f, some f ∈ fields → ∃ tv v, ofJson f.json = .ok tv ∧ tv.toLocal = .ok v
        ∧ (tv.isNull = true ∨ f.tag.native = f.tag))
    ∧ (ofWire m = .ok ⟨.struct, .list items, none⟩ →
      (∀ tv, .typed tv ∈ items → tv.value.isScalar = true ∧ tv.value.isFinite = true) →
      ((∃ items', ofJson (⟨.struct, .list items, none⟩ : TypedValue).toJson
            = .ok ⟨.struct, .list items', none⟩
          ∧ List.Forall₂ SerialValue.SameTag items items')
        ↔ ∀ tv, .typed tv ∈ items → tv.tag.native = tv.tag ∧ ∃ v, tv.toLocal = .ok v)) := by
  refine ⟨JsonField.keepTags_iff fields, fun hm hitems => ?_⟩
  rw [toJson, SerialValue.toJson, SerialValue.toJsonItems_eq_map, exists_record_iff]
  · constructor
    · intro h tv htv
      obtain ⟨e, tv', ht, he⟩ := (WireMessage.exists_toTyped_of_mem hm htv).resolve_left (by simp)
      obtain rfl := SerialValue.typed.inj ht
      obtain ⟨hscalar, hfin⟩ := hitems tv htv
      exact (WireMessage.sameTag_iff he hscalar hfin).1 (h _ htv)
    · intro h s hs
      rcases WireMessage.exists_toTyped_of_mem hm hs with rfl | ⟨e, tv, rfl, he⟩
      · exact ⟨.null, rfl, .inl ⟨rfl, rfl⟩⟩
      · obtain ⟨hscalar, hfin⟩ := hitems tv hs
        exact (WireMessage.sameTag_iff he hscalar hfin).2 (h tv hs)
  · intro s hs v hv
    rcases WireMessage.exists_toTyped_of_mem hm hs with rfl | ⟨e, tv, rfl, he⟩
    · obtain rfl := Except.ok.inj hv
      exact .null
    · obtain ⟨hscalar, hfin⟩ := hitems tv hs
      obtain ⟨f, -, -, hjson⟩ := WireMessage.toJson_typed he hscalar hfin
      rw [hjson] at hv
      obtain ⟨u, hu, hv⟩ := JsonField.readPart_json_eq_ok_iff.1 hv
      exact (JsonField.settles hu hv).1

/-- A record of an integer and of null keeps its tags, when it is read from JSON and when it is
read from the wire and sent through JSON. -/
theorem Tagged.fields_keep_tags_integer_and_null :
    JsonField.KeepTags [some ⟨.integer, .number (.integer 5), rfl⟩, none]
      ∧ ∃ items', ofJson
          (⟨.struct, .list [.typed ⟨.integer, .integer 5, none⟩, .null], none⟩ : TypedValue).toJson
          = .ok ⟨.struct, .list items', none⟩
        ∧ List.Forall₂ SerialValue.SameTag [.typed ⟨.integer, .integer 5, none⟩, .null] items' := by
  have hwire : ofWire { WireMessage.tagged .struct with
      elements := [{ WireMessage.tagged .integer with numberValue := some 5 }, .nullOf .null] }
      = .ok ⟨.struct, .list [.typed ⟨.integer, .integer 5, none⟩, .null], none⟩ := rfl
  have hitem (tv : TypedValue)
      (h : SerialValue.typed tv ∈ [.typed ⟨.integer, .integer 5, none⟩, .null]) :
      tv = ⟨.integer, .integer 5, none⟩ := by simpa using h
  obtain ⟨hjson, hsent⟩ := fields_keep_tags_iff [some ⟨.integer, .number (.integer 5), rfl⟩, none]
    { WireMessage.tagged .struct with
      elements := [{ WireMessage.tagged .integer with numberValue := some 5 }, .nullOf .null] }
    [.typed ⟨.integer, .integer 5, none⟩, .null]
  constructor
  · refine hjson.2 fun f hf => ?_
    obtain rfl : f = ⟨.integer, .number (.integer 5), rfl⟩ := by simpa using hf
    refine ⟨⟨.integer, .integer 5, none⟩, .int 5, ?_, rfl, .inr rfl⟩
    rw [JsonField.json, ofJson_ofParts]
    rfl
  · refine (hsent hwire fun tv h => ?_).2 fun tv h => ?_
    · rw [hitem tv h]
      exact ⟨rfl, rfl⟩
    · rw [hitem tv h]
      exact ⟨rfl, .int 5, rfl⟩

/-- A date is read as a date by itself, and as an integer when it is a field of a record. -/
theorem Tagged.field_of_date_loses_tag :
    let day : JsonField := ⟨.sqlDate, .number (.integer 5), rfl⟩
    ofJson day.json = .ok ⟨.sqlDate, .integer 5, none⟩
      ∧ ofJson (JsonField.recordJson [some day])
        = .ok ⟨.struct, .list [.typed ⟨.integer, .integer 5, none⟩], none⟩
      ∧ ¬ JsonField.KeepTags [some day] := by
  intro day
  have hday : ofJson day.json = .ok ⟨.sqlDate, .integer 5, none⟩ := by
    rw [JsonField.json, ofJson_ofParts]
    rfl
  have hpart : day.json.readPart = .ok (.int 5) :=
    JsonField.readPart_json_eq_ok_iff.2 ⟨_, hday, rfl⟩
  refine ⟨hday, ofJson_record_eq_ok_iff.2 ⟨[.int 5], .cons hpart .nil, rfl⟩, fun h => ?_⟩
  obtain ⟨tv, v, htv, -, hn | htag⟩ := (JsonField.keepTags_iff _).1 h day (by simp)
  · rw [← Except.ok.inj (hday.symm.trans htv)] at hn
    cases hn
  · cases htag

end TypedRows
