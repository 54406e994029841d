import TypedRows.Proofs.Json.Decimal
import TypedRows.Proofs.Value.Native

/-!
# Typed values through JSON

A typed value is read from JSON by way of its local form, and the tags inside of it are deduced
anew. When the value is made of finite scalars, of lists of one tag and of records without names,
the tags that are deduced are those that were written, and the value comes back with nothing but
other scales of its decimals.

## Main definitions

* `TypedRows.LocalValue.Fits` — the finite values that a tag stands for.

## Main results

* `TypedRows.LocalValue.Fits.readsBack` — what is read of the JSON form of a value.
* `TypedRows.Tagged.fitting_values_survive_json` — a value that fits a tag comes back from JSON.
-/

set_option autoImplicit false

namespace TypedRows

namespace LocalValue

/-- Whether a value is no NaN and not infinite; values that are not floats are finite. -/
def isFinite : LocalValue → Bool
  | float x => x.value.isFinite
  | double x => x.value.isFinite
  | _ => true

/-- **The values that fit a tag**: finite scalars of the variant that the tag names, lists whose
elements are null or fit the one tag that they have by themselves, and records without names whose
fields are null or fit the tag that they have by themselves. -/
inductive Fits : Tag → LocalValue → Prop
  | scalar {tag : Tag} {v : LocalValue} (h : v.isScalar = true)
    (htag : Tag.ofLocal v = tag.native) (hfin : v.isFinite = true) : Fits tag v
  | list {items : List LocalValue} (tag : Tag)
    (htag : ∀ v ∈ items, v.isNull = false → Tag.ofLocal v = tag)
    (h : ∀ v ∈ items, v.isNull = false → Fits tag v) : Fits .array (.list items)
  | struct {values : List LocalValue}
    (h : ∀ v ∈ values, v.isNull = false → Fits (.ofLocal v) v) :
    Fits .struct (.struct (.ofValues values))

namespace Fits

variable {tag : Tag} {v : LocalValue}

/-- What fits a tag is not null. -/
lemma isNull (h : Fits tag v) : v.isNull = false := by
  cases h with
  | scalar h => cases v <;> first | rfl | cases h
  | _ => rfl

/-- A value that fits a tag is of the variant that the tag names. -/
lemma variant (h : Fits tag v) : Tag.ofLocal v = tag.native := by
  cases h with
  | scalar _ htag => exact htag
  | _ => rfl

/-- What fits a tag is made of lists of one tag and of records. -/
lemma uniform (h : Fits tag v) : v.Uniform := by
  induction h with
  | scalar h => exact .scalar h
  | list tag htag _ ih =>
    refine .list tag ?_ fun v hv => .of_not_null (ih v hv)
    intro v hv
    by_cases hn : v.isNull = true
    · exact .inl hn
    · exact .inr (htag v hv (by simpa using hn))
  | struct _ ih => exact .struct fun v hv => .of_not_null (ih v hv)

/-- Finite values hold no NaN, so none that signals. -/
lemma not_holds_signalling (h : Fits tag v) : ¬ v.Holds IsSignalling := by
  have hnull {w : LocalValue} (ih : w.isNull = false → ¬ w.Holds IsSignalling) :
      ¬ w.Holds IsSignalling := by
    by_cases hn : w.isNull = true
    · rw [isNull_iff.1 hn, holds_null_iff]
      exact id
    · exact ih (by simpa using hn)
  induction h with
  | @scalar _ v h _ hfin =>
    rw [holds_scalar_iff h]
    cases v with
    | float x =>
      rintro ⟨hnan, -⟩
      simp [LocalValue.isFinite, hnan, FloatValue.isFinite] at hfin
    | _ => exact id
  | list tag htag _ ih =>
    rw [holds_list_iff]
    rintro (h | ⟨w, hw, h⟩)
    · exact h
    · exact hnull (ih w hw) h
  | struct _ ih =>
    rw [holds_struct_iff]
    rintro (h | ⟨w, hw, h⟩)
    · exact h
    · exact hnull (ih w hw) h

end Fits

end LocalValue

/-! ## Scalars -/

/-- A float of 32 bits that is finite is widened to a finite one. -/
lemma Binary64.isFinite_ofBinary32 {x : Binary32} (h : x.value.isFinite = true) :
    (ofBinary32 x).value.isFinite = true := by
  cases hx : x.value with
  | finite negative m q =>
    obtain ⟨s, e, hv, -, -⟩ := Binary32.value_ofBinary32 hx
    rw [hv]
    rfl
  | _ => simp [hx, FloatValue.isFinite] at h

/-- What is read of the JSON form of a finite float. -/
lemma SerialValue.ofJson_finite {x : Binary64} (h : x.value.isFinite = true) :
    ofJson x.toJson = .ok (.float x) := by
  rw [Binary64.toJson, if_pos h]
  rfl

namespace LocalValue

variable {tag : Tag} {v : LocalValue}

/-- The JSON form of a finite scalar is read, and read under a tag of its variant as the scalar. -/
lemma exists_read_scalar (h : v.isScalar = true) (ht : Tag.ofLocal v = tag.native)
    (hfin : v.isFinite = true) :
    ∃ s, SerialValue.ofJson v.scalarSerial.toJson = .ok s ∧ s.isNull = false
      ∧ s.toLocal tag none = .ok (v.reread Decimal.viaJson) := by
  have hback := toLocal_scalarSerial_of_native Decimal.viaJson h ht none
  cases v with
  | decimal d =>
    obtain rfl : tag = .number := by cases tag <;> first | rfl | cases ht
    obtain ⟨s, hjson, hs, hlocal⟩ := d.exists_ofJson_toJson
    exact ⟨s, hjson, SerialValue.isNull_of_isScalar hs, hlocal⟩
  | float x => exact ⟨_, SerialValue.ofJson_finite (Binary64.isFinite_ofBinary32 hfin), rfl, hback⟩
  | double x => exact ⟨_, SerialValue.ofJson_finite hfin, rfl, hback⟩
  | byte | short | int | long => exact ⟨_, SerialValue.ofJson_integer _, rfl, hback⟩
  | bool | char | string | bytes => exact ⟨_, rfl, rfl, hback⟩
  | _ => cases h

/-! ## Lists and records -/

/-- A value is read from its JSON form: a serial value is, and from this the value. -/
def ReadsBack (tag : Tag) (v : LocalValue) : Prop :=
  ∃ s, SerialValue.ofJson v.form.value.toJson = .ok s ∧ s.isNull = false
    ∧ s.toLocal tag v.form.component = .ok (v.reread Decimal.viaJson)

/-- The elements of a list have the tag that the object of the list gives them. -/
lemma eq_ofElements_of_component {c : Tag} {elements : List LocalValue}
    (hc : v.form.component = some c) (hv : v.reread Decimal.viaJson = list elements) :
    c = .ofElements elements := by
  cases v with
  | list items =>
    rw [form_list] at hc
    rw [reread_list] at hv
    rw [← LocalValue.list.inj hv, ofElements_reread, ← Option.some.inj hc]
  | _ => simp [reread] at hv

/-- The object of a typed value is read as the typed value with other decimals. -/
lemma ofJson_toJson_formUnder (hv : v.Uniform) (ht : Tag.ofLocal v = tag.native)
    (h : ReadsBack tag v) :
    Tagged.ofJson (v.formUnder tag).toJson
      = .ok ((v.formUnder tag).mapDecimals Decimal.viaJson) := by
  obtain ⟨s, hs, hn, hback⟩ := h
  have hthrough : Tagged.throughLocal tag v.form.component s
      = Tagged.ofLocal tag (v.reread Decimal.viaJson) :=
    Tagged.throughLocal_of_toLocal hn hback fun _ _ _ hc hw => eq_ofElements_of_component hc hw
  rw [Tagged.toJson, Tagged.ofJson_ofParts, formUnder, hs]
  calc Tagged.throughLocal tag v.form.component s
      = Tagged.ofLocal tag (v.reread Decimal.viaJson) := hthrough
    _ = .ok ((v.reread Decimal.viaJson).formUnder tag) :=
      ofLocal_eq_formUnder (hv.reread _) (by rw [ofLocal_reread, ht])
    _ = .ok (Tagged.mapDecimals Decimal.viaJson { v.form with tag := tag }) := by
      rw [formUnder, form_reread _ hv]
      rfl

/-- The object of a typed value within another value is read as a local value again. -/
lemma exists_read_typed (hv : v.Uniform) (h : ReadsBack (.ofLocal v) v) :
    ∃ s, SerialValue.ofJson (SerialValue.typed v.form).toJson = .ok s
      ∧ (∀ t, s.toLocal t none = .ok (v.reread Decimal.viaJson))
      ∧ s.toPlainLocal = .ok (v.reread Decimal.viaJson) := by
  have hform : v.formUnder (.ofLocal v) = v.form := by rw [formUnder, ← tag_form v]
  have hjson := ofJson_toJson_formUnder hv (Tag.native_ofLocal v).symm h
  have hlocal := toLocal_form Decimal.viaJson hv
  rw [hform] at hjson
  refine ⟨.typed (v.form.mapDecimals Decimal.viaJson), ?_, fun t => hlocal, hlocal⟩
  rw [SerialValue.toJson, SerialValue.ofJson_ofParts]
  exact congrArg (SerialValue.typed <$> ·) hjson

/-- An element of a list of one tag is read as an element. -/
lemma exists_read_element {items : List LocalValue}
    (htag : ∀ w ∈ items, w.isNull = true ∨ Tag.ofLocal w = tag) (hmem : v ∈ items)
    (hv : v.Uniform) (h : v.isNull = false → ReadsBack (.ofLocal v) v) :
    ∃ s, SerialValue.ofJson (elementForm v).toJson = .ok s
      ∧ readElement (some (.ofElements items)) s = .ok (v.reread Decimal.viaJson) := by
  by_cases hn : v.isNull = true
  · rw [isNull_iff.1 hn]
    exact ⟨.null, rfl, readElement_null _⟩
  rw [Bool.not_eq_true] at hn
  simp only [readElement, ofElements_eq htag hmem hn, holdsNothing_ofLocal hn, Bool.false_eq_true,
    ↓reduceIte, elementForm, hn, Tagged.asElement, tag_form]
  by_cases ha : Tag.ofLocal v = .array
  · obtain ⟨s, hs, hlocal, -⟩ := exists_read_typed hv (h hn)
    exact ⟨s, by rw [if_pos ha, hs], hlocal _⟩
  · obtain ⟨s, hs, -, hlocal⟩ := h hn
    rw [component_form ha] at hlocal
    exact ⟨s, by rw [if_neg ha, hs], hlocal⟩

/-- A field of a record is read as a field. -/
lemma exists_read_field (hv : v.Uniform) (h : v.isNull = false → ReadsBack (.ofLocal v) v) :
    ∃ s, SerialValue.ofJson (fieldForm v).toJson = .ok s
      ∧ s.toPlainLocal = .ok (v.reread Decimal.viaJson) := by
  by_cases hn : v.isNull = true
  · rw [isNull_iff.1 hn]
    exact ⟨.null, rfl, rfl⟩
  · obtain ⟨s, hs, -, hplain⟩ := exists_read_typed hv (h (by simpa using hn))
    rw [fieldForm, if_neg hn]
    exact ⟨s, hs, hplain⟩

/-- Items are read from their JSON forms one by one. -/
lemma ofJson_list {items : List LocalValue} {form : LocalValue → SerialValue}
    {read : LocalValue → SerialValue}
    (h : ∀ w ∈ items, SerialValue.ofJson (form w).toJson = .ok (read w)) :
    SerialValue.ofJson (SerialValue.list (items.map form)).toJson
      = .ok (.list (items.map read)) := by
  have hwalk : ((items.map form).map SerialValue.toJson).mapM SerialValue.ofJson
      = .ok (items.map read) := by
    rw [List.map_map]
    exact mapM_map_eq_ok_map h
  rw [SerialValue.toJson, SerialValue.toJsonItems_eq_map, SerialValue.ofJson,
    SerialValue.ofJsonItems_eq_mapM, hwalk]
  rfl

/-- **A value that fits a tag is read from its JSON form.**

**Proof sketch.** By induction on how the value is made. Scalars are read one by one. An element
of a list is read under the tag of all elements, which is its own, and a field of a record, like a
list within a list, is a typed value that is read and encoded again. -/
theorem Fits.readsBack (h : Fits tag v) : ReadsBack tag v := by
  induction h with
  | scalar h htag hfin =>
    rw [ReadsBack, form_scalar h]
    exact exists_read_scalar h htag hfin
  | @list items tag htag h ih =>
    obtain ⟨c, hc, huniform⟩ := Uniform.of_list (Fits.list tag htag h).uniform
    have hread : ∀ w ∈ items, ∃ s, SerialValue.ofJson (elementForm w).toJson = .ok s
        ∧ readElement (some (.ofElements items)) s = .ok (w.reread Decimal.viaJson) := by
      intro w hw
      refine exists_read_element hc hw (huniform w hw) fun hn => ?_
      rw [htag w hw hn]
      exact ih w hw hn
    choose! read hjson hlocal using hread
    refine ⟨.list (items.map read), ?_, rfl, ?_⟩
    · rw [form_list]
      exact ofJson_list hjson
    · rw [form_list, SerialValue.toLocal_list_array, mapM_map_eq_ok_map hlocal, reread_list]
      rfl
  | @struct values h ih =>
    have huniform := Uniform.of_struct (Fits.struct h).uniform
    have hread : ∀ w ∈ values, ∃ s, SerialValue.ofJson (fieldForm w).toJson = .ok s
        ∧ s.toPlainLocal = .ok (w.reread Decimal.viaJson) := by
      intro w hw
      exact exists_read_field (huniform w hw) (ih w hw)
    choose! read hjson hlocal using hread
    refine ⟨.list (values.map read), ?_, rfl, ?_⟩
    · rw [form_struct]
      exact ofJson_list hjson
    · rw [form_struct, SerialValue.toLocal_list_struct, mapM_map_eq_ok_map hlocal,
        reread_struct_ofValues]
      rfl

end LocalValue

/-! ## The round trip -/

/-- **Values survive JSON.** A value that fits a tag has a typed value, whose JSON form is read as
an equal typed value of the same tag with the same tag for its elements, and this denotes the
value: floats are the same bit for bit, and decimals the same numbers.

**Proof sketch.** The typed value is the form of the value under the tag. Its JSON form is read as
the value with other decimals, and encoding that gives the form with other decimals. -/
theorem Tagged.fitting_values_survive_json {tag : Tag} {v : LocalValue} (h : v.Fits tag) :
    ∃ tv, ofLocal tag v = .ok tv
      ∧ ∃ tv' v', ofJson tv.toJson = .ok tv' ∧ tv'.tag = tag ∧ tv'.alike .bits tv = true
        ∧ tv'.component = tv.component ∧ tv'.toLocal = .ok v' ∧ v'.alike .bits v = true :=
  ⟨v.formUnder tag, LocalValue.ofLocal_eq_formUnder h.uniform h.variant,
    (v.formUnder tag).mapDecimals Decimal.viaJson, v.reread Decimal.viaJson,
    LocalValue.ofJson_toJson_formUnder h.uniform h.variant h.readsBack, rfl,
    alike_mapDecimals .bits Decimal.sameNumber_viaJson _, rfl,
    LocalValue.toLocal_formUnder Decimal.viaJson h.uniform h.variant,
    (LocalValue.alike_reread_iff .bits Decimal.sameNumber_viaJson h.uniform).2
      fun _ => h.not_holds_signalling⟩

/-- A date, and a list of records with a decimal, a null and lists of lists of floats. -/
theorem Tagged.fitting_values_survive_json_date_and_records :
    (∃ tv, ofLocal .sqlDate (.int 5) = .ok tv
      ∧ ∃ tv' v', ofJson tv.toJson = .ok tv' ∧ tv'.tag = .sqlDate ∧ tv'.alike .bits tv = true
        ∧ tv'.component = tv.component ∧ tv'.toLocal = .ok v' ∧ v'.alike .bits (.int 5) = true)
    ∧ ∃ tv, ofLocal .array (.list [.struct (.ofValues [.decimal ⟨1050, 2⟩, .null,
          .list [.list [], .null, .list [.float ⟨0x3dcccccd⟩]]])]) = .ok tv
      ∧ ∃ tv' v', ofJson tv.toJson = .ok tv' ∧ tv'.tag = .array ∧ tv'.alike .bits tv = true
        ∧ tv'.component = tv.component ∧ tv'.toLocal = .ok v'
        ∧ v'.alike .bits (.list [.struct (.ofValues [.decimal ⟨1050, 2⟩, .null,
          .list [.list [], .null, .list [.float ⟨0x3dcccccd⟩]]])]) = true := by
  refine ⟨fitting_values_survive_json (.scalar rfl rfl rfl),
    fitting_values_survive_json (.list .struct (by simp [Tag.ofLocal]) ?_)⟩
  simp only [List.mem_singleton, forall_eq]
  refine fun _ => .struct ?_
  simp only [List.mem_cons, List.not_mem_nil, or_false, forall_eq_or_imp, forall_eq]
  refine ⟨fun _ => .scalar rfl rfl rfl, by simp [LocalValue.isNull],
    fun _ => .list .array ?_ ?_⟩
  · simp [Tag.ofLocal, LocalValue.isNull]
  · simp only [List.mem_cons, List.not_mem_nil, or_false, forall_eq_or_imp, forall_eq]
    refine ⟨fun _ => .list .object (by simp) (by simp), by simp [LocalValue.isNull],
      fun _ => .list .float ?_ ?_⟩
    · simp [Tag.ofLocal]
    · simpa [LocalValue.isNull] using .scalar rfl rfl (by decide +kernel)

end TypedRows
