import TypedRows.Proofs.Value.Form

/-!
# Values under tags that share a variant

Every tag names one variant of local values, but the date, time and timestamp tags and the
primitive ones name a variant that another tag has by itself. The typed value of a value differs
between the tags of one variant in nothing but the tag, and it is read alike under all of them.

## Main definitions

* `TypedRows.Tag.native` — the tag that the variant of a tag has by itself.
* `TypedRows.Tag.Takes` — the values that a tag takes.
* `TypedRows.LocalValue.formUnder` — the typed value of a value under a tag.

## Main results

* `TypedRows.LocalValue.ofLocal_scalar` — encoding scalars under the tags that take them.
* `TypedRows.LocalValue.ofLocal_eq_formUnder` — encoding succeeds under a tag of the variant.
* `TypedRows.LocalValue.toLocal_formUnder` — reading gives the value back.
* `TypedRows.LocalValue.form_reread` — the form of a value with other decimals.
-/

set_option autoImplicit false

namespace TypedRows

/-- The tag that the values of a tag have by themselves. -/
def Tag.native (tag : Tag) : Tag :=
  match tag.boxed with
  | .sqlDate | .sqlTime | .instantTime => .integer
  | .sqlTimestamp | .utilDate | .instantTimestamp => .long
  | other => other

namespace LocalValue

/-- The typed value of a value made of lists and records, under another tag. -/
def formUnder (tag : Tag) (v : LocalValue) : TypedValue := { v.form with tag := tag }

end LocalValue

/-! ## Tags of one variant -/

/-- The tag that a value has by itself names the variant of the value. -/
@[simp] lemma Tag.native_ofLocal (v : LocalValue) : (ofLocal v).native = ofLocal v := by
  cases v <;> rfl

/-- Tags that are not integral name the variant of their boxed counterpart. -/
lemma Tag.native_eq_boxed {tag : Tag} (h : tag.isIntegral = false) : tag.native = tag.boxed := by
  cases tag <;> first | rfl | cases h

/-- A tag is integral when the tag of its variant is. -/
lemma Tag.isIntegral_native (tag : Tag) : tag.native.isIntegral = tag.isIntegral := by
  cases tag <;> rfl

/-- A scalar is read under its tag, whatever the tag of elements. -/
lemma SerialValue.toLocal_of_isScalar {tag : Tag} {component : Option Tag} {s : SerialValue}
    (h : s.isScalar = true) : s.toLocal tag component = s.scalarLocal tag := by
  cases s <;> first | rfl | cases h

/-- A primitive tag and its boxed counterpart mandate one shape. -/
lemma SerialValue.check_boxed (tag : Tag) (s : SerialValue) :
    s.check tag.boxed = .ok () ↔ s.check tag = .ok () := by
  cases tag <;> rfl

/-- The tags of values with parts share their variant with no other tag. -/
lemma Tag.eq_ofLocal_of_not_isScalar {tag : Tag} {v : LocalValue} (h : ¬ v.isScalar = true)
    (ht : ofLocal v = tag.native) : tag = ofLocal v := by
  cases v <;> first | exact absurd rfl h | (cases tag <;> first | rfl | cases ht)

/-- The integers of every integral tag have one shape. -/
lemma SerialValue.check_integer {tag : Tag} (h : tag.isIntegral = true) (n : Int64) :
    (integer n).check tag = .ok () := by
  cases tag <;> first | rfl | cases h

/-- A value that a tag takes, its own variant aside: any integer under an integral tag. -/
def Tag.Takes (tag : Tag) (v : LocalValue) : Prop :=
  ofLocal v = tag.native ∨ tag.isIntegral = true ∧ v.integer?.isSome = true

namespace LocalValue

variable {tag : Tag} {v : LocalValue}

/-! ## Encoding scalars -/

/-- The plain form of an integer is an integer. -/
lemma scalarSerial_of_integer (h : v.integer?.isSome = true) :
    ∃ n, v.scalarSerial = .integer n := by
  cases v <;> first | exact ⟨_, rfl⟩ | cases h

/-- The plain form of a scalar is a scalar. -/
lemma isScalar_scalarSerial (h : v.isScalar = true) : v.scalarSerial.isScalar = true := by
  cases v <;> first | rfl | cases h

/-- An integral tag takes integers only. -/
lemma isSome_integer?_of_takes (ht : tag.Takes v) (hi : tag.isIntegral = true) :
    v.integer?.isSome = true := by
  rcases ht with ht | ⟨-, hint⟩
  · have hown : (Tag.ofLocal v).isIntegral = true := by rw [ht, Tag.isIntegral_native, hi]
    cases v <;> first | rfl | cases hown
  · exact hint

/-- The plain form of what a tag takes has the shape of the tag. -/
lemma check_scalarSerial_of_takes (ht : tag.Takes v) : v.scalarSerial.check tag = .ok () := by
  by_cases hi : tag.isIntegral = true
  · obtain ⟨n, hn⟩ := scalarSerial_of_integer (isSome_integer?_of_takes ht hi)
    rw [hn]
    exact SerialValue.check_integer hi n
  · rw [Bool.not_eq_true] at hi
    have hown : Tag.ofLocal v = tag.native := ht.resolve_right (by simp [hi])
    rw [← SerialValue.check_boxed, ← Tag.native_eq_boxed hi, ← hown]
    exact check_scalarSerial v

/-- What a tag takes is encoded in its plain form. -/
lemma carried_scalar (h : v.isScalar = true) (ht : tag.Takes v) :
    v.carried tag (.of tag none) = .ok v.scalarSerial := by
  rcases ht with ht | ⟨hi, hint⟩
  · have hc : Carrier.of tag none = .of tag.native none := by cases tag <;> rfl
    rw [hc, ← ht]
    cases v <;> first | rfl | cases h
  · have hc : Carrier.of tag none = .plain := by cases tag <;> first | rfl | cases hi
    rw [hc]
    cases v <;> first | rfl | cases hint

/-- **Encoding a scalar succeeds** under every tag that takes it, and gives its plain form. -/
lemma ofLocal_scalar (h : v.isScalar = true) (ht : tag.Takes v) :
    Tagged.ofLocal tag v = .ok ⟨tag, v.scalarSerial, none⟩ := by
  have hc : v.elementTag? tag = none := by
    cases v <;> first | (cases tag <;> rfl) | cases h
  rw [Tagged.ofLocal, hc, toSerial, carried_scalar h ht, SerialValue.checked]
  simp only [bind, Except.bind, check_scalarSerial_of_takes ht]
  rfl

/-! ## Reading under the tags of one variant -/

/-- An integer is read of what can be taken for one. -/
lemma integral_eq_ok_iff {s : SerialValue} {n : Int} :
    s.integral tag = .ok n ↔ ∃ k, s.integer? = some k ∧ k.toInt = n := by
  rw [SerialValue.integral]
  cases s.integer? <;> simp

/-- A float is read of what can be taken for one. -/
lemma floating_eq_ok_iff {s : SerialValue} {x : Binary64} :
    s.floating tag = .ok x ↔ s.float? = some x := by
  rw [SerialValue.floating]
  cases s.float? <;> simp

/-- Scalars are read alike under all tags of a variant; only their errors differ. -/
lemma scalarLocal_native_iff {s : SerialValue} {w : LocalValue} :
    s.scalarLocal tag.native = .ok w ↔ s.scalarLocal tag = .ok w := by
  cases tag with
  | primitiveBoolean => cases s <;> simp [SerialValue.scalarLocal, Tag.native, Tag.boxed]
  | primitiveChar =>
    cases s with
    | string t =>
      simp only [SerialValue.scalarLocal, Tag.native, Tag.boxed]
      cases SerialValue.singleCharacter? t <;> simp
    | _ => simp [SerialValue.scalarLocal, Tag.native, Tag.boxed]
  | _ =>
    simp only [SerialValue.scalarLocal, Tag.native, Tag.boxed, bind_eq_ok_iff, integral_eq_ok_iff,
      floating_eq_ok_iff]

/-- A scalar is read from its plain form under every tag of its variant. -/
lemma toLocal_scalarSerial_of_native (f : Decimal → Decimal) (h : v.isScalar = true)
    (ht : Tag.ofLocal v = tag.native) (component : Option Tag) :
    (v.scalarSerial.mapDecimals f).toLocal tag component = .ok (v.reread f) := by
  have hs : (v.scalarSerial.mapDecimals f).isScalar = true := by
    cases v <;> first | rfl | cases h
  have hown := toLocal_scalarSerial f h
  rw [SerialValue.toLocal_of_isScalar hs, ht, scalarLocal_native_iff] at hown
  rw [SerialValue.toLocal_of_isScalar hs, hown]

/-- Every tag of the variant of a scalar reads the plain form of the scalar. -/
lemma toLocal_scalarSerial_id (h : v.isScalar = true) (ht : Tag.ofLocal v = tag.native)
    (component : Option Tag) : v.scalarSerial.toLocal tag component = .ok (v.reread id) := by
  rw [← toLocal_scalarSerial_of_native id h ht component, SerialValue.mapDecimals_id]

/-! ## Values made of lists and records -/

/-- **Encoding succeeds** under every tag that names the variant of a value. -/
theorem ofLocal_eq_formUnder (hv : v.Uniform) (ht : Tag.ofLocal v = tag.native) :
    Tagged.ofLocal tag v = .ok (v.formUnder tag) := by
  by_cases h : v.isScalar = true
  · rw [formUnder, form_scalar h]
    exact ofLocal_scalar h (.inl ht)
  · obtain rfl := Tag.eq_ofLocal_of_not_isScalar h ht
    rw [ofLocal_eq_form hv, formUnder, ← tag_form v]

/-- **Reading gives the value back** under every tag that names its variant, with its decimals
replaced as they were in its form. -/
theorem toLocal_formUnder (f : Decimal → Decimal) (hv : v.Uniform)
    (ht : Tag.ofLocal v = tag.native) :
    ((v.formUnder tag).mapDecimals f).toLocal = .ok (v.reread f) := by
  by_cases h : v.isScalar = true
  · rw [formUnder, form_scalar h]
    exact toLocal_scalarSerial_of_native f h ht none
  · obtain rfl := Tag.eq_ofLocal_of_not_isScalar h ht
    rw [← toLocal_form f hv, formUnder, ← tag_form v]

/-! ## Values that were reread -/

/-- A value is null when it is so after it was reread. -/
@[simp] lemma isNull_reread (f : Decimal → Decimal) (v : LocalValue) :
    (v.reread f).isNull = v.isNull := by
  cases v <;> rfl

/-- A value has the same tag after it was reread. -/
@[simp] lemma ofLocal_reread (f : Decimal → Decimal) (v : LocalValue) :
    Tag.ofLocal (v.reread f) = Tag.ofLocal v := by
  cases v <;> rfl

/-- A value is a scalar when it is so after it was reread. -/
lemma isScalar_reread (f : Decimal → Decimal) (v : LocalValue) :
    (v.reread f).isScalar = v.isScalar := by
  cases v <;> rfl

/-- A list has the same tag of elements after it was reread. -/
lemma ofElements_reread (f : Decimal → Decimal) (items : List LocalValue) :
    Tag.ofElements (items.map (reread f)) = .ofElements items := by
  have hfun : (fun v : LocalValue => !v.isNull) ∘ reread f = fun v => !v.isNull :=
    funext fun v => by simp
  rw [Tag.ofElements, Tag.ofElements, List.find?_map, hfun]
  cases items.find? (!·.isNull) <;> simp

/-- A value that was reread is made of lists and records as it was before. -/
lemma Uniform.reread (f : Decimal → Decimal) (hv : v.Uniform) : (v.reread f).Uniform := by
  induction hv with
  | null => exact .null
  | scalar h => exact .scalar (by rw [isScalar_reread, h])
  | list tag htag _ ih =>
    rw [reread_list]
    refine .list tag ?_ ?_
    · simpa using htag
    · simpa using ih
  | struct _ ih =>
    rw [reread_struct_ofValues]
    exact .struct (by simpa using ih)

/-- The form of a value that was reread has other decimals and nothing else. -/
lemma form_reread (f : Decimal → Decimal) (hv : v.Uniform) :
    (v.reread f).form = v.form.mapDecimals f := by
  induction hv with
  | null => rfl
  | @scalar v h =>
    rw [form_scalar h, form_scalar (by rw [isScalar_reread, h])]
    cases v with
    | float x => simp [LocalValue.reread, scalarSerial, Tagged.mapDecimals, Tag.ofLocal,
        SerialValue.mapDecimals]
    | _ => rfl
  | @list items tag htag _ ih =>
    have helement : ∀ v ∈ items, elementForm (v.reread f) = (elementForm v).mapDecimals f := by
      intro v hv
      rw [elementForm, elementForm, isNull_reread, ih v hv]
      split
      · rfl
      · rw [Tagged.mapDecimals_asElement]
    rw [reread_list, form_list, form_list, Tagged.mapDecimals, SerialValue.mapDecimals_list,
      List.map_map, List.map_map, ofElements_reread]
    congr 2
    exact List.map_congr_left helement
  | @struct values _ ih =>
    have hfield : ∀ v ∈ values, fieldForm (v.reread f) = (fieldForm v).mapDecimals f := by
      intro v hv
      rw [fieldForm, fieldForm, isNull_reread, ih v hv]
      split
      · rfl
      · rw [SerialValue.mapDecimals_typed]
    rw [reread_struct_ofValues, form_struct, form_struct, Tagged.mapDecimals,
      SerialValue.mapDecimals_list, List.map_map, List.map_map]
    congr 2
    exact List.map_congr_left hfield

end LocalValue

end TypedRows
