import TypedRows.Proofs.Value.Settled

/-!
# What arrays keep of their elements

The elements of an array are written and read under one tag. Under a tag that names a variant only
values of that variant come back, and lists within them have to be of one tag. The tag of objects
names none: elements are written without a tag there and read as long integers, doubles, decimals,
truth values, texts and lists of these.

## Main definitions

* `TypedRows.LocalValue.IsNarrow` — the scalars whose variant is not known without a tag.
* `TypedRows.LocalValue.Tagless` — the values that are known without a tag.
* `TypedRows.LocalValue.KeptUnder` — the elements that an array of a tag keeps.

## Main results

* `TypedRows.LocalValue.Unnamed.carried_plain_iff` — what comes back that was written without a tag.
* `TypedRows.LocalValue.keptUnder_iff` — an element comes back exactly when its array keeps it.
* `TypedRows.Tagged.ofElements_toLocal_iff` — so does an array, exactly when it keeps all of them.
-/

set_option autoImplicit false

namespace TypedRows

namespace LocalValue

/-- The scalars whose variant is not known without a tag. -/
def IsNarrow : LocalValue → Prop
  | byte _ | short _ | int _ | float _ | char _ | bytes _ => True
  | _ => False

/-- The values that are known without a tag. -/
inductive Tagless : LocalValue → Prop
  | null : Tagless .null
  | scalar {v : LocalValue} (h : v.isScalar = true) (hn : ¬ v.IsNarrow) : Tagless v
  | list {items : List LocalValue} (h : ∀ v ∈ items, Tagless v) : Tagless (.list items)

/-- The elements that an array of a tag keeps: nulls and, under a tag that names a variant, what is
of the variant and made of lists of one tag and of records; without one, what is known without. -/
def KeptUnder (tag : Tag) (v : LocalValue) : Prop :=
  v.isNull = true
    ∨ if tag.holdsNothing then v.Tagless else v.Uniform ∧ Tag.ofLocal v = tag.native

variable {tag : Tag} {v w : LocalValue} {items : List LocalValue}

/-! ## Without a tag -/

/-- What is known without a tag has no names. -/
lemma Tagless.unnamed (h : v.Tagless) : v.Unnamed := by
  induction h with
  | null => exact .null
  | scalar h => exact .scalar h
  | list _ ih => exact .list ih

/-- A value has no names when it has none after it was reread. -/
lemma Unnamed.of_reread {f : Decimal → Decimal} (h : (v.reread f).Unnamed) : v.Unnamed := by
  generalize hw : v.reread f = w at h
  induction h generalizing v with
  | null => cases v <;> first | exact .null | cases hw
  | scalar hs => exact .scalar (by rw [← isScalar_reread f, hw, hs])
  | @list ws _ ih =>
    cases v with
    | list items =>
      obtain rfl : items.map (reread f) = ws := by simpa using hw
      exact .list fun v hv => ih _ (List.mem_map_of_mem hv) rfl
    | _ => cases hw
  | @struct ws _ ih =>
    cases v with
    | struct s =>
      obtain ⟨names, values⟩ := s
      rw [reread, rereadItems_eq_map, struct.injEq] at hw
      obtain ⟨rfl, rfl⟩ := StructOf.mk.inj hw
      exact .struct fun v hv => ih _ (List.mem_map_of_mem hv) rfl
    | _ => cases hw

/-- A scalar is known without a tag unless it is narrow. -/
lemma tagless_scalar_iff (hv : v.isScalar = true) : v.Tagless ↔ ¬ v.IsNarrow := by
  refine ⟨fun h => ?_, .scalar hv⟩
  cases h with
  | scalar _ hn => exact hn
  | null | list => cases hv

/-- A list is known without a tag when its items are. -/
lemma tagless_list_iff : (list items).Tagless ↔ ∀ v ∈ items, v.Tagless := by
  refine ⟨fun h => ?_, .list⟩
  cases h with
  | scalar hs => cases hs
  | list h => exact h

/-- A record is not known without a tag. -/
lemma not_tagless_struct (s : StructValue) : ¬ (struct s).Tagless := by
  intro h
  cases h with
  | scalar hs => cases hs

/-- A list is written and read without a tag item by item. -/
lemma toPlainLocal_carried_list (tag : Tag) (items : List LocalValue) :
    ((list items).carried tag .plain >>= SerialValue.toPlainLocal)
      = list <$> (items.mapM (carried .object .plain)
        >>= fun ss => ss.mapM SerialValue.toPlainLocal) := by
  rw [carried, carriedItems_eq_mapM]
  cases items.mapM (carried .object .plain) with
  | error e => rfl
  | ok ss =>
    change (SerialValue.list ss).toPlainLocal = list <$> ss.mapM SerialValue.toPlainLocal
    rw [SerialValue.toPlainLocal, toPlainItems_eq_mapM]
    cases ss.mapM SerialValue.toPlainLocal <;> rfl

/-- **What is written without a tag** comes back when it is known without one, and only then. -/
lemma Unnamed.carried_plain_iff (hv : v.Unnamed) (tag : Tag) :
    (v.carried tag .plain >>= SerialValue.toPlainLocal) = .ok (v.reread id) ↔ v.Tagless := by
  -- the items of a list are written under the tag of objects, so that the tag varies
  induction hv generalizing tag with
  | null => exact iff_of_true rfl .null
  | @scalar v hs =>
    rw [tagless_scalar_iff hs]
    cases v with
    | null | list | record | struct | array => cases hs
    | _ => simp [carried, scalarSerial, SerialValue.toPlainLocal, reread, IsNarrow, bind,
        Except.bind]
  | @list items _ ih =>
    rw [tagless_list_iff, toPlainLocal_carried_list, map_eq_ok_iff, reread_list]
    simp only [LocalValue.list.injEq, exists_eq_right, mapM_bind_mapM_eq_ok_iff,
      List.forall₂_map_right_iff, List.forall₂_same]
    exact forall₂_congr fun v hv => ih v hv _
  | @struct values _ ih =>
    -- a record is written as the list of its fields and read as one
    refine iff_of_false (fun h => ?_) (not_tagless_struct _)
    obtain ⟨s, hs, h⟩ := bind_eq_ok_iff.1 h
    obtain ⟨ss, rfl⟩ := exists_list_of_carried rfl rfl hs
    rw [SerialValue.toPlainLocal] at h
    obtain ⟨vs, -, h⟩ := bind_eq_ok_iff.1 h
    cases h

/-! ## Elements -/

/-- What is of the variant of a tag that names one. -/
lemma holdsNothing_of_native (hn : v.isNull = false) (ht : Tag.ofLocal v = tag.native) :
    tag.holdsNothing = false := by
  have hown := holdsNothing_ofLocal hn
  rw [ht] at hown
  cases tag <;> first | rfl | cases hown

/-- An element that is read is one without names. -/
lemma unnamed_of_readElement {s : SerialValue} (h : readElement (some tag) s = .ok w) :
    w.Unnamed := by
  rw [readElement] at h
  split_ifs at h
  · exact (SerialValue.unnamed_of_toLocal s).2 h
  · exact (SerialValue.unnamed_of_toLocal s).1 h

/-- An element that comes back has no names. -/
lemma unnamed_of_comes_back
    (h : (encodeElement (some tag) v >>= readElement (some tag)) = .ok (v.reread id)) :
    v.Unnamed := by
  obtain ⟨s, -, hs⟩ := bind_eq_ok_iff.1 h
  exact (unnamed_of_readElement hs).of_reread

/-- Under a tag that names no variant an element is written and read without a tag. -/
lemma encodeElement_bind_readElement (h : tag.holdsNothing = true) :
    (encodeElement (some tag) v >>= readElement (some tag))
      = v.carried tag .plain >>= SerialValue.toPlainLocal := by
  have hread : readElement (some tag) = SerialValue.toPlainLocal := by
    funext s
    rw [readElement, if_pos h]
  rw [hread, encodeElement, Option.getD_some, if_pos h]

/-- What is of the variant of the tag of an array comes back from it. -/
lemma Uniform.comes_back (hv : v.Uniform) (ht : Tag.ofLocal v = tag.native)
    (hn : v.isNull = false) :
    (encodeElement (some tag) v >>= readElement (some tag)) = .ok (v.reread id) := by
  have hnothing := holdsNothing_of_native hn ht
  have hback := toLocal_formUnder id hv ht
  rw [Tagged.mapDecimals_id] at hback
  rw [encodeElement_eq hn hnothing, ofLocal_eq_formUnder hv ht, ← hback]
  refine readElement_asElement rfl hnothing fun ha => component_form fun hown => ha ?_
  rw [hown] at ht
  cases tag <;> first | rfl | cases ht

/-- **An element comes back exactly when its array keeps it.**

**Proof sketch.** What is read of an element has no names, so neither has one that comes back. Under
a tag that names a variant it is read as its typed value, which settles on values of the variant
that are made of lists of one tag and of records. Under another one it is written and read without
a tag. -/
theorem keptUnder_iff : (encodeElement (some tag) v >>= readElement (some tag))
    = .ok (v.reread id) ↔ v.KeptUnder tag := by
  by_cases hn : v.isNull = true
  · rw [isNull_iff.1 hn]
    have hback : (encodeElement (some tag) null >>= readElement (some tag)) = .ok null := by
      rw [encodeElement_null]
      exact readElement_null (some tag)
    exact iff_of_true hback (.inl rfl)
  rw [KeptUnder, or_iff_right hn]
  rw [Bool.not_eq_true] at hn
  split_ifs with hnothing
  · have hplain := encodeElement_bind_readElement (v := v) hnothing
    constructor
    · intro h
      have hv := unnamed_of_comes_back h
      exact (hv.carried_plain_iff tag).1 (hplain ▸ h)
    · intro h
      exact hplain ▸ (h.unnamed.carried_plain_iff tag).2 h
  · rw [Bool.not_eq_true] at hnothing
    constructor
    · intro h
      have hv := unnamed_of_comes_back h
      obtain ⟨tv, htv, hlocal⟩ := exists_typed_of_element hn hnothing h
      obtain ⟨huniform, htag⟩ := hv.settles htv hlocal
      exact ⟨(hv.uniform_reread_iff id).1 huniform, by simpa [hn] using htag⟩
    · exact fun ⟨huniform, htag⟩ => huniform.comes_back htag hn

/-- What is of the variant of a tag is kept by the arrays of the tag. -/
lemma Uniform.keptUnder (hv : v.Uniform) (ht : Tag.ofLocal v = tag.native) : v.KeptUnder tag := by
  by_cases hn : v.isNull = true
  · exact .inl hn
  · rw [Bool.not_eq_true] at hn
    exact .inr (by simp [holdsNothing_of_native hn ht, hv, ht])

/-- A list is one of one tag, and so are the lists in it, exactly when the array that it becomes
keeps its elements. -/
lemma uniform_list_iff_keptUnder :
    (list items).Uniform ↔ ∀ v ∈ items, v.KeptUnder (.ofElements items) := by
  constructor
  · rintro (_ | h | ⟨tag, htag, h⟩) v hv
    · cases h
    · by_cases hn : v.isNull = true
      · exact .inl hn
      · rw [Bool.not_eq_true] at hn
        refine (h v hv).keptUnder ?_
        rw [ofElements_eq htag hv hn, Tag.native_ofLocal]
  · intro h
    have hkept (v : LocalValue) (hv : v ∈ items) (hn : v.isNull = false) :
        v.Uniform ∧ Tag.ofLocal v = (Tag.ofElements items).native := by
      simpa [KeptUnder, hn, holdsNothing_ofElements hv hn] using h v hv
    refine .list (Tag.ofElements items).native (fun v hv => ?_) fun v hv =>
      .of_not_null fun hn => (hkept v hv hn).1
    by_cases hn : v.isNull = true
    · exact .inl hn
    · exact .inr (hkept v hv (by simpa using hn)).2

end LocalValue

/-! ## Arrays -/

namespace Tagged

open LocalValue

variable {tag : Tag} {items : List LocalValue}

/-- An array is written element by element. -/
lemma ofElements_eq_ok_iff {tv : TypedValue} : Tagged.ofElements tag items = .ok tv
    ↔ ∃ ss, items.mapM (encodeElement (some tag)) = .ok ss ∧ tv = ⟨.array, .list ss, some tag⟩ := by
  rw [Tagged.ofElements, toSerial, Carrier.of, carried, carriedElements_eq_mapM]
  cases items.mapM (encodeElement (some tag)) with
  | error e =>
    change Except.error e = .ok tv ↔ _
    simp only [reduceCtorEq, false_and, exists_false]
  | ok ss =>
    change Except.ok (⟨.array, .list ss, some tag⟩ : TypedValue) = .ok tv ↔ _
    simp only [Except.ok.injEq, exists_eq_left', eq_comm]

/-- An array is read element by element. -/
lemma toLocal_array_iff {ss : List SerialValue} {ws : List LocalValue} :
    (⟨.array, .list ss, some tag⟩ : TypedValue).toLocal = .ok (.list ws)
      ↔ ss.mapM (readElement (some tag)) = .ok ws := by
  simp only [toLocal, SerialValue.toLocal_list_array, map_eq_ok_iff, LocalValue.list.injEq,
    exists_eq_right]

/-- **An array comes back exactly when it keeps its elements.** -/
theorem ofElements_toLocal_iff : (Tagged.ofElements tag items >>= (·.toLocal))
    = .ok (.list (items.map (reread id))) ↔ ∀ v ∈ items, v.KeptUnder tag := by
  have hwalk : (Tagged.ofElements tag items >>= (·.toLocal)) = .ok (.list (items.map (reread id)))
      ↔ (items.mapM (encodeElement (some tag)) >>= fun ss => ss.mapM (readElement (some tag)))
        = .ok (items.map (reread id)) := by
    simp only [bind_eq_ok_iff, ofElements_eq_ok_iff]
    constructor
    · rintro ⟨_, ⟨ss, hss, rfl⟩, h⟩
      exact ⟨ss, hss, toLocal_array_iff.1 h⟩
    · rintro ⟨ss, hss, h⟩
      exact ⟨_, ⟨ss, hss, rfl⟩, toLocal_array_iff.2 h⟩
  rw [hwalk, mapM_bind_mapM_eq_ok_iff, List.forall₂_map_right_iff, List.forall₂_same]
  exact forall₂_congr fun v _ => keptUnder_iff

end Tagged

end TypedRows
