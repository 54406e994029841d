import TypedRows.Proofs.Wire.Scalars

/-!
# Lists and records on the wire

The typed value of lists and records arrives as it was sent, decimals in the form that their text
shows, as long as no list has a record among its elements. The elements of such a list are
written without a tag of their own and as arrays, so they arrive as arrays.

## Main definitions

* `TypedRows.Tagged.SurvivesWire` — a typed value and what it denotes come back.

## Main results

* `TypedRows.LocalValue.arrival_form` — what arrives when no list holds a record.
* `TypedRows.LocalValue.not_alike_of_holds_recordList` — nothing equal arrives otherwise.
* `TypedRows.Tagged.survivesWire_iff` — which values come back.
* `TypedRows.Tagged.values_without_records_survive` — values without records come back.
-/

set_option autoImplicit false

namespace TypedRows

/-- What arrives of a typed value. -/
def Tagged.arrival (tv : TypedValue) : Except Error TypedValue :=
  tv.value.arrival tv.tag tv.component

namespace LocalValue

/-! ## Elements and fields -/

/-- Only null has a form that is null. -/
lemma isNull_form {v : LocalValue} (hv : v.Uniform) : v.form.isNull = v.isNull := by
  cases hv with
  | null => rfl
  | @scalar v h => cases v <;> simp_all [form, Tagged.isNull, scalarSerial, isScalar,
      SerialValue.isNull, isNull]
  | list => rw [form_list]; rfl
  | struct => rw [form_struct]; rfl

/-- A form is null when its value is, with other decimals as well. -/
lemma isNull_mapDecimals_form (f : Decimal → Decimal) {v : LocalValue} (hv : v.Uniform) :
    (v.form.mapDecimals f).isNull = v.isNull :=
  (SerialValue.isNull_mapDecimals f _).trans (isNull_form hv)

section Elements

variable {items : List LocalValue} {tag : Tag} {v : LocalValue}

/-- An element that is no record is written under its own tag, and so arrives as its form does. -/
lemma elementArrival_of_mem (htag : ∀ v ∈ items, v.isNull = true ∨ Tag.ofLocal v = tag)
    (hv : v ∈ items) (hr : ¬ v.IsRecord) :
    (elementForm v).elementArrival (.ofElements items) = v.form.arrival := by
  have htyped (tv : TypedValue) (c : Tag) : (SerialValue.typed tv).elementArrival c = tv.arrival :=
    SerialValue.arrival_typed c none tv
  by_cases hn : v.isNull = true
  · rw [isNull_iff.1 hn]
    rfl
  rw [elementForm, if_neg hn, ofElements_eq htag hv (by simpa using hn)]
  cases v with
  | null => simp [isNull] at hn
  | record | struct => simp [IsRecord, Tag.ofLocal] at hr
  | list | array =>
    rw [Tagged.asElement, tag_form, Tag.ofLocal, if_pos rfl]
    exact htyped _ _
  | _ => rfl

/-- What arrives of an element is put back as an element. -/
lemma elementOf_of_mem (f : Decimal → Decimal)
    (htag : ∀ v ∈ items, v.isNull = true ∨ Tag.ofLocal v = tag) (hv : v ∈ items)
    (hu : v.Uniform) :
    WireMessage.elementOf (.ofElements items) (v.form.mapDecimals f)
      = (elementForm v).mapDecimals f := by
  rw [WireMessage.elementOf, isNull_mapDecimals_form f hu, elementForm]
  by_cases hn : v.isNull = true
  · rw [if_pos hn, if_pos hn]
    rfl
  have ht : (v.form.mapDecimals f).tag = .ofLocal v := tag_form v
  rw [if_neg hn, if_neg hn, ht, ofElements_eq htag hv (by simpa using hn),
    Tagged.mapDecimals_asElement, Tagged.asElement, ht]
  by_cases ha : Tag.ofLocal v = .array <;> simp [ha]

end Elements

/-- A field arrives as its form does. -/
lemma fieldArrival_fieldForm (v : LocalValue) : (fieldForm v).fieldArrival = v.form.arrival := by
  by_cases hn : v.isNull = true
  · rw [isNull_iff.1 hn]
    rfl
  · rw [fieldForm, if_neg hn]
    exact SerialValue.arrival_typed _ none v.form

/-- What arrives of a field is put back as a field. -/
lemma fieldOf_form (f : Decimal → Decimal) {v : LocalValue} (hu : v.Uniform) :
    WireMessage.fieldOf (v.form.mapDecimals f) = (fieldForm v).mapDecimals f := by
  rw [WireMessage.fieldOf, isNull_mapDecimals_form f hu, fieldForm]
  by_cases hn : v.isNull = true
  · rw [if_pos hn, if_pos hn]
    rfl
  · rw [if_neg hn, if_neg hn, SerialValue.mapDecimals_typed]

/-! ## What arrives when no list holds a record -/

/-- **The typed value of lists and records arrives as it was sent**, with its decimals as their
text shows them, when no list in it has a record among its elements.

**Proof sketch.** By induction on the value. Every element that is not null has the tag of the
elements, under which the writer puts it and the reader finds it; arrays among the elements and
all fields bring their own tags along. -/
theorem arrival_form {v : LocalValue} (hv : v.Uniform) (hr : ¬ v.Holds IsRecordList) :
    v.form.arrival = .ok (v.form.mapDecimals Decimal.plain) := by
  induction hv with
  | null => rfl
  | scalar h =>
    rw [form_scalar h]
    exact arrival_form_scalar h
  | @list items tag htag h ih =>
    rw [holds_list_iff, not_or, not_exists] at hr
    rw [form_list]
    refine (SerialValue.arrival_array_eq_ok_iff rfl).2
      ⟨items.map fun v => v.form.mapDecimals Decimal.plain, ?_, ?_⟩
    · rw [List.forall₂_map_left_iff, List.forall₂_map_right_iff, List.forall₂_same]
      intro v hv
      have hrec : ¬ v.IsRecord := fun hrec => hr.1 ⟨v, hv, hrec⟩
      exact (elementArrival_of_mem htag hv hrec).trans (ih v hv fun hl => hr.2 v ⟨hv, hl⟩)
    · rw [Tagged.mapDecimals, SerialValue.mapDecimals_list, List.map_map, List.map_map,
        Option.getD_some]
      congr 2
      exact List.map_congr_left fun v hv => (elementOf_of_mem _ htag hv (h v hv)).symm
  | @struct values h ih =>
    rw [holds_struct_iff, not_or, not_exists] at hr
    rw [form_struct]
    refine SerialValue.arrival_struct_eq_ok_iff.2
      ⟨values.map fun v => v.form.mapDecimals Decimal.plain, ?_, ?_⟩
    · rw [List.forall₂_map_left_iff, List.forall₂_map_right_iff, List.forall₂_same]
      intro v hv
      exact (fieldArrival_fieldForm v).trans (ih v hv fun hl => hr.2 v ⟨hv, hl⟩)
    · rw [Tagged.mapDecimals, SerialValue.mapDecimals_list, List.map_map, List.map_map]
      congr 2
      exact List.map_congr_left fun v hv => (fieldOf_form _ (h v hv)).symm

/-! ## What arrives when a list holds a record -/

/-- Whatever arrives of a list under the tag of arrays keeps that tag, and it is put back as a
typed value. -/
lemma elementOf_arrival_array {component : Option Tag} {items : List SerialValue}
    {tv : TypedValue} (h : (SerialValue.list items).arrival .array component = .ok tv) (c : Tag) :
    WireMessage.elementOf c tv = .typed tv := by
  obtain ⟨tvs, -, rfl⟩ := (SerialValue.arrival_array_eq_ok_iff rfl).1 h
  have hn (s : List SerialValue) (c : Option Tag) :
      (Tagged.mk Tag.array (SerialValue.list s) c).isNull = false := rfl
  rw [WireMessage.elementOf, hn, if_neg (by simp), if_neg]
  rintro ⟨rfl, hc⟩
  exact hc rfl

/-- A record among the elements of a list arrives as an array. -/
lemma not_alike_element_record {c : FloatComparison} {v : LocalValue} (hv : v.Uniform)
    (hrec : v.IsRecord) {component : Tag} {tv : TypedValue}
    (h : (elementForm v).elementArrival component = .ok tv) :
    ¬ (WireMessage.elementOf component tv).alike c (elementForm v) = true := by
  cases hv with
  | null => cases hrec
  | scalar hs =>
    cases v with
    | record | struct => cases hs
    | _ => cases hrec
  | list => cases hrec
  | @struct values =>
    have hform : elementForm (struct (.ofValues values)) = .list (values.map fieldForm) := by
      rw [elementForm, form_struct]
      rfl
    rw [hform] at h ⊢
    rw [elementOf_arrival_array h]
    simp [SerialValue.alike, SerialValue.sameUnder]

/-- A value that holds a list of records and is no record is a list. -/
lemma exists_eq_list_of_holds {v : LocalValue} (hv : v.Uniform) (hrec : ¬ v.IsRecord)
    (h : v.Holds IsRecordList) : ∃ items, v = list items := by
  cases hv with
  | null => cases holds_null_iff.1 h
  | scalar hs => cases not_holds_recordList_of_isScalar hs h
  | list => exact ⟨_, rfl⟩
  | struct => exact absurd rfl hrec

/-- **Nothing equal arrives when a list holds a record.**

**Proof sketch.** By induction on the value. The elements of a list of records stand in it as
bare lists; the writer puts each of them under the tag of arrays, so it arrives as a typed value
where a bare list was. From there the difference passes on to everything that encloses the list. -/
theorem not_alike_of_holds_recordList {c : FloatComparison} {v : LocalValue} (hv : v.Uniform)
    (hr : v.Holds IsRecordList) {tv : TypedValue} (h : v.form.arrival = .ok tv) :
    ¬ tv.alike c v.form = true := by
  induction hv generalizing tv with
  | null => cases holds_null_iff.1 hr
  | scalar hs => cases not_holds_recordList_of_isScalar hs hr
  | @list items tag htag hu ih =>
    intro halike
    rw [form_list] at h halike
    obtain ⟨tvs, harrival, rfl⟩ := (SerialValue.arrival_array_eq_ok_iff rfl).1 h
    simp only [Tagged.alike, beq_self_eq_true, Bool.true_and, SerialValue.alike_list,
      List.forall₂_map_left_iff, List.forall₂_map_right_iff, Option.getD_some] at harrival halike
    obtain ⟨w, hw, hwr⟩ : ∃ w ∈ items, w.IsRecord ∨ w.Holds IsRecordList := by
      rcases holds_list_iff.1 hr with ⟨w, hw, hrec⟩ | ⟨w, hw, hl⟩
      · exact ⟨w, hw, .inl hrec⟩
      · exact ⟨w, hw, .inr hl⟩
    obtain ⟨t, ht, hta⟩ := exists_of_forall₂ harrival halike hw
    by_cases hrec : w.IsRecord
    · exact not_alike_element_record (hu w hw) hrec ht hta
    · -- the element is a list with such a list in it, and arrives as a typed value of its own
      have hl := hwr.resolve_left hrec
      obtain ⟨inner, rfl⟩ := exists_eq_list_of_holds (hu w hw) hrec hl
      rw [elementArrival_of_mem htag hw hrec] at ht
      refine ih _ hw hl ht ?_
      have hform : elementForm (list inner) = .typed (list inner).form := by
        rw [elementForm, form_list]
        rfl
      rw [hform] at hta
      rw [form_list] at ht
      rw [elementOf_arrival_array ht] at hta
      simpa using hta
  | @struct values hu ih =>
    intro halike
    rw [form_struct] at h halike
    obtain ⟨tvs, harrival, rfl⟩ := SerialValue.arrival_struct_eq_ok_iff.1 h
    simp only [Tagged.alike, beq_self_eq_true, Bool.true_and, SerialValue.alike_list,
      List.forall₂_map_left_iff, List.forall₂_map_right_iff] at harrival halike
    obtain ⟨w, hw, hl⟩ := (holds_struct_iff.1 hr).resolve_left id
    obtain ⟨t, ht, hta⟩ := exists_of_forall₂ harrival halike hw
    rw [fieldArrival_fieldForm] at ht
    refine ih w hw hl ht ?_
    -- a field with such a list in it is not null, so it stands in the record under its tag
    have hn : ¬ w.isNull = true := fun hn => holds_null_iff.1 (isNull_iff.1 hn ▸ hl)
    rw [fieldForm, if_neg hn, WireMessage.fieldOf] at hta
    split_ifs at hta
    · cases hta
    · simpa using hta

/-! ## Lists under the tag of records -/

/-- A list is the only value made of lists and records that the tag of another one admits: the
tag of records takes its elements for fields. -/
lemma ofLocal_of_ne_tag {tag : Tag} {v : LocalValue} {tv : TypedValue}
    (htag : tag = .struct ∨ tag = .array) (hv : v.Uniform) (hn : v.isNull = false)
    (hne : Tag.ofLocal v ≠ tag) (h : Tagged.ofLocal tag v = .ok tv) :
    (∃ items, v = list items) ∧ ∃ parts, tv = ⟨.struct, .list parts, none⟩ := by
  obtain ⟨s, hs, h⟩ := bind_eq_ok_iff.1 h
  obtain rfl := Except.ok.inj h
  obtain ⟨r, hr, hs⟩ := bind_eq_ok_iff.1 hs
  obtain ⟨⟨⟩, -, hs⟩ := bind_eq_ok_iff.1 hs
  obtain rfl := Except.ok.inj hs
  cases hv with
  | null => cases hn
  | @scalar v hv =>
    obtain rfl | rfl := htag <;> cases v with
    | null => cases hn
    | list | record | struct | array => cases hv
    | _ => cases hr
  | @list items =>
    obtain rfl := htag.resolve_right fun ha => hne ha.symm
    obtain ⟨parts, -, hr⟩ := bind_eq_ok_iff.1 hr
    obtain rfl := Except.ok.inj hr
    exact ⟨⟨items, rfl⟩, parts, rfl⟩
  | struct =>
    obtain rfl := htag.resolve_left fun hs => hne hs.symm
    cases hr

end LocalValue

namespace Tagged

/-! ## Values that come back -/

/-- A typed value survives the wire when a message can be written for it, an equal typed value is
read from the message, and that one denotes the local value. -/
def SurvivesWire (c : FloatComparison) (tv : TypedValue) (v : LocalValue) : Prop :=
  ∃ m tv' v', tv.toWire = .ok m ∧ Tagged.ofWire m = .ok tv' ∧ tv'.alike c tv = true
    ∧ tv'.toLocal = .ok v' ∧ v'.alike c v = true

/-- To survive the wire is to arrive. -/
lemma survivesWire_iff_arrival {c : FloatComparison} {tv : TypedValue} {v : LocalValue} :
    tv.SurvivesWire c v ↔ ∃ tv' v', tv.arrival = .ok tv' ∧ tv'.alike c tv = true
      ∧ tv'.toLocal = .ok v' ∧ v'.alike c v = true := by
  constructor
  · rintro ⟨m, tv', v', hm, htv, h⟩
    exact ⟨tv', v', (ofWire_of_toWire hm).symm.trans htv, h⟩
  · rintro ⟨tv', v', harrival, h⟩
    obtain ⟨m, hm, -⟩ := bind_eq_ok_iff.1 harrival
    exact ⟨m, tv', v', hm, (ofWire_of_toWire hm).trans harrival, h⟩

/-- **Values made of lists and records survive the wire** exactly when no list in them has a
record among its elements, when they are sent under the tag that they have by themselves, and
when, as long as NaNs are told apart, no float of 32 bits in them is a signalling NaN.

**Proof sketch.** Under its own tag the typed value is the form of the value. Without lists of
records it arrives with nothing changed but the scales of decimals, and reading it gives the value
with its floats widened and narrowed; with them nothing equal arrives. Under the other tag a list
becomes a record, and no record is read as a list. -/
theorem survivesWire_iff {c : FloatComparison} {tag : Tag} {v : LocalValue} {tv : TypedValue}
    (htag : tag = .struct ∨ tag = .array) (hv : v.Uniform) (h : Tagged.ofLocal tag v = .ok tv) :
    tv.SurvivesWire c v ↔ (v.isNull = true ∨ Tag.ofLocal v = tag)
      ∧ ¬ v.Holds LocalValue.IsRecordList ∧ (c = .bits → ¬ v.Holds LocalValue.IsSignalling) := by
  rw [survivesWire_iff_arrival]
  by_cases hn : v.isNull = true
  · obtain rfl := LocalValue.isNull_iff.1 hn
    have hr : ¬ LocalValue.null.Holds LocalValue.IsRecordList := LocalValue.holds_null_iff.1
    have hs : ¬ LocalValue.null.Holds LocalValue.IsSignalling := LocalValue.holds_null_iff.1
    refine iff_of_true ?_ ⟨.inl hn, hr, fun _ => hs⟩
    obtain rfl | rfl := htag <;> obtain rfl := Except.ok.inj h <;>
      exact ⟨_, .null, rfl, rfl, rfl, rfl⟩
  · rw [Bool.not_eq_true] at hn
    simp only [hn, Bool.false_eq_true, false_or]
    by_cases hown : Tag.ofLocal v = tag
    · subst hown
      obtain rfl := Except.ok.inj ((LocalValue.ofLocal_eq_form hv).symm.trans h)
      constructor
      · rintro ⟨tv', v', harrival, halike, hlocal, hback⟩
        have hr : ¬ v.Holds LocalValue.IsRecordList := fun hr =>
          LocalValue.not_alike_of_holds_recordList hv hr harrival halike
        obtain rfl := Except.ok.inj ((LocalValue.arrival_form hv hr).symm.trans harrival)
        obtain rfl := Except.ok.inj ((LocalValue.toLocal_form Decimal.plain hv).symm.trans hlocal)
        exact ⟨rfl, hr, (LocalValue.alike_reread_iff c Decimal.sameNumber_plain hv).1 hback⟩
      · rintro ⟨-, hr, hs⟩
        exact ⟨_, _, LocalValue.arrival_form hv hr,
          alike_mapDecimals c Decimal.sameNumber_plain v.form,
          LocalValue.toLocal_form Decimal.plain hv,
          (LocalValue.alike_reread_iff c Decimal.sameNumber_plain hv).2 hs⟩
    · refine iff_of_false ?_ fun h => hown h.1
      rintro ⟨⟨t, s, component⟩, v', -, halike, hlocal, hback⟩
      obtain ⟨⟨items, rfl⟩, parts, rfl⟩ := LocalValue.ofLocal_of_ne_tag htag hv hn hown h
      simp only [alike, Bool.and_eq_true, beq_iff_eq] at halike
      obtain ⟨rfl, hs⟩ := halike
      cases s with
      | list ss =>
        obtain ⟨vs, -, hlocal⟩ := bind_eq_ok_iff.1 hlocal
        obtain rfl := Except.ok.inj hlocal
        cases hback
      | _ => cases hs

/-- A record with a list of lists, a record and nulls in it survives. -/
theorem survivesWire_nested_record :
    ∃ v tv, v = LocalValue.struct (.ofValues [.int 1, .null,
        .list [.list [.string "a", .null], .null, .list [.decimal ⟨10, 1⟩]],
        .struct (.ofValues [.float ⟨0x3f800000⟩])])
      ∧ v.Uniform ∧ Tagged.ofLocal .struct v = .ok tv ∧ tv.SurvivesWire .bits v := by
  have hv : (LocalValue.struct (.ofValues [.int 1, .null,
      .list [.list [.string "a", .null], .null, .list [.decimal ⟨10, 1⟩]],
      .struct (.ofValues [.float ⟨0x3f800000⟩])])).Uniform := by
    refine .struct ?_
    simp only [List.mem_cons, List.not_mem_nil, or_false, forall_eq_or_imp, forall_eq]
    refine ⟨.scalar rfl, .null, .list .array ?_ ?_, .struct ?_⟩
    · simp [Tag.ofLocal, LocalValue.isNull]
    · simp only [List.mem_cons, List.not_mem_nil, or_false, forall_eq_or_imp, forall_eq]
      refine ⟨.list .string ?_ ?_, .null, .list .number ?_ ?_⟩
      · simp [Tag.ofLocal, LocalValue.isNull]
      · simp only [List.mem_cons, List.not_mem_nil, or_false, forall_eq_or_imp, forall_eq]
        exact ⟨.scalar rfl, .null⟩
      · simp [Tag.ofLocal]
      · simpa using .scalar rfl
    · simpa using .scalar rfl
  refine ⟨_, _, rfl, hv, LocalValue.ofLocal_eq_form hv,
    (survivesWire_iff (.inl rfl) hv (LocalValue.ofLocal_eq_form hv)).2 ⟨.inr rfl, ?_, ?_⟩⟩
  · have hs {w : LocalValue} (hw : w.isScalar = true) (hr : ¬ w.IsRecordList) :
        ¬ w.Holds LocalValue.IsRecordList := mt (LocalValue.holds_scalar_iff hw).1 hr
    simp only [LocalValue.holds_struct_iff, LocalValue.holds_list_iff, LocalValue.holds_null_iff,
      LocalValue.IsRecordList, LocalValue.IsRecord, Tag.ofLocal, List.mem_cons, List.not_mem_nil,
      exists_eq_or_imp, reduceCtorEq, false_or, or_false, exists_eq_left, not_or]
    exact ⟨hs rfl id, ⟨hs rfl id, hs rfl id⟩, hs rfl id⟩
  · have hs {w : LocalValue} (hw : w.isScalar = true) (hr : ¬ w.IsSignalling) :
        ¬ w.Holds LocalValue.IsSignalling := mt (LocalValue.holds_scalar_iff hw).1 hr
    have hf : ¬ (⟨0x3f800000⟩ : Binary32).IsSignalling := fun h => by
      exact absurd h.1 (by decide +kernel)
    simp only [LocalValue.holds_struct_iff, LocalValue.holds_list_iff, LocalValue.holds_null_iff,
      LocalValue.IsSignalling, List.mem_cons, List.not_mem_nil, exists_eq_or_imp, false_or,
      or_false, exists_eq_left, not_or]
    exact fun _ => ⟨hs rfl id, ⟨hs rfl id, hs rfl id⟩, hs rfl hf⟩

/-- A list of one record does not survive: its element arrives as an array. -/
theorem not_survivesWire_list_of_record :
    ∃ v tv, v = LocalValue.list [.struct (.ofValues [.int 1])] ∧ v.Uniform
      ∧ Tagged.ofLocal .array v = .ok tv ∧ ¬ tv.SurvivesWire .bitsOrNaN v := by
  refine ⟨_, ⟨.array, .list [.list [.typed ⟨.integer, .integer 1, none⟩]], some .struct⟩, rfl, ?_,
    rfl, ?_⟩
  · refine .list .struct (by simp [Tag.ofLocal]) ?_
    intro v hv
    obtain rfl := List.mem_singleton.1 hv
    refine .struct ?_
    intro w hw
    obtain rfl := List.mem_singleton.1 hw
    exact .scalar rfl
  · rintro ⟨m, tv', v', hm, htv, halike, -⟩
    obtain rfl := Except.ok.inj hm
    obtain rfl := Except.ok.inj htv
    cases halike

/-- **Values without records survive the wire.** Whatever is made under a tag other than those of
arrays and records and can be written comes back under the same tag and denotes the same local
value. Lists without records come back as equal typed values with the same tag for their elements,
and they denote the same lists up to the NaNs in them.

**Proof sketch.** What is made has the shape of its tag, and a value of that shape arrives as one
that denotes the same value. Lists are those of `arrival_form` and `toLocal_form`. -/
theorem values_without_records_survive :
    (∀ (tv : TypedValue) (m : WireMessage), tv.Built → tv.tag ≠ .array → tv.tag ≠ .struct →
      tv.toWire = .ok m →
      ∃ tv' v v', Tagged.ofWire m = .ok tv' ∧ tv'.tag = tv.tag ∧ tv.toLocal = .ok v
        ∧ tv'.toLocal = .ok v' ∧ v'.alike .bits v = true)
    ∧ ∀ items : List LocalValue, (LocalValue.list items).Uniform →
      ¬ (LocalValue.list items).Holds LocalValue.IsRecord →
      ∃ tv m tv' v', Tagged.ofLocal .array (.list items) = .ok tv ∧ tv.toWire = .ok m
        ∧ Tagged.ofWire m = .ok tv' ∧ tv'.alike .bits tv = true ∧ tv'.component = tv.component
        ∧ tv'.toLocal = .ok v' ∧ v'.alike .bitsOrNaN (.list items) = true := by
  constructor
  · intro tv m hbuilt ha hs hm
    obtain ⟨r, v, v', hr, hv', hv, halike⟩ := SerialValue.alike_of_toWire hbuilt.check ha hs hm
    refine ⟨⟨tv.tag, r, none⟩, v, v', (ofWire_of_toWire hm).trans ?_, rfl, hv, hv', halike⟩
    exact bind_eq_ok_iff.2 ⟨m, hm, hr⟩
  · intro items hv hrec
    have hr : ¬ (LocalValue.list items).Holds LocalValue.IsRecordList := fun hr =>
      hrec hr.of_recordList
    obtain ⟨m, hm, hread⟩ := bind_eq_ok_iff.1 (LocalValue.arrival_form hv hr)
    exact ⟨_, m, _, _, LocalValue.ofLocal_eq_form hv, hm,
      (ofWire_of_toWire hm).trans (LocalValue.arrival_form hv hr),
      alike_mapDecimals .bits Decimal.sameNumber_plain _, rfl,
      LocalValue.toLocal_form Decimal.plain hv,
      (LocalValue.alike_reread_iff .bitsOrNaN Decimal.sameNumber_plain hv).2 nofun⟩

/-- A byte that does not fit its tag, and a list of lists of different tags. -/
theorem values_without_records_survive_byte_and_lists :
    (∃ tv' v v', Tagged.ofWire { WireMessage.tagged .byte with numberValue := some 300 } = .ok tv'
      ∧ tv'.tag = .byte ∧ (⟨.byte, .integer 300, none⟩ : TypedValue).toLocal = .ok v
      ∧ tv'.toLocal = .ok v' ∧ v'.alike .bits v = true)
    ∧ ∃ tv m tv' v', Tagged.ofLocal .array (.list [.list [.string "a"], .null, .list [.null]])
          = .ok tv ∧ tv.toWire = .ok m
        ∧ Tagged.ofWire m = .ok tv' ∧ tv'.alike .bits tv = true ∧ tv'.component = tv.component
        ∧ tv'.toLocal = .ok v'
        ∧ v'.alike .bitsOrNaN (.list [.list [.string "a"], .null, .list [.null]]) = true := by
  refine ⟨values_without_records_survive.1 ⟨.byte, .integer 300, none⟩ _
    (@Built.ofSerial .byte (.integer 300) _ rfl) (by decide) (by decide) rfl,
    values_without_records_survive.2 _ (.list .array ?_ ?_) ?_⟩
  · simp [Tag.ofLocal, LocalValue.isNull]
  · simp only [List.mem_cons, List.not_mem_nil, or_false, forall_eq_or_imp, forall_eq]
    refine ⟨.list .string ?_ ?_, .null, .list .null ?_ ?_⟩
    · simp [Tag.ofLocal]
    · simpa using .scalar rfl
    · simp [LocalValue.isNull]
    · simpa using .null
  · simp only [LocalValue.holds_list_iff, LocalValue.holds_null_iff, LocalValue.IsRecord,
      Tag.ofLocal, List.mem_cons, List.not_mem_nil, exists_eq_or_imp, reduceCtorEq, false_or,
      or_false, exists_eq_left]
    exact mt (LocalValue.holds_scalar_iff rfl).1 (by simp [LocalValue.IsRecord, Tag.ofLocal])

end Tagged

end TypedRows
