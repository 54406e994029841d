import TypedRows.Proofs.Value.MixedLists
import TypedRows.Proofs.Wire.Scalars

/-!
# Lists of several variants on the wire

A list is sent under the tag of its first element, and so is every other element of it. What
arrives of an element denotes what its typed value does, so that a list comes back over the wire
when it comes back from its typed value. Only floats that are no number differ: the tag of
decimals lets them into a typed value, and they cannot be written.

## Main definitions

* `TypedRows.LocalValue.isNonFinite` — the floats that are no number.

## Main results

* `TypedRows.LocalValue.meaning?_eq_of_alike` — values that are alike stand for the same.
* `TypedRows.LocalValue.mixed_lists_unaltered_iff`
-/

set_option autoImplicit false

namespace TypedRows

/-! ## Floats that are no number -/

/-- The infinities and what is not a number. -/
def LocalValue.isNonFinite : LocalValue → Bool
  | float x => !x.value.isFinite
  | double x => !x.value.isFinite
  | _ => false

/-- A float is finite when it is a number. -/
lemma FloatValue.isFinite_iff {v : FloatValue} :
    v.isFinite = true ↔ ∃ r, v.quantity = .number r := by
  cases v <;> simp [isFinite, quantity]

/-- Finite floats are written as decimals, and no others are. -/
lemma Decimal.exists_ofBinary64?_iff {x : Binary64} :
    (∃ d, Decimal.ofBinary64? x = some d) ↔ x.value.isFinite = true := by
  rw [Decimal.ofBinary64?]
  cases x.value with
  | finite negative m q =>
    simp only [ofValue?, FloatValue.isFinite, iff_true]
    split <;> exact ⟨_, rfl⟩
  | _ => simp [ofValue?, FloatValue.isFinite]

namespace LocalValue

variable {u v w : LocalValue}

/-- A float whose text is no decimal is not finite. -/
lemma isNonFinite_iff {x : Binary64} (hx : v.scalarSerial = .float x) :
    v.isNonFinite = true ↔ ¬ ∃ d, Decimal.ofBinary64? x = some d := by
  rw [Decimal.exists_ofBinary64?_iff]
  cases v with
  | float y =>
    obtain rfl : Binary64.ofBinary32 y = x := by simpa [scalarSerial] using hx
    have hfinite : (Binary64.ofBinary32 y).value.isFinite = true ↔ y.value.isFinite = true := by
      rw [FloatValue.isFinite_iff, FloatValue.isFinite_iff, Binary64.quantity_ofBinary32]
    rw [hfinite]
    simp [isNonFinite]
  | double y =>
    obtain rfl : y = x := by simpa [scalarSerial] using hx
    simp [isNonFinite]
  | _ => simp [scalarSerial] at hx

/-- **Values that are alike stand for the same.** -/
lemma meaning?_eq_of_alike (h : v.alike .bits w = true) : v.meaning? = w.meaning? := by
  cases v with
  | decimal a =>
    cases w with
    | decimal b =>
      have hsame : a.sameNumber b = true := by simpa [alike, sameUnder] using h
      rw [meaning?, meaning?, Decimal.quantity_eq_of_sameNumber hsame]
    | _ => simp [alike, sameUnder] at h
  | float a =>
    cases w with
    | float b =>
      obtain rfl : a = b := by simpa [alike, sameUnder, Binary32.alike] using h
      rfl
    | _ => simp [alike, sameUnder] at h
  | double a =>
    cases w with
    | double b =>
      obtain rfl : a = b := by simpa [alike, sameUnder, Binary64.alike] using h
      rfl
    | _ => simp [alike, sameUnder] at h
  | _ => cases w <;> simp_all [alike, sameUnder, meaning?]

/-! ## Writing -/

/-- What is not finite is a float in its plain form. -/
lemma exists_float_of_isNonFinite (h : v.isNonFinite = true) : ∃ x, v.scalarSerial = .float x := by
  cases v <;> first | exact ⟨_, rfl⟩ | cases h

/-- What another tag than that of decimals lets in is written. -/
lemma exists_scalarWire (hu : u.isScalar = true) (ha : (Tag.ofLocal u).Admits v)
    (hv : v.isScalar = true) (hne : Tag.ofLocal u ≠ .number) :
    ∃ m, v.scalarSerial.scalarWire (.ofLocal u) = .ok m := by
  obtain ⟨hshape, hbytes⟩ := ha.resolve_left (by simp [isNull_of_isScalar hv])
  cases u with
  | bytes =>
    obtain ⟨b, rfl⟩ : ∃ b, v = bytes b := by
      have hown := hbytes rfl
      cases v <;> first | exact ⟨_, rfl⟩ | cases hown
    exact ⟨_, by simp [scalarSerial, Tag.ofLocal, SerialValue.scalarWire, Tag.boxed]; rfl⟩
  | decimal => exact absurd rfl hne
  | null | list | record | struct | array => cases hu
  | _ =>
    cases hs : v.scalarSerial <;> rw [hs] at hshape <;> first | exact ⟨_, rfl⟩ | cases hshape

/-- **An element that is let in is written**, unless it is a float that is no number under the tag
of decimals. -/
lemma exists_toWire_iff (hu : u.isScalar = true) (hv : v.isScalar = true)
    (ha : (Tag.ofLocal u).Admits v) : (∃ m, v.scalarSerial.toWire (.ofLocal u) none = .ok m)
      ↔ ¬ (Tag.ofLocal u = .number ∧ v.isNonFinite = true) := by
  have hscalar := isScalar_scalarSerial hv
  have hwire : v.scalarSerial.toWire (.ofLocal u) none
      = v.scalarSerial.scalarWire (.ofLocal u) := by
    cases hs : v.scalarSerial <;> first | rfl | (rw [hs] at hscalar; cases hscalar)
  rw [hwire]
  by_cases htag : Tag.ofLocal u = .number
  · have hshape := (ha.resolve_left (by simp [isNull_of_isScalar hv])).1
    rw [htag] at hshape ⊢
    cases hs : v.scalarSerial with
    | float x =>
      rw [isNonFinite_iff hs]
      simp only [SerialValue.scalarWire, Tag.boxed, SerialValue.toDecimal]
      cases Decimal.ofBinary64? x <;> simp [bind, Except.bind, pure, Except.pure]
    | integer n | decimal d =>
      refine iff_of_true ⟨_, rfl⟩ fun hnone => ?_
      obtain ⟨x, hx⟩ := exists_float_of_isNonFinite hnone.2
      simp [hx] at hs
    | _ =>
      rw [hs] at hshape
      cases hshape
  · exact iff_of_true (exists_scalarWire hu ha hv htag) fun hnone => htag hnone.1

/-! ## Reading -/

/-- What arrives of an element in a message, read as an element. -/
def readMessage (c : Tag) (m : WireMessage) : Except Error LocalValue :=
  m.toTyped >>= fun tv => readElement (some c) (WireMessage.elementOf c tv)

/-- An element that arrived under the tag of its array is read under it. -/
lemma readMessage_of_toTyped {c : Tag} (hn : c.holdsNothing = false) (ha : c ≠ .array)
    {m : WireMessage} {s : SerialValue} (h : m.toTyped = .ok ⟨c, s, none⟩) :
    readMessage c m = s.toLocal c none := by
  have helement : WireMessage.elementOf c ⟨c, s, none⟩ = s := by
    rw [WireMessage.elementOf, Tagged.isNull]
    split_ifs with hnull hown
    · exact (SerialValue.isNull_iff.1 hnull).symm
    · rfl
    · exact absurd ⟨rfl, ha⟩ hown
  simp [readMessage, h, bind, Except.bind, helement, readElement, hn]

/-- **What arrives of an element is read as its typed value is.** -/
lemma readMessage_of_toWire (hu : u.isScalar = true) (hv : v.isScalar = true)
    (ha : (Tag.ofLocal u).Admits v) {m : WireMessage}
    (hm : v.scalarSerial.toWire (.ofLocal u) none = .ok m) :
    ∃ r w, v.scalarSerial.toLocal (.ofLocal u) none = .ok r
      ∧ readMessage (.ofLocal u) m = .ok w ∧ w.meaning? = r.meaning? := by
  have hencoded := (encodeElement_eq_ok_iff hu hv).2 ⟨ha, rfl⟩
  rw [encodeElement_ofLocal hu] at hencoded
  have harray : Tag.ofLocal u ≠ .array := by cases u <;> simp_all [Tag.ofLocal, isScalar]
  have hstruct : Tag.ofLocal u ≠ .struct := by cases u <;> simp_all [Tag.ofLocal, isScalar]
  obtain ⟨s, r, w, htyped, hw, hr, halike⟩ := SerialValue.alike_of_toWire
    (SerialValue.check_of_checked hencoded) harray hstruct hm
  refine ⟨r, w, hr, ?_, meaning?_eq_of_alike halike⟩
  rw [readMessage_of_toTyped (holdsNothing_ofLocal (isNull_of_isScalar hu)) harray htyped, hw]

/-! ## Lists -/

variable {items : List LocalValue}

/-- The message of an element of a list under a tag. -/
def sendElement (c : Tag) (v : LocalValue) : Except Error WireMessage :=
  encodeElement (some c) v >>= SerialValue.elementWire c

/-- A list is sent element by element under the tag of its first one. -/
lemma toWire_list_eq_ok_iff {m : WireMessage} : (list items).toWire = .ok m
    ↔ ∃ ms, List.Forall₂ (fun v m => sendElement (.ofElements items) v = .ok m) items ms
      ∧ .ofElements (.ofElements items) ms = m := by
  have hwire : (list items).toWire = .ofElements (.ofElements items) <$>
      (items.mapM (encodeElement (some (.ofElements items))) >>= fun ss =>
        ss.mapM (SerialValue.elementWire (.ofElements items))) := by
    have htyped : (list items).toWire = Tagged.ofLocal .array (list items) >>= Tagged.toWire := rfl
    simp only [htyped, ofLocal_list, map_eq_pure_bind, bind_assoc, pure_bind, Tagged.toWire,
      SerialValue.toWire_list_array, Option.getD_some]
  rw [hwire, map_eq_ok_iff]
  simp only [mapM_bind_mapM_eq_ok_iff, sendElement]

/-- An array that arrived is read element by element. -/
lemma toLocal_ofElements_eq_ok_iff {c : Tag} {ms : List WireMessage} {ws : List LocalValue} :
    (Tagged.ofWire (.ofElements c ms) >>= Tagged.toLocal) = .ok (list ws)
      ↔ List.Forall₂ (fun m w => readMessage c m = .ok w) ms ws := by
  have hread : (Tagged.ofWire (.ofElements c ms) >>= Tagged.toLocal)
      = list <$> (ms.mapM WireMessage.toTyped >>= fun tvs =>
          tvs.mapM fun tv => readElement (some c) (WireMessage.elementOf c tv)) := by
    have htyped : Tagged.ofWire (.ofElements c ms) = (WireMessage.ofElements c ms).toTyped := rfl
    simp only [htyped, WireMessage.toTyped_ofElements, map_eq_pure_bind, bind_assoc, pure_bind,
      Tagged.toLocal, SerialValue.toLocal_list_array, List.mapM_map]
    rfl
  rw [hread, map_eq_ok_iff]
  simp only [mapM_bind_mapM_eq_ok_iff, list.injEq, exists_eq_right, readMessage]

/-- An element is sent in its plain form. -/
lemma sendElement_eq_ok_iff (hu : u.isScalar = true) (hv : v.isScalar = true) {m : WireMessage} :
    sendElement (.ofLocal u) v = .ok m ↔ (Tag.ofLocal u).Admits v
      ∧ v.scalarSerial.toWire (.ofLocal u) none = .ok m := by
  have hscalar := isScalar_scalarSerial hv
  have hwire : v.scalarSerial.elementWire (.ofLocal u)
      = v.scalarSerial.toWire (.ofLocal u) none := by
    cases hs : v.scalarSerial <;> first | rfl | (rw [hs] at hscalar; cases hscalar)
  rw [sendElement, bind_eq_ok_iff, ← hwire]
  constructor
  · rintro ⟨s, hs, hm⟩
    obtain ⟨ha, rfl⟩ := (encodeElement_eq_ok_iff hu hv).1 hs
    exact ⟨ha, hm⟩
  · rintro ⟨ha, hm⟩
    exact ⟨_, (encodeElement_eq_ok_iff hu hv).2 ⟨ha, rfl⟩, hm⟩

/-- A null among the elements is sent as null. -/
lemma sendElement_null (c : Tag) : sendElement c .null = .ok (.nullOf .null) := by
  rw [sendElement, encodeElement_null]
  rfl

/-- The message of null is read as null. -/
lemma readMessage_null (c : Tag) : readMessage c (.nullOf .null) = .ok .null := by
  have htyped : (WireMessage.nullOf .null).toTyped = .ok ⟨.null, .null, none⟩ := rfl
  simp [readMessage, htyped, bind, Except.bind, WireMessage.elementOf, Tagged.isNull,
    SerialValue.isNull, readElement_null]

/-- What the tag of a list lets in is sent, but for floats that are no number under the tag of
decimals. -/
lemma exists_sendElement_iff (h : ∀ v ∈ items, v.isNull = true ∨ v.isScalar = true)
    (hv : v ∈ items) : (∃ m, sendElement (.ofElements items) v = .ok m)
      ↔ (Tag.ofElements items).Admits v
        ∧ ¬ (Tag.ofElements items = .number ∧ v.isNonFinite = true) := by
  obtain hn | hs := h v hv
  · obtain rfl := isNull_iff.1 hn
    simp [sendElement_null, Tag.Admits, isNull, isNonFinite]
  · obtain ⟨u, hu, htag⟩ := exists_ofElements h hv hs
    rw [htag]
    simp only [sendElement_eq_ok_iff hu hs, exists_and_left]
    exact and_congr_right fun ha => exists_toWire_iff hu hs ha

/-- What was sent of a list is read as it was when the tag of the list keeps it, and only then. -/
lemma exists_readMessage_iff (h : ∀ v ∈ items, v.isNull = true ∨ v.isScalar = true)
    (hv : v ∈ items) (hsent : ∃ m, sendElement (.ofElements items) v = .ok m) :
    (∃ m w, sendElement (.ofElements items) v = .ok m
        ∧ readMessage (.ofElements items) m = .ok w ∧ w.meaning? = v.meaning?)
      ↔ (Tag.ofElements items).Keeps v := by
  obtain hn | hs := h v hv
  · obtain rfl := isNull_iff.1 hn
    exact iff_of_true ⟨_, .null, sendElement_null _, readMessage_null _, rfl⟩ (.inl rfl)
  · obtain ⟨u, hu, htag⟩ := exists_ofElements h hv hs
    rw [htag] at hsent ⊢
    obtain ⟨m, hm⟩ := hsent
    obtain ⟨ha, hwire⟩ := (sendElement_eq_ok_iff hu hs).1 hm
    obtain ⟨r, w, hr, hw, hlike⟩ := readMessage_of_toWire hu hs ha hwire
    rw [← exists_toLocal_iff hs ha]
    constructor
    · rintro ⟨m', w', hm', hw', hlike'⟩
      obtain rfl : m = m' := Except.ok.inj (hm.symm.trans hm')
      obtain rfl : w = w' := Except.ok.inj (hw.symm.trans hw')
      exact ⟨r, hr, hlike.symm.trans hlike'⟩
    · rintro ⟨r', hr', hlike'⟩
      obtain rfl : r = r' := Except.ok.inj (hr.symm.trans hr')
      exact ⟨m, w, hm, hw, hlike.trans hlike'⟩

/-- **When a list of values without parts is not silently altered** by the tag of its first element.
Its typed value is not made, or is read as the list was, exactly when the tag refuses one of the
elements or keeps all of them. Over the wire the same holds, except that a list is refused as well
when there is a float that is no number under the tag of decimals.

**Proof sketch.** Either way is a walk that encodes each element and a walk that reads each result.
What the tag lets in is encoded in its plain form and read as the value of the same meaning in the
variant of the tag, if there is one. The wire changes no meaning. -/
theorem mixed_lists_unaltered_iff (h : ∀ v ∈ items, v.isNull = true ∨ v.isScalar = true) :
    (Unaltered (Tagged.ofLocal .array (list items)) Tagged.toLocal items
      ↔ (∃ v ∈ items, ¬ (Tag.ofElements items).Admits v)
        ∨ ∀ v ∈ items, (Tag.ofElements items).Keeps v)
    ∧ (Unaltered (list items).toWire (fun m => Tagged.ofWire m >>= Tagged.toLocal) items
      ↔ (∃ v ∈ items, ¬ (Tag.ofElements items).Admits v
          ∨ Tag.ofElements items = .number ∧ v.isNonFinite = true)
        ∨ ∀ v ∈ items, (Tag.ofElements items).Keeps v) := by
  refine ⟨unaltered_typed_iff h, ?_⟩
  rw [unaltered_iff (fun _ => toWire_list_eq_ok_iff) fun _ _ => toLocal_ofElements_eq_ok_iff]
  have hrefused : (∃ v ∈ items, ¬ ∃ m, sendElement (.ofElements items) v = .ok m)
      ↔ ∃ v ∈ items, ¬ (Tag.ofElements items).Admits v
          ∨ Tag.ofElements items = .number ∧ v.isNonFinite = true :=
    exists_congr fun v => and_congr_right fun hv => by
      rw [exists_sendElement_iff h hv, not_and_or, not_not]
  rw [← hrefused]
  refine or_congr_right' fun hsent => forall₂_congr fun v hv => ?_
  push Not at hsent
  exact exists_readMessage_iff h hv (hsent v hv)

/-- Integers of other widths come back under the tag of the first one, as long as they fit. -/
theorem mixed_lists_unaltered_within_width :
    Unaltered (Tagged.ofLocal .array (list [.int 1, .byte 2, .null, .long 3])) Tagged.toLocal
        [.int 1, .byte 2, .null, .long 3]
      ∧ Unaltered (list [.int 1, .byte 2, .null, .long 3]).toWire
        (fun m => Tagged.ofWire m >>= Tagged.toLocal) [.int 1, .byte 2, .null, .long 3] := by
  have hscalar : ∀ v ∈ [int 1, byte 2, null, long 3], v.isNull = true ∨ v.isScalar = true := by
    simp [isNull, isScalar]
  have hkeeps : ∀ v ∈ [int 1, byte 2, null, long 3], Tag.integer.Keeps v := by
    simp only [List.forall_mem_cons, List.not_mem_nil, false_imp_iff, implies_true, and_true]
    exact ⟨.inr ⟨.int 1, rfl, rfl⟩, .inr ⟨.int 2, rfl, rfl⟩, .inl rfl, .inr ⟨.int 3, rfl, rfl⟩⟩
  obtain ⟨htyped, hwire⟩ := mixed_lists_unaltered_iff hscalar
  exact ⟨htyped.2 (.inr hkeeps), hwire.2 (.inr hkeeps)⟩

/-- A byte in front cuts an integer to eight bits, and a text in front makes a text of a byte
string, which is sent so as well. -/
theorem mixed_lists_altered :
    (Tagged.ofLocal .array (list [.byte 1, .int 300]) >>= Tagged.toLocal)
        = .ok (list [.byte 1, .byte 44])
      ∧ ¬ Unaltered (Tagged.ofLocal .array (list [.byte 1, .int 300])) Tagged.toLocal
        [.byte 1, .int 300]
      ∧ ((list [.string "a", .bytes [1]]).toWire >>= fun m => Tagged.ofWire m >>= Tagged.toLocal)
        = .ok (list [.string "a", .string "AQ=="])
      ∧ ¬ Unaltered (list [.string "a", .bytes [1]]).toWire
        (fun m => Tagged.ofWire m >>= Tagged.toLocal) [.string "a", .bytes [1]] := by
  have hcut : (Tagged.ofLocal .array (list [.byte 1, .int 300]) >>= Tagged.toLocal)
      = .ok (list [.byte 1, .byte 44]) := rfl
  have htext : ((list [.string "a", .bytes [1]]).toWire >>= fun m =>
      Tagged.ofWire m >>= Tagged.toLocal) = .ok (list [.string "a", .string "AQ=="]) := rfl
  refine ⟨hcut, not_unaltered hcut ?_, htext, not_unaltered htext ?_⟩
  · simp only [List.forall₂_cons, meaning?, Option.some.injEq, Meaning.number.injEq,
      Quantity.ofInt_inj]
    decide
  · simp [meaning?]

end LocalValue

end TypedRows
