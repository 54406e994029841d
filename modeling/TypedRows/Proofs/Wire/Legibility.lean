import TypedRows.Proofs.Value.Form
import TypedRows.Proofs.Value.Shape
import TypedRows.Proofs.Wire.Absence

/-!
# Legible messages

A message is read without a look at whether the text of a character is one character and whether
the text that stands in for a byte string is base64, so a typed value that was read need not be
well-formed. It is when every message that was read is legible.

## Main definitions

* `TypedRows.WireMessage.isLegible` — the payload of a message can be read under its tag.
* `TypedRows.WireMessage.Legible` — so can all payloads that reading comes to.
* `TypedRows.Tagged.WellFormed` — typed values that pass their checks and denote a local value.

## Main results

* `TypedRows.WireMessage.toLocal_iff_legible` — legible messages are those that denote a value.
* `TypedRows.Tagged.wellFormed_iff_legible` — which messages are read as well-formed values.
-/

set_option autoImplicit false

namespace TypedRows

/-! ## Legibility -/

namespace WireMessage

/-- Whether a text is read as a decimal; an empty one is read as zero. -/
def isDecimalText (text : String) : Bool := text.isEmpty || (Decimal.read? text).isSome

/-- Whether the payload that counts for the tag of a message can be read under the tag. The parts
of arrays and records are messages of their own. -/
def isLegible (m : WireMessage) : Bool :=
  match WireTag.ofNumber? m.type with
  | none | some .multiset => false
  | some .bigInteger => true
  | some .bigDecimal => m.numberValue.isSome || isDecimalText (m.stringValue.getD "")
  | some (.plain tag) =>
    match tag.boxed with
    | .number => m.numberValue.isSome || m.stringValue.all isDecimalText
    | .character => (SerialValue.singleCharacter? (m.stringValue.getD "")).isSome
    | .byteString => m.bytesValue.isSome || m.stringValue.all fun t => (Base64.read? t).isSome
    | .object | .null => false
    | _ => true

/-- Every message that reading comes to is null or legible. -/
def Legible (m : WireMessage) : Prop :=
  ∀ path e, m.element? path = some e → m.reaches path = true → e.isNull = true ∨ e.isLegible = true

/-- A message is legible when it is null or its payload can be read and its elements, if they are
read, are legible. -/
lemma legible_iff {m : WireMessage} :
    m.Legible ↔ (m.isNull = true ∨ m.isLegible = true)
      ∧ (m.isComposite = true → ∀ e ∈ m.elements, e.Legible) := by
  constructor
  · intro h
    refine ⟨h [] m rfl rfl, ?_⟩
    intro hc e he path x hx hr
    obtain ⟨i, hi⟩ := List.getElem?_of_mem he
    exact h (i :: path) x (by simp [element?, hi, hx]) (by simp [reaches, hc, hi, hr])
  · rintro ⟨hm, hparts⟩ (_ | ⟨i, path⟩) x hx hr
    · obtain rfl := Option.some.inj hx
      exact hm
    · obtain ⟨e, he, hx⟩ := Option.bind_eq_some_iff.1 hx
      simp only [reaches, he, Option.any_some, Bool.and_eq_true] at hr
      exact hparts hr.1 e (List.mem_of_getElem? he) path x hx hr.2

/-! ## Values without parts -/

/-- A value fits a tag when it passes the check of the tag and denotes a local value under it. -/
def Fits (tag : Tag) (s : SerialValue) : Prop :=
  s.check tag = .ok () ∧ ∃ v, s.toLocal tag none = .ok v

section Fits

variable {tag : Tag}

/-- A truth value fits the tags of truth values. -/
lemma fits_bool (h : tag.boxed = .boolean) (b : Bool) : Fits tag (.bool b) := by
  refine ⟨SerialValue.check_of_hasShape (by rw [h]; rfl) (by rw [h]; rfl), .bool b, ?_⟩
  simp [SerialValue.toLocal, SerialValue.scalarLocal, h]

/-- A text fits the tag of texts. -/
lemma fits_string (h : tag.boxed = .string) (t : String) : Fits tag (.string t) := by
  refine ⟨SerialValue.check_of_hasShape (by rw [h]; rfl) (by rw [h]; rfl), .string t, ?_⟩
  simp [SerialValue.toLocal, SerialValue.scalarLocal, h]

/-- A float fits the tags of floats. -/
lemma fits_float (h : tag.boxed = .float ∨ tag.boxed = .double) (x : Binary64) :
    Fits tag (.float x) := by
  have hx : (SerialValue.float x).floating tag = .ok x := rfl
  obtain h | h := h
  · refine ⟨SerialValue.check_of_hasShape (by rw [h]; rfl) (by rw [h]; rfl),
      .float (.ofBinary64 x), ?_⟩
    simp [SerialValue.toLocal, SerialValue.scalarLocal, h, hx]
  · refine ⟨SerialValue.check_of_hasShape (by rw [h]; rfl) (by rw [h]; rfl), .double x, ?_⟩
    simp [SerialValue.toLocal, SerialValue.scalarLocal, h, hx]

/-- An integer fits the integral tags. -/
lemma fits_integer (h : tag.isIntegral = true) (n : Int64) : Fits tag (.integer n) := by
  cases tag <;> first | exact ⟨rfl, _, rfl⟩ | cases h

end Fits

/-- What is read as a decimal is the text of one. -/
lemma isDecimalText_of_readDecimal {wireTag : WireTag} {text : String} {s : SerialValue}
    (h : wireTag.readDecimal text = .ok s) :
    isDecimalText text = true ∧ ∃ d, s = .decimal d := by
  rw [WireTag.readDecimal] at h
  split_ifs at h with he
  · obtain rfl := Except.ok.inj h
    exact ⟨by simp [isDecimalText, he], _, rfl⟩
  · split at h
    · next hd =>
      obtain rfl := Except.ok.inj h
      exact ⟨by simp [isDecimalText, hd], _, rfl⟩
    · cases h

/-- A number is read from the payload that is there, and every decimal and integer fits. -/
lemma number_cases {m : WireMessage} {s : SerialValue}
    (hw : WireTag.ofNumber? m.type = some (.plain .number))
    (h : m.scalarValue (.plain .number) .number = .ok s) :
    m.isLegible = true ∧ Fits .number s := by
  rw [isLegible, hw]
  simp only [scalarValue, Tag.boxed] at h ⊢
  split at h
  · next hn hbytes =>
    obtain rfl := Except.ok.inj h
    exact ⟨by simp [hn], rfl, _, rfl⟩
  · next hn hbytes =>
    obtain rfl := Except.ok.inj h
    exact ⟨by simp [hn], rfl, _, rfl⟩
  · split at h
    · next text htext =>
      obtain ⟨hlegible, d, rfl⟩ := isDecimalText_of_readDecimal h
      exact ⟨by simp [htext, hlegible], rfl, _, rfl⟩
    · next htext =>
      obtain rfl := Except.ok.inj h
      exact ⟨by simp [htext], rfl, _, rfl⟩

/-- Bytes are written as base64, and a text that stands in for them is taken as it is. -/
lemma byteString_cases {m : WireMessage} {s : SerialValue}
    (hw : WireTag.ofNumber? m.type = some (.plain .byteString))
    (h : m.scalarValue (.plain .byteString) .byteString = .ok s) :
    ∃ t, s = .string t ∧ m.isLegible = (Base64.read? t).isSome := by
  rw [isLegible, hw]
  simp only [scalarValue, Tag.boxed] at h ⊢
  cases hbytes : m.bytesValue with
  | some b =>
    rw [hbytes] at h
    split at h
    · contradiction
    · obtain rfl := Except.ok.inj h
      exact ⟨_, rfl, by simp_all⟩
  | none =>
    rw [hbytes] at h
    split at h
    · next text hs _ =>
      obtain rfl := Except.ok.inj h
      exact ⟨text, rfl, by simp [hs]⟩
    · obtain rfl := Except.ok.inj h
      refine ⟨_, rfl, ?_⟩
      cases hs : m.stringValue <;> simp_all

/-- What the payload of a message without parts is read as: only the texts of characters and of
byte strings need not fit. -/
lemma scalar_cases {m : WireMessage} {wireTag : WireTag} {tag : Tag} {s : SerialValue}
    (hw : WireTag.ofNumber? m.type = some wireTag) (ht : wireTag.toTag = .ok tag)
    (h : m.scalarValue wireTag tag = .ok s) :
    (tag.boxed = .character ∧ ∃ t, s = .string t
        ∧ m.isLegible = (SerialValue.singleCharacter? t).isSome)
      ∨ (tag.boxed = .byteString ∧ ∃ t, s = .string t ∧ m.isLegible = (Base64.read? t).isSome)
      ∨ (m.isLegible = true ∧ Fits tag s) := by
  cases wireTag with
  | bigDecimal =>
    obtain rfl := Except.ok.inj ht
    rw [scalarValue] at h
    split at h
    · next hn =>
      obtain rfl := Except.ok.inj h
      exact .inr (.inr ⟨by simp [isLegible, hw, hn], rfl, _, rfl⟩)
    · obtain ⟨htext, d, rfl⟩ := isDecimalText_of_readDecimal h
      exact .inr (.inr ⟨by simp [isLegible, hw, htext], rfl, _, rfl⟩)
  | bigInteger =>
    obtain rfl := Except.ok.inj ht
    obtain rfl := Except.ok.inj h
    exact .inr (.inr ⟨by simp [isLegible, hw], rfl, _, rfl⟩)
  | multiset => cases ht
  | plain t =>
    obtain rfl := Except.ok.inj ht
    cases hb : t.boxed with
    | character =>
      simp only [scalarValue, hb] at h
      obtain rfl := Except.ok.inj h
      exact .inl ⟨rfl, _, rfl, by simp [isLegible, hw, hb]⟩
    | byteString =>
      obtain rfl : t = .byteString := by cases t <;> first | rfl | cases hb
      exact .inr (.inl ⟨rfl, byteString_cases hw h⟩)
    | number =>
      obtain rfl : t = .number := by cases t <;> first | rfl | cases hb
      exact .inr (.inr (number_cases hw h))
    | boolean =>
      simp only [scalarValue, hb] at h
      obtain rfl := Except.ok.inj h
      exact .inr (.inr ⟨by simp [isLegible, hw, hb], fits_bool hb _⟩)
    | string =>
      simp only [scalarValue, hb] at h
      obtain rfl := Except.ok.inj h
      exact .inr (.inr ⟨by simp [isLegible, hw, hb], fits_string hb _⟩)
    | float | double =>
      simp only [scalarValue, hb] at h
      obtain rfl := Except.ok.inj h
      exact .inr (.inr ⟨by simp [isLegible, hw, hb], fits_float (by simp [hb]) _⟩)
    | array | struct | object | null =>
      simp only [scalarValue, hb] at h
      cases h
    | _ =>
      -- every other tag is one of integers, dates and times
      have hi : t.isIntegral = true := by
        cases t <;> first | rfl | cases hb
      simp only [scalarValue, hb] at h
      obtain rfl := Except.ok.inj h
      exact .inr (.inr ⟨by simp [isLegible, hw, hb], fits_integer hi _⟩)

/-- A value without parts denotes a local value exactly when its message is legible. -/
lemma toLocal_scalar_iff {m : WireMessage} {wireTag : WireTag} {tag : Tag} {s : SerialValue}
    (hw : WireTag.ofNumber? m.type = some wireTag) (ht : wireTag.toTag = .ok tag)
    (h : m.scalarValue wireTag tag = .ok s) :
    (∃ v, s.toLocal tag none = .ok v) ↔ m.isLegible = true := by
  rcases scalar_cases hw ht h with ⟨hb, t, rfl, hl⟩ | ⟨hb, t, rfl, hl⟩ | ⟨hl, hfits⟩
  · rw [hl]
    cases hc : SerialValue.singleCharacter? t <;>
      simp [SerialValue.toLocal, SerialValue.scalarLocal, hb, hc]
  · rw [hl]
    cases hc : Base64.read? t <;> simp [SerialValue.toLocal, SerialValue.scalarLocal, hb, hc]
  · exact iff_of_true hfits.2 hl

/-- A value without parts passes its check when its message is legible. -/
lemma check_scalar {m : WireMessage} {wireTag : WireTag} {tag : Tag} {s : SerialValue}
    (hw : WireTag.ofNumber? m.type = some wireTag) (ht : wireTag.toTag = .ok tag)
    (h : m.scalarValue wireTag tag = .ok s) (hl : m.isLegible = true) : s.check tag = .ok () := by
  rcases scalar_cases hw ht h with ⟨hb, t, rfl, hl'⟩ | ⟨hb, t, rfl, -⟩ | ⟨-, hfits⟩
  · refine SerialValue.check_of_hasShape ?_ (by rw [hb]; rfl)
    rw [hb, SerialValue.hasShape_character_iff, ← Option.isSome_iff_exists]
    rw [← hl', hl]
  · exact SerialValue.check_of_hasShape (by rw [hb]; rfl) (by rw [hb]; rfl)
  · exact hfits.1

/-- Only the texts of characters and of byte strings are illegible. -/
lemma boxed_of_not_isLegible {m : WireMessage} {wireTag : WireTag} {tag : Tag} {s : SerialValue}
    (hw : WireTag.ofNumber? m.type = some wireTag) (ht : wireTag.toTag = .ok tag)
    (h : m.scalarValue wireTag tag = .ok s) (hl : m.isLegible = false) :
    tag.boxed = .character ∨ tag.boxed = .byteString := by
  rcases scalar_cases hw ht h with ⟨hb, -⟩ | ⟨hb, -⟩ | ⟨hl', -⟩
  · exact .inl hb
  · exact .inr hb
  · simp [hl'] at hl

/-! ## Values with parts -/

/-- Nothing but null is read under the tags that hold nothing. -/
lemma holdsNothing_tag {m : WireMessage} {tv : TypedValue} (h : m.toTyped = .ok tv)
    (hn : m.isNull = false) : tv.tag.holdsNothing = false := by
  obtain ⟨wireTag, htags, hv⟩ := toTyped_eq_ok_iff.1 h
  obtain ⟨hw, ht, -⟩ := ofNumber?_of_tags htags
  rw [if_neg (by simp [hn])] at hv
  by_cases hc : tv.tag = .array ∨ tv.tag = .struct
  · obtain hc | hc := hc <;> rw [hc] <;> rfl
  · rw [not_or] at hc
    rw [payload_scalar hc.1 hc.2] at hv
    rcases scalar_cases hw ht hv with ⟨hb, -⟩ | ⟨hb, -⟩ | ⟨-, hcheck, -⟩
    · cases hv' : tv.tag <;> simp_all [Tag.boxed, Tag.holdsNothing]
    · cases hv' : tv.tag <;> simp_all [Tag.boxed, Tag.holdsNothing]
    · refine ((SerialValue.check_eq_ok_iff.1 hcheck).resolve_left fun hnull => ?_).1
      have hs := isScalar_of_scalarValue hv
      cases hval : tv.value <;> simp_all [SerialValue.isScalar, SerialValue.isNull]

/-- Only arrays have a tag for their elements, and they all do. -/
lemma component_cases {m : WireMessage} {tv : TypedValue} (h : m.toTyped = .ok tv) :
    (tv.tag = .array ∧ ∃ c, tv.component = some c)
      ∨ (tv.tag ≠ .array ∧ tv.component = none) := by
  obtain ⟨wireTag, htags, -⟩ := toTyped_eq_ok_iff.1 h
  obtain ⟨-, -, hc⟩ := ofNumber?_of_tags htags
  by_cases ha : tv.tag = .array
  · rw [ha, componentTag, if_pos rfl] at hc
    obtain ⟨w, -, hc⟩ := bind_eq_ok_iff.1 hc
    obtain ⟨c, -, hc⟩ := bind_eq_ok_iff.1 hc
    exact .inl ⟨ha, c, (Except.ok.inj hc).symm⟩
  · rw [componentTag_of_ne m ha] at hc
    exact .inr ⟨ha, (Except.ok.inj hc).symm⟩

/-- A null denotes null, whatever its tag. -/
lemma toLocal_of_isNull {tv : TypedValue} (h : tv.isNull = true) : tv.toLocal = .ok .null := by
  obtain ⟨tag, s, component⟩ := tv
  cases s <;> first | rfl | cases h

/-- A part of an array denotes what its element was read as. -/
lemma readElement_partOf {m : WireMessage} {tv : TypedValue} (h : m.toTyped = .ok tv) (c : Tag) :
    LocalValue.readElement (some c) (partOf .array (some c) tv) = tv.toLocal := by
  rw [partOf, if_pos rfl, elementOf]
  split_ifs with hn hc
  · rw [LocalValue.readElement_null, toLocal_of_isNull hn]
  · obtain ⟨rfl, ha⟩ := hc
    have hm : m.isNull = false := by
      rw [← Bool.not_eq_true, ← value_eq_null_iff h]
      exact mt SerialValue.isNull_iff.2 hn
    rw [Option.getD_some] at ha
    rw [LocalValue.readElement, holdsNothing_tag h hm, Tagged.toLocal]
    simp [((component_cases h).resolve_left fun hc => ha hc.1).2]
  · rw [LocalValue.readElement]
    split_ifs <;> rfl

/-- A part of a record denotes what its field was read as. -/
lemma toPlainLocal_partOf (tv : TypedValue) :
    (partOf .struct none tv).toPlainLocal = tv.toLocal := by
  rw [partOf, if_neg (by decide), fieldOf]
  split_ifs with hn
  · rw [toLocal_of_isNull hn]
    rfl
  · rfl

/-- A value with parts denotes a local value exactly when all its parts do. -/
lemma toLocal_parts_iff {m : WireMessage} {tv : TypedValue} {tvs : List TypedValue}
    (h : m.toTyped = .ok tv) (htag : tv.tag = .array ∨ tv.tag = .struct)
    (hv : tv.value = .list (tvs.map (partOf tv.tag tv.component)))
    (hread : List.Forall₂ (fun e t => e.toTyped = .ok t) m.elements tvs) :
    (∃ v, tv.toLocal = .ok v) ↔ ∀ t ∈ tvs, ∃ v, t.toLocal = .ok v := by
  have hmem {t : TypedValue} (ht : t ∈ tvs) : ∃ e : WireMessage, e.toTyped = .ok t := by
    obtain ⟨e, -, he⟩ := exists_of_mem_right hread ht
    exact ⟨e, he⟩
  rcases component_cases h with ⟨ha, c, hc⟩ | ⟨ha, hc⟩
  · rw [Tagged.toLocal, hv, ha, hc, SerialValue.toLocal, Tag.boxed_array]
    simp only [LocalValue.toLocalElements_eq_mapM]
    rw [exists_map_eq_ok_iff, exists_mapM_eq_ok_iff, List.forall_mem_map]
    apply forall₂_congr
    intro t ht
    obtain ⟨e, he⟩ := hmem ht
    rw [readElement_partOf he]
  · rw [Tagged.toLocal, hv, htag.resolve_left ha, hc, SerialValue.toLocal, Tag.boxed_struct]
    simp only [LocalValue.toPlainItems_eq_mapM]
    rw [exists_map_eq_ok_iff, exists_mapM_eq_ok_iff, List.forall_mem_map]
    simp only [toPlainLocal_partOf]

/-- Arrays and records have no payload of their own that could be illegible. -/
lemma isLegible_of_parts {m : WireMessage} {wireTag : WireTag} {tag : Tag}
    (hw : WireTag.ofNumber? m.type = some wireTag) (ht : wireTag.toTag = .ok tag)
    (h : tag = .array ∨ tag = .struct) : m.isLegible = true := by
  rw [isLegible, hw]
  obtain rfl | rfl := h <;> cases wireTag <;> first | cases ht; rfl | cases ht

/-- **A message denotes a local value exactly when it is legible.**

**Proof sketch.** By induction on the elements. Null denotes null; a value with parts denotes
something when its parts do, each of which denotes what its element was read as; a value without
parts denotes something when its payload is legible. -/
theorem toLocal_iff_legible {m : WireMessage} {tv : TypedValue} (h : m.toTyped = .ok tv) :
    (∃ v, tv.toLocal = .ok v) ↔ m.Legible := by
  induction m using elements_induction generalizing tv with
  | h m ih =>
    obtain ⟨wireTag, htags, hv⟩ := toTyped_eq_ok_iff.1 h
    obtain ⟨hw, ht, -⟩ := ofNumber?_of_tags htags
    rw [legible_iff, isComposite_iff htags]
    by_cases hn : m.isNull = true
    · rw [if_pos hn] at hv
      refine iff_of_true ⟨.null, toLocal_of_isNull ?_⟩ ⟨.inl hn, ?_⟩
      · rw [Tagged.isNull, hv]
        rfl
      · intro hc
        simp [hn] at hc
    · rw [if_neg hn] at hv
      by_cases hc : tv.tag = .array ∨ tv.tag = .struct
      · obtain ⟨tvs, hlist, hread⟩ := (payload_eq_ok_iff hc).1 hv
        have hparts : List.Forall₂ (fun e t => e.Legible ↔ ∃ v, t.toLocal = .ok v) m.elements tvs :=
          ((List.forall₂_and_left _ _).2 ⟨fun _ he => he, hread⟩).imp fun e t he =>
            (ih e he.1 he.2).symm
        rw [toLocal_parts_iff h hc hlist hread, ← forall_mem_iff_of_forall₂ hparts]
        simp [isLegible_of_parts hw ht hc, hc, hn]
      · rw [not_or] at hc
        rw [payload_scalar hc.1 hc.2] at hv
        have hcomp := ((component_cases h).resolve_left fun ha => hc.1 ha.1).2
        rw [Tagged.toLocal, hcomp, toLocal_scalar_iff hw ht hv]
        simp [hn, hc]

end WireMessage

/-! ## Well-formed values -/

namespace Tagged

/-- A typed value is well-formed when its value and the typed values within have the shapes of
their tags and it denotes a local value. -/
def WellFormed (tv : TypedValue) : Prop :=
  tv.value.check tv.tag = .ok ()
    ∧ (∀ t, tv.value.Contains t → t.value.check t.tag = .ok ())
    ∧ ∃ v, tv.toLocal = .ok v

end Tagged

namespace WireMessage

/-- What a part contains is what its element was read as or stands within it. -/
lemma contains_partOf {tag : Tag} {component : Option Tag} {tv t : TypedValue}
    (h : (partOf tag component tv).Contains t) : t = tv ∨ tv.value.Contains t := by
  rw [partOf, elementOf, fieldOf] at h
  split_ifs at h
  · cases h
  · exact .inr h
  · cases h with
    | self => exact .inl rfl
    | typed h => exact .inr h
  · cases h
  · cases h with
    | self => exact .inl rfl
    | typed h => exact .inr h

/-- **What is read of a legible message has the shapes of its tags**, and so do the typed values
within. -/
theorem check_of_legible {m : WireMessage} {tv : TypedValue} (h : m.toTyped = .ok tv)
    (hl : m.Legible) :
    tv.value.check tv.tag = .ok () ∧ ∀ t, tv.value.Contains t → t.value.check t.tag = .ok () := by
  induction m using elements_induction generalizing tv with
  | h m ih =>
    obtain ⟨wireTag, htags, hv⟩ := toTyped_eq_ok_iff.1 h
    obtain ⟨hw, ht, -⟩ := ofNumber?_of_tags htags
    rw [legible_iff, isComposite_iff htags] at hl
    by_cases hn : m.isNull = true
    · rw [if_pos hn] at hv
      rw [hv]
      refine ⟨SerialValue.check_eq_ok_iff.2 (.inl rfl), ?_⟩
      intro t hcontains
      cases hcontains
    · rw [if_neg hn] at hv
      by_cases hc : tv.tag = .array ∨ tv.tag = .struct
      · obtain ⟨tvs, hlist, hread⟩ := (payload_eq_ok_iff hc).1 hv
        rw [hlist]
        refine ⟨?_, ?_⟩
        · obtain hc | hc := hc <;> rw [hc] <;> rfl
        · rintro t (_ | ⟨hs, hcontains⟩ | _)
          obtain ⟨inner, hinner, rfl⟩ := List.mem_map.1 hs
          obtain ⟨e, he, hread⟩ := exists_of_mem_right hread hinner
          have hchecks := ih e he hread (hl.2 ⟨by simpa using hn, hc⟩ e he)
          rcases contains_partOf hcontains with rfl | hcontains
          · exact hchecks.1
          · exact hchecks.2 t hcontains
      · rw [not_or] at hc
        rw [payload_scalar hc.1 hc.2] at hv
        refine ⟨check_scalar hw ht hv (hl.1.resolve_left hn), ?_⟩
        intro t hcontains
        have hs := isScalar_of_scalarValue hv
        generalize tv.value = s at hs hcontains
        cases hcontains <;> cases hs

/-- Reading a message reads every message that it comes to. -/
lemma exists_toTyped_of_reaches {path : List Nat} {m e : WireMessage} {tv : TypedValue}
    (h : m.toTyped = .ok tv) (he : m.element? path = some e) (hr : m.reaches path = true) :
    ∃ t, e.toTyped = .ok t := by
  induction path generalizing m tv with
  | nil =>
    obtain rfl := Option.some.inj he
    exact ⟨tv, h⟩
  | cons i path ih =>
    obtain ⟨child, hchild, he⟩ := Option.bind_eq_some_iff.1 he
    rw [reaches, hchild, Option.any_some, Bool.and_eq_true] at hr
    obtain ⟨wireTag, htags, hv⟩ := toTyped_eq_ok_iff.1 h
    obtain ⟨hn, hc⟩ := (isComposite_iff htags).1 hr.1
    rw [if_neg (by simp [hn])] at hv
    obtain ⟨tvs, -, hread⟩ := (payload_eq_ok_iff hc).1 hv
    obtain ⟨t, -, ht⟩ := getElem?_of_forall₂ hread hchild
    exact ih ht he hr.2

/-- A message that is read and illegible is a character or a byte string. -/
lemma illegible_of_toTyped {m : WireMessage} {tv : TypedValue} (h : m.toTyped = .ok tv)
    (hn : m.isNull = false) (hl : m.isLegible = false) :
    ∃ tag, WireTag.ofNumber? m.type = some (.plain tag)
      ∧ (tag.boxed = .character ∨ tag.boxed = .byteString) := by
  obtain ⟨wireTag, htags, hv⟩ := toTyped_eq_ok_iff.1 h
  obtain ⟨hw, ht, -⟩ := ofNumber?_of_tags htags
  rw [if_neg (by simp [hn])] at hv
  by_cases hc : tv.tag = .array ∨ tv.tag = .struct
  · rw [isLegible_of_parts hw ht hc] at hl
    cases hl
  · rw [not_or] at hc
    rw [payload_scalar hc.1 hc.2] at hv
    have hb := boxed_of_not_isLegible hw ht hv hl
    cases wireTag with
    | plain tag =>
      obtain rfl := Except.ok.inj ht
      exact ⟨_, hw, hb⟩
    | multiset => cases ht
    | _ =>
      rw [← Except.ok.inj ht] at hb
      simp [Tag.boxed] at hb

end WireMessage

namespace Tagged

/-- **A message is read as a well-formed value exactly when it is legible** or stands for an absent
value. Reading refuses what is illegible but for the texts of characters and of byte strings.

**Proof sketch.** A legible message gives values of the right shapes at every depth, and it is the
legible messages that denote a local value. -/
theorem wellFormed_iff_legible {m : WireMessage} {tv : TypedValue}
    (h : Tagged.ofWire m = .ok tv) :
    (tv.WellFormed ↔ (m.implicitlyNull = false → m.Legible))
      ∧ ∀ path e, m.implicitlyNull = false → m.element? path = some e →
        m.reaches path = true → e.isNull = false → e.isLegible = false →
        ∃ tag, WireTag.ofNumber? e.type = some (.plain tag)
          ∧ (tag.boxed = .character ∨ tag.boxed = .byteString) := by
  rw [Tagged.ofWire] at h
  split_ifs at h with hm
  · obtain rfl := Except.ok.inj h
    simp only [hm, Bool.true_eq_false, false_implies, implies_true, and_true, iff_true]
    refine ⟨rfl, ?_, .null, rfl⟩
    intro t hcontains
    cases hcontains
  · rw [Bool.not_eq_true] at hm
    simp only [hm, forall_const]
    refine ⟨⟨?_, ?_⟩, ?_⟩
    · intro hwf
      exact (WireMessage.toLocal_iff_legible h).1 hwf.2.2
    · intro hl
      have hchecks := WireMessage.check_of_legible h hl
      exact ⟨hchecks.1, hchecks.2, (WireMessage.toLocal_iff_legible h).2 hl⟩
    · intro path e he hr hn hl
      obtain ⟨t, ht⟩ := WireMessage.exists_toTyped_of_reaches h he hr
      exact WireMessage.illegible_of_toTyped ht hn hl

/-- An array of a character and a null. -/
theorem wellFormed_array_of_character :
    ∃ tv, Tagged.ofWire { WireMessage.tagged .array with
          componentType := (WireTag.plain .character).number
          elements := [{ WireMessage.tagged .character with stringValue := some "a" },
            .nullOf .null] } = .ok tv ∧ tv.WellFormed := by
  have h : Tagged.ofWire { WireMessage.tagged .array with
      componentType := (WireTag.plain .character).number
      elements := [{ WireMessage.tagged .character with stringValue := some "a" },
        .nullOf .null] } = .ok _ := rfl
  refine ⟨_, h, (wellFormed_iff_legible h).1.2 ?_⟩
  intro _
  refine WireMessage.legible_iff.2 ⟨.inr rfl, ?_⟩
  intro _ e he
  simp only [List.mem_cons, List.not_mem_nil, or_false] at he
  rcases he with rfl | rfl
  · exact WireMessage.legible_iff.2 ⟨.inr (by decide), nofun⟩
  · exact WireMessage.legible_iff.2 ⟨.inl rfl, nofun⟩

/-- Two letters are read as a character, which fits no shape and denotes no local value. -/
theorem not_wellFormed_two_letters :
    ∃ tv, Tagged.ofWire { WireMessage.tagged .character with stringValue := some "ab" } = .ok tv
      ∧ tv.value.check tv.tag ≠ .ok () ∧ (∀ v, tv.toLocal ≠ .ok v) ∧ ¬ tv.WellFormed := by
  have hcheck : (SerialValue.string "ab").check .character ≠ .ok () := nofun
  exact ⟨_, rfl, hcheck, nofun, fun h => hcheck h.1⟩

end Tagged

end TypedRows
