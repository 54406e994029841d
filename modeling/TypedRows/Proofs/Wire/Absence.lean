import TypedRows.Proofs.Wire.Arrival

/-!
# Absent values within messages

A message may say that there was no value at all. As a whole such a message is read as the
explicit null, but among the elements of another message the mark is not looked at: the element is
read by its tag and its payload, so it is null only when it says that it is null as well.

## Main definitions

* `TypedRows.WireMessage.element?`, `TypedRows.SerialValue.part?` — the message and the part of a
  value at a path.
* `TypedRows.WireMessage.reaches` — whether reading a message comes to the element at a path.

## Main results

* `TypedRows.WireMessage.part?_of_toTyped` — the part at a path that is reached is null exactly
  when the element says so.
* `TypedRows.Tagged.absent_element_is_null_iff` — which absent values are read as null.
-/

set_option autoImplicit false

namespace TypedRows

/-! ## Paths -/

namespace WireMessage

/-- The message at a path of positions among the elements. -/
def element? : WireMessage → List Nat → Option WireMessage
  | m, [] => some m
  | m, i :: path => m.elements[i]?.bind (element? · path)

/-- Whether a message is read element by element: it is an array or a record and not null. -/
def isComposite (m : WireMessage) : Bool :=
  !m.isNull && (WireTag.ofNumber? m.type == some (.plain .array)
    || WireTag.ofNumber? m.type == some (.plain .struct))

/-- Whether reading a message comes to the element at a path. -/
def reaches : WireMessage → List Nat → Bool
  | _, [] => true
  | m, i :: path => m.isComposite && m.elements[i]?.any (reaches · path)

end WireMessage

namespace SerialValue

/-- A value without the tag that it may carry as part of another one. -/
def bare : SerialValue → SerialValue
  | typed tv => tv.value
  | other => other

/-- The part of a value at a path of positions in lists. -/
def part? : SerialValue → List Nat → Option SerialValue
  | s, [] => some s
  | s, i :: path =>
    match s.bare with
    | list items => items[i]?.bind (part? · path)
    | _ => none

end SerialValue

/-! ## Reading along a path -/

namespace WireMessage

/-- The payload of a message without elements has no parts. -/
lemma isScalar_of_scalarValue {m : WireMessage} {wireTag : WireTag} {tag : Tag} {s : SerialValue}
    (h : m.scalarValue wireTag tag = .ok s) : s.isScalar = true := by
  have hdecimal {w : WireTag} {text : String} (h : w.readDecimal text = .ok s) :
      s.isScalar = true := by
    unfold WireTag.readDecimal at h
    split_ifs at h
    · obtain rfl := Except.ok.inj h
      rfl
    · split at h
      · obtain rfl := Except.ok.inj h
        rfl
      · cases h
  unfold scalarValue at h
  repeat' split at h
  all_goals first
    | exact hdecimal h
    | (cases h; rfl)
    | cases h

/-- The tags of a message come from the tag that its number names. -/
lemma ofNumber?_of_tags {m : WireMessage} {wireTag : WireTag} {tag : Tag}
    {component : Option Tag} (h : m.tags = .ok (wireTag, tag, component)) :
    WireTag.ofNumber? m.type = some wireTag ∧ wireTag.toTag = .ok tag
      ∧ m.componentTag tag = .ok component := by
  obtain ⟨w, hw, h⟩ := bind_eq_ok_iff.1 h
  obtain ⟨t, ht, h⟩ := bind_eq_ok_iff.1 h
  obtain ⟨c, hc, h⟩ := bind_eq_ok_iff.1 h
  obtain ⟨rfl, rfl, rfl⟩ : w = wireTag ∧ t = tag ∧ c = component := by
    simpa [pure, Except.pure] using h
  refine ⟨?_, ht, hc⟩
  rw [WireTag.read] at hw
  split at hw
  · rw [‹WireTag.ofNumber? m.type = _›, Except.ok.inj hw]
  · cases hw

/-- A message is read element by element when its tag is that of arrays or of records and it is
not null. -/
lemma isComposite_iff {m : WireMessage} {wireTag : WireTag} {tag : Tag} {component : Option Tag}
    (h : m.tags = .ok (wireTag, tag, component)) :
    m.isComposite = true ↔ m.isNull = false ∧ (tag = .array ∨ tag = .struct) := by
  obtain ⟨hw, ht, -⟩ := ofNumber?_of_tags h
  cases wireTag with
  | plain t =>
    obtain rfl := Except.ok.inj ht
    simp [isComposite, hw]
  | multiset => cases ht
  | _ =>
    obtain rfl := Except.ok.inj ht
    simp [isComposite, hw]

/-- A value that is read carries no tag of its own. -/
lemma bare_value {m : WireMessage} {tv : TypedValue} (h : m.toTyped = .ok tv) :
    tv.value.bare = tv.value := by
  obtain ⟨wireTag, -, h⟩ := toTyped_eq_ok_iff.1 h
  split_ifs at h with hn
  · rw [h]
    rfl
  · by_cases hc : tv.tag = .array ∨ tv.tag = .struct
    · obtain ⟨tvs, hs, -⟩ := (payload_eq_ok_iff hc).1 h
      rw [hs]
      rfl
    · rw [not_or] at hc
      have hs := isScalar_of_scalarValue ((payload_scalar hc.1 hc.2).symm.trans h)
      cases hv : tv.value <;> simp_all [SerialValue.isScalar, SerialValue.bare]

/-- A value that is read is null exactly when the message says so. -/
lemma value_eq_null_iff {m : WireMessage} {tv : TypedValue} (h : m.toTyped = .ok tv) :
    tv.value = .null ↔ m.isNull = true := by
  obtain ⟨wireTag, -, h⟩ := toTyped_eq_ok_iff.1 h
  split_ifs at h with hn
  · exact iff_of_true h hn
  · refine iff_of_false ?_ hn
    intro hv
    rw [hv] at h
    by_cases hc : tv.tag = .array ∨ tv.tag = .struct
    · obtain ⟨tvs, hs, -⟩ := (payload_eq_ok_iff hc).1 h
      cases hs
    · rw [not_or] at hc
      cases isScalar_of_scalarValue ((payload_scalar hc.1 hc.2).symm.trans h)

/-- A part is null when the value of its typed value is. -/
lemma partOf_eq_null_iff {tag : Tag} {component : Option Tag} {tv : TypedValue} :
    partOf tag component tv = .null ↔ tv.value = .null := by
  have hn : tv.isNull = true ↔ tv.value = .null := SerialValue.isNull_iff
  rw [partOf, elementOf, fieldOf]
  split_ifs <;> simp_all

/-- What a part holds is the value of its typed value. -/
lemma bare_partOf {tag : Tag} {component : Option Tag} {tv : TypedValue}
    (h : tv.value.bare = tv.value) : (partOf tag component tv).bare = tv.value := by
  by_cases hn : tv.value = .null
  · rw [partOf_eq_null_iff.2 hn, hn]
    rfl
  · rw [partOf, elementOf, fieldOf]
    have hn' : ¬ tv.isNull = true := mt SerialValue.isNull_iff.1 hn
    split_ifs <;> simp_all [SerialValue.bare]

/-- **The part at a path that is reached is null exactly when the element says so**, whether or
not it also says that it is absent; there is no part at a path that is not reached.

**Proof sketch.** By induction on the path. A composite message has a part for every element, the
one that its element is read as; a message that is not composite has no parts. -/
theorem part?_of_toTyped {path : List Nat} {m e : WireMessage} {tv : TypedValue} {s : SerialValue}
    (h : m.toTyped = .ok tv) (hs : s.bare = tv.value) (hnull : s = .null ↔ tv.value = .null)
    (he : m.element? path = some e) :
    (m.reaches path = true → ∃ r, s.part? path = some r ∧ (r = .null ↔ e.isNull = true))
      ∧ (m.reaches path = false → s.part? path = none) := by
  induction path generalizing m tv s with
  | nil =>
    obtain rfl := Option.some.inj he
    constructor
    · intro _
      exact ⟨s, rfl, hnull.trans (value_eq_null_iff h)⟩
    · intro hr
      cases hr
  | cons i path ih =>
    obtain ⟨child, hchild, he⟩ := Option.bind_eq_some_iff.1 he
    obtain ⟨wireTag, ht, hv⟩ := toTyped_eq_ok_iff.1 h
    by_cases hc : m.isComposite = true
    · obtain ⟨hn, htag⟩ := (isComposite_iff ht).1 hc
      rw [if_neg (by simp [hn])] at hv
      obtain ⟨tvs, hlist, hread⟩ := (payload_eq_ok_iff htag).1 hv
      obtain ⟨t, hti, hchild'⟩ := getElem?_of_forall₂ hread hchild
      have hpart : s.part? (i :: path) = (partOf tv.tag tv.component t).part? path := by
        rw [SerialValue.part?, hs, hlist]
        simp [hti]
      rw [hpart, reaches, hc, hchild]
      exact ih hchild' (bare_partOf (bare_value hchild')) partOf_eq_null_iff he
    · have hnone : s.part? (i :: path) = none := by
        rw [SerialValue.part?, hs]
        split_ifs at hv with hn
        · rw [hv]
        · have htag := mt (isComposite_iff ht).2 hc
          simp only [hn, not_and, not_or, forall_const] at htag
          have hscalar := isScalar_of_scalarValue
            ((payload_scalar htag.1 htag.2).symm.trans hv)
          cases hval : tv.value <;> simp_all [SerialValue.isScalar]
      rw [hnone, reaches]
      simp [hc]

end WireMessage

namespace Tagged

/-- **An absent element is read as null** exactly when reading does not come to it or when the
element says that it is null besides. As a whole message it is the explicit null. -/
theorem absent_element_is_null_iff {m e : WireMessage} {tv : TypedValue} {path : List Nat}
    (h : Tagged.ofWire m = .ok tv) (hp : path ≠ []) (he : m.element? path = some e)
    (ha : e.implicitlyNull = true) :
    ((∀ s, tv.value.part? path = some s → s = .null)
        ↔ (m.implicitlyNull = false → m.reaches path = true → e.isNull = true))
      ∧ (m.implicitlyNull = false → m.reaches path = true → ∃ s, tv.value.part? path = some s)
      ∧ Tagged.ofWire e = .ok explicitNull := by
  have hwhole : Tagged.ofWire e = .ok explicitNull := by rw [Tagged.ofWire, ha, if_pos rfl]
  rw [Tagged.ofWire] at h
  split_ifs at h with hm
  · obtain rfl := Except.ok.inj h
    obtain ⟨i, path, rfl⟩ := List.exists_cons_of_ne_nil hp
    simp [hm, hwhole, explicitNull, SerialValue.part?, SerialValue.bare]
  · have hread := WireMessage.part?_of_toTyped h (WireMessage.bare_value h) Iff.rfl he
    cases hr : m.reaches path with
    | false => simp [hread.2 hr, hwhole]
    | true =>
      obtain ⟨r, hpart, hnull⟩ := hread.1 hr
      simp [hpart, hnull, hm, hwhole]

/-- An absent element of an array within a record, which says that it is null. -/
theorem absent_element_is_null_in_record :
    ∃ tv, Tagged.ofWire { WireMessage.tagged .struct with elements := [{ WireMessage.tagged .array
          with elements := [{ WireMessage.absent with isNull := true }] }] } = .ok tv
      ∧ ∀ s, tv.value.part? [0, 0] = some s → s = .null := by
  refine ⟨_, rfl, ?_⟩
  have h := @absent_element_is_null_iff { WireMessage.tagged .struct with elements := [{
    WireMessage.tagged .array with elements := [{ WireMessage.absent with isNull := true }] }] }
    { WireMessage.absent with isNull := true } _ [0, 0] rfl (by simp) rfl rfl
  exact h.1.2 fun _ _ => rfl

/-- An absent value is an explicit null as a whole message, but as an element of an array of
integers it is read as the boolean that its fields left out stand for. -/
theorem absent_element_is_false :
    ∃ tv, Tagged.ofWire { WireMessage.tagged .array with
          componentType := (WireTag.plain .integer).number, elements := [.absent] } = .ok tv
      ∧ Tagged.ofWire .absent = .ok explicitNull
      ∧ tv.value.part? [0] = some (.typed ⟨.primitiveBoolean, .bool false, none⟩) :=
  ⟨_, rfl, rfl, rfl⟩

end Tagged

end TypedRows
