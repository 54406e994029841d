import TypedRows.Proofs.Value.Likeness
import TypedRows.Proofs.Wire.Reading

/-!
# Values that cross the wire

A value that was written as a message and read again arrives as a typed value. For an array and a
record this happens element by element; what arrives of an element is then put back in its place.

## Main definitions

* `TypedRows.SerialValue.arrival` — the typed value that arrives when a value is sent under a tag.
* `TypedRows.WireMessage.ofElements` — the message of an array.
* `TypedRows.SerialValue.elementArrival`, `TypedRows.SerialValue.fieldArrival` — what arrives of
  the elements of an array and of the fields of a record.

## Main results

* `TypedRows.SerialValue.arrival_array_eq_ok_iff`, `TypedRows.SerialValue.arrival_struct_eq_ok_iff`
  — arrays and records arrive element by element.
* `TypedRows.Tagged.ofWire_of_toWire` — no message that is written stands for an absent value.
-/

set_option autoImplicit false

namespace TypedRows

/-! ## The tags of written messages -/

/-- The tag of arrays is boxed. -/
@[simp] lemma Tag.boxed_array : Tag.array.boxed = .array := rfl

/-- The tag of records is boxed. -/
@[simp] lemma Tag.boxed_struct : Tag.struct.boxed = .struct := rfl

/-- A message is read under the tag that it was written under. -/
lemma WireMessage.tags_eq {m : WireMessage} {tag : Tag} (h : m.type = (WireTag.plain tag).number) :
    m.tags = do return (.plain tag, tag, ← m.componentTag tag) := by
  simp [tags, h, WireTag.read, WireTag.toTag, bind, Except.bind]

/-- The tag of the elements is read as it was written. -/
lemma WireMessage.componentTag_array {m : WireMessage} {component : Tag}
    (h : m.componentType = (WireTag.plain component).number) :
    m.componentTag .array = pure (some component) := by
  simp [componentTag, h, WireTag.read, WireTag.toTag, bind, Except.bind]

/-- Only messages of arrays have a tag for elements. -/
lemma WireMessage.componentTag_of_ne (m : WireMessage) {tag : Tag} (h : tag ≠ .array) :
    m.componentTag tag = pure none := by
  rw [componentTag, if_neg h]
  rfl

namespace SerialValue

/-- The message of an element of an array whose elements have a tag. -/
def elementWire (component : Tag) : SerialValue → Except Error WireMessage
  | null => .ok (.nullOf .null)
  | list items => (list items).toWire .array none
  | other => other.toWire component none

/-- Elements are written one by one. -/
lemma toWireElements_eq_mapM (component : Tag) (items : List SerialValue) :
    toWireElements component items = items.mapM (elementWire component) := by
  induction items with
  | nil => rfl
  | cons s ss ih =>
    rw [List.mapM_cons, ← ih]
    cases s <;> rfl

/-- Fields are written one by one, each under the tag of its form. -/
lemma toWireFields_eq_mapM (items : List SerialValue) :
    toWireFields items = items.mapM fun s => s.toWire (.ofSerial s) none := by
  induction items with
  | nil => rfl
  | cons s ss ih => rw [toWireFields, ih, List.mapM_cons]

/-! ## What arrives -/

/-- The typed value that arrives when a value is sent under a tag. -/
def arrival (tag : Tag) (component : Option Tag) (s : SerialValue) : Except Error TypedValue :=
  s.toWire tag component >>= WireMessage.toTyped

/-- What arrives of an element of an array whose elements have a tag. -/
def elementArrival (component : Tag) (s : SerialValue) : Except Error TypedValue :=
  s.elementWire component >>= WireMessage.toTyped

/-- What arrives of a field of a record. -/
def fieldArrival (s : SerialValue) : Except Error TypedValue := s.arrival (.ofSerial s) none

/-- A null arrives as a null of its tag; without a tag for its elements, an array is taken for
one of booleans. -/
lemma arrival_null (tag : Tag) (component : Option Tag) :
    null.arrival tag component
      = .ok ⟨tag, .null, if tag = .array then some .primitiveBoolean else none⟩ := by
  cases tag <;> rfl

/-- A typed value arrives under its own tags. -/
lemma arrival_typed (tag : Tag) (component : Option Tag) (tv : TypedValue) :
    (typed tv).arrival tag component = tv.value.arrival tv.tag tv.component := by
  rw [arrival, toWire, arrival]

end SerialValue

/-- The message of an array of elements of a tag. -/
def WireMessage.ofElements (component : Tag) (elements : List WireMessage) : WireMessage :=
  { tagged .array with componentType := (WireTag.plain component).number, elements := elements }

/-- An array is read element by element. -/
lemma WireMessage.toTyped_ofElements (c : Tag) (ms : List WireMessage) :
    (ofElements c ms).toTyped = do
      return ⟨.array, .list ((← ms.mapM toTyped).map (elementOf c)), some c⟩ := by
  rw [toTyped_eq, tags_eq rfl, componentTag_array rfl]
  simp only [pure_bind, payload, bind_assoc]
  rfl

namespace SerialValue

/-- An array is written element by element. -/
lemma toWire_list_array (component : Option Tag) (items : List SerialValue) :
    (list items).toWire .array component
      = .ofElements (component.getD (.ofItems items)) <$>
          items.mapM (elementWire (component.getD (.ofItems items))) := by
  simp only [toWire, Tag.boxed_array, toWireElements_eq_mapM]
  cases items.mapM (elementWire (component.getD (.ofItems items))) <;> rfl

/-- **An array arrives element by element**, with the tag of its elements.

**Proof sketch.** The message carries the two tags as they are, so they are read back. Its
elements are the messages of the elements, and reading them after writing them is one walk in
which each element is written and read. -/
lemma arrival_array_eq_ok_iff {component : Option Tag} {items : List SerialValue}
    {tv : TypedValue} {c : Tag} (hc : component.getD (.ofItems items) = c) :
    (list items).arrival .array component = .ok tv
      ↔ ∃ tvs, List.Forall₂ (fun s t => s.elementArrival c = .ok t) items tvs
        ∧ tv = ⟨.array, .list (tvs.map (WireMessage.elementOf c)), some c⟩ := by
  have ha : (list items).arrival .array component = do
      let tvs ← items.mapM (elementWire c) >>= fun ms => ms.mapM WireMessage.toTyped
      return ⟨.array, .list (tvs.map (WireMessage.elementOf c)), some c⟩ := by
    simp only [arrival, toWire_list_array, hc, map_eq_pure_bind, bind_assoc, pure_bind,
      WireMessage.toTyped_ofElements]
  rw [ha, bind_eq_ok_iff]
  simp only [mapM_bind_mapM_eq_ok_iff, pure, Except.pure, Except.ok.injEq, elementArrival]
  exact exists_congr fun tvs => and_congr_right fun _ => eq_comm

/-- **A record arrives field by field.** -/
lemma arrival_struct_eq_ok_iff {component : Option Tag} {items : List SerialValue}
    {tv : TypedValue} :
    (list items).arrival .struct component = .ok tv
      ↔ ∃ tvs, List.Forall₂ (fun s t => s.fieldArrival = .ok t) items tvs
        ∧ tv = ⟨.struct, .list (tvs.map WireMessage.fieldOf), none⟩ := by
  have hm (ms : List WireMessage) :
      ({ WireMessage.tagged .struct with elements := ms } : WireMessage).toTyped = do
      return ⟨.struct, .list ((← ms.mapM WireMessage.toTyped).map WireMessage.fieldOf), none⟩ := by
    rw [WireMessage.toTyped_eq, WireMessage.tags_eq rfl,
      WireMessage.componentTag_of_ne _ (by decide)]
    simp only [pure_bind, WireMessage.payload, bind_assoc]
    rfl
  have ha : (list items).arrival .struct component = do
      let tvs ← (items.mapM fun s => s.toWire (.ofSerial s) none) >>= fun ms =>
        ms.mapM WireMessage.toTyped
      return ⟨.struct, .list (tvs.map WireMessage.fieldOf), none⟩ := by
    simp only [arrival, toWire, Tag.boxed_struct, toWireFields_eq_mapM, bind_assoc, pure_bind, hm]
  rw [ha, bind_eq_ok_iff]
  simp only [mapM_bind_mapM_eq_ok_iff, pure, Except.pure, Except.ok.injEq, fieldArrival, arrival]
  exact exists_congr fun tvs => and_congr_right fun _ => eq_comm

/-! ## The messages of values without parts -/

/-- A value without parts is written as one, whatever the tag of elements. -/
lemma toWire_scalar {tag : Tag} {s : SerialValue} (component : Option Tag)
    (h : s.isNull = false) (ht : ∀ tv, s ≠ typed tv)
    (hs : ∀ items, s = list items → tag ≠ .array ∧ tag ≠ .struct) :
    s.toWire tag component = scalarWire tag s := by
  cases s with
  | null => simp [isNull] at h
  | typed tv => simp at ht
  | list items =>
    rw [toWire]
    cases tag <;> simp_all [Tag.boxed]
  | _ => rfl

/-- The message of a value without parts has the tag of the value and one payload, except that
decimals have a tag of their own on the wire and byte strings are written twice. -/
inductive Written (tag : Tag) (s : SerialValue) : WireMessage → Prop
  | integer {n : Int64} (h : tag = .number) (hs : s = .integer n) :
    Written tag s { WireMessage.tagged tag with numberValue := some n }
  | decimal {d : Decimal} (h : tag = .number) (hs : s.toDecimal tag = .ok d) :
    Written tag s { WireMessage.tagged tag with
      type := WireTag.bigDecimal.number, stringValue := some d.text }
  | bool {b : Bool} (h : tag.boxed = .boolean) (hs : s = .bool b) :
    Written tag s { WireMessage.tagged tag with boolValue := b }
  | text {t : String} (h : tag.boxed = .character ∨ tag.boxed = .string) (hs : s = .string t) :
    Written tag s { WireMessage.tagged tag with stringValue := some t }
  | bytes {t : String} {b : List UInt8} (h : tag = .byteString) (hs : s = .string t)
    (hb : Base64.read? t = some b) :
    Written tag s { WireMessage.tagged tag with bytesValue := some b, stringValue := some t }
  | float {x : Binary64} (h : tag.boxed = .float) (hs : s.float? = some x) :
    Written tag s { WireMessage.tagged tag with
      numberValue := some (Int64.ofInt (Int32.ofNat (Binary32.ofBinary64 x).bits.toNat).toInt) }
  | double {x : Binary64} (h : tag.boxed = .double) (hs : s.float? = some x) :
    Written tag s { WireMessage.tagged tag with doubleValue := x }
  | integral {n : Int64} (h : tag.isIntegral = true) (hs : s.integer? = some n) :
    Written tag s { WireMessage.tagged tag with numberValue := some n }

/-- What is written of a value without parts. -/
lemma written_of_scalarWire {tag : Tag} {s : SerialValue} {m : WireMessage}
    (h : scalarWire tag s = .ok m) : Written tag s m := by
  unfold scalarWire at h
  dsimp only at h
  split at h
  · cases h
  · cases h
  · next hb =>
    have ht : tag = .number := by cases tag <;> simp_all [Tag.boxed]
    split at h
    · obtain rfl := Except.ok.inj h
      exact .integer ht rfl
    · obtain ⟨d, hd, h⟩ := bind_eq_ok_iff.1 h
      obtain rfl := Except.ok.inj h
      exact .decimal ht hd
  · next hb =>
    split at h
    · obtain rfl := Except.ok.inj h
      exact .bool hb rfl
    · cases h
  · next hb =>
    split at h
    · obtain rfl := Except.ok.inj h
      exact .text (.inl hb) rfl
    · cases h
  · next hb =>
    split at h
    · obtain rfl := Except.ok.inj h
      exact .text (.inr hb) rfl
    · cases h
  · next hb =>
    have ht : tag = .byteString := by cases tag <;> simp_all [Tag.boxed]
    split at h
    · split at h
      · next hr =>
        obtain rfl := Except.ok.inj h
        exact .bytes ht rfl hr
      · cases h
    · cases h
  · next hb =>
    split at h
    · next hx =>
      obtain rfl := Except.ok.inj h
      exact .float hb hx
    · cases h
  · next hb =>
    split at h
    · next hx =>
      obtain rfl := Except.ok.inj h
      exact .double hb hx
    · cases h
  · split_ifs at h with hi
    split at h
    · next hn =>
      obtain rfl := Except.ok.inj h
      exact .integral (by cases tag <;> simp_all [Tag.boxed, Tag.isIntegral, Tag.isTemporal]) hn
    · cases h

/-! ## No message for an absent value -/

/-- No value is written as one that is absent: what is written of null says that it is null. -/
lemma implicitlyNull_of_toWire {tag : Tag} {component : Option Tag} {s : SerialValue}
    {m : WireMessage} (h : s.toWire tag component = .ok m) : m.implicitlyNull = false := by
  have hscalar {t : Tag} {r : SerialValue} (h : scalarWire t r = .ok m) :
      m.implicitlyNull = false := by
    cases written_of_scalarWire h <;> rfl
  induction s using list_induction generalizing tag component with
  | null =>
    obtain rfl := Except.ok.inj h
    rfl
  | list items ih =>
    rw [toWire] at h
    split at h
    · obtain ⟨ms, -, h⟩ := bind_eq_ok_iff.1 h
      obtain rfl := Except.ok.inj h
      rfl
    · obtain ⟨ms, -, h⟩ := bind_eq_ok_iff.1 h
      obtain rfl := Except.ok.inj h
      rfl
    · exact hscalar h
  | typed tag s component ih =>
    rw [toWire] at h
    exact ih h
  | _ => exact hscalar h

end SerialValue

/-- **No message that is written stands for an absent value**, so it is read as it is within
another one. -/
theorem Tagged.ofWire_of_toWire {tv : TypedValue} {m : WireMessage} (h : tv.toWire = .ok m) :
    Tagged.ofWire m = tv.value.arrival tv.tag tv.component := by
  have hm : m.implicitlyNull = false := SerialValue.implicitlyNull_of_toWire h
  rw [toWire] at h
  rw [Tagged.ofWire, hm, SerialValue.arrival, h]
  rfl

end TypedRows
