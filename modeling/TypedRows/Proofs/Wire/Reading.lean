import TypedRows.Proofs.Outcome
import TypedRows.Wire.Value

/-!
# Reading messages

A message is read in two steps: its tags say what it holds, and the payload that counts for them
says which value that is. The elements of an array and the fields of a record are messages that
are read on their own.

## Main definitions

* `TypedRows.WireMessage.tags` — the tags of a message.
* `TypedRows.WireMessage.payload` — the value of a message that is not null, under its tags.

## Main results

* `TypedRows.WireMessage.elements_induction` — induction on the elements of a message.
* `TypedRows.WireMessage.toTyped_eq` — reading is reading the tags and then the payload.
-/

set_option autoImplicit false

namespace TypedRows

namespace WireMessage

/-- **Induction on messages**: what holds of a message whenever it holds of its elements holds of
every message. -/
theorem elements_induction {motive : WireMessage → Prop}
    (h : ∀ m, (∀ e ∈ m.elements, motive e) → motive m) : ∀ m, motive m
  | ⟨type, boolValue, stringValue, numberValue, bytesValue, doubleValue, isNull, elements,
      componentType, implicitlyNull⟩ =>
    h ⟨type, boolValue, stringValue, numberValue, bytesValue, doubleValue, isNull, elements,
      componentType, implicitlyNull⟩ fun e (he : e ∈ elements) =>
        have := List.sizeOf_lt_of_mem he
        elements_induction h e
termination_by m => sizeOf m
decreasing_by
  rw [mk.sizeOf_spec]
  omega

/-- The tag of a message on the wire, the tag of its value and that of the elements. -/
def tags (m : WireMessage) : Except Error (WireTag × Tag × Option Tag) := do
  let wireTag ← WireTag.read .type m.type
  let tag ← wireTag.toTag
  let component ← m.componentTag tag
  return (wireTag, tag, component)

/-- The value of a message that is not null, under its tags. -/
def payload (m : WireMessage) (wireTag : WireTag) (tag : Tag) (component : Option Tag) :
    Except Error SerialValue :=
  match tag with
  | .array => do
    let items ← m.elements.mapM toTyped
    return .list (items.map (elementOf (component.getD .object)))
  | .struct => do
    let items ← m.elements.mapM toTyped
    return .list (items.map fieldOf)
  | _ => m.scalarValue wireTag tag

/-- Messages are read one by one. -/
lemma toTypedItems_eq_mapM (ms : List WireMessage) : toTypedItems ms = ms.mapM toTyped := by
  induction ms with
  | nil => rfl
  | cons m ms ih => rw [toTypedItems, ih, List.mapM_cons]

/-- **A message is read by its tags and then by its payload.** -/
theorem toTyped_eq (m : WireMessage) : m.toTyped = do
    let (wireTag, tag, component) ← m.tags
    if m.isNull then return ⟨tag, .null, component⟩
    return ⟨tag, ← m.payload wireTag tag component, component⟩ := by
  obtain ⟨type, boolValue, stringValue, numberValue, bytesValue, doubleValue, isNull, elements,
    componentType, implicitlyNull⟩ := m
  rw [toTyped, tags]
  simp only [toTypedItems_eq_mapM, bind_assoc, pure_bind]
  -- neither the tags nor a scalar payload depends on the elements
  refine bind_congr fun wireTag => bind_congr fun tag => bind_congr fun component => ?_
  cases isNull with
  | true => rfl
  | false => cases tag <;> simp [payload] <;> rfl

/-- A message is read as a typed value when its tags are those of the value and, unless it is
null, its payload is the value under them. -/
theorem toTyped_eq_ok_iff {m : WireMessage} {tv : TypedValue} :
    m.toTyped = .ok tv ↔ ∃ wireTag, m.tags = .ok (wireTag, tv.tag, tv.component) ∧
      if m.isNull then tv.value = .null
      else m.payload wireTag tv.tag tv.component = .ok tv.value := by
  rw [toTyped_eq, bind_eq_ok_iff]
  constructor
  · rintro ⟨⟨wireTag, tag, component⟩, ht, h⟩
    split_ifs at h ⊢ with hn
    · obtain rfl := Except.ok.inj h
      exact ⟨wireTag, ht, rfl⟩
    · obtain ⟨s, hs, h⟩ := bind_eq_ok_iff.1 h
      obtain rfl := Except.ok.inj h
      exact ⟨wireTag, ht, hs⟩
  · rintro ⟨wireTag, ht, h⟩
    refine ⟨_, ht, ?_⟩
    split_ifs at h ⊢ with hn
    · simp [← h, pure, Except.pure]
    · simp [h, bind, Except.bind, pure, Except.pure]

/-! ## Parts -/

/-- The part of a list that an element of an array or a field of a record becomes. -/
def partOf (tag : Tag) (component : Option Tag) (tv : TypedValue) : SerialValue :=
  if tag = .array then elementOf (component.getD .object) tv else fieldOf tv

/-- The payload of an array or a record holds a part for every element. -/
lemma payload_eq_ok_iff {m : WireMessage} {wireTag : WireTag} {tag : Tag} {component : Option Tag}
    {s : SerialValue} (h : tag = .array ∨ tag = .struct) :
    m.payload wireTag tag component = .ok s ↔ ∃ tvs, s = .list (tvs.map (partOf tag component)) ∧
      List.Forall₂ (fun e tv => e.toTyped = .ok tv) m.elements tvs := by
  have hpart : m.payload wireTag tag component
      = do return .list ((← m.elements.mapM toTyped).map (partOf tag component)) := by
    obtain rfl | rfl := h <;> rfl
  rw [hpart, bind_eq_ok_iff]
  simp only [mapM_eq_ok_iff, pure, Except.pure, Except.ok.injEq]
  exact exists_congr fun tvs => and_comm.trans (and_congr_left' eq_comm)

/-- The payload of any other message does not depend on its elements. -/
lemma payload_scalar {m : WireMessage} {wireTag : WireTag} {tag : Tag} {component : Option Tag}
    (ha : tag ≠ .array) (hs : tag ≠ .struct) :
    m.payload wireTag tag component = m.scalarValue wireTag tag := by
  rw [payload]
  · exact ha
  · exact hs

end WireMessage

end TypedRows
