import TypedRows.Proofs.Json.Reading
import TypedRows.Proofs.Wire.Absence
import TypedRows.Proofs.Wire.Scalars

/-!
# The tags of elements on the wire

A message of an array names the tag of the elements beside the elements, and that tag is read for
every array, null or not. It is not written for a null, and a number that is left out reads as
zero, which is the number of the tag of booleans: that is the tag that a null array comes back
with, whatever it had.

## Main definitions

* `TypedRows.Tagged.KeepsElementTag` — an array comes back with the tag of its elements.

## Main results

* `TypedRows.SerialValue.exists_arrival_iff` — every message that is written is read.
* `TypedRows.SerialValue.part?_arrival` — arrays within a value arrive with their tags.
* `TypedRows.Tagged.element_tag_kept_iff` — the arrays that come back with theirs.
-/

set_option autoImplicit false

namespace TypedRows

namespace SerialValue

/-! ## What is written is read -/

/-- A scalar that is written arrives. -/
lemma exists_arrival_of_scalarWire {tag : Tag} {s : SerialValue}
    (h : ∃ m, s.scalarWire tag = .ok m) :
    ∃ tv, (s.scalarWire tag >>= WireMessage.toTyped) = .ok tv := by
  obtain ⟨m, hm⟩ := h
  obtain ⟨r, hr, -⟩ := arrives_of_written (written_of_scalarWire hm)
  exact ⟨_, bind_eq_ok_iff.2 ⟨m, hm, hr⟩⟩

/-- A list is written as an array or as a record, and under no other tag. -/
lemma tag_of_toWire_list {items : List SerialValue} {tag : Tag} {component : Option Tag}
    {m : WireMessage} (h : (list items).toWire tag component = .ok m) :
    tag = .array ∨ tag = .struct := by
  by_contra hne
  rw [not_or] at hne
  rw [toWire_scalar component rfl (fun _ h => SerialValue.noConfusion h) fun _ _ => hne] at h
  cases written_of_scalarWire h with
  | decimal htag hs => simp [toDecimal] at hs
  | _ => simp_all [float?, integer?]

/-- An element is written as it would be by itself, under some tag. -/
lemma exists_elementWire_eq (c : Tag) (s : SerialValue) :
    ∃ tag component, s.elementWire c = s.toWire tag component := by
  cases s with
  | null => exact ⟨.null, none, rfl⟩
  | list items => exact ⟨.array, none, rfl⟩
  | _ => exact ⟨c, none, rfl⟩

/-- **Every message that is written is read.**

**Proof sketch.** By induction on the value. The message of a value without parts is read under
its tag; arrays and records are read element by element. -/
theorem exists_arrival_iff {s : SerialValue} {tag : Tag} {component : Option Tag} :
    (∃ tv, s.arrival tag component = .ok tv) ↔ ∃ m, s.toWire tag component = .ok m := by
  refine ⟨fun ⟨tv, h⟩ => ?_, ?_⟩
  · obtain ⟨m, hm, -⟩ := bind_eq_ok_iff.1 h
    exact ⟨m, hm⟩
  induction s using list_induction generalizing tag component with
  | null => exact fun _ => ⟨_, arrival_null tag component⟩
  | typed t v c ih =>
    rw [toWire, arrival_typed]
    exact ih
  | list items ih =>
    rintro ⟨m, hm⟩
    obtain rfl | rfl := tag_of_toWire_list hm
    · rw [toWire_list_array] at hm
      obtain ⟨ms, hms, -⟩ := map_eq_ok_iff.1 hm
      have hall := exists_mapM_eq_ok_iff.1 ⟨ms, hms⟩
      have harrive : ∀ s ∈ items, ∃ tv,
          s.elementArrival (component.getD (.ofItems items)) = .ok tv := by
        intro s hs
        obtain ⟨tag, component', heq⟩ := exists_elementWire_eq (component.getD (.ofItems items)) s
        rw [elementArrival, heq]
        exact ih s hs (heq ▸ hall s hs)
      obtain ⟨tvs, htvs⟩ := exists_mapM_eq_ok_iff.2 harrive
      exact ⟨_, (arrival_array_eq_ok_iff rfl).2 ⟨tvs, mapM_eq_ok_iff.1 htvs, rfl⟩⟩
    · rw [toWire, Tag.boxed_struct, toWireFields_eq_mapM] at hm
      obtain ⟨ms, hms, -⟩ := bind_eq_ok_iff.1 hm
      have hall := exists_mapM_eq_ok_iff.1 ⟨ms, hms⟩
      obtain ⟨tvs, htvs⟩ := exists_mapM_eq_ok_iff.2 fun s hs => ih s hs (hall s hs)
      exact ⟨_, arrival_struct_eq_ok_iff.2 ⟨tvs, mapM_eq_ok_iff.1 htvs, rfl⟩⟩
  | _ => exact exists_arrival_of_scalarWire

/-! ## Arrays within a value -/

/-- The parts of a list arrive as parts of the list that arrives. -/
lemma parts_arrive {s : SerialValue} {items : List SerialValue} {tag : Tag}
    {component : Option Tag} {tv : TypedValue} (hs : s.bare = list items)
    (h : s.arrival tag component = .ok tv) :
    ∃ tvs, tv.value = .list (tvs.map (WireMessage.partOf tv.tag tv.component))
      ∧ List.Forall₂ (fun r t => ∃ tag component, r.arrival tag component = .ok t) items tvs := by
  obtain ⟨tag, component, h⟩ : ∃ tag component, (list items).arrival tag component = .ok tv := by
    cases s with
    | list ss => exact ⟨tag, component, by rwa [← hs]⟩
    | typed t =>
      rw [arrival_typed] at h
      exact ⟨t.tag, t.component, by rwa [← hs]⟩
    | _ => cases hs
  obtain ⟨m, hm, -⟩ := bind_eq_ok_iff.1 h
  obtain rfl | rfl := tag_of_toWire_list hm
  · obtain ⟨tvs, htvs, rfl⟩ := (arrival_array_eq_ok_iff rfl).1 h
    refine ⟨tvs, rfl, htvs.imp fun r t hr => ?_⟩
    obtain ⟨tag, component', heq⟩ := exists_elementWire_eq (component.getD (.ofItems items)) r
    rw [elementArrival, heq] at hr
    exact ⟨tag, component', hr⟩
  · obtain ⟨tvs, htvs, rfl⟩ := arrival_struct_eq_ok_iff.1 h
    exact ⟨tvs, rfl, htvs.imp fun r t hr => ⟨_, _, hr⟩⟩

/-- What arrives holds no typed value by itself. -/
lemma bare_of_arrival {s : SerialValue} {tag : Tag} {component : Option Tag} {tv : TypedValue}
    (h : s.arrival tag component = .ok tv) : tv.value.bare = tv.value := by
  obtain ⟨m, -, hread⟩ := bind_eq_ok_iff.1 h
  exact WireMessage.bare_value hread

/-- A part of a part is one of an item of the list. -/
lemma part?_cons_eq_some_iff {s r : SerialValue} {i : Nat} {path : List Nat} :
    s.part? (i :: path) = some r
      ↔ ∃ items part, s.bare = list items ∧ items[i]? = some part ∧ part.part? path = some r := by
  rw [part?]
  cases s.bare with
  | list items => simp [Option.bind_eq_some_iff]
  | _ => simp

/-- What arrives of the part in a place is the part in that place of what arrives. -/
lemma exists_part_arrival {s part : SerialValue} {items : List SerialValue} {i : Nat} {tag : Tag}
    {component : Option Tag} {tv : TypedValue} (h : s.arrival tag component = .ok tv)
    (hs : s.bare = list items) (hi : items[i]? = some part) :
    ∃ t tag component, part.arrival tag component = .ok t
      ∧ ∀ path, tv.value.part? (i :: path)
        = (WireMessage.partOf tv.tag tv.component t).part? path := by
  obtain ⟨tvs, htv, hparts⟩ := parts_arrive hs h
  obtain ⟨t, ht, tag', component', hpart⟩ := getElem?_of_forall₂ hparts hi
  refine ⟨t, tag', component', hpart, fun path => ?_⟩
  rw [part?, bare_of_arrival h, htv]
  simp [ht]

/-- An array that is not null stays a typed value among the parts. -/
lemma partOf_array (tag : Tag) (component : Option Tag) (items : List SerialValue)
    (c : Option Tag) :
    WireMessage.partOf tag component ⟨.array, list items, c⟩
      = typed ⟨.array, list items, c⟩ := by
  have hown : ¬ (Tag.array = component.getD .object ∧ component.getD .object ≠ .array) :=
    fun h => h.2 h.1.symm
  have hnull : ¬ Tagged.isNull ⟨.array, list items, c⟩ = true := Bool.false_ne_true
  rw [WireMessage.partOf]
  by_cases h : tag = .array
  · rw [if_pos h, WireMessage.elementOf, if_neg hnull, if_neg hown]
  · rw [if_neg h, WireMessage.fieldOf, if_neg hnull]

/-- **An array within a value arrives in its place**, with the tag of its elements.

**Proof sketch.** By induction on the path. A list arrives part by part; an array among the parts
stays a typed value of its own. -/
theorem part?_arrival {path : List Nat} {i : Nat} {s : SerialValue} {tag : Tag}
    {component : Option Tag} {tv : TypedValue} {items : List SerialValue} {c : Tag}
    (h : s.arrival tag component = .ok tv)
    (hp : s.part? (i :: path) = some (typed ⟨.array, list items, some c⟩)) :
    ∃ arrived, tv.value.part? (i :: path) = some (typed ⟨.array, list arrived, some c⟩) := by
  induction path generalizing i s tag component tv with
  | nil =>
    obtain ⟨parts, part, hs, hi, hpart⟩ := part?_cons_eq_some_iff.1 hp
    obtain rfl := Option.some.inj hpart
    obtain ⟨t, tag', component', ht, htv⟩ := exists_part_arrival h hs hi
    rw [arrival_typed] at ht
    obtain ⟨tvs, -, rfl⟩ := (arrival_array_eq_ok_iff rfl).1 ht
    exact ⟨tvs.map (WireMessage.elementOf c), by rw [htv, partOf_array]; rfl⟩
  | cons j path ih =>
    obtain ⟨parts, part, hs, hi, hpart⟩ := part?_cons_eq_some_iff.1 hp
    obtain ⟨t, tag', component', ht, htv⟩ := exists_part_arrival h hs hi
    obtain ⟨arrived, harrived⟩ := ih ht hpart
    refine ⟨arrived, ?_⟩
    rw [htv, part?, WireMessage.bare_partOf (bare_of_arrival ht), ← bare_of_arrival ht, ← part?]
    exact harrived

end SerialValue

/-! ## The tag of the elements -/

/-- The member of a JSON object that names the tag of the elements. -/
def JsonValue.componentType? : JsonValue → Option JsonValue
  | object members => Fields.get? "componentType" members
  | _ => none

namespace Tagged

/-- An array comes back with the tag of its elements; a null array that has none comes back without
one. -/
def KeepsElementTag (tv tv' : TypedValue) : Prop :=
  (∀ c, tv.component = some c → tv'.component = some c)
    ∧ (tv.isNull = true → tv.component = none → tv'.component = none)

/-- The object of a typed value names the tag of its elements. -/
lemma componentType?_toJson (tv : TypedValue) :
    tv.toJson.componentType? = tv.component.map fun c => .string c.name := by
  obtain ⟨tag, value, component⟩ := tv
  cases component <;> rfl

/-- JSON names the same tag of the elements exactly when it is the same. -/
lemma componentType?_eq_iff {tv tv' : TypedValue} :
    tv'.toJson.componentType? = tv.toJson.componentType? ↔ tv'.component = tv.component := by
  rw [componentType?_toJson, componentType?_toJson]
  refine ⟨fun h => ?_, fun h => by rw [h]⟩
  refine Option.map_injective (fun a b hab => ?_) h
  have hname : a.name = b.name := by simpa using hab
  exact Option.some.inj ((Tag.named?_name a).symm.trans (hname ▸ Tag.named?_name b))

/-- Where the tag of the elements is told apart from the one that is suggested, to keep it is to
come back with the same. -/
lemma keepsElementTag_iff {tv tv' : TypedValue} : tv.KeepsElementTag tv'
    ↔ (tv.isNull = true ∨ tv.component ≠ none → tv'.component = tv.component) := by
  rw [KeepsElementTag]
  cases tv.component <;> simp

/-- The tag that an array comes back with for its elements: its own, or the one that its first
element suggests. For a null it is that of booleans. -/
def sentComponent (tv : TypedValue) : Tag :=
  match tv.value with
  | .list items => tv.component.getD (.ofItems items)
  | _ => .primitiveBoolean

/-- An array is read with the tag of the elements that its message names. -/
lemma arrival_of_array {tv tv' : TypedValue} (ha : tv.tag = .array)
    (hc : tv.value.check tv.tag = .ok ()) (h : tv.value.arrival tv.tag tv.component = .ok tv') :
    tv'.component = some tv.sentComponent := by
  obtain ⟨tag, value, component⟩ := tv
  obtain rfl : tag = .array := ha
  cases value with
  | null =>
    obtain rfl := Except.ok.inj ((SerialValue.arrival_null _ _).symm.trans h)
    rfl
  | list items =>
    obtain ⟨tvs, -, rfl⟩ := (SerialValue.arrival_array_eq_ok_iff rfl).1 h
    rfl
  | _ => cases hc

/-- **The tag of the elements is kept** by every array that is not null; a null array comes back
with the tag of booleans, so it has to have had that one. JSON then names the same tag as before.
Arrays within the value come back in their places with their tags.

**Proof sketch.** What is written is read; an array is read with the tag that its message names,
which for a null is the one whose number is zero. -/
theorem element_tag_kept_iff {tv : TypedValue} {m : WireMessage} (ha : tv.tag = .array)
    (hc : tv.value.check tv.tag = .ok ()) (h : tv.toWire = .ok m) :
    ∃ tv', Tagged.ofWire m = .ok tv'
      ∧ (tv.KeepsElementTag tv'
        ↔ tv.isNull = false ∨ tv.component = some .primitiveBoolean)
      ∧ (tv.isNull = true ∨ tv.component ≠ none →
        (tv'.toJson.componentType? = tv.toJson.componentType?
          ↔ tv.isNull = false ∨ tv.component = some .primitiveBoolean))
      ∧ ∀ i path items c,
        tv.value.part? (i :: path) = some (.typed ⟨.array, .list items, some c⟩) →
        ∃ arrived, tv'.value.part? (i :: path) = some (.typed ⟨.array, .list arrived, some c⟩) := by
  obtain ⟨tv', harrival⟩ := SerialValue.exists_arrival_iff.2 ⟨m, h⟩
  have hcomponent := arrival_of_array ha hc harrival
  have hkept : tv.KeepsElementTag tv'
      ↔ tv.isNull = false ∨ tv.component = some .primitiveBoolean := by
    obtain ⟨tag, value, component⟩ := tv
    obtain rfl : tag = .array := ha
    rw [KeepsElementTag, hcomponent]
    cases value with
    | null => cases component <;> simp [sentComponent, isNull, SerialValue.isNull, eq_comm]
    | list items => cases component <;> simp [sentComponent, isNull, SerialValue.isNull]
    | _ => cases hc
  refine ⟨tv', (ofWire_of_toWire h).trans harrival, hkept, fun htag => ?_, fun i path items c =>
    SerialValue.part?_arrival harrival⟩
  rw [componentType?_eq_iff, ← hkept, keepsElementTag_iff]
  exact ⟨fun heq _ => heq, fun heq => heq htag⟩

/-- An array of lists of integers, one of which is empty, and a null array of booleans. -/
theorem element_tag_kept_nested_and_null :
    (∃ tv', Tagged.ofWire (.ofElements .array [.ofElements .integer
          [{ WireMessage.tagged .integer with numberValue := some 1 }], .ofElements .integer []])
        = .ok tv'
      ∧ KeepsElementTag ⟨.array, .list [.typed ⟨.array, .list [.integer 1], some .integer⟩,
          .typed ⟨.array, .list [], some .integer⟩], some .array⟩ tv')
    ∧ ∃ tv', Tagged.ofWire (.nullOf .array) = .ok tv'
      ∧ KeepsElementTag ⟨.array, .null, some .primitiveBoolean⟩ tv' := by
  constructor
  · obtain ⟨tv', htv', hkept, -⟩ := @element_tag_kept_iff
      ⟨.array, .list [.typed ⟨.array, .list [.integer 1], some .integer⟩,
        .typed ⟨.array, .list [], some .integer⟩], some .array⟩ _ rfl rfl rfl
    exact ⟨tv', htv', hkept.2 (.inl rfl)⟩
  · obtain ⟨tv', htv', hkept, -⟩ := @element_tag_kept_iff
      ⟨.array, .null, some .primitiveBoolean⟩ _ rfl rfl rfl
    exact ⟨tv', htv', hkept.2 (.inr rfl)⟩

/-- A null array of integers, and one that has no tag for its elements, come back as null arrays of
booleans. -/
theorem element_tag_of_null_lost :
    (∃ tv m, Tagged.ofLocal .array .null = .ok tv ∧ tv.toWire = .ok m
      ∧ Tagged.ofWire m = .ok ⟨.array, .null, some .primitiveBoolean⟩
      ∧ ¬ tv.KeepsElementTag ⟨.array, .null, some .primitiveBoolean⟩)
    ∧ ∃ tv m, (Tagged.ofLocal .array .null).map (·.withComponent .integer) = .ok tv
      ∧ tv.toWire = .ok m
      ∧ Tagged.ofWire m = .ok ⟨.array, .null, some .primitiveBoolean⟩
      ∧ ¬ tv.KeepsElementTag ⟨.array, .null, some .primitiveBoolean⟩ := by
  refine ⟨⟨⟨.array, .null, none⟩, .nullOf .array, rfl, rfl, rfl, ?_⟩,
    ⟨.array, .null, some .integer⟩, .nullOf .array, rfl, rfl, rfl, ?_⟩
  · intro h
    cases h.2 rfl rfl
  · intro h
    cases h.1 _ rfl

end Tagged

end TypedRows
