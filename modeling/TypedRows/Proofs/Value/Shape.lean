import TypedRows.Proofs.Outcome
import TypedRows.Value.Json

/-!
# Shapes of typed values

A typed value is made from a local value, from a serial value or from JSON. Whichever way it is
made, its value is null or has the shape that its tag mandates.

## Main definitions

* `TypedRows.SerialValue.Contains` — a typed value stands within a value.
* `TypedRows.Tagged.Built` — the typed values that come out of the ways to make them.

## Main results

* `TypedRows.SerialValue.check_eq_ok_iff` — what passes the check of a tag.
* `TypedRows.Tagged.Built.check` — typed values have the shape of their tag.
-/

set_option autoImplicit false

namespace TypedRows

namespace SerialValue

/-- A typed value is a value or stands within it. -/
inductive Contains (tv : TypedValue) : SerialValue → Prop
  | self : Contains tv (.typed tv)
  | list {items : List SerialValue} {s : SerialValue} (hs : s ∈ items) (h : Contains tv s) :
    Contains tv (.list items)
  | typed {outer : TypedValue} (h : Contains tv outer.value) : Contains tv (.typed outer)

/-- Null passes the check of every tag, and other values pass it when they have the shape of the
tag and the tag holds something. -/
lemma check_eq_ok_iff {tag : Tag} {s : SerialValue} :
    s.check tag = .ok ()
      ↔ s.isNull = true ∨ tag.holdsNothing = false ∧ s.hasShape tag.boxed = true := by
  rw [check]
  split_ifs <;> simp_all

/-- A value that has the shape of the boxed tag passes the check. -/
lemma check_of_hasShape {tag : Tag} {s : SerialValue} (h : s.hasShape tag.boxed = true)
    (hn : tag.boxed.holdsNothing = false) : s.check tag = .ok () := by
  refine check_eq_ok_iff.2 (.inr ⟨?_, h⟩)
  cases tag <;> first | rfl | cases hn

/-- The texts of one character are those that have the shape of a character. -/
lemma hasShape_character_iff {t : String} :
    (string t).hasShape .character = true ↔ ∃ c, singleCharacter? t = some c := by
  have hshape : (string t).hasShape .character = (t.length == 1) := rfl
  rw [hshape, beq_iff_eq, ← String.length_toList, List.length_eq_one_iff, singleCharacter?]
  refine exists_congr fun c => ?_
  constructor
  · intro h
    rw [h]
  · intro h
    split at h
    · next h' => rw [h', Option.some.inj h]
    · cases h

/-- Only arrays and records hold lists, and no tag holds a typed value. -/
lemma scalar_of_check {tag : Tag} {s : SerialValue} (h : s.check tag = .ok ())
    (ha : tag ≠ .array) (hs : tag ≠ .struct) :
    (∀ items, s ≠ list items) ∧ ∀ tv, s ≠ typed tv := by
  refine ⟨?_, ?_⟩
  · rintro items rfl
    cases tag <;> simp_all [check_eq_ok_iff, isNull, hasShape, expectation, Tag.boxed,
      Tag.holdsNothing, Tag.isIntegral, Tag.isTemporal]
  · rintro tv rfl
    cases tag <;> simp_all [check_eq_ok_iff, isNull, hasShape, expectation, Tag.boxed,
      Tag.holdsNothing, Tag.isIntegral, Tag.isTemporal]

/-- What passes the check of a tag has passed it. -/
lemma check_of_checked {tag : Tag} {form : Except Error SerialValue} {s : SerialValue}
    (h : checked tag form = .ok s) : s.check tag = .ok () := by
  obtain ⟨r, -, h⟩ := bind_eq_ok_iff.1 h
  obtain ⟨⟨⟩, hc, h⟩ := bind_eq_ok_iff.1 h
  obtain rfl := Except.ok.inj h
  exact hc

end SerialValue

namespace Tagged

/-- The typed values that are made from local values, serial values or JSON. -/
inductive Built : TypedValue → Prop
  | ofLocal {tag : Tag} {v : LocalValue} {tv : TypedValue} (h : Tagged.ofLocal tag v = .ok tv) :
    Built tv
  | ofSerial {tag : Tag} {s : SerialValue} {tv : TypedValue} (h : Tagged.ofSerial tag s = .ok tv) :
    Built tv
  | ofJson {json : JsonValue} {tv : TypedValue} (h : Tagged.ofJson json = .ok tv) : Built tv

/-- The typed value of a local value has the shape of its tag. -/
lemma check_of_ofLocal {tag : Tag} {v : LocalValue} {tv : TypedValue}
    (h : Tagged.ofLocal tag v = .ok tv) : tv.value.check tv.tag = .ok () := by
  obtain ⟨s, hs, h⟩ := bind_eq_ok_iff.1 h
  obtain rfl := Except.ok.inj h
  exact SerialValue.check_of_checked hs

/-- A typed array has the shape of its tag. -/
lemma check_of_ofElements {component : Tag} {elements : List LocalValue} {tv : TypedValue}
    (h : Tagged.ofElements component elements = .ok tv) : tv.value.check tv.tag = .ok () := by
  obtain ⟨s, hs, h⟩ := bind_eq_ok_iff.1 h
  obtain rfl := Except.ok.inj h
  exact SerialValue.check_of_checked hs

/-- What is read by way of local values is null, or it is made from elements or from a value. -/
lemma made_of_throughLocal {tag : Tag} {component : Option Tag} {s : SerialValue} {tv : TypedValue}
    (h : throughLocal tag component s = .ok tv) :
    tv = explicitNull ∨ (∃ c elements, Tagged.ofElements c elements = .ok tv)
      ∨ ∃ v, Tagged.ofLocal tag v = .ok tv := by
  rw [throughLocal] at h
  split_ifs at h with hn
  · exact .inl (Except.ok.inj h).symm
  · obtain ⟨v, -, h⟩ := bind_eq_ok_iff.1 h
    split at h
    · exact .inr (.inl ⟨_, _, h⟩)
    · exact .inr (.inr ⟨_, h⟩)

/-- What is read as a local value on the way has the shape of its tag. -/
lemma check_of_throughLocal {tag : Tag} {component : Option Tag} {s : SerialValue}
    {tv : TypedValue} (h : throughLocal tag component s = .ok tv) :
    tv.value.check tv.tag = .ok () := by
  obtain rfl | ⟨c, elements, h⟩ | ⟨v, h⟩ := made_of_throughLocal h
  · rfl
  · exact check_of_ofElements h
  · exact check_of_ofLocal h

/-- **Typed values have the shape of their tag**, whichever way they are made. -/
theorem Built.check {tv : TypedValue} (h : tv.Built) : tv.value.check tv.tag = .ok () := by
  cases h with
  | ofLocal h => exact check_of_ofLocal h
  | ofSerial h =>
    obtain ⟨⟨⟩, hc, h⟩ := bind_eq_ok_iff.1 h
    obtain rfl := Except.ok.inj h
    exact hc
  | ofJson h =>
    obtain ⟨parts, -, h⟩ := bind_eq_ok_iff.1 h
    obtain ⟨s, -, h⟩ := bind_eq_ok_iff.1 h
    exact check_of_throughLocal h

end Tagged

end TypedRows
