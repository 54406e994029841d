import TypedRows.Proofs.Value.Likeness

/-!
# Values made of lists and records

The values that rows are made of are scalars, lists whose elements have one tag, and records
without names, nested in each other to any depth.

## Main definitions

* `TypedRows.LocalValue.Uniform` — the values of scalars, lists of one tag and records without
  names.
* `TypedRows.LocalValue.Holds` — a value of some kind occurs in a value.
* `TypedRows.LocalValue.IsRecordList`, `TypedRows.LocalValue.IsSignalling` — the lists with a
  record among their elements, and the signalling NaNs of 32 bits.
* `TypedRows.LocalValue.reread` — the value with other decimals and with its floats of 32 bits
  widened and narrowed.

## Main results

* `TypedRows.LocalValue.alike_reread_iff` — a value that was reread is alike unless a signalling
  NaN tells it apart.
-/

set_option autoImplicit false

namespace TypedRows

namespace LocalValue

/-- The values that are neither null nor made of other values. -/
def isScalar : LocalValue → Bool
  | null | list _ | record _ | struct _ | array _ => false
  | _ => true

/-- A scalar is not null. -/
lemma isNull_of_isScalar {v : LocalValue} (h : v.isScalar = true) : v.isNull = false := by
  cases v <;> first | rfl | cases h

/-- The values of scalars, of lists whose elements have one tag, nulls aside, and of records
without names. -/
inductive Uniform : LocalValue → Prop
  | null : Uniform .null
  | scalar {v : LocalValue} (h : v.isScalar = true) : Uniform v
  | list {items : List LocalValue} (tag : Tag)
    (htag : ∀ v ∈ items, v.isNull = true ∨ Tag.ofLocal v = tag) (h : ∀ v ∈ items, Uniform v) :
    Uniform (.list items)
  | struct {values : List LocalValue} (h : ∀ v ∈ values, Uniform v) :
    Uniform (.struct (.ofValues values))

/-- Null is of lists and records, so that only other values are in question. -/
lemma Uniform.of_not_null {v : LocalValue} (h : v.isNull = false → v.Uniform) : v.Uniform := by
  by_cases hn : v.isNull = true
  · rw [isNull_iff.1 hn]
    exact .null
  · exact h (by simpa using hn)

/-- The elements of a list of one tag. -/
lemma Uniform.of_list {items : List LocalValue} (h : (LocalValue.list items).Uniform) :
    ∃ tag, (∀ v ∈ items, v.isNull = true ∨ Tag.ofLocal v = tag) ∧ ∀ v ∈ items, v.Uniform := by
  cases h with
  | scalar h => cases h
  | list tag htag h => exact ⟨tag, htag, h⟩

/-- The fields of a record without names. -/
lemma Uniform.of_struct {values : List LocalValue}
    (h : (LocalValue.struct (.ofValues values)).Uniform) : ∀ v ∈ values, v.Uniform := by
  cases h with
  | scalar h => cases h
  | struct h => exact h

/-- A value of some kind is a value or occurs in it. -/
inductive Holds (P : LocalValue → Prop) : LocalValue → Prop
  | self {v : LocalValue} (h : P v) : Holds P v
  | list {items : List LocalValue} {v : LocalValue} (hv : v ∈ items) (h : Holds P v) :
    Holds P (.list items)
  | struct {s : StructValue} {v : LocalValue} (hv : v ∈ s.values) (h : Holds P v) :
    Holds P (.struct s)

/-- The records. -/
def IsRecord (v : LocalValue) : Prop := Tag.ofLocal v = .struct

/-- The lists with a record among their elements. -/
def IsRecordList : LocalValue → Prop
  | list items => ∃ v ∈ items, v.IsRecord
  | _ => False

/-- The signalling NaNs of 32 bits. -/
def IsSignalling : LocalValue → Prop
  | float x => x.IsSignalling
  | _ => False

/-! ## What occurs in a value -/

section Holds

variable {P Q : LocalValue → Prop} {v : LocalValue} {items values : List LocalValue}

/-- A value occurs in a list when it is the list or occurs in an item. -/
lemma holds_list_iff : Holds P (.list items) ↔ P (.list items) ∨ ∃ v ∈ items, Holds P v := by
  constructor
  · rintro (h | ⟨hv, h⟩)
    · exact Or.inl h
    · exact Or.inr ⟨_, hv, h⟩
  · rintro (h | ⟨v, hv, h⟩)
    · exact .self h
    · exact .list hv h

/-- A value occurs in a record when it is the record or occurs in a field. -/
lemma holds_struct_iff :
    Holds P (.struct (.ofValues values))
      ↔ P (.struct (.ofValues values)) ∨ ∃ v ∈ values, Holds P v := by
  constructor
  · rintro (h | _ | ⟨hv, h⟩)
    · exact Or.inl h
    · exact Or.inr ⟨_, hv, h⟩
  · rintro (h | ⟨v, hv, h⟩)
    · exact .self h
    · exact .struct (s := .ofValues values) hv h

/-- Only null occurs in null. -/
lemma holds_null_iff : Holds P .null ↔ P .null := by
  constructor
  · rintro ⟨h⟩
    exact h
  · exact .self

/-- Only a scalar itself occurs in it. -/
lemma holds_scalar_iff (hv : v.isScalar = true) : Holds P v ↔ P v := by
  constructor
  · rintro (h | ⟨hx, h⟩ | ⟨hx, h⟩)
    · exact h
    · simp [isScalar] at hv
    · simp [isScalar] at hv
  · exact .self

/-- What occurs in a value is also of a wider kind. -/
lemma Holds.mono (h : Holds P v) (hpq : ∀ w, P w → Holds Q w) : Holds Q v := by
  induction h with
  | self h => exact hpq _ h
  | list hv _ ih => exact .list hv ih
  | struct hv _ ih => exact .struct hv ih

/-- A list with a record among its elements holds a record. -/
lemma Holds.of_recordList (h : Holds IsRecordList v) : Holds IsRecord v := by
  apply h.mono
  intro w hw
  cases w with
  | list items =>
    obtain ⟨u, hu, hrec⟩ := hw
    exact .list hu (.self hrec)
  | _ => cases hw

/-- No list of records occurs in a scalar. -/
lemma not_holds_recordList_of_isScalar (hv : v.isScalar = true) : ¬ v.Holds IsRecordList := by
  rw [holds_scalar_iff hv]
  cases v <;> first | exact id | cases hv

end Holds

/-! ## Values that were reread -/

mutual

/-- The value with every decimal replaced and every float of 32 bits widened and narrowed. -/
def reread (f : Decimal → Decimal) : LocalValue → LocalValue
  | decimal d => decimal (f d)
  | float x => float (.ofBinary64 (.ofBinary32 x))
  | list items => list (rereadItems f items)
  | struct ⟨names, values⟩ => struct ⟨names, rereadItems f values⟩
  | other => other

/-- Items that were reread. -/
def rereadItems (f : Decimal → Decimal) : List LocalValue → List LocalValue
  | [] => []
  | item :: items => item.reread f :: rereadItems f items

end

/-- Items are reread one by one. -/
lemma rereadItems_eq_map (f : Decimal → Decimal) (items : List LocalValue) :
    rereadItems f items = items.map (reread f) := by
  induction items with
  | nil => rfl
  | cons item items ih => rw [rereadItems, ih, List.map_cons]

/-- A list is reread item by item. -/
@[simp] lemma reread_list (f : Decimal → Decimal) (items : List LocalValue) :
    (list items).reread f = list (items.map (reread f)) := by
  rw [reread, rereadItems_eq_map]

/-- A record is reread field by field. -/
@[simp] lemma reread_struct_ofValues (f : Decimal → Decimal) (values : List LocalValue) :
    (struct (.ofValues values)).reread f = struct (.ofValues (values.map (reread f))) := by
  simp [StructOf.ofValues, reread, rereadItems_eq_map]

/-- A value without signalling NaNs is itself when it was reread with the decimals it has. -/
lemma reread_id {v : LocalValue} (hv : v.Uniform) (h : ¬ v.Holds IsSignalling) :
    v.reread id = v := by
  induction hv with
  | null => rfl
  | @scalar v hs =>
    rw [holds_scalar_iff hs] at h
    cases v with
    | float x => rw [reread, (Binary32.ofBinary64_ofBinary32_eq_iff x).2 h]
    | list | record | struct | array => cases hs
    | _ => rfl
  | list tag htag _ ih =>
    rw [reread_list, List.map_congr_left (g := id) fun v hv => ih v hv fun hw => h (.list hv hw),
      List.map_id]
  | struct _ ih =>
    rw [reread_struct_ofValues, List.map_congr_left (g := id) fun v hv => ih v hv fun hw =>
      h (.struct (s := .ofValues _) hv hw), List.map_id]

/-- **A value that was reread is alike**, with equal decimals, unless a signalling NaN tells it
apart. -/
lemma alike_reread_iff (c : FloatComparison) {f : Decimal → Decimal}
    (hf : ∀ d, (f d).sameNumber d = true) {v : LocalValue} (hv : v.Uniform) :
    (v.reread f).alike c v = true ↔ (c = .bits → ¬ v.Holds IsSignalling) := by
  induction hv with
  | null => simp [reread, alike, sameUnder, holds_null_iff, IsSignalling]
  | @scalar v h =>
    rw [holds_scalar_iff h]
    cases v with
    | float x =>
      simpa [reread, alike, sameUnder, IsSignalling] using x.alike_ofBinary64_ofBinary32 c
    | decimal d => simpa [reread, alike, sameUnder, IsSignalling] using hf d
    | _ => simp_all [reread, alike, sameUnder, IsSignalling, isScalar]
  | list tag htag h ih =>
    rw [reread_list, alike_list, List.forall₂_map_left_iff, List.forall₂_same, holds_list_iff]
    simp only [IsSignalling, false_or, not_exists, not_and]
    constructor
    · intro hall hc v hv
      exact (ih v hv).1 (hall v hv) hc
    · intro hall v hv
      exact (ih v hv).2 fun hc => hall hc v hv
  | struct h ih =>
    rw [reread_struct_ofValues, alike_struct_ofValues, List.forall₂_map_left_iff,
      List.forall₂_same, holds_struct_iff]
    simp only [IsSignalling, false_or, not_exists, not_and]
    constructor
    · intro hall hc v hv
      exact (ih v hv).1 (hall v hv) hc
    · intro hall v hv
      exact (ih v hv).2 fun hc => hall hc v hv

end LocalValue

end TypedRows
