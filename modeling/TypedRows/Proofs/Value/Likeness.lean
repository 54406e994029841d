import TypedRows.Proofs.Number.PlainText
import TypedRows.Proofs.Number.Widening
import TypedRows.Value.Local
import TypedRows.Value.Serial

/-!
# Values that are alike

Two values are alike when they have the same form, hold the same decimals as numbers and the same
floats bit for bit; the NaNs may be taken for one value. The tag of the elements of a typed array
does not count, as in the equality of typed values.

## Main definitions

* `TypedRows.FloatComparison` — how floats are compared.
* `TypedRows.LocalValue.alike`, `TypedRows.SerialValue.alike`, `TypedRows.Tagged.alike`
* `TypedRows.SerialValue.mapDecimals`, `TypedRows.Tagged.mapDecimals` — values whose decimals are
  replaced.

## Main results

* `TypedRows.SerialValue.list_induction` — induction on what a value is made of.
* `TypedRows.SerialValue.alike_mapDecimals` — equal decimals make alike values.
-/

set_option autoImplicit false

namespace TypedRows

/-! ## Floats -/

/-- How floats are compared: by their bits, or by their bits with all NaNs equal. -/
inductive FloatComparison where
  | bits | bitsOrNaN
  deriving DecidableEq, Repr

/-- Floats of 32 bits that a comparison does not tell apart. -/
def Binary32.alike (c : FloatComparison) (x y : Binary32) : Bool :=
  x == y || (c == .bitsOrNaN && x.value == .nan && y.value == .nan)

/-- Floats of 64 bits that a comparison does not tell apart. -/
def Binary64.alike (c : FloatComparison) (x y : Binary64) : Bool :=
  x == y || (c == .bitsOrNaN && x.value == .nan && y.value == .nan)

/-- A float of 64 bits is like itself, a NaN included. -/
@[simp] lemma Binary64.alike_self (c : FloatComparison) (x : Binary64) : x.alike c x = true := by
  simp [alike]

/-- A float of 32 bits is like itself, a NaN included. -/
@[simp] lemma Binary32.alike_self (c : FloatComparison) (x : Binary32) : x.alike c x = true := by
  simp [alike]

/-- A float that was widened and narrowed is alike unless it is a signalling NaN and NaNs are
told apart. -/
lemma Binary32.alike_ofBinary64_ofBinary32 (c : FloatComparison) (x : Binary32) :
    (ofBinary64 (.ofBinary32 x)).alike c x = true ↔ (c = .bits → ¬ x.IsSignalling) := by
  simp only [alike, Bool.or_eq_true, beq_iff_eq, ofBinary64_ofBinary32_eq_iff, Bool.and_eq_true]
  cases c with
  | bits => simp
  | bitsOrNaN =>
    by_cases hs : x.IsSignalling
    · simp [hs, hs.1, value_ofBinary64_ofBinary32_of_nan hs.1]
    · simp [hs]

/-- The floats of either width that a comparison does not tell apart. -/
def FloatComparison.equality (c : FloatComparison) : FloatEquality :=
  ⟨Binary32.alike c, Binary64.alike c⟩

/-- The equality of floats of 32 bits that a comparison gives. -/
@[simp] lemma FloatComparison.single_equality (c : FloatComparison) (x y : Binary32) :
    c.equality.single x y = x.alike c y := rfl

/-- The equality of floats of 64 bits that a comparison gives. -/
@[simp] lemma FloatComparison.double_equality (c : FloatComparison) (x y : Binary64) :
    c.equality.double x y = x.alike c y := rfl

/-! ## Local values -/

namespace LocalValue

/-- Values of one form with the same scalars. -/
def alike (c : FloatComparison) : LocalValue → LocalValue → Bool := sameUnder c.equality

/-- Lists are the same when their items are so one by one. -/
lemma sameItemsUnder_iff {e : FloatEquality} {as bs : List LocalValue} :
    sameItemsUnder e as bs = true ↔ List.Forall₂ (fun a b => a.sameUnder e b = true) as bs := by
  induction as generalizing bs with
  | nil => cases bs <;> simp [sameItemsUnder]
  | cons a as ih => cases bs <;> simp [sameItemsUnder, ih]

/-- Lists are alike when their items are so one by one. -/
@[simp] lemma alike_list {c : FloatComparison} {as bs : List LocalValue} :
    (list as).alike c (list bs) = true ↔ List.Forall₂ (fun a b => a.alike c b = true) as bs := by
  simp only [alike, sameUnder, sameItemsUnder_iff]

/-- Records without names are alike when their fields are so one by one. -/
@[simp] lemma alike_struct_ofValues {c : FloatComparison} {as bs : List LocalValue} :
    (struct (.ofValues as)).alike c (struct (.ofValues bs)) = true
      ↔ List.Forall₂ (fun a b => a.alike c b = true) as bs := by
  simp [StructOf.ofValues, alike, sameUnder, sameItemsUnder_iff]

end LocalValue

/-! ## Serial values -/

namespace SerialValue

/-- The values that have no parts and no tag of their own and are not null. -/
def isScalar : SerialValue → Bool
  | null | list _ | typed _ => false
  | _ => true

/-- A scalar is not null. -/
lemma isNull_of_isScalar {s : SerialValue} (h : s.isScalar = true) : s.isNull = false := by
  cases s <;> first | rfl | cases h

/-- Values of one form with the same scalars. The tag of the elements of a typed value does not
count. -/
def alike (c : FloatComparison) : SerialValue → SerialValue → Bool := sameUnder c.equality

/-- Lists are the same when their items are so one by one. -/
lemma sameItemsUnder_iff {e : FloatEquality} {as bs : List SerialValue} :
    sameItemsUnder e as bs = true ↔ List.Forall₂ (fun a b => a.sameUnder e b = true) as bs := by
  induction as generalizing bs with
  | nil => cases bs <;> simp [sameItemsUnder]
  | cons a as ih => cases bs <;> simp [sameItemsUnder, ih]

/-- Lists are alike when their items are so one by one. -/
@[simp] lemma alike_list {c : FloatComparison} {as bs : List SerialValue} :
    (list as).alike c (list bs) = true ↔ List.Forall₂ (fun a b => a.alike c b = true) as bs := by
  simp only [alike, sameUnder, sameItemsUnder_iff]

/-- **Induction on serial values**: on the items of a list and on what is tagged. -/
theorem list_induction {motive : SerialValue → Prop} (null : motive .null)
    (bool : ∀ b, motive (.bool b)) (integer : ∀ n, motive (.integer n))
    (float : ∀ x, motive (.float x)) (decimal : ∀ d, motive (.decimal d))
    (string : ∀ s, motive (.string s))
    (list : ∀ items, (∀ s ∈ items, motive s) → motive (.list items))
    (typed : ∀ tag s component, motive s → motive (.typed ⟨tag, s, component⟩)) :
    ∀ s, motive s
  | .null => null
  | .bool b => bool b
  | .integer n => integer n
  | .float x => float x
  | .decimal d => decimal d
  | .string s => string s
  | .list items => list items fun s _ =>
      list_induction null bool integer float decimal string list typed s
  | .typed ⟨tag, s, component⟩ => typed tag s component
      (list_induction null bool integer float decimal string list typed s)

end SerialValue

/-- Typed values of one tag whose values are alike. -/
def Tagged.alike (c : FloatComparison) (a b : TypedValue) : Bool :=
  a.tag == b.tag && a.value.alike c b.value

/-- Typed values within values are compared as typed values. -/
@[simp] lemma SerialValue.alike_typed {c : FloatComparison} {a b : TypedValue} :
    (SerialValue.typed a).alike c (.typed b) = a.alike c b := by
  simp only [alike, sameUnder, Tagged.alike]

/-! ## Other decimals -/

namespace SerialValue

mutual

/-- The value with every decimal in it replaced. -/
def mapDecimals (f : Decimal → Decimal) : SerialValue → SerialValue
  | decimal d => decimal (f d)
  | list items => list (mapItems f items)
  | typed ⟨tag, s, component⟩ => typed ⟨tag, s.mapDecimals f, component⟩
  | other => other

/-- Items with every decimal in them replaced. -/
def mapItems (f : Decimal → Decimal) : List SerialValue → List SerialValue
  | [] => []
  | item :: items => item.mapDecimals f :: mapItems f items

end

/-- The decimals of a list are those of its items. -/
@[simp] lemma mapDecimals_list (f : Decimal → Decimal) (items : List SerialValue) :
    (list items).mapDecimals f = list (items.map (mapDecimals f)) := by
  have h : mapItems f items = items.map (mapDecimals f) := by
    induction items with
    | nil => rfl
    | cons item items ih => rw [mapItems, ih, List.map_cons]
  rw [mapDecimals, h]

/-- No decimal makes a value null. -/
@[simp] lemma isNull_mapDecimals (f : Decimal → Decimal) (s : SerialValue) :
    (s.mapDecimals f).isNull = s.isNull := by
  cases s <;> simp [mapDecimals, isNull]

end SerialValue

/-- The typed value with every decimal in it replaced. -/
def Tagged.mapDecimals (f : Decimal → Decimal) (tv : TypedValue) : TypedValue :=
  ⟨tv.tag, tv.value.mapDecimals f, tv.component⟩

/-- The decimals of a typed value are those of what is within it. -/
@[simp] lemma SerialValue.mapDecimals_typed (f : Decimal → Decimal) (tv : TypedValue) :
    (SerialValue.typed tv).mapDecimals f = .typed (tv.mapDecimals f) := by
  rw [SerialValue.mapDecimals, Tagged.mapDecimals]

/-- A value is what it is when its decimals are replaced by themselves. -/
@[simp] lemma SerialValue.mapDecimals_id (s : SerialValue) : s.mapDecimals id = s := by
  induction s using SerialValue.list_induction with
  | list items ih => rw [mapDecimals_list, List.map_congr_left ih, List.map_id']
  | typed tag s component ih => rw [mapDecimals, ih]
  | _ => rfl

/-- A typed value is what it is when its decimals are replaced by themselves. -/
@[simp] lemma Tagged.mapDecimals_id (tv : TypedValue) : tv.mapDecimals id = tv := by
  rw [mapDecimals, SerialValue.mapDecimals_id]

/-- Equal decimals make alike values. -/
lemma SerialValue.alike_mapDecimals (c : FloatComparison) {f : Decimal → Decimal}
    (hf : ∀ d, (f d).sameNumber d = true) (s : SerialValue) :
    (s.mapDecimals f).alike c s = true := by
  induction s using SerialValue.list_induction with
  | list items ih =>
    rw [mapDecimals_list, alike_list, List.forall₂_map_left_iff, List.forall₂_same]
    exact ih
  | typed tag s component ih => simpa [mapDecimals, Tagged.alike] using ih
  | decimal d => simpa [mapDecimals, alike, sameUnder] using hf d
  | _ => simp [mapDecimals, alike, sameUnder]

/-- Equal decimals make alike typed values. -/
lemma Tagged.alike_mapDecimals (c : FloatComparison) {f : Decimal → Decimal}
    (hf : ∀ d, (f d).sameNumber d = true) (tv : TypedValue) :
    (tv.mapDecimals f).alike c tv = true := by
  simpa [mapDecimals, alike] using tv.value.alike_mapDecimals c hf

end TypedRows
