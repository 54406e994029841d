import Mathlib.Algebra.Order.Field.Basic
import Mathlib.Data.Rat.Cast.Order
import Mathlib.Tactic.FieldSimp
import Mathlib.Tactic.Linarith
import Mathlib.Tactic.Positivity
import TypedRows.Calendar.Interval
import TypedRows.Proofs.Calendar.Fractions

/-!
# Nearest multiples

Fractions of a second and intervals are rounded to whole units of the last digit that is kept. What
they are rounded to is the multiple of the unit that is nearest to the exact number; halves of a
unit go up in the fractions that are read and down in the intervals that are written. Readers look at one
digit after the kept ones only, however many digits follow.

## Main definitions

* `TypedRows.Calendar.IsNearestMultiple` — nearest multiples, with a preference between two of them.
* `TypedRows.Calendar.fractionMillis` — the exact milliseconds of digits after a point.

## Main results

* `TypedRows.Calendar.IsNearestMultiple.unique` — a preference leaves one multiple.
* `TypedRows.Calendar.isNearestMultiple_roundFraction` — fractions, halves up.
* `TypedRows.Calendar.isNearestMultiple_roundTo` — intervals, halves down.
-/

set_option autoImplicit false

namespace TypedRows.Calendar

/-- A multiple of `unit` is nearest to `x`, and is the one that is preferred when another one is
equally near. -/
structure IsNearestMultiple (prefers : Int → Int → Prop) (unit : Nat) (x : ℚ) (r : Int) : Prop where
  dvd : (unit : Int) ∣ r
  nearest : ∀ r' : Int, (unit : Int) ∣ r' → |x - r| ≤ |x - r'|
  tie : ∀ r' : Int, (unit : Int) ∣ r' → |x - r'| = |x - r| → prefers r r'

/-! ## Half a unit -/

section HalfUnit

variable {unit : Nat} {x : ℚ} {r r' : Int}

/-- **A preference leaves one multiple**, when it is never for both of two. -/
lemma IsNearestMultiple.unique {prefers : Int → Int → Prop}
    (hprefers : ∀ r r', prefers r r' → prefers r' r → r = r')
    (h : IsNearestMultiple prefers unit x r) (h' : IsNearestMultiple prefers unit x r') :
    r = r' := by
  have hdistance : |x - r| = |x - r'| := le_antisymm (h.nearest r' h'.dvd) (h'.nearest r h.dvd)
  exact hprefers r r' (h.tie r' h'.dvd hdistance.symm) (h'.tie r h.dvd hdistance)

/-- Two multiples lie a unit apart. -/
lemma add_le_of_multiples (hr : (unit : Int) ∣ r) (hr' : (unit : Int) ∣ r') (h : r < r') :
    (r : ℚ) + unit ≤ r' := by
  have hle : (unit : Int) ≤ r' - r := Int.le_of_dvd (by omega) (Int.dvd_sub hr' hr)
  have hadd : r + unit ≤ r' := by omega
  exact_mod_cast hadd

/-- A number between the halves on both sides of a multiple is at most half a unit away. -/
lemma abs_sub_le_half (hlow : (r : ℚ) - unit / 2 ≤ x) (hhigh : x ≤ r + unit / 2) :
    |x - r| ≤ unit / 2 :=
  abs_sub_le_iff.2 ⟨by linarith, by linarith⟩

/-- What is at most half a unit away is not farther away than any other multiple. -/
lemma abs_sub_le_of_half (hr : (unit : Int) ∣ r) (hr' : (unit : Int) ∣ r')
    (hlow : (r : ℚ) - unit / 2 ≤ x) (hhigh : x ≤ r + unit / 2) : |x - r| ≤ |x - r'| := by
  have hhalf := abs_sub_le_half hlow hhigh
  rcases lt_trichotomy r' r with hlt | rfl | hlt
  · have hunit := add_le_of_multiples hr' hr hlt
    calc |x - r| ≤ unit / 2 := hhalf
      _ ≤ x - r' := by linarith
      _ ≤ |x - r'| := le_abs_self _
  · exact le_rfl
  · have hunit := add_le_of_multiples hr hr' hlt
    calc |x - r| ≤ unit / 2 := hhalf
      _ ≤ -(x - r') := by linarith
      _ ≤ |x - r'| := neg_le_abs _

/-- The multiple at most half a unit above a number, or less than half a unit below it. -/
lemma isNearestMultiple_ge (hr : (unit : Int) ∣ r) (hlow : (r : ℚ) - unit / 2 ≤ x)
    (hhigh : x < r + unit / 2) : IsNearestMultiple (· ≥ ·) unit x r := by
  refine ⟨hr, fun r' hr' => abs_sub_le_of_half hr hr' hlow hhigh.le, fun r' hr' hdistance => ?_⟩
  by_contra hlt
  have hunit := add_le_of_multiples hr hr' (not_le.1 hlt)
  have hfar : (unit : ℚ) / 2 < |x - r'| :=
    lt_of_lt_of_le (show (unit : ℚ) / 2 < -(x - r') by linarith) (neg_le_abs _)
  have hhalf := abs_sub_le_half hlow hhigh.le
  linarith

/-- The multiple at most half a unit below a number, or less than half a unit above it. -/
lemma isNearestMultiple_le (hr : (unit : Int) ∣ r) (hlow : (r : ℚ) - unit / 2 < x)
    (hhigh : x ≤ r + unit / 2) : IsNearestMultiple (· ≤ ·) unit x r := by
  refine ⟨hr, fun r' hr' => abs_sub_le_of_half hr hr' hlow.le hhigh, fun r' hr' hdistance => ?_⟩
  by_contra hlt
  have hunit := add_le_of_multiples hr' hr (not_le.1 hlt)
  have hfar : (unit : ℚ) / 2 < |x - r'| :=
    lt_of_lt_of_le (show (unit : ℚ) / 2 < x - r' by linarith) (le_abs_self _)
  have hhalf := abs_sub_le_half hlow.le hhigh
  linarith

/-- Zero is the multiple nearest to itself. -/
lemma isNearestMultiple_zero (hunit : 0 < unit) : IsNearestMultiple (· ≥ ·) unit 0 0 := by
  have hhalf : (0 : ℚ) < unit / 2 := by positivity
  apply isNearestMultiple_ge (Int.dvd_zero _)
  · rw [Int.cast_zero]
    linarith
  · rw [Int.cast_zero]
    linarith

end HalfUnit

/-! ## Intervals -/

/-- What is rounded to a unit is moved by half a unit at most, and by less than that upwards. -/
lemma roundTo_bounds {unit : Nat} (hunit : 0 < unit) (value : Nat) : unit ∣ roundTo value unit
    ∧ 2 * roundTo value unit < 2 * value + unit ∧ 2 * value ≤ 2 * roundTo value unit + unit := by
  have hrest : value % unit < unit := Nat.mod_lt _ hunit
  have hle : value % unit ≤ value := Nat.mod_le _ _
  have hdvd : unit ∣ value - value % unit := Nat.dvd_sub_mod value
  rw [roundTo]
  split
  · exact ⟨Nat.dvd_add_self_right.2 hdvd, by omega, by omega⟩
  · exact ⟨hdvd, by omega, by omega⟩

/-- **Intervals are rounded to the nearest multiple**, halves down. -/
lemma isNearestMultiple_roundTo {unit : Nat} (hunit : 0 < unit) (value : Nat) :
    IsNearestMultiple (· ≤ ·) unit value (roundTo value unit) := by
  obtain ⟨hdvd, hlow, hhigh⟩ := roundTo_bounds hunit value
  have hlow : 2 * (roundTo value unit : ℚ) < 2 * value + unit := by exact_mod_cast hlow
  have hhigh : 2 * (value : ℚ) ≤ 2 * roundTo value unit + unit := by exact_mod_cast hhigh
  apply isNearestMultiple_le
  · exact Int.natCast_dvd_natCast.2 hdvd
  · push_cast
    linarith
  · push_cast
    linarith

/-! ## Fractions of a second -/

section Fractions

variable {cs : List Char}

/-- The exact milliseconds of a second's digits after a point. -/
def fractionMillis (digits : List Char) : ℚ :=
  1000 * (Nat.ofDigitChars 10 digits 0 / 10 ^ digits.length)

/-- **Keeping the first digits of a fraction rounds it down**, also when some of them are
missing. -/
lemma keptDigits_eq_div (h : ∀ c ∈ cs, c.isDigit = true) (count : Nat) :
    keptDigits cs count = Nat.ofDigitChars 10 cs 0 * 10 ^ count / 10 ^ cs.length := by
  rcases Nat.le_total cs.length count with hle | hle
  · have hpow : 10 ^ count = 10 ^ (count - cs.length) * 10 ^ cs.length := by
      rw [← Nat.pow_add, Nat.sub_add_cancel hle]
    rw [keptDigits_eq hle, hpow, ← Nat.mul_assoc, Nat.mul_div_cancel _ (Nat.pow_pos (by omega)),
      Nat.mul_comm]
  · have hpow : 10 ^ cs.length = 10 ^ (cs.length - count) * 10 ^ count := by
      rw [← Nat.pow_add, Nat.sub_add_cancel hle]
    rw [keptDigits_eq_ofDigitChars, Nat.sub_eq_zero_of_le hle, List.replicate_zero, List.append_nil,
      ofDigitChars_take h, hpow, Nat.mul_div_mul_right _ _ (Nat.pow_pos (by omega))]

/-- The kept digits are those of the greatest whole number that is not above the fraction. -/
lemma keptDigits_bounds (h : ∀ c ∈ cs, c.isDigit = true) (count : Nat) :
    (keptDigits cs count : ℚ) ≤ 10 ^ count * (Nat.ofDigitChars 10 cs 0 / 10 ^ cs.length)
      ∧ 10 ^ count * ((Nat.ofDigitChars 10 cs 0 : ℚ) / 10 ^ cs.length)
        < keptDigits cs count + 1 := by
  have hpow : 0 < 10 ^ cs.length := Nat.pow_pos (by omega)
  have hlow := Nat.div_mul_le_self (Nat.ofDigitChars 10 cs 0 * 10 ^ count) (10 ^ cs.length)
  have hhigh := Nat.lt_mul_div_succ (Nat.ofDigitChars 10 cs 0 * 10 ^ count) hpow
  rw [← keptDigits_eq_div h] at hlow hhigh
  have hpos : (0 : ℚ) < 10 ^ cs.length := by positivity
  rw [← mul_div_assoc, le_div_iff₀ hpos, div_lt_iff₀ hpos]
  constructor
  · have hlow : (keptDigits cs count : ℚ) * 10 ^ cs.length
        ≤ Nat.ofDigitChars 10 cs 0 * 10 ^ count := by exact_mod_cast hlow
    linarith
  · have hhigh : (Nat.ofDigitChars 10 cs 0 : ℚ) * 10 ^ count
        < 10 ^ cs.length * (keptDigits cs count + 1) := by exact_mod_cast hhigh
    linarith

/-- The digit after the kept ones tells whether the fraction is half a unit or more above them. -/
lemma keptDigits_half (h : ∀ c ∈ cs, c.isDigit = true) (count : Nat) {up : Nat}
    (hup : up = if 5 ≤ (cs[count]?.getD '0').toNat - '0'.toNat then 1 else 0) :
    ((keptDigits cs count + up : Nat) : ℚ) - 1 / 2
        ≤ 10 ^ count * (Nat.ofDigitChars 10 cs 0 / 10 ^ cs.length)
      ∧ 10 ^ count * ((Nat.ofDigitChars 10 cs 0 : ℚ) / 10 ^ cs.length)
        < (keptDigits cs count + up : Nat) + 1 / 2 := by
  have hdigit : (cs[count]?.getD '0').toNat - '0'.toNat ≤ 9 := by
    apply digit_le_nine
    cases hc : cs[count]? with
    | none => rfl
    | some c => exact h c (List.mem_of_getElem? hc)
  obtain ⟨hlow, hhigh⟩ := keptDigits_bounds h (count + 1)
  rw [keptDigits_succ] at hlow hhigh
  generalize (cs[count]?.getD '0').toNat - '0'.toNat = digit at hup hdigit hlow hhigh
  have hten : (10 : ℚ) ^ (count + 1) = 10 * 10 ^ count := pow_succ' 10 count
  rw [hten, mul_assoc] at hlow hhigh
  push_cast at hlow hhigh ⊢
  subst hup
  split
  · rename_i hfive
    have hfive : (5 : ℚ) ≤ digit := by exact_mod_cast hfive
    have hnine : (digit : ℚ) ≤ 9 := by exact_mod_cast hdigit
    push_cast
    constructor <;> linarith
  · rename_i hfour
    have hfour : (digit : ℚ) + 1 ≤ 5 := by exact_mod_cast not_le.1 hfour
    have hzero : (0 : ℚ) ≤ digit := by positivity
    push_cast
    constructor <;> linarith

/-- **Fractions are rounded to the nearest multiple**, halves up. -/
lemma isNearestMultiple_roundFraction (h : ∀ c ∈ cs, c.isDigit = true) (precision : Nat) :
    IsNearestMultiple (· ≥ ·) (10 ^ (maxPrecision - min precision maxPrecision))
      (fractionMillis cs) (roundFraction cs precision) := by
  have hcount : min precision maxPrecision ≤ maxPrecision := Nat.min_le_right _ _
  have hthousand : (1000 : ℚ)
      = 10 ^ (maxPrecision - min precision maxPrecision) * 10 ^ min precision maxPrecision := by
    rw [← pow_add, Nat.sub_add_cancel hcount]
    norm_num [maxPrecision]
  obtain ⟨hlow, hhigh⟩ := keptDigits_half h (min precision maxPrecision) rfl
  rw [roundFraction_eq, fractionMillis, hthousand, mul_assoc]
  generalize keptDigits cs (min precision maxPrecision)
    + (if 5 ≤ (cs[min precision maxPrecision]?.getD '0').toNat - '0'.toNat then 1 else 0) = kept
    at hlow hhigh ⊢
  have hunit : (0 : ℚ) < 10 ^ (maxPrecision - min precision maxPrecision) := by positivity
  apply isNearestMultiple_ge
  · exact Int.natCast_dvd_natCast.2 (Nat.dvd_mul_left _ _)
  · have hle := mul_le_mul_of_nonneg_left hlow hunit.le
    push_cast
    linarith
  · have hlt := mul_lt_mul_of_pos_left hhigh hunit
    push_cast
    linarith

end Fractions

end TypedRows.Calendar
