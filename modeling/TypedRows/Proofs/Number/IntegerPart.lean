import Mathlib.Data.Rat.Floor
import TypedRows.Proofs.Number.PlainText

/-!
# Integer parts

A number is cut off to the integer next to it on the side of zero, whatever its sign. The integer
part of a decimal is that of the rational number that it denotes; the digits that decide it are
looked at only where the scale does not decide it already.

## Main definitions

* `TypedRows.integerPart` — the integer that a rational number is cut off to.
* `TypedRows.Decimal.rational` — the rational number that a decimal denotes.

## Main results

* `TypedRows.integerPart_div` — the integer part of a fraction is the truncated quotient.
* `TypedRows.Decimal.truncated_eq` — decimals are cut off to their integer parts.
* `TypedRows.Decimal.toSigned?_eq_some_iff` — the decimals whose integer part fits a width.
-/

set_option autoImplicit false

namespace TypedRows

/-! ## Rational numbers -/

/-- The integer next to a rational number on the side of zero. -/
def integerPart (q : ℚ) : Int := if 0 ≤ q then ⌊q⌋ else ⌈q⌉

/-- An integer is its own integer part. -/
@[simp] lemma integerPart_intCast (n : Int) : integerPart n = n := by
  simp [integerPart]

/-- **The integer part of a fraction** is the truncated quotient. -/
lemma integerPart_div (n : Int) {d : Nat} (hd : 0 < d) : integerPart (n / d) = n.tdiv d := by
  have hpos : (0 : ℚ) < d := Nat.cast_pos.2 hd
  rcases le_or_gt 0 n with hn | hn
  · have hq : (0 : ℚ) ≤ n / d := div_nonneg (Int.cast_nonneg hn) hpos.le
    rw [integerPart, if_pos hq, Rat.floor_intCast_div_natCast, Int.tdiv_eq_ediv_of_nonneg hn]
  · have hq : ¬ (0 : ℚ) ≤ n / d := not_le.2 (div_neg_of_neg_of_pos (Int.cast_lt_zero.2 hn) hpos)
    rw [integerPart, if_neg hq, Rat.ceil_intCast_div_natCast,
      ← Int.tdiv_eq_ediv_of_nonneg (by omega), Int.neg_tdiv, neg_neg]

namespace Decimal

/-! ## Decimals -/

/-- The rational number that a decimal denotes. -/
def rational (d : Decimal) : ℚ := d.unscaled * 10 ^ (-d.scale.toInt)

variable {d : Decimal}

/-- A decimal times an integer. -/
@[simp] lemma rational_timesInt (d : Decimal) (n : Int) :
    (d.timesInt n).rational = d.rational * n := by
  simp only [rational, timesInt, Int.cast_mul]
  ring

/-- Without digits after the point zeros are appended to the unscaled integer. -/
lemma rational_of_scale_nonpos (hs : d.scale.toInt ≤ 0) :
    d.rational = (d.unscaled * 10 ^ (-d.scale.toInt).toNat : Int) := by
  have hscale : -d.scale.toInt = ((-d.scale.toInt).toNat : Int) := by omega
  rw [rational, hscale, zpow_natCast, ← hscale]
  push_cast
  rfl

/-- With digits after the point the unscaled integer is divided. -/
lemma rational_of_scale_pos (hs : 0 < d.scale.toInt) :
    d.rational = d.unscaled / (10 ^ d.scale.toInt.toNat : Nat) := by
  have hscale : d.scale.toInt = (d.scale.toInt.toNat : Int) := by omega
  rw [rational, hscale, zpow_neg, zpow_natCast, ← hscale, div_eq_mul_inv]
  push_cast
  rfl

/-- A decimal with more digits after the point than its unscaled integer has binary digits lies
below one. -/
lemma natAbs_lt_pow_of_isBelowOne (h : d.isBelowOne = true) :
    d.unscaled.natAbs < 10 ^ d.scale.toInt.toNat := by
  rw [isBelowOne, decide_eq_true_eq] at h
  calc d.unscaled.natAbs < 2 ^ (d.unscaled.natAbs.log2 + 1) := Nat.lt_log2_self
    _ ≤ 2 ^ d.scale.toInt.toNat := Nat.pow_le_pow_right (by decide) (by omega)
    _ ≤ 10 ^ d.scale.toInt.toNat := Nat.pow_le_pow_left (by decide) _

/-- Nothing is cut off without digits after the point. -/
lemma truncated_of_scale_nonpos (hs : d.scale.toInt ≤ 0) :
    d.truncated = d.unscaled * 10 ^ (-d.scale.toInt).toNat := by
  have hbelow : ¬ d.isBelowOne = true := by
    rw [isBelowOne, decide_eq_true_eq]
    omega
  rw [truncated]
  split_ifs with hzero
  · rw [hzero.resolve_right hbelow, zero_mul]
  · rfl

/-- The digits after the point are cut off by a division. -/
lemma truncated_of_scale_pos (hs : 0 < d.scale.toInt) :
    d.truncated = d.unscaled.tdiv (10 ^ d.scale.toInt.toNat) := by
  rw [truncated]
  split_ifs with hbelow hs'
  · rcases hbelow with hzero | hbelow
    · rw [hzero, Int.zero_tdiv]
    · have hlt := natAbs_lt_pow_of_isBelowOne hbelow
      have hquotient : (d.unscaled.tdiv (10 ^ d.scale.toInt.toNat)).natAbs = 0 := by
        rw [Int.natAbs_tdiv, Int.natAbs_pow]
        exact Nat.div_eq_of_lt hlt
      exact (Int.natAbs_eq_zero.1 hquotient).symm
  · omega
  · rfl

/-- **Decimals are cut off to their integer parts.** -/
theorem truncated_eq (d : Decimal) : d.truncated = integerPart d.rational := by
  rcases le_or_gt d.scale.toInt 0 with hs | hs
  · rw [truncated_of_scale_nonpos hs, rational_of_scale_nonpos hs, integerPart_intCast]
  · rw [truncated_of_scale_pos hs, rational_of_scale_pos hs, integerPart_div _ (by positivity)]
    push_cast
    rfl

/-- **The decimals whose integer part fits a width.** -/
theorem toSigned?_eq_some_iff {bits : Nat} {n : Int} : d.toSigned? bits = some n
    ↔ integerPart d.rational = n ∧ -(2 ^ (bits - 1)) ≤ n ∧ n < 2 ^ (bits - 1) := by
  rw [toSigned?, ← truncated_eq]
  split_ifs with hscale
  · -- so many zeros are appended that the integer part is too long
    obtain ⟨hne, hfar⟩ := hscale
    have hlog := le_log2_mul_pow hne (-d.scale.toInt).toNat
    rw [← truncated_of_scale_nonpos (by omega)] at hlog
    have hlong : 2 ^ (bits + 1) ≤ d.truncated.natAbs := by
      rw [← Nat.le_log2 (by rintro hzero; simp [hzero] at hlog; omega)]
      omega
    have hwidth : 2 ^ (bits - 1) < 2 ^ (bits + 1) := Nat.pow_lt_pow_right (by decide) (by omega)
    simp only [false_iff, not_and]
    rintro rfl hlow hhigh
    have hshort : d.truncated.natAbs ≤ 2 ^ (bits - 1) := by
      zify
      exact abs_le.2 ⟨hlow, hhigh.le⟩
    omega
  · dsimp only
    split_ifs with hfits
    · simp only [Option.some.injEq]
      exact ⟨fun h => ⟨h, h ▸ hfits⟩, fun h => h.1⟩
    · simp only [false_iff, not_and]
      rintro rfl hlow hhigh
      exact hfits ⟨hlow, hhigh⟩

end Decimal

end TypedRows
