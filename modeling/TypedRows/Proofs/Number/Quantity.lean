import Mathlib.Tactic.Linarith
import TypedRows.Number.Shortest
import TypedRows.Proofs.Number.IntegerPart
import TypedRows.Proofs.Number.Widening

/-!
# What numbers denote

Integers, floats of both widths and decimals denote rational numbers, and floats the infinities
and no number besides. A number survives a conversion between them when the kind it is converted
to has a number of that quantity: rounding to the nearest float then finds it.

## Main definitions

* `TypedRows.Quantity` — a rational number, an infinity or no number.
* `TypedRows.FloatValue.quantity`, `TypedRows.Decimal.quantity` — what floats and decimals denote.

## Main results

* `TypedRows.Binary64.quantity_ofBinary32` — widening keeps what is denoted.
* `TypedRows.Binary32.quantity_ofBinary64` — narrowing keeps what a float of 32 bits can denote.
* `TypedRows.Binary64.quantity_ofInt` — so does taking an integer for a float of 64 bits.
* `TypedRows.Decimal.quantity_eq_of_sameNumber` — equal decimals denote one number.
* `TypedRows.FloatValue.toInt64_of_quantity`, `TypedRows.Decimal.toInt64?_of_quantity` — a number
  that is an integer of 64 bits is cut to that integer.
-/

set_option autoImplicit false

namespace TypedRows

/-- What a number denotes: zeros of either sign are one number, and so are the values that are
not a number. -/
inductive Quantity where
  | number (value : ℚ)
  | infinite (negative : Bool)
  | nan
  deriving DecidableEq

/-- What an integer denotes. -/
def Quantity.ofInt (n : Int) : Quantity := number n

/-- Integers are different quantities. -/
lemma Quantity.ofInt_inj {m n : Int} : ofInt m = ofInt n ↔ m = n := by
  simp [ofInt]

/-- The number of a sign, a significand and an exponent. -/
def FloatValue.rational (negative : Bool) (m : Nat) (q : Int) : ℚ :=
  (if negative then -1 else 1) * (m * 2 ^ q)

/-- What the bits of a float denote. -/
def FloatValue.quantity : FloatValue → Quantity
  | .nan => .nan
  | .infinite negative => .infinite negative
  | .finite negative m q => .number (rational negative m q)

/-- What a decimal denotes. -/
def Decimal.quantity (d : Decimal) : Quantity := .number (d.unscaled * 10 ^ (-d.scale.toInt))

/-! ## Rounding -/

/-- A float is zero when its significand is. -/
lemma FloatValue.rational_eq_zero_iff {negative : Bool} {m : Nat} {q : Int} :
    rational negative m q = 0 ↔ m = 0 := by
  cases negative <;> simp [rational, zpow_ne_zero]

/-- Equal numbers that are not zero have one sign and one magnitude. -/
lemma FloatValue.eq_of_rational_eq {a b : Bool} {m s : Nat} {q e : Int} (hm : m ≠ 0)
    (h : rational a m q = rational b s e) : a = b ∧ (m : ℚ) * 2 ^ q = s * 2 ^ e := by
  have hpos : (0 : ℚ) < m * 2 ^ q := by positivity
  have hnonneg : (0 : ℚ) ≤ s * 2 ^ e := by positivity
  cases a <;> cases b <;> simp only [rational, Bool.false_eq_true, ↓reduceIte, one_mul, neg_mul]
    at h
  · exact ⟨rfl, h⟩
  · linarith
  · linarith
  · exact ⟨rfl, neg_inj.1 h⟩

namespace FloatLayout

variable {l : FloatLayout}

/-- The bits of a finite value fit the layout. -/
lemma ofValue_finite_lt (negative : Bool) (m : Nat) (q : Int) :
    l.ofValue (.finite negative m q) < 2 * l.signBit :=
  withSign_lt _ _ ((nearest_le _ _).trans_lt l.infinityBits_lt_signBit)

/-- **Rounding finds the number** when the layout has it. -/
lemma quantity_decode_ofValue {a b : Bool} {m s : Nat} {q e : Int} (hc : l.Canonical s e)
    (h : FloatValue.rational b s e = FloatValue.rational a m q) :
    (l.decode (l.ofValue (.finite a m q))).quantity = .number (FloatValue.rational a m q) := by
  rw [ofValue]
  by_cases hm : m = 0
  · subst hm
    have hzero : FloatValue.rational a 0 q = 0 := FloatValue.rational_eq_zero_iff.2 rfl
    obtain rfl : s = 0 := FloatValue.rational_eq_zero_iff.1 (h.trans hzero)
    obtain rfl : e = l.leastExponent := hc.full.resolve_left (by simp)
    have hdecode := decode_magnitude hc a
    rw [magnitude, Int.sub_self] at hdecode
    simp only [nearest, zero_mul, ↓reduceIte, Int.toNat_zero, add_zero] at hdecode ⊢
    rw [hdecode, FloatValue.quantity, hzero, FloatValue.rational_eq_zero_iff.2 rfl]
  · obtain ⟨rfl, heq⟩ := FloatValue.eq_of_rational_eq hm h.symm
    have hs : s ≠ 0 := fun hs => hm (FloatValue.rational_eq_zero_iff.1
      (h.symm.trans (FloatValue.rational_eq_zero_iff.2 hs)))
    rw [nearest_eq_magnitude hc hs hm heq, decode_magnitude hc, FloatValue.quantity, h]

end FloatLayout

/-! ## Between floats -/

/-- **Widening keeps what is denoted.** -/
lemma Binary64.quantity_ofBinary32 (x : Binary32) :
    (ofBinary32 x).value.quantity = x.value.quantity := by
  cases hx : x.value with
  | nan => rw [Binary32.value_ofBinary32_of_nan hx]
  | infinite negative => rw [Binary32.value_ofBinary32_of_infinite hx]
  | finite negative m q =>
    obtain ⟨s, e, hvalue, -, heq⟩ := Binary32.value_ofBinary32 hx
    rw [hvalue, FloatValue.quantity, FloatValue.quantity, FloatValue.rational,
      FloatValue.rational, heq]

/-- **Narrowing keeps what a float of 32 bits denotes as well.** -/
lemma Binary32.quantity_ofBinary64 {x : Binary64} {y : Binary32}
    (h : y.value.quantity = x.value.quantity) :
    (ofBinary64 x).value.quantity = x.value.quantity := by
  cases hx : x.value with
  | nan => rw [value_ofBinary64_of_nan hx]
  | infinite negative =>
    simp only [ofBinary64, hx, FloatLayout.ofValue]
    rw [value_mk (FloatLayout.withSign_lt _ _ FloatLayout.single.infinityBits_lt_signBit)]
    cases negative <;> rfl
  | finite negative m q =>
    rw [hx, FloatValue.quantity] at h
    cases hy : y.value with
    | nan | infinite => simp [hy, FloatValue.quantity] at h
    | finite b s e =>
      rw [hy, FloatValue.quantity, Quantity.number.injEq] at h
      obtain ⟨hc, -⟩ := FloatLayout.canonical_of_decode y.bits_lt hy
      simp only [ofBinary64, hx]
      rw [value_mk (FloatLayout.ofValue_finite_lt _ _ _),
        FloatLayout.quantity_decode_ofValue hc h, FloatValue.quantity]

/-! ## From integers -/

/-- An integer as a significand without an exponent. -/
lemma FloatValue.rational_natAbs (n : Int) : rational (n < 0) n.natAbs 0 = n := by
  have habs : (n.natAbs : ℚ) = ((|n| : ℤ) : ℚ) := Nat.cast_natAbs n
  by_cases hn : n < 0
  · simp [rational, hn, habs, abs_of_neg]
  · simp [rational, hn, habs, abs_of_nonneg (not_lt.1 hn)]

/-- **An integer that is a float of 64 bits is taken for that float.** -/
lemma Binary64.quantity_ofInt {n : Int} {x : Binary64} (h : x.value.quantity = .ofInt n) :
    (ofInt n).value.quantity = .ofInt n := by
  cases hx : x.value with
  | nan | infinite => simp [hx, FloatValue.quantity, Quantity.ofInt] at h
  | finite b s e =>
    rw [hx, FloatValue.quantity, Quantity.ofInt, Quantity.number.injEq,
      ← FloatValue.rational_natAbs] at h
    obtain ⟨hc, -⟩ := FloatLayout.canonical_of_decode x.bits.toNat_lt hx
    rw [ofInt, ofValue, value_mk (FloatLayout.ofValue_finite_lt _ _ _),
      FloatLayout.quantity_decode_ofValue hc h, FloatValue.rational_natAbs, Quantity.ofInt]

/-! ## Decimals -/

namespace Decimal

/-- The quantity of an integer. -/
@[simp] lemma quantity_ofInt (n : Int) : (ofInt n).quantity = .ofInt n := by
  simp [quantity, ofInt, Quantity.ofInt]

/-- The unscaled integer at a scale that is not smaller. -/
lemma quantity_eq_unscaledAt (d : Decimal) {scale : Int} (h : d.scale.toInt ≤ scale) :
    d.quantity = .number (d.unscaledAt scale * 10 ^ (-scale)) := by
  obtain ⟨k, hk⟩ : ∃ k : Nat, scale = d.scale.toInt + k := ⟨(scale - d.scale.toInt).toNat, by omega⟩
  have hpow : (10 : ℚ) ^ (-d.scale.toInt) = 10 ^ k * 10 ^ (-scale) := by
    rw [← zpow_natCast, ← zpow_add₀ (by norm_num), hk]
    congr 1
    omega
  have hdigits : (scale - d.scale.toInt).toNat = k := by omega
  rw [quantity, hpow, unscaledAt, hdigits]
  push_cast
  rw [mul_assoc]

/-- **Equal decimals denote one number.** -/
lemma quantity_eq_of_sameNumber {a b : Decimal} (h : a.sameNumber b = true) :
    a.quantity = b.quantity := by
  rw [sameNumber] at h
  split_ifs at h with hzero
  · have heq : a.unscaled = b.unscaled := by simpa using h
    have hboth : a.unscaled = 0 ∧ b.unscaled = 0 := by omega
    simp [quantity, hboth]
  · rw [a.quantity_eq_unscaledAt (le_max_left _ _), b.quantity_eq_unscaledAt (le_max_right _ _),
      beq_iff_eq.1 h]

end Decimal

/-! ## To integers -/

/-- **A float that is an integer of 64 bits is cut to that integer.** -/
lemma FloatValue.toInt64_of_quantity {v : FloatValue} {n : Int64}
    (h : v.quantity = .ofInt n.toInt) : v.toInt64 = n := by
  cases v with
  | nan | infinite => simp [quantity, Quantity.ofInt] at h
  | finite negative m q =>
    rw [quantity, Quantity.ofInt, Quantity.number.injEq, ← rational_natAbs] at h
    have hmagnitude : m * 2 ^ q.toNat / 2 ^ (-q).toNat = n.toInt.natAbs
        ∧ (if negative then -(n.toInt.natAbs : Int) else n.toInt.natAbs) = n.toInt := by
      by_cases hm : m = 0
      · subst hm
        have hn := rational_eq_zero_iff.1 (h.symm.trans (rational_eq_zero_iff.2 rfl))
        simp only [zero_mul, Nat.zero_div]
        split_ifs <;> omega
      · obtain ⟨hsign, heq⟩ := eq_of_rational_eq hm h
        have hscaled := FloatLayout.scaled_eq heq
        simp only [neg_zero, Int.toNat_zero, pow_zero, mul_one] at hscaled
        refine ⟨Nat.div_eq_of_eq_mul_left (by positivity) hscaled, ?_⟩
        rw [hsign]
        simp only [decide_eq_true_eq]
        split_ifs <;> omega
    have hl := n.le_toInt
    have hu := n.toInt_lt
    simp only [toInt64, hmagnitude.1, hmagnitude.2]
    rw [min_eq_right (by omega), max_eq_right (by omega), Int64.ofInt_toInt]

namespace Decimal

/-- A decimal of the quantity of an integer is the integer. -/
lemma rational_of_quantity {d : Decimal} {n : Int} (h : d.quantity = .ofInt n) :
    d.rational = n :=
  Quantity.number.inj h

/-- **The integer part of a decimal that is an integer** is that integer. -/
lemma truncated_of_quantity {d : Decimal} {n : Int} (h : d.quantity = .ofInt n) :
    d.truncated = n := by
  rw [truncated_eq, rational_of_quantity h, integerPart_intCast]

/-- **A decimal that is an integer of 64 bits is cut to that integer.** -/
lemma toInt64?_of_quantity {d : Decimal} {n : Int64} (h : d.quantity = .ofInt n.toInt) :
    d.toInt64? = some n := by
  have hfits : d.toSigned? 64 = some n.toInt :=
    toSigned?_eq_some_iff.2
      ⟨by rw [rational_of_quantity h, integerPart_intCast], n.le_toInt, n.toInt_lt⟩
  rw [toInt64?, hfits, Option.map_some, Int64.ofInt_toInt]

end Decimal

end TypedRows
