import TypedRows.Proofs.Json.NumberText
import TypedRows.Proofs.Number.ShownDecimals

/-!
# Numbers of few digits as JSON text

The reader makes one float of the digits of a number and one of a power of ten, and rounds their
product or quotient. As long as both floats are exact there is only this one rounding, and then the
float that wrote the number comes back: the digits have to fit the fraction of a float, and the
power of ten has to have an odd part that does.

## Main results

* `TypedRows.Numeral.scaled?_of_contains` — a number of few digits is read as the float in whose
  interval it lies.
* `TypedRows.Binary64.reread?_of_small` — a float that is written with few digits is read back.
-/

set_option autoImplicit false

namespace TypedRows

open FloatLayout (double)

variable {a b : Bool} {m n : Nat} {p q e : Int} {x y : Binary64}

/-! ## Exact floats -/

namespace Binary64

/-- An integer of at most 53 bits times a power of two is taken for the float that it is. -/
lemma exists_value_ofInt {s k : Nat} (hs : s ≠ 0) (hlt : s < 2 ^ 53) (hk : k ≤ 971)
    (hn : n = s * 2 ^ k) :
    ∃ (m : Nat) (q : Int), (ofInt n).value = .finite false m q ∧ (m : ℚ) * 2 ^ q = n := by
  obtain ⟨m, q, hc, hm, heq⟩ := FloatLayout.exists_canonical hs hlt (q := k) (by omega) (by omega)
  have hvalue : (s : ℚ) * 2 ^ (k : Int) = n := by rw [hn, zpow_natCast]; push_cast; rfl
  have hn₀ : n ≠ 0 := hn ▸ by positivity
  have hround := FloatLayout.nearest_eq_magnitude (m := n) (q := 0) hc hm hn₀
    (by rw [zpow_zero, mul_one, ← hvalue, heq])
  refine ⟨m, q, ?_, by rw [← heq, hvalue]⟩
  rw [ofInt, ofValue, FloatLayout.ofValue, Int.natAbs_natCast, hround, decide_eq_false (by omega),
    value_mk (FloatLayout.withSign_lt _ _ (hc.finite.trans double.infinityBits_lt_signBit)),
    FloatLayout.decode_magnitude hc]

/-- The product of two finite floats is the exact one, rounded. -/
lemma exists_mul_eq (hx : x.value = .finite a m p) (hy : y.value = .finite b n q) :
    ∃ num den : Nat, den ≠ 0 ∧ (num : ℚ) / den = m * 2 ^ p * (n * 2 ^ q)
      ∧ x.mul y = ofRatio (a != b) num den := by
  refine ⟨m * n * 2 ^ (p + q).toNat, 2 ^ (-(p + q)).toNat, by positivity, ?_, ?_⟩
  · push_cast
    rw [mul_div_assoc, ← zpow_eq_pow_toNat_div two_ne_zero, zpow_add₀ two_ne_zero]
    ring
  · rw [mul, hx, hy]
    rfl

/-- The quotient of two finite floats is the exact one, rounded. -/
lemma exists_divFinite_eq (hx : x.value = .finite a m p) (hy : y.value = .finite b n q)
    (hn : n ≠ 0) :
    ∃ num den : Nat, den ≠ 0 ∧ (num : ℚ) / den = m * 2 ^ p / (n * 2 ^ q)
      ∧ x.divFinite y = ofRatio (a != b) num den := by
  refine ⟨m * 2 ^ (p - q).toNat, n * 2 ^ (q - p).toNat, by positivity, ?_, ?_⟩
  · have hpow : (2 : ℚ) ^ (p - q) = 2 ^ (p - q).toNat / 2 ^ (q - p).toNat := by
      rw [zpow_eq_pow_toNat_div two_ne_zero, neg_sub]
    rw [zpow_sub₀ two_ne_zero] at hpow
    push_cast
    rw [mul_div_mul_comm, mul_div_mul_comm, hpow]
  · rw [divFinite, hx, hy]

/-- A power of two above a number is added by flipping its bit. -/
lemma two_pow_add_eq_xor {b i : Nat} (h : b < 2 ^ i) : 2 ^ i + b = b ^^^ 2 ^ i := by
  refine Nat.eq_of_testBit_eq fun j => ?_
  rw [Nat.testBit_xor]
  rcases lt_trichotomy j i with hj | rfl | hj
  · rw [Nat.testBit_two_pow_add_gt hj, Nat.testBit_two_pow_of_ne hj.ne', Bool.xor_false]
  · rw [Nat.testBit_two_pow_add_eq, Nat.testBit_two_pow_self, Bool.xor_true]
  · have hpow : 2 ^ (i + 1) ≤ 2 ^ j := Nat.pow_le_pow_right (by omega) hj
    rw [pow_succ] at hpow
    rw [Nat.testBit_lt_two_pow (show 2 ^ i + b < 2 ^ j by omega),
      Nat.testBit_lt_two_pow (show b < 2 ^ j by omega), Nat.testBit_two_pow_of_ne hj.ne]
    rfl

/-- A float is another one without a sign, or the opposite of it. -/
lemma exists_unsigned {negative : Bool} (hx : x.value = .finite negative m q) :
    ∃ y : Binary64, y.value = .finite false m q ∧ x = if negative then y.neg else y := by
  obtain ⟨hc, hbits⟩ := FloatLayout.canonical_of_decode x.bits.toNat_lt hx
  have hlt : double.magnitude m q < 2 ^ 63 := hc.finite.trans double.infinityBits_lt_signBit
  have hx' : x = ⟨UInt64.ofNat (double.withSign negative (double.magnitude m q))⟩ := by
    rw [← hbits, UInt64.ofNat_toNat]
  refine ⟨⟨UInt64.ofNat (double.magnitude m q)⟩, ?_, ?_⟩
  · rw [value_mk (hlt.trans (by decide))]
    exact FloatLayout.decode_magnitude hc false
  · rw [hx']
    cases negative with
    | false => rfl
    | true =>
      have hsigned : double.withSign true (double.magnitude m q) = 2 ^ 63 + double.magnitude m q :=
        rfl
      refine congrArg Binary64.mk (UInt64.toNat_inj.1 ?_)
      rw [hsigned, UInt64.toNat_ofNat_of_lt' (by rw [UInt64.size]; omega), UInt64.toNat_xor,
        UInt64.toNat_ofNat_of_lt' (by rw [UInt64.size]; omega), two_pow_add_eq_xor hlt]
      rfl

end Binary64

/-! ## Reading -/

/-- The power of ten that a number of few digits is scaled by is an exact float. -/
lemma Binary64.exists_value_tenPower {k : Nat} (hk : k ≤ 22) :
    ∃ (m : Nat) (q : Int), (ofInt (10 ^ k)).value = .finite false m q
      ∧ (m : ℚ) * 2 ^ q = 10 ^ k := by
  have hfive : 5 ^ k < 2 ^ 53 := (Nat.pow_le_pow_right (by omega) hk).trans_lt (by decide)
  obtain ⟨m, q, hvalue, heq⟩ := exists_value_ofInt (n := 10 ^ k) (s := 5 ^ k) (k := k)
    (by positivity) hfive (by omega) (Nat.mul_pow 5 2 k)
  push_cast at hvalue heq
  exact ⟨m, q, hvalue, heq⟩

/-- **A number of few digits is read as the float in whose interval it lies.** -/
lemma Numeral.scaled?_of_contains (hy : y.value = .finite false m q) (hm : m ≠ 0)
    (hlt : n < 2 ^ 53) (he : e.natAbs ≤ 22)
    (h : (ReadingInterval.of double m q).Contains (n * 10 ^ e)) : scaled? n e = some y := by
  have hn : n ≠ 0 := by
    rintro rfl
    simpa using FloatLayout.pos_of_contains h hm
  obtain ⟨s, p, hs, hsn⟩ :=
    Binary64.exists_value_ofInt (n := n) (k := 0) hn hlt (by omega) (by simp)
  by_cases hneg : e < 0
  · obtain ⟨k, rfl⟩ : ∃ k : Nat, e = -k := ⟨e.natAbs, by omega⟩
    obtain ⟨t, r, ht, htk⟩ := Binary64.exists_value_tenPower (k := k) (by omega)
    have ht₀ : t ≠ 0 := by
      rintro rfl
      rw [Nat.cast_zero, zero_mul] at htk
      exact absurd htk.symm (by positivity)
    obtain ⟨num, den, hden, hquotient, hdiv⟩ := Binary64.exists_divFinite_eq hs ht ht₀
    have hk : (- -(k : Int)).toNat = k := by omega
    rw [scaled?, if_pos hneg, hk, dividedByPower, dif_neg (by rw [greatestPower]; omega)]
    refine congrArg some (hdiv.trans (Binary64.ofRatio_of_contains hy hm hden ?_))
    rwa [hquotient, hsn, htk, ← zpow_natCast, div_eq_mul_inv, ← zpow_neg]
  · obtain ⟨k, rfl⟩ : ∃ k : Nat, e = k := ⟨e.natAbs, by omega⟩
    obtain ⟨t, r, ht, htk⟩ := Binary64.exists_value_tenPower (k := k) (by omega)
    obtain ⟨num, den, hden, hproduct, hmul⟩ := Binary64.exists_mul_eq hs ht
    have hproduct : (Binary64.ofInt n).mul (.ofInt (10 ^ k)) = y := by
      refine hmul.trans (Binary64.ofRatio_of_contains hy hm hden ?_)
      rwa [hproduct, hsn, htk, ← zpow_natCast]
    rw [scaled?, if_neg hneg, Int.toNat_natCast, if_neg (by rw [greatestPower]; omega)]
    have hfinite : ((Binary64.ofInt n).mul (.ofInt (10 ^ k))).value.isFinite = true := by
      rw [hproduct, hy]
      rfl
    exact (if_pos hfinite).trans (congrArg some hproduct)

/-- Zero is read as zero. -/
lemma Numeral.scaled?_zero : scaled? 0 (-1) = some ⟨0⟩ := by
  rw [scaled?, if_pos (by decide), dividedByPower, dif_neg (by decide)]
  decide +kernel

/-- The number that a positive float is written as lies in its interval. -/
lemma FloatStyle.contains_written (hc : double.Canonical m q) (hm : m ≠ 0) :
    (ReadingInterval.of double m q).Contains ((written m q).1 * 10 ^ (written m q).2) := by
  have hcontains := (FloatLayout.contains_shortest hc hm json.tie).1
  rw [written, if_neg hm, writtenDecimal]
  split_ifs with hwhole
  · obtain ⟨n, hn⟩ : ∃ n, n = (double.shortest json.tie m q).1 := ⟨_, rfl⟩
    obtain ⟨k, hk⟩ := Int.eq_ofNat_of_zero_le hwhole.1
    rw [← hn, hk] at hcontains ⊢
    rw [Int.toNat_natCast]
    convert hcontains using 1
    push_cast
    rw [zpow_neg_one, zpow_natCast, pow_succ]
    field_simp
  · exact hcontains

/-- **A float that is written with few digits is read back.** -/
theorem Binary64.reread?_of_small {negative : Bool} (hx : x.value = .finite negative m q)
    (hlt : (FloatStyle.written m q).1 < 2 ^ 53) (he : (FloatStyle.written m q).2.natAbs ≤ 22) :
    x.reread? = some x := by
  obtain ⟨hc, -⟩ := FloatLayout.canonical_of_decode x.bits.toNat_lt hx
  obtain ⟨y, hy, hxy⟩ := exists_unsigned hx
  have hread : Numeral.scaled? (FloatStyle.written m q).1 (FloatStyle.written m q).2 = some y := by
    by_cases hm : m = 0
    · subst hm
      obtain rfl : q = double.leastExponent := hc.full.resolve_left (by simp)
      have hbits := (FloatLayout.canonical_of_decode y.bits.toNat_lt hy).2
      have hzero : y = ⟨0⟩ := congrArg Binary64.mk (UInt64.toNat_inj.1 hbits)
      rw [hzero, FloatStyle.written, if_pos rfl]
      exact Numeral.scaled?_zero
    · exact Numeral.scaled?_of_contains hy hm hlt he (FloatStyle.contains_written hc hm)
  rw [reread?, hx]
  simp only
  rw [hread, Option.map_some, ← hxy]

end TypedRows
