import Mathlib.Algebra.Order.Field.Power
import Mathlib.Data.Rat.Cast.Order
import Mathlib.Tactic.FieldSimp
import Mathlib.Tactic.Positivity
import Mathlib.Tactic.Ring
import TypedRows.Number.Binary

/-!
# Floats of 32 bits among those of 64

Every float of 32 bits is one of 64 bits, and narrowing takes it back to the same bits. Only the
NaNs that signal do not come back as they were: widening makes them quiet.

## Main definitions

* `TypedRows.FloatLayout.Canonical` — the significands and exponents that bits stand for.
* `TypedRows.Binary32.IsSignalling` — the NaNs whose quiet bit is not set.

## Main results

* `TypedRows.FloatLayout.nearest_eq_magnitude` — rounding is exact on the numbers of a layout.
* `TypedRows.Binary32.ofBinary64_ofBinary32_eq_iff` — narrowing undoes widening on every float
  but the signalling NaNs.
* `TypedRows.Binary32.not_isSignalling_ofBinary64` — narrowing makes no signalling NaN.
-/

set_option autoImplicit false

namespace TypedRows

namespace FloatLayout

variable {l : FloatLayout} {m s : Nat} {q e : Int}

/-! ## Significands and exponents -/

/-- The magnitude bits of a significand and an exponent. -/
def magnitude (l : FloatLayout) (m : Nat) (q : Int) : Nat :=
  (q - l.leastExponent).toNat * 2 ^ l.fractionBits + m

/-- A significand and an exponent that finite bits stand for: the significand fills the fraction
unless the exponent is the least one. -/
structure Canonical (l : FloatLayout) (m : Nat) (q : Int) : Prop where
  significand_lt : m < 2 ^ (l.fractionBits + 1)
  least_le : l.leastExponent ≤ q
  full : 2 ^ l.fractionBits ≤ m ∨ q = l.leastExponent
  finite : l.magnitude m q < l.infinityBits

/-- The bits of infinity lie below the sign. -/
lemma infinityBits_lt_signBit (l : FloatLayout) : l.infinityBits < l.signBit := by
  have h : 0 < 2 ^ l.fractionBits := by positivity
  have h' : 0 < 2 ^ l.exponentBits := by positivity
  rw [infinityBits, signBit, pow_add]
  exact Nat.mul_lt_mul_of_pos_right (by omega) h

/-- A magnitude keeps its place under either sign. -/
lemma withSign_mod (negative : Bool) {b : Nat} (h : b < l.signBit) :
    l.withSign negative b % l.signBit = b := by
  cases negative <;> simp [withSign, Nat.mod_eq_of_lt h]

/-- The sign is read back from the bits. -/
lemma signBit_le_withSign (negative : Bool) {b : Nat} (h : b < l.signBit) :
    decide (l.signBit ≤ l.withSign negative b) = negative := by
  cases negative <;> simp [withSign, h]

/-- Bits are a sign and a magnitude. -/
lemma withSign_decide {bits : Nat} (h : bits < 2 * l.signBit) :
    l.withSign (decide (l.signBit ≤ bits)) (bits % l.signBit) = bits := by
  by_cases hs : l.signBit ≤ bits
  · rw [Nat.mod_eq_sub_mod hs, Nat.mod_eq_of_lt (by omega)]
    simp [withSign, hs]
  · simp [withSign, hs, Nat.mod_eq_of_lt (Nat.lt_of_not_le hs)]

/-- The bits of a canonical pair denote it. -/
lemma decode_magnitude (h : l.Canonical m q) (negative : Bool) :
    l.decode (l.withSign negative (l.magnitude m q)) = .finite negative m q := by
  have hlt := h.finite.trans l.infinityBits_lt_signBit
  have hpos : 0 < 2 ^ l.fractionBits := by positivity
  have hm := h.significand_lt
  rw [pow_succ] at hm
  have hq := h.least_le
  simp only [decode, withSign_mod negative hlt, signBit_le_withSign negative hlt]
  rw [if_neg h.finite.ne, if_neg h.finite.le.not_gt]
  by_cases hfull : 2 ^ l.fractionBits ≤ m
  · have hdiv : l.magnitude m q / 2 ^ l.fractionBits = (q - l.leastExponent).toNat + 1 := by
      rw [magnitude, Nat.add_comm, Nat.add_mul_div_right _ _ hpos,
        Nat.div_eq_of_lt_le (k := 1) (by omega) (by omega)]
      omega
    have hmod : l.magnitude m q % 2 ^ l.fractionBits = m - 2 ^ l.fractionBits := by
      rw [magnitude, Nat.add_comm, Nat.add_mul_mod_self_right, Nat.mod_eq_sub_mod hfull,
        Nat.mod_eq_of_lt (by omega)]
    rw [hdiv, hmod, if_neg (by omega)]
    congr 1 <;> omega
  · obtain rfl : q = l.leastExponent := h.full.resolve_left hfull
    have hlt : m < 2 ^ l.fractionBits := by omega
    simp [magnitude, Nat.div_eq_of_lt hlt, Nat.mod_eq_of_lt hlt]

/-- Bits above the infinities are NaNs. -/
lemma decode_eq_nan {b : Nat} (negative : Bool)
    (h : l.infinityBits < b) (hb : b < l.signBit) : l.decode (l.withSign negative b) = .nan := by
  rw [decode, withSign_mod negative hb, if_neg h.ne', if_pos h]

/-- Bits up to the infinities are no NaNs. -/
lemma decode_ne_nan {b : Nat} (negative : Bool) (h : b ≤ l.infinityBits) :
    l.decode (l.withSign negative b) ≠ .nan := by
  rw [decode, withSign_mod negative (h.trans_lt l.infinityBits_lt_signBit), if_neg h.not_gt]
  split <;> [skip; split] <;> simp

/-- Rounding makes no NaN. -/
lemma nearest_le (num den : Nat) : l.nearest num den ≤ l.infinityBits := by
  unfold nearest
  split
  · exact Nat.zero_le _
  · exact min_le_right _ _

/-- Finite bits stand for a canonical pair. -/
lemma canonical_of_decode {bits : Nat} (hbits : bits < 2 * l.signBit) {negative : Bool}
    (h : l.decode bits = .finite negative m q) :
    l.Canonical m q ∧ bits = l.withSign negative (l.magnitude m q) := by
  have hpos : 0 < 2 ^ l.fractionBits := by positivity
  have hsplit := Nat.div_add_mod (bits % l.signBit) (2 ^ l.fractionBits)
  have hmod := Nat.mod_lt (bits % l.signBit) hpos
  have hwhole := withSign_decide hbits
  simp only [decode] at h
  split at h
  · simp at h
  · split at h
    · simp at h
    · rename_i hne hnot
      split at h
      · rename_i hz
        simp only [FloatValue.finite.injEq] at h
        obtain ⟨rfl, rfl, rfl⟩ := h
        rw [hz] at hsplit
        have hmag : l.magnitude (bits % l.signBit % 2 ^ l.fractionBits) l.leastExponent
            = bits % l.signBit := by
          simp only [magnitude, Int.sub_self, Int.toNat_zero]
          omega
        refine ⟨⟨by rw [pow_succ]; omega, le_rfl, Or.inr rfl, by omega⟩, ?_⟩
        rw [hmag, hwhole]
      · rename_i hz
        simp only [FloatValue.finite.injEq] at h
        obtain ⟨rfl, rfl, rfl⟩ := h
        obtain ⟨k, hk⟩ : ∃ k, bits % l.signBit / 2 ^ l.fractionBits = k + 1 :=
          ⟨_, (Nat.succ_pred_eq_of_ne_zero hz).symm⟩
        rw [hk, Nat.mul_succ] at hsplit
        have hmag : l.magnitude (2 ^ l.fractionBits + bits % l.signBit % 2 ^ l.fractionBits)
            (l.leastExponent + ((k + 1 : Nat) - 1)) = bits % l.signBit := by
          have hexp : (l.leastExponent + ((k + 1 : Nat) - 1) - l.leastExponent).toNat = k := by
            omega
          rw [magnitude, hexp, Nat.mul_comm]
          omega
        rw [hk]
        refine ⟨⟨by rw [pow_succ]; omega, by omega, Or.inl (by omega), by omega⟩, ?_⟩
        rw [hmag, hwhole]

/-! ## Rounding numbers of the layout -/

/-- The quotient that leaves no rest is not rounded. -/
lemma nearestInteger_mul (s : Nat) {den : Nat} (h : 0 < den) :
    nearestInteger (s * den) den = s := by
  simp [nearestInteger, Nat.mul_div_cancel s h, h]

/-- The binary logarithm of a quotient of powers of two is read off the significand. -/
lemma log2Ratio_eq (hm : m ≠ 0) (q : Int) :
    log2Ratio (m * 2 ^ q.toNat) (2 ^ (-q).toNat) = m.log2 + q := by
  have hlow := Nat.log2_self_le hm
  have hnum : (m * 2 ^ q.toNat).log2 = m.log2 + q.toNat := by
    rw [Nat.log2_eq_iff (by positivity)]
    refine ⟨by rw [pow_add]; exact Nat.mul_le_mul_right _ hlow, ?_⟩
    calc m * 2 ^ q.toNat < 2 ^ (m.log2 + 1) * 2 ^ q.toNat :=
          Nat.mul_lt_mul_of_pos_right Nat.lt_log2_self (by positivity)
      _ = 2 ^ (m.log2 + q.toNat + 1) := by ring
  have he : (((m * 2 ^ q.toNat).log2 : Nat) : Int) - ((2 ^ (-q).toNat).log2 : Nat)
      = m.log2 + q := by
    rw [hnum, Nat.log2_two_pow]
    omega
  have hnot : ¬ m * 2 ^ q.toNat * 2 ^ (-(m.log2 + q : Int)).toNat
      < 2 ^ (-q).toNat * 2 ^ (m.log2 + q : Int).toNat := by
    refine not_lt.2 ?_
    calc 2 ^ (-q).toNat * 2 ^ (m.log2 + q : Int).toNat
        = 2 ^ m.log2 * 2 ^ q.toNat * 2 ^ (-(m.log2 + q : Int)).toNat := by
          rw [← pow_add, ← pow_add, ← pow_add]
          congr 1
          omega
      _ ≤ m * 2 ^ q.toNat * 2 ^ (-(m.log2 + q : Int)).toNat := by gcongr
  simp only [log2Ratio, he, if_neg hnot]

/-- Equal numbers have equal binary logarithms. -/
lemma log2_add_eq (hm : m ≠ 0) (hs : s ≠ 0) (h : (m : ℚ) * 2 ^ q = s * 2 ^ e) :
    (m.log2 : Int) + q = s.log2 + e := by
  have bounds : ∀ {a : Nat} (p : Int), a ≠ 0 →
      (2 : ℚ) ^ ((a.log2 : Int) + p) ≤ a * 2 ^ p
        ∧ (a : ℚ) * 2 ^ p < 2 ^ ((a.log2 : Int) + p + 1) := by
    intro a p ha
    have hlow : ((2 ^ a.log2 : Nat) : ℚ) ≤ a := by exact_mod_cast Nat.log2_self_le ha
    have hhigh : (a : ℚ) < ((2 ^ (a.log2 + 1) : Nat) : ℚ) := by exact_mod_cast Nat.lt_log2_self
    push_cast at hlow hhigh
    have hp : (0 : ℚ) < 2 ^ p := by positivity
    refine ⟨?_, ?_⟩
    · rw [zpow_add₀ two_ne_zero, zpow_natCast]
      exact mul_le_mul_of_nonneg_right hlow hp.le
    · rw [show (a.log2 : Int) + p + 1 = ((a.log2 + 1 : Nat) : Int) + p by push_cast; ring,
        zpow_add₀ two_ne_zero, zpow_natCast]
      exact mul_lt_mul_of_pos_right hhigh hp
  obtain ⟨hm₁, hm₂⟩ := bounds q hm
  obtain ⟨hs₁, hs₂⟩ := bounds e hs
  rw [h] at hm₁ hm₂
  have h₁ := (zpow_lt_zpow_iff_right₀ (by norm_num : (1 : ℚ) < 2)).1 (hm₁.trans_lt hs₂)
  have h₂ := (zpow_lt_zpow_iff_right₀ (by norm_num : (1 : ℚ) < 2)).1 (hs₁.trans_lt hm₂)
  omega

/-- Equal numbers over a common power of two have equal numerators. -/
lemma scaled_eq (h : (m : ℚ) * 2 ^ q = s * 2 ^ e) :
    m * 2 ^ q.toNat * 2 ^ (-e).toNat = s * (2 ^ (-q).toNat * 2 ^ e.toNat) := by
  have hsplit : ∀ p : Int, (2 : ℚ) ^ p.toNat = 2 ^ p * 2 ^ (-p).toNat := by
    intro p
    rw [← zpow_natCast, ← zpow_natCast, ← zpow_add₀ two_ne_zero]
    congr 1
    omega
  have hq : ((m * 2 ^ q.toNat * 2 ^ (-e).toNat : Nat) : ℚ)
      = ((s * (2 ^ (-q).toNat * 2 ^ e.toNat) : Nat) : ℚ) := by
    push_cast
    rw [hsplit q, hsplit e]
    calc (m : ℚ) * (2 ^ q * 2 ^ (-q).toNat) * 2 ^ (-e).toNat
        = (m * 2 ^ q) * 2 ^ (-q).toNat * 2 ^ (-e).toNat := by ring
      _ = (s * 2 ^ e) * 2 ^ (-q).toNat * 2 ^ (-e).toNat := by rw [h]
      _ = s * (2 ^ (-q).toNat * (2 ^ e * 2 ^ (-e).toNat)) := by ring
  exact_mod_cast hq

/-- **Rounding is exact on the numbers of a layout**: a quotient that equals a canonical pair
rounds to the bits of that pair.

**Proof sketch.** The logarithm of the quotient is that of the pair, so the exponent that
`nearest` chooses is the exponent of the pair: either the significand is full, or both exponents
are the least one. At that exponent the division leaves no rest. -/
lemma nearest_eq_magnitude (h : l.Canonical s e) (hs : s ≠ 0) (hm : m ≠ 0)
    (heq : (m : ℚ) * 2 ^ q = s * 2 ^ e) :
    l.nearest (m * 2 ^ q.toNat) (2 ^ (-q).toNat) = l.magnitude s e := by
  have hle : s.log2 < l.fractionBits + 1 := (Nat.log2_lt hs).2 h.significand_lt
  have hfull : l.fractionBits ≤ s.log2 ∨ e = l.leastExponent := h.full.imp_left (Nat.le_log2 hs).2
  have hleast := h.least_le
  have hexp : max (log2Ratio (m * 2 ^ q.toNat) (2 ^ (-q).toNat) - l.fractionBits) l.leastExponent
      = e := by
    rw [log2Ratio_eq hm, log2_add_eq hm hs heq]
    omega
  have hnum : m * 2 ^ q.toNat ≠ 0 := by positivity
  simp only [nearest, if_neg hnum, hexp]
  rw [scaled_eq heq, nearestInteger_mul s (by positivity)]
  exact min_eq_left h.finite.le

end FloatLayout

/-! ## Widening -/

open FloatLayout

/-- The bits of infinity in 32 bits. -/
lemma FloatLayout.infinityBits_single : single.infinityBits = 2139095040 := rfl

/-- The sign in 32 bits. -/
lemma FloatLayout.signBit_single : single.signBit = 2147483648 := rfl

/-- The bits of infinity in 64 bits. -/
lemma FloatLayout.infinityBits_double : double.infinityBits = 9218868437227405312 := rfl

/-- The sign in 64 bits. -/
lemma FloatLayout.signBit_double : double.signBit = 9223372036854775808 := rfl

/-- Bits with a sign fit the layout. -/
lemma FloatLayout.withSign_lt (l : FloatLayout) (negative : Bool) {b : Nat} (h : b < l.signBit) :
    l.withSign negative b < 2 * l.signBit := by
  cases negative <;> simp only [withSign, Bool.false_eq_true, ↓reduceIte] <;> omega

/-- The value of a float of 64 bits that is given by its bits. -/
lemma Binary64.value_mk {b : Nat} (h : b < 2 * FloatLayout.double.signBit) :
    (⟨UInt64.ofNat b⟩ : Binary64).value = FloatLayout.double.decode b := by
  rw [Binary64.value, UInt64.toNat_ofNat_of_lt' h]

/-- The value of a float of 32 bits that is given by its bits. -/
lemma Binary32.value_mk {b : Nat} (h : b < 2 * FloatLayout.single.signBit) :
    (⟨UInt32.ofNat b⟩ : Binary32).value = FloatLayout.single.decode b := by
  rw [Binary32.value, UInt32.toNat_ofNat_of_lt' h]

/-- The bits of a float fit the layout. -/
lemma Binary32.bits_lt (x : Binary32) : x.bits.toNat < 2 * FloatLayout.single.signBit :=
  x.bits.toNat_lt

/-- A positive number of at most 53 bits has a canonical pair of 64 bits, unless its exponent is
among the extreme ones. -/
lemma FloatLayout.exists_canonical {m : Nat} {q : Int} (hm : m ≠ 0) (hlt : m < 2 ^ 53)
    (h₁ : -1022 ≤ q) (h₂ : q ≤ 971) :
    ∃ s e, double.Canonical s e ∧ s ≠ 0 ∧ (m : ℚ) * 2 ^ q = s * 2 ^ e := by
  have hlow := Nat.log2_self_le hm
  have hhigh := @Nat.lt_log2_self m
  have hlog : m.log2 < 53 := (Nat.log2_lt hm).2 hlt
  obtain ⟨k, hk⟩ : ∃ k, m.log2 + k = 52 := ⟨52 - m.log2, by omega⟩
  have hs₁ : 2 ^ 52 ≤ m * 2 ^ k := by
    rw [← hk, pow_add]
    exact Nat.mul_le_mul_right _ hlow
  have hs₂ : m * 2 ^ k < 2 ^ 53 := by
    rw [show 53 = m.log2 + 1 + k by omega, pow_add 2 (m.log2 + 1)]
    exact Nat.mul_lt_mul_of_pos_right hhigh (by positivity)
  refine ⟨m * 2 ^ k, q - k, ⟨hs₂, ?_, Or.inl hs₁, ?_⟩, by positivity, ?_⟩
  · simp only [double, leastExponent]
    omega
  · simp only [magnitude, double, leastExponent, infinityBits]
    omega
  · rw [zpow_sub₀ two_ne_zero, zpow_natCast]
    push_cast
    field_simp

/-- A positive number of 32 bits has a canonical pair of 64 bits. -/
lemma FloatLayout.Canonical.widen {m : Nat} {q : Int} (h : single.Canonical m q) (hm : m ≠ 0) :
    ∃ s e, double.Canonical s e ∧ s ≠ 0 ∧ (m : ℚ) * 2 ^ q = s * 2 ^ e := by
  have hfin := h.finite
  have hlt : m < 2 ^ 24 := h.significand_lt
  have hq : -149 ≤ q := h.least_le
  have hq' : q < 106 := by
    simp only [magnitude, single, leastExponent, infinityBits] at hfin
    omega
  exact exists_canonical hm (hlt.trans (by decide)) (by omega) (by omega)

namespace Binary32

/-- The NaNs whose quiet bit is not set. -/
def IsSignalling (x : Binary32) : Prop :=
  x.value = .nan ∧ x.bits.toNat % 2 ^ single.fractionBits < single.quietBit

/-- A finite float is widened to the same number. -/
lemma value_ofBinary32 {x : Binary32} {negative : Bool} {m : Nat} {q : Int}
    (hx : x.value = .finite negative m q) :
    ∃ s e, (Binary64.ofBinary32 x).value = .finite negative s e ∧ (m = 0 ↔ s = 0)
      ∧ (m : ℚ) * 2 ^ q = s * 2 ^ e := by
  obtain ⟨hc, -⟩ := canonical_of_decode x.bits_lt hx
  have hval : Binary64.ofBinary32 x = Binary64.ofValue (.finite negative m q) := by
    simp only [Binary64.ofBinary32, hx]
  rw [hval, Binary64.ofValue, FloatLayout.ofValue]
  by_cases hm : m = 0
  · subst hm
    refine ⟨0, double.leastExponent, ?_, by simp, by simp⟩
    have hz : double.Canonical 0 double.leastExponent :=
      ⟨by decide, le_rfl, Or.inr rfl, by decide⟩
    rw [Binary64.value_mk (withSign_lt _ _ (by simp [nearest]; decide))]
    simpa [nearest, magnitude] using decode_magnitude hz negative
  · obtain ⟨s, e, hd, hs, heq⟩ := hc.widen hm
    refine ⟨s, e, ?_, by simp [hm, hs], heq⟩
    rw [nearest_eq_magnitude hd hs hm heq,
      Binary64.value_mk (withSign_lt _ _ (hd.finite.trans double.infinityBits_lt_signBit)),
      decode_magnitude hd]

/-- Narrowing undoes widening on the finite floats. -/
lemma ofBinary64_ofBinary32_of_finite {x : Binary32} {negative : Bool} {m : Nat} {q : Int}
    (hx : x.value = .finite negative m q) : ofBinary64 (.ofBinary32 x) = x := by
  obtain ⟨hc, hbits⟩ := canonical_of_decode x.bits_lt hx
  obtain ⟨s, e, hv, hz, heq⟩ := value_ofBinary32 hx
  have hnarrow : FloatLayout.single.ofValue (.finite negative s e) = x.bits.toNat := by
    rw [FloatLayout.ofValue, hbits]
    congr 1
    by_cases hm : m = 0
    · obtain rfl : s = 0 := hz.1 hm
      obtain rfl : q = single.leastExponent := hc.full.resolve_left (by simp [hm])
      simp [nearest, magnitude, hm]
    · exact nearest_eq_magnitude hc hm (by simpa [hz] using hm) heq.symm
  simp only [ofBinary64, hv, hnarrow, UInt32.ofNat_toNat]

/-- An infinity is widened to the infinity of its sign. -/
lemma value_ofBinary32_of_infinite {x : Binary32} {negative : Bool}
    (hx : x.value = .infinite negative) : (Binary64.ofBinary32 x).value = .infinite negative := by
  simp only [Binary64.ofBinary32, hx, Binary64.ofValue, FloatLayout.ofValue]
  rw [Binary64.value_mk (withSign_lt _ _ double.infinityBits_lt_signBit)]
  cases negative <;> decide

/-- Narrowing undoes widening on the infinities. -/
lemma ofBinary64_ofBinary32_of_infinite {x : Binary32} {negative : Bool}
    (hx : x.value = .infinite negative) : ofBinary64 (.ofBinary32 x) = x := by
  have hbits : single.withSign negative single.infinityBits = x.bits.toNat := by
    rw [Binary32.value, decode] at hx
    split at hx
    · rename_i h
      rw [← FloatValue.infinite.inj hx, ← h, withSign_decide x.bits_lt]
    · split at hx <;> [skip; split at hx] <;> simp at hx
  simp only [ofBinary64, value_ofBinary32_of_infinite hx, FloatLayout.ofValue, hbits,
    UInt32.ofNat_toNat]

/-! ## NaNs -/

/-- The fraction of a NaN is not zero, and the exponent is the greatest. -/
lemma bits_of_nan {x : Binary32} (hx : x.value = .nan) :
    single.infinityBits < x.bits.toNat % single.signBit := by
  rw [Binary32.value, decode] at hx
  split at hx
  · simp at hx
  · split at hx
    · assumption
    · split at hx <;> simp at hx

end Binary32

/-- A widened NaN is quiet, and its fraction begins with the fraction of the narrow one, made
quiet as well. -/
lemma FloatLayout.carryNaN_widening (bits : Nat) :
    ∃ quiet, single.carryNaN double bits
        = double.withSign (single.signBit ≤ bits) (double.infinityBits + quiet)
      ∧ 2 ^ 51 ≤ quiet ∧ quiet < 2 ^ 52
      ∧ quiet / 2 ^ 29 = bits % 2 ^ 23 + if bits % 2 ^ 23 < 2 ^ 22 then 2 ^ 22 else 0 := by
  have hf : bits % 2 ^ 23 < 2 ^ 23 := Nat.mod_lt _ (by positivity)
  by_cases hcut : bits % 2 ^ single.fractionBits * 2 ^ double.fractionBits
      / 2 ^ single.fractionBits < double.quietBit
  · have hq : bits % 2 ^ 23 * 2 ^ 52 / 2 ^ 23 < 2 ^ 51 := hcut
    refine ⟨bits % 2 ^ 23 * 2 ^ 52 / 2 ^ 23 + 2 ^ 51, ?_, by omega, by omega, ?_⟩
    · rw [carryNaN, if_pos hcut]
      rfl
    · rw [if_pos (by omega)]
      omega
  · have hq : ¬ bits % 2 ^ 23 * 2 ^ 52 / 2 ^ 23 < 2 ^ 51 := hcut
    refine ⟨bits % 2 ^ 23 * 2 ^ 52 / 2 ^ 23, ?_, by omega, by omega, ?_⟩
    · rw [carryNaN, if_neg hcut]
      rfl
    · rw [if_neg (by omega)]
      omega

/-- The quiet bit that a NaN lacks is added when it is widened. -/
lemma FloatLayout.carryNaN_add_quiet {bits : Nat} (h : bits % 2 ^ 23 < 2 ^ 22) :
    single.carryNaN double (bits + 2 ^ 22) = single.carryNaN double bits := by
  have hsign : (single.signBit ≤ bits + 2 ^ 22) = (single.signBit ≤ bits) := by
    rw [signBit_single, eq_iff_iff]
    omega
  have hquiet : (bits + 2 ^ 22) % 2 ^ 23 = bits % 2 ^ 23 + 2 ^ 22 := by omega
  have hfull : ¬ (bits + 2 ^ 22) % 2 ^ single.fractionBits * 2 ^ double.fractionBits
      / 2 ^ single.fractionBits < double.quietBit := by
    change ¬ (bits + 2 ^ 22) % 2 ^ 23 * 2 ^ 52 / 2 ^ 23 < 2 ^ 51
    omega
  have hlack : bits % 2 ^ single.fractionBits * 2 ^ double.fractionBits
      / 2 ^ single.fractionBits < double.quietBit := by
    change bits % 2 ^ 23 * 2 ^ 52 / 2 ^ 23 < 2 ^ 51
    omega
  have hcarried : (bits + 2 ^ 22) % 2 ^ single.fractionBits * 2 ^ double.fractionBits
      / 2 ^ single.fractionBits
      = bits % 2 ^ single.fractionBits * 2 ^ double.fractionBits / 2 ^ single.fractionBits
        + double.quietBit := by
    change (bits + 2 ^ 22) % 2 ^ 23 * 2 ^ 52 / 2 ^ 23 = bits % 2 ^ 23 * 2 ^ 52 / 2 ^ 23 + 2 ^ 51
    omega
  rw [carryNaN, carryNaN, if_neg hfull, if_pos hlack, hcarried]
  simp only [hsign]

/-- A quiet NaN is narrowed by cutting its fraction. -/
lemma FloatLayout.carryNaN_narrowing (negative : Bool) {quiet : Nat} (h₁ : 2 ^ 51 ≤ quiet)
    (h₂ : quiet < 2 ^ 52) :
    double.carryNaN single (double.withSign negative (double.infinityBits + quiet))
      = single.withSign negative (single.infinityBits + quiet / 2 ^ 29) := by
  have hlt : double.infinityBits + quiet < double.signBit := by
    rw [infinityBits_double, signBit_double]
    omega
  have hfraction : double.withSign negative (double.infinityBits + quiet) % 2 ^ 52 = quiet := by
    rw [withSign, infinityBits_double, signBit_double]
    cases negative <;> simp only [Bool.false_eq_true, ↓reduceIte] <;> omega
  have hcut : ¬ quiet * 2 ^ single.fractionBits / 2 ^ double.fractionBits < single.quietBit := by
    change ¬ quiet * 2 ^ 23 / 2 ^ 52 < 2 ^ 22
    omega
  have hdiv : quiet * 2 ^ single.fractionBits / 2 ^ double.fractionBits = quiet / 2 ^ 29 := by
    change quiet * 2 ^ 23 / 2 ^ 52 = quiet / 2 ^ 29
    omega
  have hfraction' : double.withSign negative (double.infinityBits + quiet)
      % 2 ^ double.fractionBits = quiet := hfraction
  rw [carryNaN, signBit_le_withSign negative hlt, hfraction', if_neg hcut, hdiv]

/-- A narrowed NaN is quiet. -/
lemma FloatLayout.carryNaN_narrowed (bits : Nat) :
    ∃ quiet, double.carryNaN single bits
        = single.withSign (double.signBit ≤ bits) (single.infinityBits + quiet)
      ∧ 2 ^ 22 ≤ quiet ∧ quiet < 2 ^ 23 := by
  have hf : bits % 2 ^ 52 < 2 ^ 52 := Nat.mod_lt _ (by positivity)
  by_cases hcut : bits % 2 ^ double.fractionBits * 2 ^ single.fractionBits
      / 2 ^ double.fractionBits < single.quietBit
  · have hq : bits % 2 ^ 52 * 2 ^ 23 / 2 ^ 52 < 2 ^ 22 := hcut
    refine ⟨bits % 2 ^ 52 * 2 ^ 23 / 2 ^ 52 + 2 ^ 22, ?_, by omega, by omega⟩
    rw [carryNaN, if_pos hcut]
    rfl
  · have hq : ¬ bits % 2 ^ 52 * 2 ^ 23 / 2 ^ 52 < 2 ^ 22 := hcut
    refine ⟨bits % 2 ^ 52 * 2 ^ 23 / 2 ^ 52, ?_, by omega, by omega⟩
    rw [carryNaN, if_neg hcut]
    rfl

/-- The quiet bit of a narrowed NaN is set. -/
lemma FloatLayout.quietBit_le_carryNaN (bits : Nat) :
    2 ^ 22 ≤ double.carryNaN single bits % 2 ^ 23
      ∧ double.carryNaN single bits < 2 * single.signBit := by
  obtain ⟨quiet, hcarry, h₁, h₂⟩ := carryNaN_narrowed bits
  rw [hcarry, withSign, infinityBits_single, signBit_single]
  split_ifs <;> omega

namespace Binary32

/-- A NaN is widened to a NaN. -/
lemma value_ofBinary32_of_nan {x : Binary32} (hx : x.value = .nan) :
    (Binary64.ofBinary32 x).value = .nan := by
  obtain ⟨quiet, hcarry, h₁, h₂, -⟩ := carryNaN_widening x.bits.toNat
  have hlt : double.infinityBits + quiet < double.signBit := by
    rw [infinityBits_double, signBit_double]
    omega
  simp only [Binary64.ofBinary32, hx, hcarry]
  rw [Binary64.value_mk (withSign_lt _ _ hlt), decode_eq_nan _ (by omega) hlt]

/-- A NaN is narrowed to a NaN. -/
lemma value_ofBinary64_of_nan {x : Binary64} (hx : x.value = .nan) :
    (ofBinary64 x).value = .nan := by
  obtain ⟨quiet, hcarry, h₁, h₂⟩ := carryNaN_narrowed x.bits.toNat
  have hlt : single.infinityBits + quiet < single.signBit := by
    rw [infinityBits_single, signBit_single]
    omega
  simp only [ofBinary64, hx, hcarry]
  rw [value_mk (withSign_lt _ _ hlt), decode_eq_nan _ (by omega) hlt]

/-- Narrowing undoes widening on the NaNs but for the quiet bit. -/
lemma bits_ofBinary64_ofBinary32_of_nan {x : Binary32} (hx : x.value = .nan) :
    (ofBinary64 (.ofBinary32 x)).bits.toNat = x.bits.toNat
      + if x.bits.toNat % 2 ^ 23 < 2 ^ 22 then 2 ^ 22 else 0 := by
  obtain ⟨quiet, hcarry, h₁, h₂, hquiet⟩ := carryNaN_widening x.bits.toNat
  have hwide : Binary64.ofBinary32 x = ⟨UInt64.ofNat (double.withSign
      (single.signBit ≤ x.bits.toNat) (double.infinityBits + quiet))⟩ := by
    simp only [Binary64.ofBinary32, hx, hcarry]
  have hlt : double.infinityBits + quiet < double.signBit := by
    rw [infinityBits_double, signBit_double]
    omega
  have hnan := value_ofBinary32_of_nan hx
  have hback : (ofBinary64 (.ofBinary32 x)).bits = UInt32.ofNat (single.withSign
      (single.signBit ≤ x.bits.toNat) (single.infinityBits + quiet / 2 ^ 29)) := by
    simp only [ofBinary64, hnan]
    rw [hwide, UInt64.toNat_ofNat_of_lt' (withSign_lt _ _ hlt), carryNaN_narrowing _ h₁ h₂]
  have hbits := x.bits_lt
  have hmag := bits_of_nan hx
  rw [infinityBits_single, signBit_single] at hmag
  rw [signBit_single] at hbits
  rw [hback, hquiet, UInt32.toNat_ofNat', withSign, infinityBits_single, signBit_single]
  simp only [decide_eq_true_eq]
  split_ifs <;> omega

/-- **Narrowing undoes widening** on every float but the signalling NaNs. -/
lemma ofBinary64_ofBinary32_eq_iff (x : Binary32) :
    ofBinary64 (.ofBinary32 x) = x ↔ ¬ x.IsSignalling := by
  cases hx : x.value with
  | finite negative m q => simp [IsSignalling, hx, ofBinary64_ofBinary32_of_finite hx]
  | infinite negative => simp [IsSignalling, hx, ofBinary64_ofBinary32_of_infinite hx]
  | nan =>
    have h := bits_ofBinary64_ofBinary32_of_nan hx
    have hb : ofBinary64 (.ofBinary32 x) = x
        ↔ (ofBinary64 (.ofBinary32 x)).bits.toNat = x.bits.toNat := by
      rw [UInt32.toNat_inj]
      exact ⟨congrArg bits, fun h => congrArg Binary32.mk h⟩
    rw [hb, h]
    simp only [IsSignalling, hx, single, quietBit, true_and]
    split <;> omega

/-- A NaN stays a NaN when it is widened and narrowed. -/
lemma value_ofBinary64_ofBinary32_of_nan {x : Binary32} (hx : x.value = .nan) :
    (ofBinary64 (.ofBinary32 x)).value = .nan :=
  value_ofBinary64_of_nan (value_ofBinary32_of_nan hx)

/-- Narrowing makes no signalling NaN. -/
lemma not_isSignalling_ofBinary64 (x : Binary64) : ¬ (ofBinary64 x).IsSignalling := by
  rintro ⟨hnan, hfraction⟩
  have hne : ∀ {negative : Bool} {b : Nat}, b ≤ single.infinityBits →
      (⟨UInt32.ofNat (single.withSign negative b)⟩ : Binary32).value ≠ .nan := by
    intro negative b hb
    rw [value_mk (withSign_lt _ _ (hb.trans_lt single.infinityBits_lt_signBit))]
    exact decode_ne_nan negative hb
  cases hx : x.value with
  | finite negative m q =>
    simp only [ofBinary64, hx, FloatLayout.ofValue] at hnan
    exact hne (nearest_le _ _) hnan
  | infinite negative =>
    simp only [ofBinary64, hx, FloatLayout.ofValue] at hnan
    exact hne le_rfl hnan
  | nan =>
    obtain ⟨hquiet, hlt⟩ := quietBit_le_carryNaN x.bits.toNat
    simp only [ofBinary64, hx, UInt32.toNat_ofNat_of_lt' hlt] at hfraction
    exact hquiet.not_gt hfraction

/-- A float that was narrowed is widened and narrowed without a change. -/
@[simp] lemma ofBinary64_ofBinary32_ofBinary64 (x : Binary64) :
    ofBinary64 (.ofBinary32 (ofBinary64 x)) = ofBinary64 x :=
  (ofBinary64_ofBinary32_eq_iff _).2 (not_isSignalling_ofBinary64 x)

end Binary32

/-- A float that was widened is narrowed and widened without a change: a signalling NaN is made
quiet the first time. -/
@[simp] lemma Binary64.ofBinary32_ofBinary64_ofBinary32 (x : Binary32) :
    ofBinary32 (.ofBinary64 (ofBinary32 x)) = ofBinary32 x := by
  by_cases h : x.IsSignalling
  · have hq : x.bits.toNat % 2 ^ 23 < 2 ^ 22 := h.2
    have hbits := Binary32.bits_ofBinary64_ofBinary32_of_nan h.1
    rw [if_pos hq] at hbits
    have hwide (y : Binary32) (hy : y.value = .nan) :
        ofBinary32 y = ⟨UInt64.ofNat (single.carryNaN double y.bits.toNat)⟩ := by
      simp only [ofBinary32, hy]
    rw [hwide _ (Binary32.value_ofBinary64_ofBinary32_of_nan h.1), hbits, carryNaN_add_quiet hq,
      hwide x h.1]
  · rw [(Binary32.ofBinary64_ofBinary32_eq_iff x).2 h]

end TypedRows
