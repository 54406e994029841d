import TypedRows.Number.Shortest
import TypedRows.Proofs.Number.Quantity

/-!
# The shortest digits read back

A quotient is rounded to a float exactly when it lies in the interval around the float that ends
halfway to the next ones. The search for the shortest digits ends in this interval, since the powers
of ten that it goes down to are finer than the interval is wide. Hence the float nearest to the
decimal that a float is written as is the float, whatever becomes of ties.

## Main definitions

* `TypedRows.ReadingInterval.Contains` — the numbers of a reading interval.

## Main results

* `TypedRows.FloatLayout.nearest_of_contains` — the numbers of the interval of a float are rounded
  to the float.
* `TypedRows.FloatLayout.contains_shortest` — the shortest decimal lies in the interval.
-/

set_option autoImplicit false

namespace TypedRows

/-! ## Rounding -/

/-- A power of an integer exponent as a quotient of powers of natural ones. -/
lemma zpow_eq_pow_toNat_div {b : ℚ} (hb : b ≠ 0) (e : ℤ) :
    b ^ e = b ^ e.toNat / b ^ (-e).toNat := by
  rw [← zpow_natCast, ← zpow_natCast, ← zpow_sub₀ hb]
  congr 1
  omega

namespace FloatLayout

variable {l : FloatLayout} {m s num den : Nat} {q e : Int}

/-- A fraction below a power of two, without fractions. -/
lemma div_lt_zpow_iff (hden : den ≠ 0) :
    (num : ℚ) / den < 2 ^ e ↔ num * 2 ^ (-e).toNat < den * 2 ^ e.toNat := by
  rw [zpow_eq_pow_toNat_div two_ne_zero, div_lt_div_iff₀ (by positivity) (by positivity),
    mul_comm ((2 : ℚ) ^ e.toNat)]
  exact_mod_cast Iff.rfl

/-- The binary logarithm of a quotient is the power of two below it. -/
lemma zpow_log2Ratio_le (hnum : num ≠ 0) (hden : den ≠ 0) :
    (2 : ℚ) ^ log2Ratio num den ≤ num / den ∧ (num : ℚ) / den < 2 ^ (log2Ratio num den + 1) := by
  have hpos : (0 : ℚ) < den := by positivity
  have hbounds {a : Nat} (ha : a ≠ 0) :
      (2 : ℚ) ^ (a.log2 : Int) ≤ a ∧ (a : ℚ) < 2 ^ ((a.log2 : Int) + 1) := by
    rw [← Nat.cast_add_one, zpow_natCast, zpow_natCast]
    exact ⟨by exact_mod_cast Nat.log2_self_le ha, by exact_mod_cast Nat.lt_log2_self⟩
  obtain ⟨hn₁, hn₂⟩ := hbounds hnum
  obtain ⟨hd₁, hd₂⟩ := hbounds hden
  rw [log2Ratio]
  split_ifs with hless
  · rw [← div_lt_zpow_iff hden] at hless
    refine ⟨?_, by simpa using hless⟩
    rw [le_div_iff₀ hpos]
    calc (2 : ℚ) ^ ((num.log2 : Int) - den.log2 - 1) * den
        ≤ 2 ^ ((num.log2 : Int) - den.log2 - 1) * 2 ^ ((den.log2 : Int) + 1) := by gcongr
      _ = 2 ^ (num.log2 : Int) := by
          rw [← zpow_add₀ two_ne_zero]
          congr 1
          ring
      _ ≤ num := hn₁
  · rw [← div_lt_zpow_iff hden, not_lt] at hless
    refine ⟨hless, ?_⟩
    rw [div_lt_iff₀ hpos]
    calc (num : ℚ) < 2 ^ ((num.log2 : Int) + 1) := hn₂
      _ = 2 ^ ((num.log2 : Int) - den.log2 + 1) * 2 ^ (den.log2 : Int) := by
          rw [← zpow_add₀ two_ne_zero]
          congr 1
          ring
      _ ≤ 2 ^ ((num.log2 : Int) - den.log2 + 1) * den := by gcongr

/-- The power of two below a quotient is its binary logarithm. -/
lemma log2Ratio_eq_of_bounds (hnum : num ≠ 0) (hden : den ≠ 0) (hlow : (2 : ℚ) ^ e ≤ num / den)
    (hhigh : (num : ℚ) / den < 2 ^ (e + 1)) : log2Ratio num den = e := by
  obtain ⟨h₁, h₂⟩ := zpow_log2Ratio_le hnum hden
  have hone : (1 : ℚ) < 2 := one_lt_two
  have hle := (zpow_lt_zpow_iff_right₀ hone).1 (h₁.trans_lt hhigh)
  have hge := (zpow_lt_zpow_iff_right₀ hone).1 (hlow.trans_lt h₂)
  omega

/-- An integer within half of a quotient is its integer part or the next integer. -/
lemma eq_div_or_eq_div_add_one (hden : den ≠ 0) (hlow : 2 * (den * s) ≤ 2 * num + den)
    (hhigh : 2 * num ≤ 2 * (den * s) + den) : s = num / den ∨ s = num / den + 1 := by
  have hdiv := Nat.div_add_mod num den
  have hmod := Nat.mod_lt num (Nat.pos_of_ne_zero hden)
  have h₁ : num / den ≤ s := by
    by_contra hlt
    have := Nat.mul_le_mul_left den (show s + 1 ≤ num / den by omega)
    rw [Nat.mul_add, Nat.mul_one] at this
    omega
  have h₂ : s ≤ num / den + 1 := by
    by_contra hlt
    have := Nat.mul_le_mul_left den (show num / den + 2 ≤ s by omega)
    rw [Nat.mul_add] at this
    omega
  omega

/-- The nearest integer to a quotient is within half of it, and even when it is as far as that. -/
lemma nearestInteger_eq (hden : den ≠ 0) (hlow : (s : ℚ) - 1 / 2 ≤ num / den)
    (hhigh : (num : ℚ) / den ≤ s + 1 / 2)
    (htie : (s : ℚ) - 1 / 2 = num / den ∨ (num : ℚ) / den = s + 1 / 2 → s % 2 = 0) :
    nearestInteger num den = s := by
  have hpos : (0 : ℚ) < den := by positivity
  have hlow' : 2 * (den * s) ≤ 2 * num + den := by
    rw [le_div_iff₀ hpos] at hlow
    have : 2 * ((den : ℚ) * s) ≤ 2 * num + den := by linarith
    exact_mod_cast this
  have hhigh' : 2 * num ≤ 2 * (den * s) + den := by
    rw [div_le_iff₀ hpos] at hhigh
    have : 2 * (num : ℚ) ≤ 2 * (den * s) + den := by linarith
    exact_mod_cast this
  have htie' (h : 2 * (den * s) = 2 * num + den ∨ 2 * num = 2 * (den * s) + den) :
      s % 2 = 0 := by
    refine htie (h.imp (fun h => ?_) fun h => ?_)
    · have h' : 2 * ((den : ℚ) * s) = 2 * num + den := by exact_mod_cast h
      rw [eq_div_iff hpos.ne']
      linarith
    · have h' : 2 * (num : ℚ) = 2 * (den * s) + den := by exact_mod_cast h
      rw [div_eq_iff hpos.ne']
      linarith
  have hdiv := Nat.div_add_mod num den
  simp only [nearestInteger]
  rcases eq_div_or_eq_div_add_one hden hlow' hhigh' with hs | hs
  · rw [← hs] at hdiv ⊢
    split_ifs with hless hmore
    · rfl
    · omega
    · rw [htie' (.inr (by omega)), Nat.add_zero]
  · have hmul : den * s = den * (num / den) + den := by rw [hs, Nat.mul_add, Nat.mul_one]
    have hmod := Nat.mod_lt num (Nat.pos_of_ne_zero hden)
    split_ifs with hless hmore
    · omega
    · exact hs.symm
    · have := htie' (.inl (by omega))
      omega

/-- **A quotient near a float is rounded to it**: within half of its last place, and when it is as
far as that, only if the significand is even. -/
lemma nearest_eq_of_bounds (hnum : num ≠ 0) (hden : den ≠ 0)
    (hexp : max (log2Ratio num den - l.fractionBits) l.leastExponent = e)
    (hfinite : l.magnitude s e < l.infinityBits) (hlow : ((s : ℚ) - 1 / 2) * 2 ^ e ≤ num / den)
    (hhigh : (num : ℚ) / den ≤ (s + 1 / 2) * 2 ^ e)
    (htie : ((s : ℚ) - 1 / 2) * 2 ^ e = num / den ∨ (num : ℚ) / den = (s + 1 / 2) * 2 ^ e →
      s % 2 = 0) : l.nearest num den = l.magnitude s e := by
  have hpos : (0 : ℚ) < 2 ^ e := by positivity
  have hscaled : ((num * 2 ^ (-e).toNat : Nat) : ℚ) / ((den * 2 ^ e.toNat : Nat) : ℚ)
      = num / den / 2 ^ e := by
    rw [zpow_eq_pow_toNat_div two_ne_zero]
    push_cast
    field_simp
  have hnearest : nearestInteger (num * 2 ^ (-e).toNat) (den * 2 ^ e.toNat) = s := by
    refine nearestInteger_eq (by positivity) ?_ ?_ ?_
    · rwa [hscaled, le_div_iff₀ hpos]
    · rwa [hscaled, div_le_iff₀ hpos]
    · rwa [hscaled, eq_div_iff hpos.ne', div_eq_iff hpos.ne']
  simp only [nearest, if_neg hnum, hexp, hnearest]
  exact min_eq_left hfinite.le

end FloatLayout

/-! ## Reading intervals -/

namespace ReadingInterval

/-- **The numbers of a reading interval**: those between its ends, and the ends themselves when it
is closed. -/
structure Contains (i : ReadingInterval) (r : ℚ) : Prop where
  low_le : i.low * 2 ^ i.unit ≤ r
  le_high : r ≤ i.high * 2 ^ i.unit
  closed_of_end : i.low * 2 ^ i.unit = r ∨ r = i.high * 2 ^ i.unit → i.closed = true

variable {i : ReadingInterval} {place : Int} {n : Nat}

/-- The factors take units and multiples of a power of ten to one measure. -/
lemma exists_measure (i : ReadingInterval) (place : Int) :
    ∃ c : ℚ, 0 < c ∧ 2 ^ i.unit * c = (i.factors place).1
      ∧ 10 ^ place * c = (i.factors place).2 := by
  refine ⟨2 ^ (-i.unit).toNat * 10 ^ (-place).toNat, by positivity, ?_, ?_⟩
  · rw [zpow_eq_pow_toNat_div two_ne_zero, factors]
    push_cast
    field_simp
  · rw [zpow_eq_pow_toNat_div (by norm_num), factors]
    push_cast
    field_simp

/-- A multiple of the unit is below a decimal, without fractions. -/
lemma le_iff (k : Nat) :
    (k : ℚ) * 2 ^ i.unit ≤ n * 10 ^ place
      ↔ k * (i.factors place).1 ≤ n * (i.factors place).2 := by
  obtain ⟨c, hc, h₂, h₁₀⟩ := i.exists_measure place
  rw [← mul_le_mul_iff_left₀ hc, mul_assoc, mul_assoc, h₂, h₁₀]
  exact_mod_cast Iff.rfl

/-- A decimal is below a multiple of the unit, without fractions. -/
lemma ge_iff (k : Nat) :
    (n : ℚ) * 10 ^ place ≤ k * 2 ^ i.unit
      ↔ n * (i.factors place).2 ≤ k * (i.factors place).1 := by
  obtain ⟨c, hc, h₂, h₁₀⟩ := i.exists_measure place
  rw [← mul_le_mul_iff_left₀ hc, mul_assoc, mul_assoc, h₂, h₁₀]
  exact_mod_cast Iff.rfl

/-- The numbers that a reading interval holds at a place are those in it. -/
lemma holds_iff : i.holds place n = true ↔ i.Contains (n * 10 ^ place) := by
  have hcontains : i.Contains (n * 10 ^ place) ↔ ((i.low : ℚ) * 2 ^ i.unit ≤ n * 10 ^ place
      ∧ (n : ℚ) * 10 ^ place ≤ i.high * 2 ^ i.unit ∧ (((n : ℚ) * 10 ^ place ≤ i.low * 2 ^ i.unit
        ∨ (i.high : ℚ) * 2 ^ i.unit ≤ n * 10 ^ place) → i.closed = true)) :=
    ⟨fun h => ⟨h.low_le, h.le_high, fun hend => h.closed_of_end (hend.imp
        (fun hle => h.low_le.antisymm hle) fun hle => h.le_high.antisymm hle)⟩,
      fun ⟨hlow, hhigh, hend⟩ => ⟨hlow, hhigh, fun h => hend (h.imp ge_of_eq ge_of_eq)⟩⟩
  rw [hcontains, le_iff, ge_iff, ge_iff, le_iff, holds]
  cases i.closed
  · simp
    omega
  · simp

end ReadingInterval

namespace FloatLayout

variable {l : FloatLayout} {m s num den : Nat} {q e : Int}

/-- The interval of a float ends half a last place above it, and half of one or a quarter below. -/
lemma ends_of (hm : m ≠ 0) (q : Int) :
    ((ReadingInterval.of l m q).high : ℚ) * 2 ^ (ReadingInterval.of l m q).unit
        = (m + 1 / 2) * 2 ^ q
      ∧ ((ReadingInterval.of l m q).low : ℚ) * 2 ^ (ReadingInterval.of l m q).unit
        = (m - if m = 2 ^ l.fractionBits ∧ l.leastExponent < q then 1 / 4 else 1 / 2) * 2 ^ q := by
  have hunit : (2 : ℚ) ^ (q - 2) = 2 ^ q / 4 := by
    rw [zpow_sub₀ two_ne_zero]
    norm_num
  have hone : 1 ≤ 4 * m := by omega
  have htwo : 2 ≤ 4 * m := by omega
  constructor
  · simp only [ReadingInterval.of, hunit]
    push_cast
    ring
  · simp only [ReadingInterval.of, hunit]
    split_ifs
    · push_cast [hone]
      ring
    · push_cast [htwo]
      ring

/-- The numbers of the interval of a float are positive. -/
lemma pos_of_contains {r : ℚ} (h : (ReadingInterval.of l m q).Contains r) (hm : m ≠ 0) : 0 < r := by
  have hone : (1 : ℚ) ≤ m := by exact_mod_cast Nat.one_le_iff_ne_zero.2 hm
  refine lt_of_lt_of_le ?_ h.low_le
  rw [(ends_of hm q).2]
  refine mul_pos ?_ (by positivity)
  split_ifs <;> linarith

/-- A quotient in the binade of an exponent, or below all binades, is rounded at this exponent. -/
lemma exponent_eq (hnum : num ≠ 0) (hden : den ≠ 0) (hleast : l.leastExponent ≤ q)
    (hlow : 2 ^ l.fractionBits * 2 ^ q ≤ (num : ℚ) / den ∨ q = l.leastExponent)
    (hhigh : (num : ℚ) / den < 2 ^ (l.fractionBits + 1) * 2 ^ q) :
    max (log2Ratio num den - l.fractionBits) l.leastExponent = q := by
  have hpow (k : Nat) : (2 : ℚ) ^ k * 2 ^ q = 2 ^ ((k : Int) + q) := by
    rw [zpow_add₀ two_ne_zero, zpow_natCast]
  rw [hpow] at hlow hhigh
  have hle := (zpow_lt_zpow_iff_right₀ (one_lt_two (α := ℚ))).1
    ((zpow_log2Ratio_le hnum hden).1.trans_lt hhigh)
  rcases hlow with hlow | rfl
  · have hlog := log2Ratio_eq_of_bounds hnum hden hlow
      (hhigh.trans_eq (by push_cast; congr 1; ring))
    omega
  · omega

/-- A quotient just below a power of two is rounded to it: there its last place is half as wide, and
the power is a significand twice as large. -/
lemma nearest_of_below_power (hfull : m = 2 ^ l.fractionBits) (hleast : l.leastExponent < q)
    (hfinite : l.magnitude m q < l.infinityBits) (hnum : num ≠ 0) (hden : den ≠ 0)
    (hlow : ((m : ℚ) - 1 / 4) * 2 ^ q ≤ num / den) (hhigh : (num : ℚ) / den < m * 2 ^ q) :
    l.nearest num den = l.magnitude m q := by
  have hfraction : (m : ℚ) = 2 ^ l.fractionBits := by exact_mod_cast hfull
  have hone : (1 : ℚ) ≤ m := by
    rw [hfraction]
    exact one_le_pow₀ one_le_two
  have hpos : (0 : ℚ) < 2 ^ (q - 1) := by positivity
  have hhalved : (2 : ℚ) ^ q = 2 * 2 ^ (q - 1) := by
    rw [zpow_sub_one₀ two_ne_zero]
    ring
  have hmagnitude : l.magnitude m q = l.magnitude (2 * m) (q - 1) := by
    have hexp : (q - l.leastExponent).toNat = (q - 1 - l.leastExponent).toNat + 1 := by omega
    rw [magnitude, magnitude, hexp, hfull]
    ring
  rw [hhalved] at hlow hhigh
  have hexp : max (log2Ratio num den - l.fractionBits) l.leastExponent = q - 1 := by
    refine exponent_eq hnum hden (by omega) (.inl (le_trans ?_ hlow)) (hhigh.trans_eq ?_)
    · rw [← hfraction, ← mul_assoc]
      exact mul_le_mul_of_nonneg_right (by linarith) hpos.le
    · rw [pow_succ, ← hfraction]
      ring
  rw [hmagnitude]
  refine nearest_eq_of_bounds hnum hden hexp (hmagnitude ▸ hfinite) (le_trans (le_of_eq ?_) hlow)
    (hhigh.le.trans ?_) fun _ => by omega
  · push_cast
    ring
  · rw [← mul_assoc]
    refine mul_le_mul_of_nonneg_right ?_ hpos.le
    push_cast
    linarith

/-- **The numbers of the reading interval of a float are rounded to the float.**

**Proof sketch.** In the binade of the float the last place is its own, and the interval ends half
of it away. Only the interval of a power of two reaches below its binade, where the last place is half
as wide; there the power of two is the significand twice as large. -/
theorem nearest_of_contains (hc : l.Canonical m q) (hm : m ≠ 0) (hden : den ≠ 0)
    (h : (ReadingInterval.of l m q).Contains (num / den)) :
    l.nearest num den = l.magnitude m q := by
  have hquotient : (0 : ℚ) < num / den := pos_of_contains h hm
  obtain ⟨hlow, hhigh, hclosed⟩ := h
  obtain ⟨hhigh_eq, hlow_eq⟩ := ends_of (l := l) hm q
  rw [hhigh_eq] at hhigh
  rw [hlow_eq] at hlow
  rw [hlow_eq, hhigh_eq] at hclosed
  have hpos : (0 : ℚ) < 2 ^ q := by positivity
  have hnum : num ≠ 0 := by
    rintro rfl
    simp at hquotient
  have hbelow : (num : ℚ) / den < 2 ^ (l.fractionBits + 1) * 2 ^ q := by
    have hlt : (m : ℚ) + 1 ≤ 2 ^ (l.fractionBits + 1) := by exact_mod_cast hc.significand_lt
    refine hhigh.trans_lt (mul_lt_mul_of_pos_right ?_ hpos)
    linarith
  have heven (h : (ReadingInterval.of l m q).closed = true) : m % 2 = 0 := by
    simpa [ReadingInterval.of] using h
  have hhalf : ((m : ℚ) - 1 / 2) * 2 ^ q ≤ num / den := by
    refine le_trans (mul_le_mul_of_nonneg_right ?_ hpos.le) hlow
    split_ifs <;> linarith
  by_cases hbinade : 2 ^ l.fractionBits * 2 ^ q ≤ (num : ℚ) / den ∨ q = l.leastExponent
  · refine nearest_eq_of_bounds hnum hden (exponent_eq hnum hden hc.least_le hbinade hbelow)
      hc.finite hhalf hhigh fun hend => heven (hclosed (hend.imp_left fun hend => ?_))
    rw [← hend] at hlow ⊢
    have hle := le_of_mul_le_mul_right hlow hpos
    split_ifs at hle ⊢ with hnarrow
    · linarith
    · rfl
  · -- only the interval of a power of two reaches below its binade
    rw [not_or, not_le] at hbinade
    have hfull : m = 2 ^ l.fractionBits := by
      refine ((hc.full.resolve_right hbinade.2).eq_or_lt).symm.elim (fun hlt => ?_) Eq.symm
      have hnext : (2 : ℚ) ^ l.fractionBits + 1 ≤ m := by exact_mod_cast hlt
      have hle := lt_of_mul_lt_mul_right (hhalf.trans_lt hbinade.1) hpos.le
      linarith
    have hleast : l.leastExponent < q := lt_of_le_of_ne hc.least_le (Ne.symm hbinade.2)
    have hfraction : (m : ℚ) = 2 ^ l.fractionBits := by exact_mod_cast hfull
    rw [if_pos ⟨hfull, hleast⟩] at hlow
    exact nearest_of_below_power hfull hleast hc.finite hnum hden hlow (hfraction ▸ hbinade.1)

end FloatLayout

/-! ## The search -/

namespace ReadingInterval

variable {i : ReadingInterval} {tie : TieRule} {place : Int} {n : Nat}

/-- A candidate lies in the interval. -/
lemma contains_of_candidate? (h : i.candidate? tie place = some n) :
    i.Contains (n * 10 ^ place) := by
  rw [← holds_iff]
  simp only [candidate?] at h
  split at h
  · cases h
  · next hbelow _ => exact Option.some.inj h ▸ hbelow
  · next _ habove => exact Option.some.inj h ▸ habove
  · next hbelow habove =>
    have hboth (k : Nat) (hk : k < 2) :
        i.holds place (i.centre * (i.factors place).1 / (i.factors place).2 + k) = true := by
      obtain rfl | rfl : k = 0 ∨ k = 1 := by omega
      · exact hbelow
      · exact habove
    split_ifs at h
    · exact Option.some.inj h ▸ hbelow
    · exact Option.some.inj h ▸ habove
    · cases tie with
      | even => exact Option.some.inj h ▸ hboth _ (Nat.mod_lt _ (by omega))
      | up => exact Option.some.inj h ▸ habove

/-- There is a candidate at a place that is not coarser than the unit. -/
lemma exists_candidate? (tie : TieRule) (hlow : i.low < i.centre) (hhigh : i.centre < i.high)
    (hfine : (10 : ℚ) ^ place ≤ 2 ^ i.unit) : ∃ n, i.candidate? tie place = some n := by
  have hbelow : i.holds place (i.centre * (i.factors place).1 / (i.factors place).2) = true := by
    obtain ⟨c, hc, h₂, h₁₀⟩ := i.exists_measure place
    have hle : (i.factors place).2 ≤ (i.factors place).1 := by
      have hle := mul_le_mul_of_nonneg_right hfine hc.le
      rw [h₂, h₁₀] at hle
      exact_mod_cast hle
    have hpos : 0 < (i.factors place).2 := by
      have hpos : (0 : ℚ) < (i.factors place).2 := h₁₀ ▸ by positivity
      exact_mod_cast hpos
    have hdiv := Nat.div_add_mod (i.centre * (i.factors place).1) (i.factors place).2
    have hmod := Nat.mod_lt (i.centre * (i.factors place).1) hpos
    have hlow' : i.low * (i.factors place).1 + (i.factors place).1
        ≤ i.centre * (i.factors place).1 := by
      rw [← Nat.succ_mul]
      exact Nat.mul_le_mul_right _ hlow
    have hhigh' : i.centre * (i.factors place).1 < i.high * (i.factors place).1 :=
      Nat.mul_lt_mul_of_pos_right hhigh (hpos.trans_le hle)
    rw [Nat.mul_comm] at hdiv
    rw [holds]
    simp only
    split_ifs <;> simp only [Bool.and_eq_true, decide_eq_true_eq] <;> omega
  simp only [candidate?, hbelow]
  split
  · next h _ => cases h
  · exact ⟨_, rfl⟩
  · next h _ => cases h
  · split_ifs
    · exact ⟨_, rfl⟩
    · exact ⟨_, rfl⟩
    · cases tie <;> exact ⟨_, rfl⟩

/-- **The search ends in the interval**, at the latest at a place that is not coarser than the
unit. -/
lemma contains_search (tie : TieRule) (hlow : i.low < i.centre) (hhigh : i.centre < i.high)
    {steps k : Nat} (hk : k < steps) (hfine : (10 : ℚ) ^ (place - k) ≤ 2 ^ i.unit) :
    i.Contains ((i.search tie steps place).1 * 10 ^ (i.search tie steps place).2)
      ∧ place - k ≤ (i.search tie steps place).2 := by
  induction steps generalizing place k with
  | zero => cases hk
  | succ steps ih =>
    rw [search]
    cases hcandidate : i.candidate? tie place with
    | some n => exact ⟨contains_of_candidate? hcandidate, by dsimp only; omega⟩
    | none =>
      cases k with
      | zero =>
        rw [Nat.cast_zero, Int.sub_zero] at hfine
        obtain ⟨n, hn⟩ := exists_candidate? tie hlow hhigh hfine
        rw [hn] at hcandidate
        cases hcandidate
      | succ k =>
        rw [show place - (k + 1 : Nat) = place - 1 - k by omega] at hfine ⊢
        exact ih (by omega) hfine

end ReadingInterval

/-- Leaving off zeros changes the place, but not the number. -/
lemma dropZeros_spec (steps n : Nat) (place : Int) :
    ((dropZeros steps n place).1 : ℚ) * 10 ^ (dropZeros steps n place).2 = n * 10 ^ place
      ∧ (dropZeros steps n place).1 ≤ n := by
  induction steps generalizing n place with
  | zero => exact ⟨rfl, le_rfl⟩
  | succ steps ih =>
    rw [dropZeros]
    split_ifs with hzero
    · obtain ⟨heq, hle⟩ := ih (n / 10) (place + 1)
      refine ⟨?_, hle.trans (Nat.div_le_self n 10)⟩
      have hn : ((n / 10 : Nat) : ℚ) * 10 = n := by
        exact_mod_cast Nat.div_mul_cancel (Nat.dvd_of_mod_eq_zero hzero)
      rw [heq, zpow_add_one₀ (by norm_num), ← hn]
      ring
    · exact ⟨rfl, le_rfl⟩

/-! ## Powers of two and of ten -/

/-- A power of ten between two powers of two, raised to an integer of either sign. -/
lemma zpow_between {a b : Nat} (hlow : 2 ^ b ≤ 10 ^ a) (hhigh : 10 ^ a ≤ 2 ^ (b + 1)) {e : Int}
    (h₁ : -b ≤ e) (h₂ : e ≤ b) :
    (2 : ℚ) ^ ((e - 1) * b) ≤ 10 ^ (e * a) ∧ (10 : ℚ) ^ (e * a) ≤ 2 ^ ((e + 1) * b) := by
  have hlow' : (2 : ℚ) ^ b ≤ 10 ^ a := by exact_mod_cast hlow
  have hhigh' : (10 : ℚ) ^ a ≤ 2 ^ (b + 1) := by exact_mod_cast hhigh
  have hone : (1 : ℚ) ≤ 2 := one_le_two
  rw [mul_comm e, zpow_mul (10 : ℚ), zpow_natCast]
  obtain ⟨k, rfl | rfl⟩ := e.eq_nat_or_neg
  · rw [zpow_natCast]
    constructor
    · calc (2 : ℚ) ^ (((k : Int) - 1) * b) ≤ 2 ^ ((b * k : Nat) : Int) :=
            zpow_le_zpow_right₀ hone (by push_cast; linarith [Int.mul_comm b k])
        _ = (2 ^ b) ^ k := by rw [zpow_natCast, pow_mul]
        _ ≤ (10 ^ a) ^ k := pow_le_pow_left₀ (by positivity) hlow' k
    · calc ((10 : ℚ) ^ a) ^ k ≤ (2 ^ (b + 1)) ^ k := pow_le_pow_left₀ (by positivity) hhigh' k
        _ = 2 ^ (((b + 1) * k : Nat) : Int) := by rw [zpow_natCast, pow_mul]
        _ ≤ 2 ^ (((k : Int) + 1) * b) := zpow_le_zpow_right₀ hone (by push_cast; linarith)
  · rw [zpow_neg, zpow_natCast]
    constructor
    · calc (2 : ℚ) ^ ((-(k : Int) - 1) * b) ≤ 2 ^ (-(((b + 1) * k : Nat) : Int)) :=
            zpow_le_zpow_right₀ hone (by push_cast; linarith)
        _ = ((2 ^ (b + 1)) ^ k)⁻¹ := by rw [zpow_neg, zpow_natCast, pow_mul]
        _ ≤ ((10 ^ a) ^ k)⁻¹ :=
            inv_anti₀ (by positivity) (pow_le_pow_left₀ (by positivity) hhigh' k)
    · calc (((10 : ℚ) ^ a) ^ k)⁻¹ ≤ ((2 ^ b) ^ k)⁻¹ :=
            inv_anti₀ (by positivity) (pow_le_pow_left₀ (by positivity) hlow' k)
        _ = 2 ^ (-((b * k : Nat) : Int)) := by rw [zpow_neg, zpow_natCast, pow_mul]
        _ ≤ 2 ^ ((-(k : Int) + 1) * b) :=
            zpow_le_zpow_right₀ hone (by push_cast; linarith [Int.mul_comm b k])

/-- A fraction that is the decimal logarithm of two up to one part in its denominator gives the
decimal places of powers of two. -/
lemma zpow_place_bounds {a b : Nat} (hb : 0 < b) (hlow : 2 ^ b ≤ 10 ^ a)
    (hhigh : 10 ^ a ≤ 2 ^ (b + 1)) {e : Int} (h₁ : -b ≤ e) (h₂ : e ≤ b) :
    (10 : ℚ) ^ (e * a / b) ≤ 2 ^ (e + 1) ∧ (2 : ℚ) ^ (e - 1) ≤ 10 ^ (e * a / b + 1) := by
  obtain ⟨hbelow, habove⟩ := zpow_between hlow hhigh h₁ h₂
  have hpos : (0 : Int) < b := by exact_mod_cast hb
  have hone : (1 : ℚ) ≤ 10 := by norm_num
  constructor
  · refine (pow_le_pow_iff_left₀ (by positivity) (by positivity) hb.ne').1 ?_
    rw [← zpow_natCast, ← zpow_natCast, ← zpow_mul, ← zpow_mul]
    exact (zpow_le_zpow_right₀ hone (Int.ediv_mul_le _ hpos.ne')).trans habove
  · refine (pow_le_pow_iff_left₀ (by positivity) (by positivity) hb.ne').1 ?_
    rw [← zpow_natCast, ← zpow_natCast, ← zpow_mul, ← zpow_mul]
    exact hbelow.trans (zpow_le_zpow_right₀ hone (Int.lt_ediv_add_one_mul_self _ hpos).le)

/-- The powers of two and ten that the estimate of the decimal place rests on. -/
lemma two_pow_le_ten_pow : 2 ^ 100000 ≤ 10 ^ 30103 ∧ 10 ^ 30103 ≤ 2 ^ (100000 + 1) := by
  decide +kernel

/-! ## The shortest decimal -/

namespace FloatLayout

variable {m : Nat} {q : Int}

/-- The exponents of floats of 64 bits. -/
lemma Canonical.bounds (hc : double.Canonical m q) : m < 2 ^ 53 ∧ -1074 ≤ q ∧ q ≤ 972 := by
  have hfinite := hc.finite
  have hleast : double.leastExponent = -1074 := rfl
  have hle := hc.least_le
  rw [infinityBits_double, magnitude, hleast] at hfinite
  rw [hleast] at hle
  refine ⟨hc.significand_lt, hle, ?_⟩
  by_contra hq
  have hmul := Nat.mul_le_mul_right (2 ^ 52) (show 2047 ≤ (q - -1074).toNat by omega)
  simp only [double] at hfinite
  omega

/-- The place that the search begins at: nineteen places on, the power of ten is no coarser than the
unit of the reading interval, and the interval ends below the second power of ten from there. -/
lemma Canonical.place_bounds (hc : double.Canonical m q) (hm : m ≠ 0) {e place : Int}
    (he : e = m.log2 + 1 + q) (hplace : place = e * 30103 / 100000) :
    (10 : ℚ) ^ (place + 1 - (18 : Nat)) ≤ 2 ^ (q - 2)
      ∧ ((m : ℚ) + 1 / 2) * 2 ^ q ≤ 2 * 10 ^ (place + 1) := by
  obtain ⟨hlt, hq₁, hq₂⟩ := hc.bounds
  have hlog : m.log2 < 53 := (Nat.log2_lt hm).2 hlt
  obtain ⟨hpow₁, hpow₂⟩ : (10 : ℚ) ^ place ≤ 2 ^ (e + 1)
      ∧ (2 : ℚ) ^ (e - 1) ≤ 10 ^ (place + 1) := by
    rw [hplace]
    exact zpow_place_bounds (by omega) two_pow_le_ten_pow.1 two_pow_le_ten_pow.2 (by omega)
      (by omega)
  constructor
  · calc (10 : ℚ) ^ (place + 1 - (18 : Nat)) = 10 ^ place / 10 ^ 17 := by
          rw [show place + 1 - (18 : Nat) = place - (17 : Nat) by omega,
            zpow_sub₀ (by norm_num), zpow_natCast]
      _ ≤ 2 ^ (e + 1) / 2 ^ 56 := by
          gcongr
          norm_num
      _ = 2 ^ (e + 1 - (56 : Nat)) := by rw [zpow_sub₀ two_ne_zero, zpow_natCast]
      _ ≤ 2 ^ (q - 2) := zpow_le_zpow_right₀ one_le_two (by omega)
  · calc ((m : ℚ) + 1 / 2) * 2 ^ q ≤ 2 ^ (m.log2 + 1) * 2 ^ q := by
          have hnext : (m : ℚ) + 1 ≤ 2 ^ (m.log2 + 1) := by exact_mod_cast Nat.lt_log2_self
          gcongr
          linarith
      _ = 2 * 2 ^ (e - 1) := by
          rw [he, ← zpow_natCast, ← zpow_add₀ two_ne_zero, ← zpow_one_add₀ two_ne_zero]
          congr 1
          push_cast
          ring
      _ ≤ 2 * 10 ^ (place + 1) := by gcongr

/-- **The shortest decimal of a float lies in its reading interval**, and its digits fit 64 bits.

**Proof sketch.** The first place of the search is above the float, and nineteen places on the power
of ten is finer than the interval. Hence the digits found are at most nineteen. -/
theorem contains_shortest (hc : double.Canonical m q) (hm : m ≠ 0) (tie : TieRule) :
    (ReadingInterval.of double m q).Contains
        ((double.shortest tie m q).1 * 10 ^ (double.shortest tie m q).2)
      ∧ (double.shortest tie m q).1 ≤ 2 * 10 ^ 18 := by
  obtain ⟨place, hplace⟩ : ∃ place : Int, place = (m.log2 + 1 + q) * 30103 / 100000 := ⟨_, rfl⟩
  obtain ⟨hfine, hbelow⟩ := hc.place_bounds hm rfl hplace
  obtain ⟨found, hfound⟩ : ∃ found,
      found = (ReadingInterval.of double m q).search tie 20 (place + 1) := ⟨_, rfl⟩
  obtain ⟨hcontains, hle⟩ := ReadingInterval.contains_search tie
    (i := ReadingInterval.of double m q)
    (by simp only [ReadingInterval.of]; split_ifs <;> omega)
    (by simp only [ReadingInterval.of]; omega) (show 18 < 20 by omega) hfine
  rw [← hfound] at hcontains hle
  have hdigits : found.1 ≤ 2 * 10 ^ 18 := by
    have hhigh := hcontains.le_high
    rw [(ends_of hm q).1] at hhigh
    have hscaled : (found.1 : ℚ) * 10 ^ (place + 1 - (18 : Nat))
        ≤ 2 * 10 ^ 18 * 10 ^ (place + 1 - (18 : Nat)) :=
      calc (found.1 : ℚ) * 10 ^ (place + 1 - (18 : Nat)) ≤ found.1 * 10 ^ found.2 := by
            gcongr
            norm_num
        _ ≤ (m + 1 / 2) * 2 ^ q := hhigh
        _ ≤ 2 * 10 ^ (place + 1) := hbelow
        _ = 2 * 10 ^ 18 * 10 ^ (place + 1 - (18 : Nat)) := by
            rw [zpow_sub₀ (by norm_num), zpow_natCast]
            field_simp
    exact_mod_cast le_of_mul_le_mul_right hscaled (by positivity)
  have hshortest : double.shortest tie m q = dropZeros 20 found.1 found.2 := by
    rw [hfound, hplace, shortest]
  obtain ⟨heq, hdropped⟩ := dropZeros_spec 20 found.1 found.2
  rw [hshortest, heq]
  exact ⟨hcontains, hdropped.trans hdigits⟩

end FloatLayout

end TypedRows
