import TypedRows.Proofs.Number.ShortestDigits

/-!
# The decimals that floats show

A float shows the shortest decimal in its reading interval, and rounding the decimal gives the float
back. Hence floats that show one number are one float, except for the two zeros.

## Main results

* `TypedRows.Binary64.ofRatio_of_contains` — a quotient in the interval of a float is rounded to the
  float.
* `TypedRows.Decimal.exists_shown` — a float is the one nearest to the decimal that it shows.
* `TypedRows.Binary64.eq_of_shown` — floats that show one number are the same.
-/

set_option autoImplicit false

namespace TypedRows

open FloatLayout (double)

variable {negative : Bool} {m num den : Nat} {q : Int} {x y : Binary64}

/-- **A quotient in the reading interval of a float is rounded to the float**, with its sign. -/
lemma Binary64.ofRatio_of_contains (hx : x.value = .finite negative m q) (hm : m ≠ 0)
    (hden : den ≠ 0) (h : (ReadingInterval.of double m q).Contains (num / den)) :
    ofRatio negative num den = x := by
  obtain ⟨hc, hbits⟩ := FloatLayout.canonical_of_decode x.bits.toNat_lt hx
  rw [ofRatio, FloatLayout.nearest_of_contains hc hm hden h, ← hbits, UInt64.ofNat_toNat]

namespace FloatLayout

/-- The place of the shortest decimal is within 64 bits by far. -/
lemma le_shortest_place (hc : double.Canonical m q) (hm : m ≠ 0) (tie : TieRule) :
    -400 ≤ (double.shortest tie m q).2 := by
  obtain ⟨-, hq, -⟩ := hc.bounds
  obtain ⟨hcontains, hdigits⟩ := contains_shortest hc hm tie
  have hlow := hcontains.low_le
  rw [(ends_of hm q).2] at hlow
  have hone : (1 : ℚ) ≤ m := by exact_mod_cast Nat.one_le_iff_ne_zero.2 hm
  have hdigits' : ((double.shortest tie m q).1 : ℚ) ≤ 2 * 10 ^ 18 := by exact_mod_cast hdigits
  by_contra hplace
  have hten : (10 : ℚ) ^ (-400 : Int) ≤ 2 ^ (-1200 : Int) :=
    calc (10 : ℚ) ^ (-400 : Int) = (10 ^ 400)⁻¹ := by rw [zpow_neg, ← zpow_natCast]; rfl
      _ ≤ ((2 ^ 3) ^ 400)⁻¹ :=
          inv_anti₀ (by positivity) (pow_le_pow_left₀ (by norm_num) (by norm_num) 400)
      _ = 2 ^ (-1200 : Int) := by rw [← pow_mul, zpow_neg, ← zpow_natCast]; rfl
  have hsmall : (2 : ℚ) ^ (-1075 : Int) < 2 ^ (-1075 : Int) :=
    calc (2 : ℚ) ^ (-1075 : Int) = 1 / 2 * 2 ^ (-1074 : Int) := by
          rw [show (-1074 : Int) = -1075 + 1 by norm_num, zpow_add_one₀ two_ne_zero]
          ring
      _ ≤ (m - if m = 2 ^ double.fractionBits ∧ double.leastExponent < q then 1 / 4 else 1 / 2)
            * 2 ^ q := by
          refine mul_le_mul ?_ (zpow_le_zpow_right₀ one_le_two hq) (by positivity) ?_
          all_goals split_ifs <;> linarith
      _ ≤ (double.shortest tie m q).1 * 10 ^ (double.shortest tie m q).2 := hlow
      _ ≤ 2 * 10 ^ 18 * 10 ^ (-400 : Int) :=
          mul_le_mul hdigits' (zpow_le_zpow_right₀ (by norm_num) (by omega)) (by positivity)
            (by positivity)
      _ ≤ 2 ^ 61 * 2 ^ (-1200 : Int) := by
          gcongr
          norm_num
      _ = 2 ^ (-1139 : Int) := by
          rw [← zpow_natCast, ← zpow_add₀ two_ne_zero]
          rfl
      _ < 2 ^ (-1075 : Int) := zpow_lt_zpow_right₀ one_lt_two (by norm_num)
  exact lt_irrefl _ hsmall

end FloatLayout

/-- **A float is the one nearest to the decimal that it shows**, unless it is zero. -/
lemma Decimal.exists_shown (hx : x.value = .finite negative m q) (hm : m ≠ 0) :
    ∃ (d : Decimal) (r : ℚ), ofBinary64? x = some d ∧ 0 < r
      ∧ d.quantity = .number ((if negative then -1 else 1) * r)
      ∧ Binary64.ofRatio negative r.num.natAbs r.den = x := by
  obtain ⟨hc, -⟩ := FloatLayout.canonical_of_decode x.bits.toNat_lt hx
  obtain ⟨n, hn⟩ : ∃ n, n = (double.shortest FloatStyle.plain.tie m q).1 := ⟨_, rfl⟩
  obtain ⟨place, hplace⟩ : ∃ place, place = (double.shortest FloatStyle.plain.tie m q).2 := ⟨_, rfl⟩
  have hcontains := (FloatLayout.contains_shortest hc hm FloatStyle.plain.tie).1
  have hbound := FloatLayout.le_shortest_place hc hm FloatStyle.plain.tie
  rw [← hn, ← hplace] at hcontains
  rw [← hplace] at hbound
  have hpos := FloatLayout.pos_of_contains hcontains hm
  have hquotient : ((((n : ℚ) * 10 ^ place).num.natAbs : ℚ) / ((n : ℚ) * 10 ^ place).den)
      = n * 10 ^ place := by
    have hnum : ((((n : ℚ) * 10 ^ place).num.natAbs : Int) : ℚ) = ((n : ℚ) * 10 ^ place).num := by
      rw [Int.natAbs_of_nonneg (Rat.num_nonneg.2 hpos.le)]
    rw [← Int.cast_natCast, hnum, Rat.num_div_den]
  refine ⟨_, n * 10 ^ place, by rw [ofBinary64?, hx, ofValue?, if_neg hm], hpos, ?_,
    Binary64.ofRatio_of_contains hx hm (Rat.den_ne_zero _) (by rwa [hquotient])⟩
  have hsign : (((if negative then -(n : Int) else n) : Int) : ℚ)
      = (if negative then -1 else 1) * n := by
    cases negative <;> simp
  simp only [← hn, ← hplace]
  by_cases hwhole : 0 ≤ place
  · obtain ⟨k, rfl⟩ := Int.eq_ofNat_of_zero_le hwhole
    rw [if_pos hwhole, quantity, Int.cast_mul, hsign]
    simp
  · rw [if_neg hwhole]
    have hscale : (Int64.ofInt (-place)).toInt = -place :=
      Int64.toInt_ofInt_of_le (by omega) (by omega)
    rw [quantity, hscale, neg_neg, hsign, mul_assoc]

/-- Zeros show zero. -/
lemma Decimal.ofBinary64?_of_isZero (h : x.value.isZero = true) : ofBinary64? x = some ⟨0, 0⟩ := by
  cases hx : x.value with
  | nan | infinite => simp [hx, FloatValue.isZero] at h
  | finite negative m q =>
    rw [hx, FloatValue.isZero, beq_iff_eq] at h
    rw [ofBinary64?, hx, ofValue?, if_pos h]

/-- **Floats that show one number are the same**, unless they are zeros. -/
theorem Binary64.eq_of_shown {a b : Decimal} (ha : Decimal.ofBinary64? x = some a)
    (hb : Decimal.ofBinary64? y = some b) (hx : x.value.isZero = false)
    (h : a.quantity = b.quantity) : x = y := by
  cases hxvalue : x.value with
  | nan | infinite => simp [Decimal.ofBinary64?, hxvalue, Decimal.ofValue?] at ha
  | finite negative m q =>
    have hm : m ≠ 0 := by simpa [hxvalue, FloatValue.isZero] using hx
    obtain ⟨a', r, ha', hr, hquantity, hratio⟩ := Decimal.exists_shown hxvalue hm
    obtain rfl := Option.some.inj (ha.symm.trans ha')
    cases hyvalue : y.value with
    | nan | infinite => simp [Decimal.ofBinary64?, hyvalue, Decimal.ofValue?] at hb
    | finite negative' m' q' =>
      by_cases hm' : m' = 0
      · have hzero : y.value.isZero = true := by simp [hyvalue, FloatValue.isZero, hm']
        obtain rfl := Option.some.inj (hb.symm.trans (Decimal.ofBinary64?_of_isZero hzero))
        rw [hquantity, Decimal.quantity, Quantity.number.injEq] at h
        have hne : r ≠ 0 := hr.ne'
        split_ifs at h <;> simp [hne] at h
      · obtain ⟨b', r', hb', hr', hquantity', hratio'⟩ := Decimal.exists_shown hyvalue hm'
        obtain rfl := Option.some.inj (hb.symm.trans hb')
        rw [hquantity, hquantity', Quantity.number.injEq] at h
        obtain ⟨hsign, heq⟩ : negative = negative' ∧ r = r' := by
          cases negative <;> cases negative' <;>
            simp only [Bool.false_eq_true, ↓reduceIte, one_mul, neg_mul, neg_inj] at h
          · exact ⟨rfl, h⟩
          · linarith
          · linarith
          · exact ⟨rfl, h⟩
        rw [← hratio, ← hratio', hsign, heq]

end TypedRows
