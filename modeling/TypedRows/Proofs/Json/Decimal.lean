import TypedRows.Proofs.Json.Reading
import TypedRows.Proofs.Number.IntegerPart
import TypedRows.Proofs.Value.Likeness

/-!
# Decimals as JSON

A decimal leaves as an integer of 64 bits when it is one, as a float when the float is written as
the same decimal, and as text otherwise. Whichever way it took, reading gives a decimal of the
same number; its scale may be another one.

## Main definitions

* `TypedRows.Decimal.viaJson` — the decimal that the JSON form of a decimal is read as.

## Main results

* `TypedRows.Decimal.sameNumber_viaJson` — it is the same number.
* `TypedRows.Decimal.exists_ofJson_toJson` — the JSON form is read as it.
-/

set_option autoImplicit false

namespace TypedRows

namespace Decimal

/-- The integer that a decimal leaves as, if it leaves as one. -/
def wholeInt64? (d : Decimal) : Option Int64 := if d.isWhole then d.toInt64? else none

/-- The decimal that the JSON form is read as. -/
def viaJson (d : Decimal) : Decimal :=
  match d.wholeInt64? with
  | some n => .ofInt n.toInt
  | none =>
    match ofBinary64? d.toBinary64 with
    | some shown => if shown.sameNumber d then shown else d.plain
    | none => d.plain

/-! ## Whole decimals -/

/-- The integer that a whole decimal leaves as is its integer part. -/
lemma toInt_of_wholeInt64? {d : Decimal} {n : Int64} (h : d.wholeInt64? = some n) :
    d.isWhole = true ∧ n.toInt = d.truncated := by
  rw [wholeInt64?] at h
  split at h
  · next hwhole =>
    obtain ⟨k, hk, rfl⟩ := Option.map_eq_some_iff.1 h
    obtain ⟨hpart, hlow, hhigh⟩ := toSigned?_eq_some_iff.1 hk
    rw [truncated_eq, hpart]
    exact ⟨hwhole, Int64.toInt_ofInt_of_le (by omega) (by omega)⟩
  · cases h

/-- Up to scale zero the integer part is what the plain form shows. -/
lemma ofInt_truncated_of_scale_nonpos {d : Decimal} (hs : d.scale.toInt ≤ 0) :
    ofInt d.truncated = d.plain := by
  rw [truncated_of_scale_nonpos hs, ofInt, plain, if_pos hs]

/-- Above scale zero a whole decimal that is not zero has a multiple of the power of ten that its
scale stands for. -/
lemma unscaled_of_isWhole {d : Decimal} (hwhole : d.isWhole = true) (hs : 0 < d.scale.toInt)
    (hu : d.unscaled ≠ 0) : d.unscaled = d.truncated * 10 ^ d.scale.toInt.toNat := by
  have hbelow : d.isBelowOne = false := by
    by_contra hb
    rw [isWhole, if_neg (by omega), if_pos (by simpa using hb)] at hwhole
    exact hu (by simpa using hwhole)
  have hdvd : (10 : Int) ^ d.scale.toInt.toNat ∣ d.unscaled := by
    have h : d.unscaled % 10 ^ d.scale.toInt.toNat = 0 := by
      simpa [isWhole, not_le.2 hs, hbelow] using hwhole
    exact Int.dvd_of_emod_eq_zero h
  rw [truncated_of_scale_pos hs, Int.tdiv_mul_cancel hdvd]

/-- The integer part of a whole decimal is the same number. -/
lemma sameNumber_ofInt_truncated {d : Decimal} (hwhole : d.isWhole = true) :
    (ofInt d.truncated).sameNumber d = true := by
  by_cases hs : d.scale.toInt ≤ 0
  · rw [ofInt_truncated_of_scale_nonpos hs]
    exact sameNumber_plain d
  rw [not_le] at hs
  by_cases hu : d.unscaled = 0
  · simp [sameNumber, truncated, hu, ofInt]
  have heq := unscaled_of_isWhole hwhole hs hu
  obtain ⟨k, hk⟩ : ∃ k : Nat, d.scale.toInt = k := ⟨d.scale.toInt.toNat, by omega⟩
  rw [hk, Int.toNat_natCast] at heq
  have ht : d.truncated ≠ 0 := by
    rintro h
    simp [heq, h] at hu
  have hlog := le_log2_mul_pow ht k
  rw [← heq] at hlog
  have hnear : ¬ d.truncated.natAbs.log2 + d.unscaled.natAbs.log2
      < ((0 : Int64).toInt - d.scale.toInt).natAbs := by
    rw [hk, Int64.toInt_zero]
    omega
  have hzero : ¬ (d.truncated = 0 ∨ d.unscaled = 0) := not_or.2 ⟨ht, hu⟩
  have hint : ofInt d.truncated = ⟨d.truncated, 0⟩ := rfl
  rw [hint]
  simp only [sameNumber, if_neg hzero, if_neg hnear]
  simp [unscaledAt, hk, ← heq]

/-! ## The way through JSON -/

/-- **A decimal comes back from JSON as the same number.** -/
@[simp] theorem sameNumber_viaJson (d : Decimal) : d.viaJson.sameNumber d = true := by
  rw [viaJson]
  split
  · next n hn =>
    obtain ⟨hwhole, htrunc⟩ := toInt_of_wholeInt64? hn
    rw [htrunc]
    exact sameNumber_ofInt_truncated hwhole
  · split
    · split
      · assumption
      · exact sameNumber_plain d
    · exact sameNumber_plain d

/-- **The JSON form of a decimal is read** as a scalar, and this as a decimal. -/
theorem exists_ofJson_toJson (d : Decimal) :
    ∃ s, SerialValue.ofJson d.toJson = .ok s ∧ s.isScalar = true
      ∧ s.toLocal .number none = .ok (.decimal d.viaJson) := by
  have htext : (SerialValue.string d.text).toLocal .number none = .ok (.decimal d.plain) := by
    simp [SerialValue.toLocal, SerialValue.scalarLocal, Tag.boxed, SerialValue.toDecimal,
      read?_text]
  have hwhole : (if d.isWhole then d.toInt64? else none) = d.wholeInt64? := rfl
  rw [toJson, viaJson, hwhole]
  cases d.wholeInt64? with
  | some n =>
    exact ⟨.integer n, SerialValue.ofJson_integer n, rfl, rfl⟩
  | none =>
    cases hshown : ofBinary64? d.toBinary64 with
    | none => exact ⟨.string d.text, rfl, rfl, htext⟩
    | some shown =>
      dsimp only
      split
      · refine ⟨.float d.toBinary64, rfl, rfl, ?_⟩
        simp [SerialValue.toLocal, SerialValue.scalarLocal, Tag.boxed, SerialValue.toDecimal,
          hshown]
      · exact ⟨.string d.text, rfl, rfl, htext⟩

end Decimal

end TypedRows
