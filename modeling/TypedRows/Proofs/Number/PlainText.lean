import Mathlib.Tactic.Positivity
import Mathlib.Tactic.Ring
import TypedRows.Number.Decimal

/-!
# Decimals and their plain text

The plain text of a decimal has no exponent, so a negative scale does not show in it: the zeros
that it stands for are written out. Reading the text gives the decimal with these zeros, which is
the same number.

## Main definitions

* `TypedRows.Decimal.plain` — the decimal that the plain text shows.

## Main results

* `TypedRows.Decimal.read?_text` — the plain text of a decimal is read as its plain form.
* `TypedRows.Decimal.sameNumber_plain` — the plain form is the same number.
-/

set_option autoImplicit false

namespace TypedRows

namespace Decimal

/-- The decimal with the zeros of a negative scale written out. -/
def plain (d : Decimal) : Decimal :=
  if d.scale.toInt ≤ 0 then ⟨d.unscaled * 10 ^ (-d.scale.toInt).toNat, 0⟩ else d

/-- A decimal is the number that it is. -/
@[simp] lemma sameNumber_self (d : Decimal) : d.sameNumber d = true := by
  simp only [sameNumber, or_self]
  split <;> simp

/-- An integer with `k` zeros appended has more than `k` binary digits. -/
lemma le_log2_mul_pow {n : Int} (hn : n ≠ 0) (k : Nat) : k ≤ (n * 10 ^ k).natAbs.log2 := by
  have hne : (n * 10 ^ k).natAbs ≠ 0 := by simp [hn]
  rw [Nat.le_log2 hne, Int.natAbs_mul, Int.natAbs_pow]
  calc 2 ^ k ≤ 10 ^ k := Nat.pow_le_pow_left (by omega) k
    _ ≤ n.natAbs * 10 ^ k := Nat.le_mul_of_pos_left _ (by omega)

/-- Writing zeros out does not change the number. -/
@[simp] lemma sameNumber_plain (d : Decimal) : d.plain.sameNumber d = true := by
  by_cases hs : d.scale.toInt ≤ 0
  · obtain ⟨k, hk⟩ : ∃ k : Nat, (-d.scale.toInt).toNat = k := ⟨_, rfl⟩
    have hscale : d.scale.toInt = -k := by omega
    have hplain : d.plain = ⟨d.unscaled * 10 ^ k, 0⟩ := by rw [plain, if_pos hs, hk]
    rw [hplain]
    by_cases hu : d.unscaled = 0
    · simp [sameNumber, hu]
    · have hlog := le_log2_mul_pow hu k
      have hnz : ¬ (d.unscaled * 10 ^ k = 0 ∨ d.unscaled = 0) := by simp [hu]
      have hnear : ¬ (d.unscaled * 10 ^ k).natAbs.log2 + d.unscaled.natAbs.log2
          < ((0 : Int64).toInt - d.scale.toInt).natAbs := by
        rw [hscale, Int64.toInt_zero]
        omega
      simp only [sameNumber, if_neg hnz, if_neg hnear]
      simp [unscaledAt, hscale]
  · simp [plain, hs]

/-! ## Reading digits -/

/-- A character that a number is written with and that cannot start or end one of its parts. -/
lemma ne_of_isDigit {c d : Char} (hc : c.isDigit = true) (hd : d.isDigit = false) : c ≠ d := by
  rintro rfl
  simp [hc] at hd

/-- Digits after the sign of an integer are read as the integer. -/
lemma readInteger?_sign_append {n : Int} {cs : List Char} (hd : ∀ c ∈ cs, c.isDigit = true)
    (hv : Text.natural? cs = some n.natAbs) :
    readInteger? ((if n < 0 then ['-'] else []) ++ cs) = some n := by
  have hfilter : cs.filter (· != '_') = cs :=
    List.filter_eq_self.2 fun c hc => by simpa using ne_of_isDigit (hd c hc) (by decide)
  have hhead : (cs.head? == some '_') = false := by
    cases cs with
    | nil => rfl
    | cons c cs => simpa using ne_of_isDigit (hd c (by simp)) (by decide)
  by_cases hn : n < 0
  · simp only [if_pos hn, List.cons_append, List.nil_append, readInteger?, hhead, hfilter, hv]
    simp only [Bool.false_eq_true, ↓reduceIte, Option.some.injEq]
    omega
  · rw [if_neg hn, List.nil_append]
    have hval : (n.natAbs : Int) = n := by omega
    cases cs with
    | nil => simp [Text.natural?] at hv
    | cons c cs =>
      have h₁ := ne_of_isDigit (d := '-') (hd c (by simp)) (by decide)
      have h₂ := ne_of_isDigit (d := '+') (hd c (by simp)) (by decide)
      unfold readInteger?
      split
      rename_i negative body heq
      split at heq
      · rename_i h
        exact absurd (List.cons.inj h).1 h₁
      · rename_i h
        exact absurd (List.cons.inj h).1 h₂
      · obtain ⟨rfl, rfl⟩ := Prod.mk.inj heq
        simp only [hhead, hfilter, hv, Bool.false_eq_true, ↓reduceIte, hval]

/-! ## Reading the plain text -/

/-- The characters of a plain text. -/
lemma not_exponent_of_isDigit {c : Char} (h : c.isDigit = true) :
    (c == 'e' || c == 'E') = false ∧ (c == '.') = false := by
  have h₁ := ne_of_isDigit (d := 'e') h (by decide)
  have h₂ := ne_of_isDigit (d := 'E') h (by decide)
  have h₃ := ne_of_isDigit (d := '.') h (by decide)
  simp [h₁, h₂, h₃]

/-- The sign of an integer is no exponent and no point. -/
lemma not_exponent_of_mem_sign {n : Int} {c : Char} (h : c ∈ if n < 0 then ['-'] else []) :
    (c == 'e' || c == 'E') = false ∧ (c == '.') = false := by
  split at h
  · obtain rfl := List.mem_singleton.1 h
    decide
  · simp at h

/-- Digits without a point are read at scale zero. -/
lemma read?_digits {n : Int} {cs : List Char} (hd : ∀ c ∈ cs, c.isDigit = true)
    (hv : Text.natural? cs = some n.natAbs) :
    read? (String.ofList ((if n < 0 then ['-'] else []) ++ cs)) = some ⟨n, 0⟩ := by
  have hall : ∀ c ∈ (if n < 0 then ['-'] else []) ++ cs,
      (c == 'e' || c == 'E') = false ∧ (c == '.') = false := by
    intro c hc
    rcases List.mem_append.1 hc with hc | hc
    · exact not_exponent_of_mem_sign hc
    · exact not_exponent_of_isDigit (hd c hc)
  have hne : ((if n < 0 then ['-'] else []) ++ cs).isEmpty = false := by
    cases cs with
    | nil => simp [Text.natural?] at hv
    | cons c cs => simp
  unfold read?
  rw [String.toList_ofList, Text.cut_eq_of_not_mem fun c hc => (hall c hc).1]
  simp [hne, Text.cut_eq_of_not_mem fun c hc => (hall c hc).2, readInteger?_sign_append hd hv]

/-- Digits around a point are read at the scale of those after it. -/
lemma read?_digits_point {n : Int} {lead trail : List Char} {scale : Int64}
    (hd : ∀ c ∈ lead ++ trail, c.isDigit = true)
    (hv : Text.natural? (lead ++ trail) = some n.natAbs)
    (hscale : (trail.length : Int) = scale.toInt) :
    read? (String.ofList ((if n < 0 then ['-'] else []) ++ (lead ++ '.' :: trail)))
      = some ⟨n, scale⟩ := by
  have hlead : ∀ c ∈ (if n < 0 then ['-'] else []) ++ lead,
      (c == 'e' || c == 'E') = false ∧ (c == '.') = false := by
    intro c hc
    rcases List.mem_append.1 hc with hc | hc
    · exact not_exponent_of_mem_sign hc
    · exact not_exponent_of_isDigit (hd c (List.mem_append_left _ hc))
  have hall : ∀ c ∈ ((if n < 0 then ['-'] else []) ++ lead) ++ '.' :: trail,
      (c == 'e' || c == 'E') = false := by
    intro c hc
    rcases List.mem_append.1 hc with hc | hc
    · exact (hlead c hc).1
    · rcases List.mem_cons.1 hc with rfl | hc
      · decide
      · exact (not_exponent_of_isDigit (hd c (List.mem_append_right _ hc))).1
  have hfilter : trail.filter (· != '_') = trail :=
    List.filter_eq_self.2 fun c hc => by
      simpa using ne_of_isDigit (hd c (List.mem_append_right _ hc)) (by decide)
  have hlow := scale.le_toInt
  have hhigh := scale.toInt_lt
  unfold read?
  rw [String.toList_ofList, ← List.append_assoc, Text.cut_eq_of_not_mem hall]
  have hcut : Text.cut (· == '.') ((if n < 0 then ['-'] else []) ++ lead ++ '.' :: trail)
      = ((if n < 0 then ['-'] else []) ++ lead, some trail) :=
    Text.cut_append_cons trail (fun c hc => (hlead c hc).2) rfl
  have hne : ((if n < 0 then ['-'] else []) ++ lead ++ '.' :: trail).isEmpty = false := by simp
  have hbounds : ¬ (scale.toInt - 0 < -(2 ^ 63) ∨ 2 ^ 63 ≤ scale.toInt - 0) := by omega
  have hread := readInteger?_sign_append hd hv
  rw [← List.append_assoc] at hread
  simp only [hcut, hne, hfilter, hscale, Option.getD_some, Option.bind_eq_bind,
    Option.bind_some, Bool.false_eq_true, ↓reduceIte, if_neg hbounds, hread, pure]
  simp

/-- Digits and zeros after them are digits. -/
lemma isDigit_of_mem_digits_zeros {m k : Nat} {c : Char}
    (h : c ∈ Nat.toDigits 10 m ++ List.replicate k '0') : c.isDigit = true := by
  rcases List.mem_append.1 h with h | h
  · exact Nat.isDigit_of_mem_toDigits (by omega) (by omega) h
  · rw [List.eq_of_mem_replicate h]
    decide

/-- Zeros behind the digits of a number multiply it. -/
lemma natural?_digits_zeros (m k : Nat) :
    Text.natural? (Nat.toDigits 10 m ++ List.replicate k '0') = some (m * 10 ^ k) := by
  have hd : (Nat.toDigits 10 m ++ List.replicate k '0').all Char.isDigit = true :=
    List.all_eq_true.2 fun c hc => isDigit_of_mem_digits_zeros hc
  have hne : (Nat.toDigits 10 m ++ List.replicate k '0').isEmpty = false := by
    simp
  simp only [Text.natural?, hd, hne, Bool.not_true, Bool.or_self, Bool.false_eq_true, ↓reduceIte,
    Nat.ofDigitChars_append, Nat.ofDigitChars_ten_toDigits, Nat.ofDigitChars_replicate_zero]
  rw [Nat.mul_comm]

/-- **The plain text of a decimal is read as its plain form.**

**Proof sketch.** Up to scale zero the text is an integer, and the zeros of the scale are among
its digits. Above it the padded digits are cut so that as many stand behind the point as the
scale says, and reading counts them again. -/
theorem read?_text (d : Decimal) : read? d.text = some d.plain := by
  by_cases hs : d.scale.toInt ≤ 0
  · obtain ⟨k, hk⟩ : ∃ k : Nat, (-d.scale.toInt).toNat = k := ⟨_, rfl⟩
    have hpos : (0 : Int) < 10 ^ k := by positivity
    have hsign : d.unscaled < 0 ↔ d.unscaled * 10 ^ k < 0 := by
      constructor
      · intro h
        exact Int.mul_neg_of_neg_of_pos h hpos
      · intro h
        by_contra hn
        exact absurd h (not_lt.2 (Int.mul_nonneg (not_lt.1 hn) hpos.le))
    have habs : (d.unscaled * 10 ^ k).natAbs = d.unscaled.natAbs * 10 ^ k := by
      rw [Int.natAbs_mul, Int.natAbs_pow]
      rfl
    have hread := read?_digits (n := d.unscaled * 10 ^ k)
      (fun c hc => isDigit_of_mem_digits_zeros hc)
      (habs ▸ natural?_digits_zeros d.unscaled.natAbs k)
    simp only [← hsign] at hread
    rw [text, digitChars, if_pos hs, hk, hread, plain, if_pos hs, hk]
  · obtain ⟨k, hk⟩ : ∃ k : Nat, d.scale.toInt.toNat = k := ⟨_, rfl⟩
    have hlen : k + 1 ≤ (Text.padded (k + 1) d.unscaled.natAbs).length := by
      simp only [Text.padded, List.leftpad, List.length_append, List.length_replicate]
      omega
    have hsplit := List.take_append_drop ((Text.padded (k + 1) d.unscaled.natAbs).length - k)
      (Text.padded (k + 1) d.unscaled.natAbs)
    rw [text, digitChars, if_neg hs, plain, if_neg hs, hk]
    refine read?_digits_point ?_ ?_ ?_
    · rw [hsplit]
      intro c hc
      exact Text.isDigit_of_mem_padded hc
    · rw [hsplit]
      exact Text.natural?_padded _ _
    · rw [List.length_drop]
      omega

end Decimal

end TypedRows
