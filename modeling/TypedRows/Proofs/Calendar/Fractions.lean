import Mathlib.Tactic.Common
import TypedRows.Calendar.Text

/-!
# Digits of a second

A fraction of a second is a string of digits. The writer cuts it off after some digits, which
divides the number that it denotes; the reader takes the digits that are not there for zeros. A
fraction with no more digits than are kept is therefore read without rounding. A fraction whose kept
digits are all nines may be rounded to a whole second, and no other fraction is.

## Main definitions

* `TypedRows.Calendar.keptDigits` — the number of the first digits of a fraction.
* `TypedRows.Calendar.RoundsToSecond` — nines with a digit after them that is rounded up.

## Main results

* `TypedRows.Calendar.ofDigitChars_take` — cutting digits off divides.
* `TypedRows.Calendar.keptDigits_eq` — missing digits multiply.
* `TypedRows.Calendar.roundFraction_of_length_le` — what is not rounded.
* `TypedRows.Calendar.roundFraction_le`, `TypedRows.Calendar.roundFraction_eq_second_iff` — a
  fraction is at most a second.
-/

set_option autoImplicit false

namespace TypedRows.Calendar

variable {cs : List Char}

/-! ## Cutting digits off -/

/-- A digit stands for a number up to nine. -/
lemma digit_le_nine {c : Char} (h : c.isDigit = true) : c.toNat - '0'.toNat ≤ 9 := by
  have hc : 48 ≤ c.toNat ∧ c.toNat ≤ 57 := by
    simpa [Char.isDigit, UInt32.le_iff_toNat_le] using h
  have hzero : '0'.toNat = 48 := rfl
  omega

/-- The first digit counts as often as the digits after it can be chosen. -/
lemma ofDigitChars_cons_zero (c : Char) (cs : List Char) : Nat.ofDigitChars 10 (c :: cs) 0
    = 10 ^ cs.length * (c.toNat - '0'.toNat) + Nat.ofDigitChars 10 cs 0 := by
  rw [Nat.ofDigitChars_cons, Nat.ofDigitChars_eq_ofDigitChars_zero, Nat.mul_zero, Nat.zero_add]

/-- The number of some digits has no more digits. -/
lemma ofDigitChars_lt (h : ∀ c ∈ cs, c.isDigit = true) :
    Nat.ofDigitChars 10 cs 0 < 10 ^ cs.length := by
  induction cs with
  | nil => simp
  | cons c cs ih =>
    obtain ⟨hc, hcs⟩ := List.forall_mem_cons.1 h
    have hdigit := digit_le_nine hc
    calc Nat.ofDigitChars 10 (c :: cs) 0
        = 10 ^ cs.length * (c.toNat - '0'.toNat) + Nat.ofDigitChars 10 cs 0 :=
          ofDigitChars_cons_zero c cs
      _ < 10 ^ cs.length * (c.toNat - '0'.toNat) + 10 ^ cs.length :=
          Nat.add_lt_add_left (ih hcs) _
      _ = 10 ^ cs.length * (c.toNat - '0'.toNat + 1) := by rw [Nat.mul_add_one]
      _ ≤ 10 ^ cs.length * 10 := Nat.mul_le_mul_left _ (by omega)
      _ = 10 ^ (c :: cs).length := by rw [List.length_cons, Nat.pow_succ]

/-- **Only nines are followed by a number with more digits.** -/
lemma ofDigitChars_add_one_eq_iff (h : ∀ c ∈ cs, c.isDigit = true) :
    Nat.ofDigitChars 10 cs 0 + 1 = 10 ^ cs.length ↔ cs = List.replicate cs.length '9' := by
  induction cs with
  | nil => simp
  | cons c cs ih =>
    obtain ⟨hc, hcs⟩ := List.forall_mem_cons.1 h
    have hdigit := digit_le_nine hc
    have hrest := ofDigitChars_lt hcs
    have hnine : c.toNat - '0'.toNat = 9 ↔ c = '9' := by
      have hzero : '0'.toNat = 48 := rfl
      have hnine : '9'.toNat = 57 := rfl
      rw [← Char.toNat_inj]
      omega
    rw [List.length_cons, List.replicate_succ, List.cons.injEq, ← ih hcs, ← hnine,
      ofDigitChars_cons_zero, Nat.pow_succ]
    constructor
    · intro heq
      have hle : 10 ^ cs.length * 9 ≤ 10 ^ cs.length * (c.toNat - '0'.toNat) := by omega
      have hfirst := Nat.le_of_mul_le_mul_left hle (Nat.pow_pos (by omega))
      have hfirst : c.toNat - '0'.toNat = 9 := by omega
      rw [hfirst] at heq
      exact ⟨hfirst, by omega⟩
    · rintro ⟨hfirst, heq⟩
      rw [hfirst]
      omega

/-- **Cutting digits off divides** the number that they denote. -/
lemma ofDigitChars_take (h : ∀ c ∈ cs, c.isDigit = true) (k : Nat) :
    Nat.ofDigitChars 10 (cs.take k) 0 = Nat.ofDigitChars 10 cs 0 / 10 ^ (cs.length - k) := by
  have hrest : Nat.ofDigitChars 10 (cs.drop k) 0 < 10 ^ (cs.length - k) := by
    rw [← List.length_drop]
    exact ofDigitChars_lt fun c hc => h c (List.mem_of_mem_drop hc)
  have hsplit : Nat.ofDigitChars 10 cs 0
      = Nat.ofDigitChars 10 (cs.drop k) 0
        + 10 ^ (cs.length - k) * Nat.ofDigitChars 10 (cs.take k) 0 := by
    conv_lhs => rw [← List.take_append_drop k cs]
    rw [Nat.ofDigitChars_append, Nat.ofDigitChars_eq_ofDigitChars_zero, List.length_drop,
      Nat.add_comm]
  rw [hsplit, Nat.add_mul_div_left _ _ (Nat.pow_pos (by omega)), Nat.div_eq_of_lt hrest,
    Nat.zero_add]

/-! ## Digits that are kept -/

/-- The number of the first digits, with zeros where there are no more. -/
def keptDigits (cs : List Char) (count : Nat) : Nat :=
  (List.range count).foldl (fun n i => 10 * n + ((cs[i]?.getD '0').toNat - '0'.toNat)) 0

/-- One more digit is kept behind the others. -/
lemma keptDigits_succ (cs : List Char) (count : Nat) : keptDigits cs (count + 1)
    = 10 * keptDigits cs count + ((cs[count]?.getD '0').toNat - '0'.toNat) := by
  rw [keptDigits, List.range_succ, List.foldl_append, List.foldl_cons, List.foldl_nil, keptDigits]

/-- The digits that are kept are the number of the first ones, filled up with zeros to their count.
-/
lemma keptDigits_eq_ofDigitChars (cs : List Char) (count : Nat) :
    keptDigits cs count
      = Nat.ofDigitChars 10 (cs.take count ++ List.replicate (count - cs.length) '0') 0 := by
  induction count with
  | zero => simp [keptDigits]
  | succ count ih =>
    have hlast (c : Char) (ds : List Char) :
        10 * Nat.ofDigitChars 10 ds 0 + (c.toNat - '0'.toNat)
          = Nat.ofDigitChars 10 (ds ++ [c]) 0 := by
      rw [Nat.ofDigitChars_append, Nat.ofDigitChars_cons, Nat.ofDigitChars_nil]
    rw [keptDigits_succ, ih, hlast]
    by_cases hcount : count < cs.length
    · have hnone : count + 1 - cs.length = 0 := by omega
      have hnone' : count - cs.length = 0 := by omega
      rw [hnone, hnone', List.getElem?_eq_getElem hcount, List.take_succ_eq_append_getElem hcount]
      simp
    · have hone : count + 1 - cs.length = (count - cs.length) + 1 := by omega
      rw [hone, List.getElem?_eq_none (by omega), List.take_of_length_le (by omega),
        List.take_of_length_le (by omega), List.replicate_succ', List.append_assoc]
      rfl

/-- **Digits that are missing multiply** the number of those that are there. -/
lemma keptDigits_eq {count : Nat} (h : cs.length ≤ count) :
    keptDigits cs count = 10 ^ (count - cs.length) * Nat.ofDigitChars 10 cs 0 := by
  rw [keptDigits_eq_ofDigitChars, List.take_of_length_le h, Nat.ofDigitChars_append,
    Nat.ofDigitChars_replicate_zero]

/-- A fraction is rounded by the first digit that is not kept: up from five on. -/
lemma roundFraction_eq (cs : List Char) (precision : Nat) :
    roundFraction cs precision
      = (keptDigits cs (min precision maxPrecision)
          + if 5 ≤ (cs[min precision maxPrecision]?.getD '0').toNat - '0'.toNat then 1 else 0)
        * 10 ^ (maxPrecision - min precision maxPrecision) := by
  rw [roundFraction]
  split <;> rfl

/-- **A fraction with no more digits than are kept is not rounded.** -/
lemma roundFraction_of_length_le {precision : Nat} (h : cs.length ≤ min precision maxPrecision) :
    roundFraction cs precision = Nat.ofDigitChars 10 cs 0 * 10 ^ (maxPrecision - cs.length) := by
  have hnone : (cs[min precision maxPrecision]?.getD '0').toNat - '0'.toNat = 0 := by
    rw [List.getElem?_eq_none h]
    rfl
  have hpow : maxPrecision - cs.length = (min precision maxPrecision - cs.length)
      + (maxPrecision - min precision maxPrecision) := by omega
  rw [roundFraction_eq, hnone, if_neg (by omega), keptDigits_eq h, hpow, Nat.pow_add, Nat.add_zero,
    Nat.mul_comm (10 ^ _), Nat.mul_assoc]

/-! ## Whole seconds -/

/-- All digits that are kept are nines, and the digit after them is rounded up. -/
def RoundsToSecond (cs : List Char) (precision : Nat) : Prop :=
  cs.take (min precision maxPrecision) = List.replicate (min precision maxPrecision) '9'
    ∧ ∃ c, cs[min precision maxPrecision]? = some c ∧ 5 ≤ c.toNat - '0'.toNat

/-- The kept digits of a fraction, with zeros where there are no more. -/
lemma isDigit_of_mem_kept (h : ∀ c ∈ cs, c.isDigit = true) (count : Nat) :
    ∀ c ∈ cs.take count ++ List.replicate (count - cs.length) '0', c.isDigit = true := by
  intro c hc
  rcases List.mem_append.1 hc with hc | hc
  · exact h c (List.mem_of_mem_take hc)
  · rw [List.eq_of_mem_replicate hc]
    rfl

/-- As many digits are kept as are wanted. -/
lemma length_kept (cs : List Char) (count : Nat) :
    (cs.take count ++ List.replicate (count - cs.length) '0').length = count := by
  rw [List.length_append, List.length_take, List.length_replicate]
  omega

/-- The digits that are kept stay below the power of ten of their count. -/
lemma keptDigits_lt (h : ∀ c ∈ cs, c.isDigit = true) (count : Nat) :
    keptDigits cs count < 10 ^ count := by
  have hlt := ofDigitChars_lt (isDigit_of_mem_kept h count)
  rwa [length_kept, ← keptDigits_eq_ofDigitChars] at hlt

/-- The kept digits are followed by a power of ten exactly when all of them are there and nines. -/
lemma keptDigits_add_one_eq_iff (h : ∀ c ∈ cs, c.isDigit = true) (count : Nat) :
    keptDigits cs count + 1 = 10 ^ count ↔ cs.take count = List.replicate count '9' := by
  have hiff := ofDigitChars_add_one_eq_iff (isDigit_of_mem_kept h count)
  rw [length_kept, ← keptDigits_eq_ofDigitChars] at hiff
  rw [hiff]
  rcases Nat.lt_or_ge cs.length count with hlt | hle
  · -- a zero is missing, which is no nine
    constructor
    · intro heq
      have hmem : '0' ∈ List.replicate count '9' := by
        rw [← heq]
        exact List.mem_append_right _ (List.mem_replicate.2 ⟨by omega, rfl⟩)
      cases List.eq_of_mem_replicate hmem
    · intro heq
      have hlength := congrArg List.length heq
      rw [List.length_take, List.length_replicate] at hlength
      omega
  · rw [Nat.sub_eq_zero_of_le hle, List.replicate_zero, List.append_nil]

/-- A fraction is rounded to a second at most. -/
lemma roundFraction_le (h : ∀ c ∈ cs, c.isDigit = true) (precision : Nat) :
    roundFraction cs precision ≤ 1000 := by
  have hcount : min precision maxPrecision ≤ maxPrecision := Nat.min_le_right _ _
  have hkept := keptDigits_lt h (min precision maxPrecision)
  calc roundFraction cs precision
      ≤ 10 ^ min precision maxPrecision * 10 ^ (maxPrecision - min precision maxPrecision) := by
        rw [roundFraction_eq]
        refine Nat.mul_le_mul_right _ ?_
        split_ifs <;> omega
    _ = 10 ^ maxPrecision := by rw [← Nat.pow_add, Nat.add_sub_cancel' hcount]
    _ = 1000 := by decide

/-- **A fraction is rounded to a second** exactly when it rounds nines up. -/
lemma roundFraction_eq_second_iff (h : ∀ c ∈ cs, c.isDigit = true) (precision : Nat) :
    roundFraction cs precision = 1000 ↔ RoundsToSecond cs precision := by
  have hcount : min precision maxPrecision ≤ maxPrecision := Nat.min_le_right _ _
  have hsecond : 1000
      = 10 ^ min precision maxPrecision * 10 ^ (maxPrecision - min precision maxPrecision) := by
    rw [← Nat.pow_add, Nat.add_sub_cancel' hcount]
    decide
  have hkept := keptDigits_lt h (min precision maxPrecision)
  have hdigit : 5 ≤ (cs[min precision maxPrecision]?.getD '0').toNat - '0'.toNat
      ↔ ∃ c, cs[min precision maxPrecision]? = some c ∧ 5 ≤ c.toNat - '0'.toNat := by
    cases cs[min precision maxPrecision]? <;> simp
  rw [roundFraction_eq, hsecond, Nat.mul_left_inj (Nat.ne_of_gt (Nat.pow_pos (by omega))),
    RoundsToSecond, ← keptDigits_add_one_eq_iff h, ← hdigit]
  split_ifs <;> omega

end TypedRows.Calendar
