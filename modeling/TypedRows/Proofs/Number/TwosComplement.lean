import Mathlib.Tactic.Linarith
import Mathlib.Tactic.Ring
import TypedRows.Number.SignedBytes

/-!
# Signed bytes are two's complement

Bytes denote an integer in two's complement when the integer fits them and they are its digits to
the base 256, negative integers taken modulo the power of the base. Such bytes are read as the
integer, however often the sign is repeated before its shortest form.

## Main definitions

* `TypedRows.SignedBytes.Denote` — bytes are the two's complement of an integer.
* `TypedRows.SignedBytes.signByte` — the byte that repeats the sign of an integer.

## Main results

* `TypedRows.SignedBytes.Denote.toInt_eq` — bytes are read as the integer that they denote.
* `TypedRows.SignedBytes.denote_ofInt`, `TypedRows.SignedBytes.denote_extended` — the shortest form
  of an integer denotes it, and so does any longer one.
-/

set_option autoImplicit false

namespace TypedRows.SignedBytes

/-- Bytes, the most significant one first, are the two's complement of an integer: the integer fits
them with its sign, and the byte before the last `j` ones is its digit for `256 ^ j`. -/
structure Denote (bytes : List UInt8) (n : Int) : Prop where
  fits : -(256 ^ bytes.length) ≤ 2 * n ∧ 2 * n < 256 ^ bytes.length
  digit : ∀ i j b, bytes[i]? = some b → i + j + 1 = bytes.length →
    (b.toNat : Int) = n / 256 ^ j % 256

/-- The byte that repeats the sign of an integer. -/
def signByte (n : Int) : UInt8 := if n < 0 then 255 else 0

variable {bytes : List UInt8} {n : Int}

/-! ## Digits -/

/-- The digits of a remainder are the last digits. -/
lemma emod_mul_eq (n m k : Int) (hm : 0 ≤ m) : n % (m * k) = m * (n / m % k) + n % m := by
  rw [Int.emod_def n (m * k), Int.emod_def (n / m) k, Int.emod_def n m,
    ← Int.ediv_ediv_of_nonneg hm]
  ring

/-- The number of bytes, by the first of them. -/
lemma magnitude_cons (b : UInt8) (bytes : List UInt8) :
    magnitude (b :: bytes) = b.toNat * 256 ^ bytes.length + magnitude bytes := by
  have hfold (m : Nat) : bytes.foldl (fun n b => n * 256 + b.toNat) m
      = m * 256 ^ bytes.length + magnitude bytes := by
    rw [magnitude]
    induction bytes generalizing m with
    | nil => simp
    | cons c bytes ih =>
      rw [List.foldl_cons, List.foldl_cons, ih, ih (0 * 256 + c.toNat), List.length_cons]
      ring
  rw [magnitude, List.foldl_cons, hfold, Nat.zero_mul, Nat.zero_add]

/-- The number of bytes stays below the power of their count. -/
lemma magnitude_lt (bytes : List UInt8) : magnitude bytes < 256 ^ bytes.length := by
  induction bytes with
  | nil => simp [magnitude]
  | cons b bytes ih =>
    have hb := b.toNat_lt
    rw [magnitude_cons, List.length_cons, pow_succ]
    nlinarith

/-- Bytes that are the digits of an integer have the magnitude of its remainder. -/
lemma magnitude_eq_emod (h : ∀ i j b, bytes[i]? = some b → i + j + 1 = bytes.length →
    (b.toNat : Int) = n / 256 ^ j % 256) : (magnitude bytes : Int) = n % 256 ^ bytes.length := by
  induction bytes with
  | nil => simp [magnitude]
  | cons b bytes ih =>
    have hb : (b.toNat : Int) = n / 256 ^ bytes.length % 256 := h 0 bytes.length b rfl (by simp)
    have hbytes := ih fun i j c hc hj => h (i + 1) j c (by simpa using hc) (by
      rw [List.length_cons]
      omega)
    rw [magnitude_cons, List.length_cons, pow_succ, emod_mul_eq _ _ _ (by positivity), ← hbytes, ← hb]
    push_cast
    ring

/-- **Bytes are read as the integer that they denote.** The first bit tells whether the magnitude
is in the upper half, which is that of the negative integers. -/
theorem Denote.toInt_eq (h : Denote bytes n) : toInt bytes = n := by
  obtain ⟨⟨hlow, hhigh⟩, hdigit⟩ := h
  have hmagnitude := magnitude_eq_emod hdigit
  cases bytes with
  | nil =>
    rw [List.length_nil, pow_zero] at hlow hhigh
    rw [toInt]
    omega
  | cons b bytes =>
    have hb := magnitude_cons b bytes
    have hrest := magnitude_lt bytes
    -- the magnitude is in the upper half exactly when the first bit is set
    have hhalf : b.toNat < 128 ↔ 2 * magnitude (b :: bytes) < 256 ^ (b :: bytes).length := by
      rw [hb, List.length_cons, pow_succ]
      constructor <;> intro h <;> nlinarith
    rw [toInt]
    by_cases hn : 0 ≤ n
    · have hmod : n % 256 ^ (b :: bytes).length = n := Int.emod_eq_of_lt hn (by linarith)
      rw [hmod] at hmagnitude
      rw [if_pos (hhalf.mpr (by zify; linarith)), hmagnitude]
    · have hmod : n % 256 ^ (b :: bytes).length = n + 256 ^ (b :: bytes).length := by
        rw [← Int.add_emod_right]
        exact Int.emod_eq_of_lt (by linarith) (by linarith)
      rw [hmod] at hmagnitude
      rw [if_neg (fun hlt => by
        have := hhalf.mp hlt
        zify at this
        linarith), hmagnitude]
      push_cast
      ring

/-! ## The forms of an integer -/

/-- As many low bytes as were wanted. -/
@[simp]
lemma length_lowBytes (length m : Nat) : (lowBytes length m).length = length := by
  induction length with
  | zero => rfl
  | succ length ih => rw [lowBytes, List.length_cons, ih]

/-- The bytes of an unsigned integer are its digits. -/
lemma lowBytes_digit {length m i j : Nat} {b : UInt8} (hb : (lowBytes length m)[i]? = some b)
    (hj : i + j + 1 = length) : b.toNat = m / 256 ^ j % 256 := by
  induction length generalizing i with
  | zero => omega
  | succ length ih =>
    cases i with
    | zero =>
      obtain rfl : j = length := by omega
      rw [lowBytes, List.getElem?_cons_zero, Option.some.injEq] at hb
      rw [← hb, UInt8.toNat_ofNat']
      exact Nat.mod_mod _ _
    | succ i =>
      rw [lowBytes, List.getElem?_cons_succ] at hb
      exact ih hb (by omega)

/-- An integer fits the bytes of its width with its sign. -/
lemma fits_width (n : Int) : -(256 ^ width n) ≤ 2 * n ∧ 2 * n < 256 ^ width n := by
  have hfits (m : Nat) : 2 * m + 2 ≤ 256 ^ (if m = 0 then 1 else (m.log2 + 1) / 8 + 1) := by
    split_ifs with hm
    · omega
    · have hlog := m.lt_log2_self
      have hpow : 2 ^ (m.log2 + 1 + 1) ≤ 2 ^ (8 * ((m.log2 + 1) / 8 + 1)) :=
        Nat.pow_le_pow_right (by decide) (by omega)
      rw [pow_mul, show 2 ^ 8 = 256 from rfl, pow_succ] at hpow
      omega
  have h := hfits (if n < 0 then (-n - 1).toNat else n.toNat)
  rw [width]
  zify at h
  split_ifs at h ⊢ <;> constructor <;> omega

/-- The shortest form of an integer denotes it. -/
theorem denote_ofInt (n : Int) : Denote (ofInt n) n where
  fits := by
    rw [ofInt, length_lowBytes]
    exact fits_width n
  digit i j b hb hj := by
    rw [ofInt, length_lowBytes] at hj
    have hdigit := lowBytes_digit hb hj
    have hpow : (256 : Int) ^ width n = 256 ^ j * 256 ^ (i + 1) := by
      rw [← pow_add, ← hj]
      congr 1
      omega
    have hpos : (0 : Int) ≤ n % 256 ^ width n := Int.emod_nonneg _ (by positivity)
    have hsmall : n % 256 ^ j / 256 ^ j = 0 :=
      Int.ediv_eq_zero_of_lt (Int.emod_nonneg _ (by positivity))
        (Int.emod_lt_of_pos _ (by positivity))
    zify at hdigit
    rw [hdigit, Int.toNat_of_nonneg hpos, hpow, emod_mul_eq _ _ _ (by positivity),
      Int.mul_add_ediv_left _ _ (by positivity), hsmall, add_zero]
    -- the digits before this one do not matter to it
    exact Int.emod_emod_of_dvd _ (Dvd.intro_left _ (pow_succ _ _).symm)

/-- Repeating the sign before the bytes of an integer leaves it the same. -/
lemma Denote.cons_signByte (h : Denote bytes n) : Denote (signByte n :: bytes) n := by
  obtain ⟨⟨hlow, hhigh⟩, hdigit⟩ := h
  have hpos : (0 : Int) < 256 ^ bytes.length := by positivity
  constructor
  · rw [List.length_cons, pow_succ]
    constructor <;> linarith
  · intro i j b hb hj
    cases i with
    | succ i =>
      rw [List.length_cons] at hj
      exact hdigit i j b (by simpa using hb) (by omega)
    | zero =>
      obtain rfl : j = bytes.length := by
        rw [List.length_cons] at hj
        omega
      obtain rfl : signByte n = b := by simpa using hb
      rw [signByte]
      split_ifs with hn
      · rw [Int.ediv_eq_neg_one_of_neg_of_le hn (by linarith)]
        rfl
      · rw [Int.ediv_eq_zero_of_lt (by omega) (by linarith)]
        rfl

/-- The shortest form of an integer after any number of repetitions of its sign denotes it. -/
theorem denote_extended (k : Nat) (n : Int) : Denote (List.replicate k (signByte n) ++ ofInt n) n := by
  induction k with
  | zero => exact denote_ofInt n
  | succ k ih => exact ih.cons_signByte

end TypedRows.SignedBytes
