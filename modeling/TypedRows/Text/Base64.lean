/-!
# Base64

Three bytes are written as four characters of the standard alphabet; a last group of one or two
bytes is filled up with `=`. Only the texts that are written are read: the padding is there and
the bits that it leaves unused are zero.

## Main definitions

* `TypedRows.Base64.encode`, `TypedRows.Base64.decode?`

## Main results

* `TypedRows.Base64.decode?_encode`, `TypedRows.Base64.read?_text` — what is written is read
  back.
* `TypedRows.Base64.encode_of_decode?`, `TypedRows.Base64.text_of_read?` — nothing else is read.
-/

set_option autoImplicit false

namespace TypedRows.Base64

/-- The character of a number below 64. -/
def digit (n : Nat) : Char :=
  if n < 26 then Char.ofNat (n + 65)
  else if n < 52 then Char.ofNat (n + 71)
  else if n < 62 then Char.ofNat (n - 4)
  else if n = 62 then '+'
  else '/'

/-- The number of a character of the alphabet. -/
def value? (c : Char) : Option Nat :=
  if 'A' ≤ c ∧ c ≤ 'Z' then some (c.toNat - 65)
  else if 'a' ≤ c ∧ c ≤ 'z' then some (c.toNat - 71)
  else if '0' ≤ c ∧ c ≤ '9' then some (c.toNat + 4)
  else if c = '+' then some 62
  else if c = '/' then some 63
  else none

/-- The characters of some bytes. -/
def encode : List UInt8 → List Char
  | [] => []
  | [a] => [digit (a.toNat / 4), digit (a.toNat % 4 * 16), '=', '=']
  | [a, b] =>
    [digit (a.toNat / 4), digit (a.toNat % 4 * 16 + b.toNat / 16), digit (b.toNat % 16 * 4), '=']
  | a :: b :: c :: rest =>
    digit (a.toNat / 4) :: digit (a.toNat % 4 * 16 + b.toNat / 16)
      :: digit (b.toNat % 16 * 4 + c.toNat / 64) :: digit (c.toNat % 64) :: encode rest

/-- The bytes of a text, if some bytes are written so. -/
def decode? : List Char → Option (List UInt8)
  | [] => some []
  | [a, b, '=', '='] => do
    let a ← value? a
    let b ← value? b
    if b % 16 = 0 then some [UInt8.ofNat (a * 4 + b / 16)] else none
  | [a, b, c, '='] => do
    let a ← value? a
    let b ← value? b
    let c ← value? c
    if c % 4 = 0 then some [UInt8.ofNat (a * 4 + b / 16), UInt8.ofNat (b % 16 * 16 + c / 4)]
    else none
  | a :: b :: c :: d :: rest => do
    let a ← value? a
    let b ← value? b
    let c ← value? c
    let d ← value? d
    let bytes ← decode? rest
    return UInt8.ofNat (a * 4 + b / 16) :: UInt8.ofNat (b % 16 * 16 + c / 4)
      :: UInt8.ofNat (c % 4 * 64 + d) :: bytes
  | _ => none

/-- The value of a digit is read back. -/
theorem value?_digit {n : Nat} (h : n < 64) : value? (digit n) = some n := by
  have : ∀ m : Fin 64, value? (digit m) = some m.1 := by decide
  exact this ⟨n, h⟩

/-- No digit is the sign that fills up. -/
theorem digit_ne_pad {n : Nat} (h : n < 64) : digit n ≠ '=' := by
  have : ∀ m : Fin 64, digit m ≠ '=' := by decide
  exact this ⟨n, h⟩

/-- What is written is read back. -/
theorem decode?_encode (bytes : List UInt8) : decode? (encode bytes) = some bytes := by
  fun_induction encode bytes with
  | case1 => rfl
  | case2 a =>
    have ha := a.toNat_lt
    rw [decode?, value?_digit (by omega), value?_digit (by omega)]
    have h : a.toNat / 4 * 4 + a.toNat % 4 * 16 / 16 = a.toNat := by omega
    simp only [bind, Option.bind, h, Nat.mul_mod_left, if_true, UInt8.ofNat_toNat]
  | case3 a b =>
    have ha := a.toNat_lt
    have hb := b.toNat_lt
    rw [decode?, value?_digit (by omega), value?_digit (by omega), value?_digit (by omega)]
    · have h₁ : a.toNat / 4 * 4 + (a.toNat % 4 * 16 + b.toNat / 16) / 16 = a.toNat := by omega
      have h₂ : (a.toNat % 4 * 16 + b.toNat / 16) % 16 * 16 + b.toNat % 16 * 4 / 4 = b.toNat := by
        omega
      have h₃ : b.toNat % 16 * 4 % 4 = 0 := by omega
      simp only [bind, Option.bind, h₁, h₂, h₃, if_true, UInt8.ofNat_toNat]
    · exact digit_ne_pad (by omega)
  | case4 a b c rest ih =>
    have ha := a.toNat_lt
    have hb := b.toNat_lt
    have hc := c.toNat_lt
    rw [decode?, value?_digit (by omega), value?_digit (by omega), value?_digit (by omega),
      value?_digit (by omega), ih]
    · have h₁ : a.toNat / 4 * 4 + (a.toNat % 4 * 16 + b.toNat / 16) / 16 = a.toNat := by omega
      have h₂ : (a.toNat % 4 * 16 + b.toNat / 16) % 16 * 16
          + (b.toNat % 16 * 4 + c.toNat / 64) / 4 = b.toNat := by omega
      have h₃ : (b.toNat % 16 * 4 + c.toNat / 64) % 4 * 64 + c.toNat % 64 = c.toNat := by omega
      simp only [bind, Option.bind, h₁, h₂, h₃, UInt8.ofNat_toNat, pure]
    · exact fun _ h => absurd h (digit_ne_pad (by omega))
    · exact fun h => absurd h (digit_ne_pad (by omega))

/-- The alphabet has one character for each number. -/
theorem digit_of_value? {c : Char} {n : Nat} (h : value? c = some n) : digit n = c ∧ n < 64 := by
  have hrange (a b : Char) (hc : a ≤ c ∧ c ≤ b) : a.toNat ≤ c.toNat ∧ c.toNat ≤ b.toNat := hc
  have hofNat (m : Nat) (hm : m = c.toNat) : Char.ofNat m = c := by rw [hm, Char.ofNat_toNat]
  have hA := hrange 'A' 'Z'
  have ha := hrange 'a' 'z'
  have h0 := hrange '0' '9'
  simp only [Char.reduceToNat] at hA ha h0
  rw [value?] at h
  split at h
  case isTrue h₁ =>
    have := hA h₁
    obtain rfl := Option.some.inj h
    refine ⟨?_, by omega⟩
    rw [digit, if_pos (by omega)]
    exact hofNat _ (by omega)
  split at h
  case isTrue h₂ =>
    have := ha h₂
    obtain rfl := Option.some.inj h
    refine ⟨?_, by omega⟩
    rw [digit, if_neg (by omega), if_pos (by omega)]
    exact hofNat _ (by omega)
  split at h
  case isTrue h₃ =>
    have := h0 h₃
    obtain rfl := Option.some.inj h
    refine ⟨?_, by omega⟩
    rw [digit, if_neg (by omega), if_neg (by omega), if_pos (by omega)]
    exact hofNat _ (by omega)
  split at h
  case isTrue h₄ =>
    obtain rfl := Option.some.inj h
    exact ⟨h₄ ▸ rfl, by decide⟩
  split at h
  case isTrue h₅ =>
    obtain rfl := Option.some.inj h
    exact ⟨h₅ ▸ rfl, by decide⟩
  cases h

/-- **Only what is written is read**: characters that stand for some bytes are the characters that
these bytes are written as. The bits that the last character has to spare are zero. -/
theorem encode_of_decode? {cs : List Char} {bytes : List UInt8} (h : decode? cs = some bytes) :
    encode bytes = cs := by
  have hbyte (n : Nat) (hn : n < 256) : (UInt8.ofNat n).toNat = n := by
    rw [UInt8.toNat_ofNat', Nat.mod_eq_of_lt hn]
  fun_induction decode? cs generalizing bytes with
  | case1 =>
    obtain rfl := Option.some.inj h
    rfl
  | case2 a b =>
    simp only [bind, Option.bind_eq_some_iff, Option.ite_none_right_eq_some] at h
    obtain ⟨m, hm, n, hn, hzero, h⟩ := h
    obtain ⟨rfl, hm⟩ := digit_of_value? hm
    obtain ⟨rfl, hn⟩ := digit_of_value? hn
    obtain rfl := Option.some.inj h
    rw [encode, hbyte _ (by omega), show (m * 4 + n / 16) / 4 = m by omega,
      show (m * 4 + n / 16) % 4 * 16 = n by omega]
  | case3 a b c _ =>
    simp only [bind, Option.bind_eq_some_iff, Option.ite_none_right_eq_some] at h
    obtain ⟨m, hm, n, hn, k, hk, hzero, h⟩ := h
    obtain ⟨rfl, hm⟩ := digit_of_value? hm
    obtain ⟨rfl, hn⟩ := digit_of_value? hn
    obtain ⟨rfl, hk⟩ := digit_of_value? hk
    obtain rfl := Option.some.inj h
    rw [encode, hbyte _ (by omega), hbyte _ (by omega), show (m * 4 + n / 16) / 4 = m by omega,
      show (m * 4 + n / 16) % 4 * 16 + (n % 16 * 16 + k / 4) / 16 = n by omega,
      show (n % 16 * 16 + k / 4) % 16 * 4 = k by omega]
  | case4 a b c d rest _ _ ih =>
    simp only [bind, Option.bind_eq_some_iff] at h
    obtain ⟨m, hm, n, hn, k, hk, l, hl, tail, htail, h⟩ := h
    obtain ⟨rfl, hm⟩ := digit_of_value? hm
    obtain ⟨rfl, hn⟩ := digit_of_value? hn
    obtain ⟨rfl, hk⟩ := digit_of_value? hk
    obtain ⟨rfl, hl⟩ := digit_of_value? hl
    obtain rfl := Option.some.inj h
    rw [encode, ih htail, hbyte _ (by omega), hbyte _ (by omega), hbyte _ (by omega),
      show (m * 4 + n / 16) / 4 = m by omega,
      show (m * 4 + n / 16) % 4 * 16 + (n % 16 * 16 + k / 4) / 16 = n by omega,
      show (n % 16 * 16 + k / 4) % 16 * 4 + (k % 4 * 64 + l) / 64 = k by omega,
      show (k % 4 * 64 + l) % 64 = l by omega]
  | case5 => simp at h

/-- The text of some bytes. -/
def text (bytes : List UInt8) : String := String.ofList (encode bytes)

/-- The bytes of a text. -/
def read? (text : String) : Option (List UInt8) := decode? text.toList

/-- Bytes are read back from their text. -/
@[simp] theorem read?_text (bytes : List UInt8) : read? (text bytes) = some bytes := by
  simp [read?, text, decode?_encode]

/-- A text that is read is the one that is written. -/
theorem text_of_read? {text : String} {bytes : List UInt8} (h : read? text = some bytes) :
    Base64.text bytes = text := by
  rw [Base64.text, encode_of_decode? h, String.ofList_toList]

end TypedRows.Base64
