/-!
# Hexadecimal text

## Main definitions

* `TypedRows.Hex.encode`, `TypedRows.Hex.decode?` — bytes as pairs of hexadecimal digits.
-/

set_option autoImplicit false

namespace TypedRows.Hex

/-- The value of a hexadecimal digit, in either case. -/
def value? (c : Char) : Option Nat :=
  if '0' ≤ c ∧ c ≤ '9' then some (c.toNat - 48)
  else if 'a' ≤ c ∧ c ≤ 'f' then some (c.toNat - 87)
  else if 'A' ≤ c ∧ c ≤ 'F' then some (c.toNat - 55)
  else none

/-- The digits of some bytes, in lower case. -/
def encode : List UInt8 → List Char
  | [] => []
  | b :: rest => Nat.digitChar (b.toNat / 16) :: Nat.digitChar (b.toNat % 16) :: encode rest

/-- The bytes of some digits; digits come in pairs. -/
def decode? : List Char → Option (List UInt8)
  | [] => some []
  | [_] => none
  | high :: low :: rest => do
    let high ← value? high
    let low ← value? low
    return UInt8.ofNat (high * 16 + low) :: (← decode? rest)

/-- The value of a digit is read back. -/
theorem value?_digitChar {n : Nat} (h : n < 16) : value? (Nat.digitChar n) = some n := by
  have : ∀ m : Fin 16, value? (Nat.digitChar m) = some m.1 := by decide
  exact this ⟨n, h⟩

/-- What is written is read back. -/
theorem decode?_encode (bytes : List UInt8) : decode? (encode bytes) = some bytes := by
  induction bytes with
  | nil => rfl
  | cons b rest ih =>
    have hb := b.toNat_lt
    have h : b.toNat / 16 * 16 + b.toNat % 16 = b.toNat := by omega
    rw [encode, decode?, value?_digitChar (by omega), value?_digitChar (by omega), ih]
    simp only [bind, Option.bind, pure, h, UInt8.ofNat_toNat]

/-- The text of some bytes. -/
def text (bytes : List UInt8) : String := String.ofList (encode bytes)

end TypedRows.Hex
