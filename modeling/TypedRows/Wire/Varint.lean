import TypedRows.Number.Power

/-!
# Integers of varying length

An unsigned 64-bit integer is written in groups of seven bits, the lowest group first; every
byte but the last has its high bit set. Signed integers are folded onto unsigned ones, so that
those near zero stay short.

## Main definitions

* `TypedRows.Varint.encode`, `TypedRows.Varint.decode?`
* `TypedRows.Varint.zigzag`, `TypedRows.Varint.unzigzag`
* `TypedRows.Varint.ofInt32`, `TypedRows.Varint.toInt32`

## Main results

* `TypedRows.Varint.decode?_encode` — what is written is read back, whatever follows it.
* `TypedRows.Varint.unzigzag_zigzag` — folding keeps integers apart.
-/

set_option autoImplicit false

namespace TypedRows.Varint

/-- The groups of an integer, at most `more` of them before the last one. -/
def groups : (more : Nat) → Nat → List UInt8
  | 0, n => [UInt8.ofNat n]
  | more + 1, n =>
    if n < 128 then [UInt8.ofNat n] else UInt8.ofNat (n % 128 + 128) :: groups more (n / 128)

/-- The bytes of an integer below 2 ^ 64. -/
def encode (n : Nat) : List UInt8 := groups 9 n

/-- The integer in a run of at most `more + 1` bytes, and the bytes after it. -/
def readGroups : (more : Nat) → List UInt8 → Option (Nat × List UInt8)
  | _, [] => none
  | 0, b :: rest => if b.toNat ≤ 1 then some (b.toNat, rest) else none
  | more + 1, b :: rest =>
    if b.toNat < 128 then some (b.toNat, rest)
    else (readGroups more rest).map fun (n, rest) => (b.toNat - 128 + 128 * n, rest)

/-- The integer at the start of some bytes, and the bytes after it. It takes ten bytes at most,
and no more than 64 bits. -/
def decode? (bytes : List UInt8) : Option (Nat × List UInt8) := readGroups 9 bytes

/-- A number that fits into one group of seven bits and some more is read back from its groups, and
what follows them is left. -/
theorem readGroups_groups (more n : Nat) (rest : List UInt8) (h : n < 2 * 128 ^ more) :
    readGroups more (groups more n ++ rest) = some (n, rest) := by
  induction more generalizing n with
  | zero =>
    have h : n < 2 := by omega
    have h' : (UInt8.ofNat n).toNat = n := by rw [UInt8.toNat_ofNat']; omega
    simp [groups, readGroups, h', show n ≤ 1 by omega]
  | succ more ih =>
    by_cases hn : n < 128
    · have h' : (UInt8.ofNat n).toNat = n := by rw [UInt8.toNat_ofNat']; omega
      rw [groups, if_pos hn, List.cons_append, readGroups, h', if_pos hn, List.nil_append]
    · have h' : (UInt8.ofNat (n % 128 + 128)).toNat = n % 128 + 128 := by
        rw [UInt8.toNat_ofNat']; omega
      rw [groups, if_neg hn, List.cons_append, readGroups, h', if_neg (by omega),
        ih (n / 128) (by rw [Nat.pow_succ] at h; omega)]
      simp only [Option.map_some, Option.some.injEq, Prod.mk.injEq, and_true]
      omega

/-- What is written is read back, whatever follows it. -/
theorem decode?_encode {n : Nat} (h : n < 2 ^ (64 : Nat)) (rest : List UInt8) :
    decode? (encode n ++ rest) = some (n, rest) :=
  readGroups_groups 9 n rest (by simpa using h)

/-! ## Signed integers -/

/-- The unsigned integer that a signed one is folded onto: 0, -1, 1, -2, … become 0, 1, 2, 3,
and so on. -/
def zigzag (n : Int64) : Nat :=
  if n.toInt < 0 then (-2 * n.toInt - 1).toNat else (2 * n.toInt).toNat

/-- The signed integer that is folded onto an unsigned one. -/
def unzigzag (n : Nat) : Int64 :=
  Int64.ofInt (if n % 2 = 0 then (n / 2 : Nat) else -(n / 2 : Nat) - 1)

/-- A number is read back from its zigzag form. -/
theorem unzigzag_zigzag (n : Int64) : unzigzag (zigzag n) = n := by
  refine Eq.trans (congrArg Int64.ofInt ?_) (Int64.ofInt_toInt n)
  unfold zigzag
  split <;> split <;> omega

/-- A zigzag form has 64 bits. -/
theorem zigzag_lt (n : Int64) : zigzag n < 2 ^ (64 : Nat) := by
  have h₁ := n.le_toInt
  have h₂ := n.toInt_lt
  unfold zigzag
  split <;> omega

/-- The 64 bits of a signed 32-bit integer. -/
def ofInt32 (n : Int32) : Nat := (n.toInt % 2 ^ (64 : Nat)).toNat

/-- The signed integer in the low 32 bits. -/
def toInt32 (n : Nat) : Int32 := Int32.ofNat n

/-- A number of 32 bits is read back. -/
theorem toInt32_ofInt32 (n : Int32) : toInt32 (ofInt32 n) = n := by
  unfold toInt32 ofInt32
  have h₁ := n.le_toInt
  have h₂ := n.toInt_lt
  rw [← Int32.ofInt_eq_ofNat, ← Int32.toInt_inj, Int32.toInt_ofInt]
  rw [Int.bmod_def]
  split <;> simp only [Int32.size] at * <;> omega

/-- A number of 32 bits is written in 64 bits. -/
theorem ofInt32_lt (n : Int32) : ofInt32 n < 2 ^ (64 : Nat) := by
  unfold ofInt32; omega

end TypedRows.Varint
