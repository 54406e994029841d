import TypedRows.Number.Power

/-!
# Integers as signed bytes

An integer of any size is written in two's complement, the most significant byte first. The
shortest such form is written; longer ones, which repeat the sign, are read as well.

## Main definitions

* `TypedRows.SignedBytes.ofInt` — the shortest form of an integer.
* `TypedRows.SignedBytes.toInt` — the integer of some bytes; zero for none.
-/

set_option autoImplicit false

namespace TypedRows.SignedBytes

/-- The unsigned integer of some bytes. -/
def magnitude (bytes : List UInt8) : Nat :=
  bytes.foldl (fun n b => n * 256 + b.toNat) 0

/-- The integer of some bytes: the first bit is the sign. -/
def toInt (bytes : List UInt8) : Int :=
  match bytes with
  | [] => 0
  | b :: _ =>
    if b.toNat < 128 then magnitude bytes else magnitude bytes - (256 ^ bytes.length : Nat)

/-- The last `length` bytes of an unsigned integer. -/
def lowBytes : (length : Nat) → Nat → List UInt8
  | 0, _ => []
  | length + 1, n => UInt8.ofNat (n / 256 ^ length % 256) :: lowBytes length n

/-- The least number of bytes in which an integer fits together with its sign. -/
def width (n : Int) : Nat :=
  let magnitude := if n < 0 then (-n - 1).toNat else n.toNat
  if magnitude = 0 then 1 else (magnitude.log2 + 1) / 8 + 1

/-- The shortest form of an integer. -/
def ofInt (n : Int) : List UInt8 :=
  lowBytes (width n) (n % (256 ^ width n : Nat)).toNat

end TypedRows.SignedBytes
