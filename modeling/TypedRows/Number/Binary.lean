import TypedRows.Number.Power

/-!
# Binary floating-point numbers

A binary floating-point number is a string of bits: a sign, a biased exponent and a fraction,
whose widths are its layout. This module reads the bits as a number and rounds exact quotients
to the nearest number of a layout, a tie going to the even fraction. All arithmetic on floats
in the library is exact arithmetic on integers, rounded once.

## Main definitions

* `TypedRows.FloatLayout` — the widths of fraction and exponent, with the layouts
  `FloatLayout.single` and `FloatLayout.double`.
* `TypedRows.FloatValue` — what the bits denote.
* `TypedRows.FloatLayout.decode`, `TypedRows.FloatLayout.nearest` — from bits to numbers, and
  from quotients to bits.
* `TypedRows.Binary32`, `TypedRows.Binary64` — the floats of 32 and of 64 bits.
-/

set_option autoImplicit false

namespace TypedRows

/-! ## Layouts -/

/-- The widths of the fraction and of the exponent; the sign stands above them. -/
structure FloatLayout where
  fractionBits : Nat
  exponentBits : Nat
  deriving DecidableEq, Repr

/-- The number that a string of bits denotes. A finite one is `significand * 2 ^ exponent`, with
its sign kept when it is zero. -/
inductive FloatValue where
  | nan
  | infinite (negative : Bool)
  | finite (negative : Bool) (significand : Nat) (exponent : Int)
  deriving DecidableEq, Repr

namespace FloatLayout

/-- The layout of 32 bits. -/
def single : FloatLayout := ⟨23, 8⟩

/-- The layout of 64 bits. -/
def double : FloatLayout := ⟨52, 11⟩

/-- The exponent of the last bit of the smallest numbers. -/
def leastExponent (l : FloatLayout) : Int :=
  2 - 2 ^ (l.exponentBits - 1) - l.fractionBits

/-- The bits of the positive infinity. -/
def infinityBits (l : FloatLayout) : Nat :=
  (2 ^ l.exponentBits - 1) * 2 ^ l.fractionBits

/-- The bit of the sign. -/
def signBit (l : FloatLayout) : Nat :=
  2 ^ (l.exponentBits + l.fractionBits)

/-- The bit that tells a quiet NaN. -/
def quietBit (l : FloatLayout) : Nat :=
  2 ^ (l.fractionBits - 1)

/-- The number that bits denote. -/
def decode (l : FloatLayout) (bits : Nat) : FloatValue :=
  let negative := l.signBit ≤ bits
  let magnitude := bits % l.signBit
  let fraction := magnitude % 2 ^ l.fractionBits
  let biased := magnitude / 2 ^ l.fractionBits
  if magnitude = l.infinityBits then .infinite negative
  else if l.infinityBits < magnitude then .nan
  else if biased = 0 then .finite negative fraction l.leastExponent
  else .finite negative (2 ^ l.fractionBits + fraction) (l.leastExponent + (biased - 1))

/-! ## Rounding -/

/-- The integer nearest to a quotient; of two equally near the even one. -/
def nearestInteger (num den : Nat) : Nat :=
  let q := num / den
  let rest := num % den
  if 2 * rest < den then q
  else if den < 2 * rest then q + 1
  else q + q % 2

/-- The integer part of the binary logarithm of a positive quotient. -/
def log2Ratio (num den : Nat) : Int :=
  let e : Int := (num.log2 : Int) - den.log2
  if num * 2 ^ (-e).toNat < den * 2 ^ e.toNat then e - 1 else e

/-- The magnitude bits of the number nearest to a quotient. The exponent is chosen so that the
significand fills the fraction, but not below the least exponent; a carry out of the fraction
then counts up the exponent by itself. What lies beyond the largest number is infinite. -/
def nearest (l : FloatLayout) (num den : Nat) : Nat :=
  if num = 0 then 0
  else
    let exponent := max (log2Ratio num den - l.fractionBits) l.leastExponent
    let significand :=
      nearestInteger (num * 2 ^ (-exponent).toNat) (den * 2 ^ exponent.toNat)
    min ((exponent - l.leastExponent).toNat * 2 ^ l.fractionBits + significand) l.infinityBits

/-- The bits of a sign and a magnitude. -/
def withSign (l : FloatLayout) (negative : Bool) (magnitude : Nat) : Nat :=
  if negative then l.signBit + magnitude else magnitude

/-- The bits of the quiet NaN without a payload. -/
def nanBits (l : FloatLayout) : Nat :=
  l.infinityBits + l.quietBit

/-- The bits nearest to what a value denotes; a NaN loses its payload. -/
def ofValue (l : FloatLayout) : FloatValue → Nat
  | .nan => l.nanBits
  | .infinite negative => l.withSign negative l.infinityBits
  | .finite negative m q =>
    l.withSign negative (l.nearest (m * 2 ^ q.toNat) (2 ^ (-q).toNat))

end FloatLayout

namespace FloatValue

/-- The finite values. -/
def isFinite : FloatValue → Bool
  | finite .. => true
  | _ => false

/-- The zeros of either sign. -/
def isZero : FloatValue → Bool
  | finite _ m _ => m == 0
  | _ => false

/-- The integer part of a value clamped to 64 bits, cut off towards zero; a NaN counts as
zero. -/
def toInt64 (v : FloatValue) : Int64 :=
  match v with
  | nan => 0
  | infinite negative => if negative then Int64.minValue else Int64.maxValue
  | finite negative m q =>
    let n : Int := (m * 2 ^ q.toNat / 2 ^ (-q).toNat : Nat)
    Int64.ofInt (max (-9223372036854775808) (min 9223372036854775807 (if negative then -n else n)))

end FloatValue

/-! ## Floats of 32 and of 64 bits -/

/-- A float of 32 bits. -/
structure Binary32 where
  bits : UInt32
  deriving DecidableEq, Repr, Inhabited

/-- A float of 64 bits. -/
structure Binary64 where
  bits : UInt64
  deriving DecidableEq, Repr, Inhabited

/-- The number that a float of 32 bits denotes. -/
def Binary32.value (x : Binary32) : FloatValue :=
  FloatLayout.single.decode x.bits.toNat

/-- The number that a float of 64 bits denotes. -/
def Binary64.value (x : Binary64) : FloatValue :=
  FloatLayout.double.decode x.bits.toNat

/-- The payload of a NaN between two layouts: its high bits are kept, and it becomes quiet. -/
def FloatLayout.carryNaN (source target : FloatLayout) (bits : Nat) : Nat :=
  let fraction := bits % 2 ^ source.fractionBits
  let carried := fraction * 2 ^ target.fractionBits / 2 ^ source.fractionBits
  let quiet := if carried < target.quietBit then carried + target.quietBit else carried
  target.withSign (source.signBit ≤ bits) (target.infinityBits + quiet)

namespace Binary64

/-- The float of 64 bits nearest to a value. -/
def ofValue (v : FloatValue) : Binary64 := ⟨UInt64.ofNat (FloatLayout.double.ofValue v)⟩

/-- The float of 64 bits nearest to an integer. -/
def ofInt (n : Int) : Binary64 := ofValue (.finite (n < 0) n.natAbs 0)

/-- The float of 64 bits nearest to a quotient. -/
def ofRatio (negative : Bool) (num den : Nat) : Binary64 :=
  ⟨UInt64.ofNat (FloatLayout.double.withSign negative (FloatLayout.double.nearest num den))⟩

/-- The float with the other sign. -/
def neg (x : Binary64) : Binary64 := ⟨x.bits ^^^ 0x8000000000000000⟩

/-- A float of 32 bits as one of 64 bits; no number changes. -/
def ofBinary32 (x : Binary32) : Binary64 :=
  match x.value with
  | .nan => ⟨UInt64.ofNat (FloatLayout.carryNaN .single .double x.bits.toNat)⟩
  | v => ofValue v

/-- The equality of numbers: zeros are equal whatever their sign, and a NaN equals nothing. -/
def sameNumber (x y : Binary64) : Bool :=
  x.value != .nan && (x == y || (x.value.isZero && y.value.isZero))

/-- The product of two floats, rounded once. -/
def mul (x y : Binary64) : Binary64 :=
  match x.value, y.value with
  | .finite a m p, .finite b n q => ofValue (.finite (a != b) (m * n) (p + q))
  | .nan, _ | _, .nan => ofValue .nan
  | v, w => if v.isZero || w.isZero then ofValue .nan
    else ofValue (.infinite ((FloatLayout.double.signBit ≤ x.bits.toNat : Bool)
      != (FloatLayout.double.signBit ≤ y.bits.toNat : Bool)))

/-- A product times a power, by squaring the base for each binary digit of the exponent. Every
product on the way is rounded. -/
def timesPower (product base : Binary64) (exponent : Nat) : Binary64 :=
  if exponent = 0 then product
  else
    timesPower (if exponent % 2 = 1 then product.mul base else product) (base.mul base)
      (exponent / 2)
termination_by exponent

/-- A power of a float by repeated squaring. It is not always the float nearest to the power:
from `10 ^ 34` on the products before it may have been rounded already. -/
def power (x : Binary64) (exponent : Nat) : Binary64 :=
  timesPower (ofInt 1) x exponent

/-- The quotient of two finite floats, the second of them not zero, rounded once. -/
def divFinite (x y : Binary64) : Binary64 :=
  match x.value, y.value with
  | .finite a m p, .finite b n q =>
    ofRatio (a != b) (m * 2 ^ (p - q).toNat) (n * 2 ^ (q - p).toNat)
  | _, _ => ofValue .nan

end Binary64

namespace Binary32

/-- The float of 32 bits nearest to one of 64 bits. -/
def ofBinary64 (x : Binary64) : Binary32 :=
  match x.value with
  | .nan => ⟨UInt32.ofNat (FloatLayout.carryNaN .double .single x.bits.toNat)⟩
  | v => ⟨UInt32.ofNat (FloatLayout.single.ofValue v)⟩

/-- The equality of numbers: zeros are equal whatever their sign, and a NaN equals nothing. -/
def sameNumber (x y : Binary32) : Bool :=
  x.value != .nan && (x == y || (x.value.isZero && y.value.isZero))

end Binary32

/-- An equality of floats of either width. -/
structure FloatEquality where
  single : Binary32 → Binary32 → Bool
  double : Binary64 → Binary64 → Bool

/-- The equality of numbers. -/
def FloatEquality.ofNumbers : FloatEquality := ⟨Binary32.sameNumber, Binary64.sameNumber⟩

example : (Binary64.ofInt 1).bits = 0x3ff0000000000000 := by decide +kernel
example : (Binary64.ofRatio false 1 10).bits = 0x3fb999999999999a := by decide +kernel
example : (Binary32.ofBinary64 ⟨0x3fb999999999999a⟩).bits = 0x3dcccccd := by decide +kernel

end TypedRows
