import TypedRows.Json.Value

/-!
# Reading the numbers of JSON

An integer that fits 64 bits is read exactly. Every other number is read as a float in two
steps, each with its own rounding: the first digits, as many as fit an unsigned 64-bit integer,
are taken as one integer, and that integer is multiplied or divided by a power of ten. The
result may therefore differ from the float nearest to the number.

## Main definitions

* `TypedRows.Numeral.ofParts?` — the number of a sign, integer digits, fraction digits and an
  exponent.
* `TypedRows.Numeral.scaled?` — an integer times a power of ten, in float arithmetic.
-/

set_option autoImplicit false

namespace TypedRows.Numeral

/-- The greatest unsigned 64-bit integer. -/
def greatest : Nat := 18446744073709551615

/-- A significand followed by as many digits as it takes without leaving 64 bits, and how many
those are. -/
def appendDigits : (significand kept : Nat) → List Char → Nat × Nat
  | significand, kept, [] => (significand, kept)
  | significand, kept, c :: cs =>
    let next := 10 * significand + (c.toNat - '0'.toNat)
    if next ≤ greatest then appendDigits next (kept + 1) cs else (significand, kept)

/-- The greatest power of ten that a float is divided by at once. -/
def greatestPower : Nat := 308

/-- A float divided by a power of ten; beyond the greatest power in several steps, until it is
zero or the rest of the power is within bounds. -/
def dividedByPower (f : Binary64) (power : Nat) : Binary64 :=
  if h : greatestPower < power then
    if f.value.isZero then f
    else dividedByPower (f.divFinite (.ofInt (10 ^ greatestPower))) (power - greatestPower)
  else f.divFinite (.ofInt (10 ^ power))
  termination_by power
  decreasing_by
    have : 0 < greatestPower := by decide
    omega

/-- An integer times a power of ten in float arithmetic; none when the result is not finite. -/
def scaled? (significand : Nat) (exponent : Int) : Option Binary64 :=
  let f := Binary64.ofInt significand
  if exponent < 0 then some (dividedByPower f (-exponent).toNat)
  else if greatestPower < exponent.toNat then
    if f.value.isZero then some f else none
  else
    let product := f.mul (.ofInt (10 ^ exponent.toNat))
    if product.value.isFinite then some product else none

/-- The float of a number's digits and exponent. -/
def floatOfParts? (negative : Bool) (integer fraction : List Char) (exponent : Int) :
    Option Numeral :=
  let (head, keptInteger) := appendDigits 0 0 integer
  let (significand, keptFraction) := appendDigits head 0 fraction
  let exponent := exponent + (integer.length - keptInteger : Nat) - keptFraction
  (scaled? significand exponent).map fun f => float (if negative then f.neg else f)

/-- The number of a sign, the digits before and after the point and the written exponent. An
integer is a number without point and exponent; minus zero is none. -/
def ofParts? (negative : Bool) (integer : List Char) (fraction : Option (List Char))
    (exponent : Option Int) : Option Numeral :=
  let n := Nat.ofDigitChars 10 integer 0
  let isInteger := fraction.isNone && exponent.isNone
  if isInteger && !negative && n ≤ greatest then some (.integer n)
  else if isInteger && negative && n ≠ 0 && n ≤ 9223372036854775808 then some (.integer (-n))
  else floatOfParts? negative integer (fraction.getD []) (exponent.getD 0)

end TypedRows.Numeral
