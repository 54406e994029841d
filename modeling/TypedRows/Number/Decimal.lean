import TypedRows.Text.Fields

/-!
# Decimals

A decimal is an integer and a scale of 64 bits, the number of its digits after the point. The
scale may be negative, and one number has many decimals: trailing zeros are kept as they were
given. The comparison of decimals is that of the numbers.

## Main definitions

* `TypedRows.Decimal` — an unscaled integer and a scale.
* `TypedRows.Decimal.sameNumber` — two decimals denote one number.
* `TypedRows.Decimal.truncated` — the integer part of a decimal.
* `TypedRows.Decimal.read?`, `TypedRows.Decimal.text` — the reading and the plain writing of
  decimals.
-/

set_option autoImplicit false

namespace TypedRows

/-- The number `unscaled * 10 ^ (-scale)`. -/
structure Decimal where
  unscaled : Int
  scale : Int64
  deriving DecidableEq, Repr

namespace Decimal

/-- An integer as a decimal without digits after the point. -/
def ofInt (n : Int) : Decimal := ⟨n, 0⟩

/-- The unscaled integer of the same number at another scale, exact when that scale is not
smaller. -/
def unscaledAt (d : Decimal) (scale : Int) : Int :=
  d.unscaled * 10 ^ (scale - d.scale.toInt).toNat

/-- Two decimals denote one number when their unscaled integers agree at a common scale. Scales
are not compared that lie further apart than the unscaled integers have binary digits: so many
zeros end no integer of that size. -/
def sameNumber (a b : Decimal) : Bool :=
  if a.unscaled = 0 ∨ b.unscaled = 0 then a.unscaled == b.unscaled
  else if a.unscaled.natAbs.log2 + b.unscaled.natAbs.log2
      < (a.scale.toInt - b.scale.toInt).natAbs then false
  else
    let scale := max a.scale.toInt b.scale.toInt
    a.unscaledAt scale == b.unscaledAt scale

/-- The scale alone shows that the number lies between minus one and one: there are more digits
after the point than the unscaled integer has binary digits. -/
def isBelowOne (d : Decimal) : Bool := d.unscaled.natAbs.log2 < d.scale.toInt

/-- The integer part, cut off towards zero. -/
def truncated (d : Decimal) : Int :=
  if d.unscaled = 0 ∨ d.isBelowOne then 0
  else if d.scale.toInt ≤ 0 then d.unscaled * 10 ^ (-d.scale.toInt).toNat
  else d.unscaled.tdiv (10 ^ d.scale.toInt.toNat)

/-- A decimal is whole when nothing is cut off by truncation. -/
def isWhole (d : Decimal) : Bool :=
  if d.scale.toInt ≤ 0 then true
  else if d.isBelowOne then d.unscaled == 0
  else d.unscaled % 10 ^ d.scale.toInt.toNat == 0

/-- The product with an integer. -/
def timesInt (d : Decimal) (n : Int) : Decimal := ⟨d.unscaled * n, d.scale⟩

/-- The integer part, if it is a signed integer of the given number of bits. With as many zeros
appended as there are bits, no integer but zero is. -/
def toSigned? (bits : Nat) (d : Decimal) : Option Int :=
  if d.unscaled ≠ 0 ∧ d.scale.toInt < -bits then none
  else
    let n := d.truncated
    if -(2 ^ (bits - 1)) ≤ n ∧ n < 2 ^ (bits - 1) then some n else none

/-- The integer part as a 64-bit integer, if it fits. -/
def toInt64? (d : Decimal) : Option Int64 :=
  (d.toSigned? 64).map Int64.ofInt

/-! ## Text -/

/-- The digits of the number without an exponent: zeros are appended for a negative scale, and
at least one digit stands before the point for a positive one. -/
def digitChars (magnitude : Nat) (scale : Int) : List Char :=
  if scale ≤ 0 then Nat.toDigits 10 magnitude ++ List.replicate (-scale).toNat '0'
  else
    let digits := Text.padded (scale.toNat + 1) magnitude
    digits.take (digits.length - scale.toNat) ++ '.' :: digits.drop (digits.length - scale.toNat)

/-- The text of a decimal, without an exponent. -/
def text (d : Decimal) : String :=
  String.ofList
    ((if d.unscaled < 0 then ['-'] else []) ++ digitChars d.unscaled.natAbs d.scale.toInt)

/-- An integer: at most one sign, and digits with underscores anywhere after the first of
them. -/
def readInteger? (cs : List Char) : Option Int :=
  let (negative, body) : Bool × List Char :=
    match cs with
    | '-' :: rest => (true, rest)
    | '+' :: rest => (false, rest)
    | _ => (false, cs)
  if body.head? == some '_' then none
  else
    match Text.natural? (body.filter (· != '_')) with
    | some n => some (if negative then -n else n)
    | none => none

/-- The exponent of a decimal: digits after at most one sign, within 128 bits. -/
def readExponent? (cs : List Char) : Option Int :=
  let (negative, body) : Bool × List Char :=
    match cs with
    | '-' :: rest => (true, rest)
    | '+' :: rest => (false, rest)
    | _ => (false, cs)
  match Text.natural? body with
  | some n =>
    let value : Int := if negative then -n else n
    if -(2 ^ (127 : Nat)) ≤ value ∧ value < 2 ^ (127 : Nat) then some value else none
  | none => none

/-- The decimal a text denotes: digits with at most one point among them, then an exponent
after an `e` of either case. The digits after the point give the scale, and the exponent is
taken off it; the scale has to fit 64 bits. -/
def read? (text : String) : Option Decimal := do
  let (base, exponent) := Text.cut (fun c => c == 'e' || c == 'E') text.toList
  let exponent ← match exponent with
    | none => some 0
    | some cs => readExponent? cs
  if base.isEmpty then none
  let (lead, trail) := Text.cut (· == '.') base
  let trail := trail.getD []
  let scale : Int := (trail.filter (· != '_')).length - exponent
  if scale < -(2 ^ (63 : Nat)) ∨ 2 ^ (63 : Nat) ≤ scale then none
  let unscaled ← readInteger? (lead ++ trail)
  return ⟨unscaled, .ofInt scale⟩

end Decimal

end TypedRows
