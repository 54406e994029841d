import TypedRows.Number.Binary
import TypedRows.Number.Decimal

/-!
# The shortest text of a float

A float is written with the fewest decimal digits that read back as the same float; among the
digit strings of that length the one nearest to the float is taken. Formats differ in where
they write an exponent, in how whole numbers end and in what happens to a tie.

## Main definitions

* `TypedRows.FloatLayout.shortest` — the digits and the exponent of the shortest decimal.
* `TypedRows.FloatStyle` — the decisions of a format, with the formats `FloatStyle.plain`,
  `FloatStyle.json` and `FloatStyle.inspect`.
* `TypedRows.FloatStyle.chars` — the text of a float in a format.
* `TypedRows.Decimal.ofBinary64?`, `TypedRows.Decimal.toBinary64` — between floats and decimals.
-/

set_option autoImplicit false

namespace TypedRows

/-! ## The shortest digits -/

/-- Where a decimal halfway between two candidates goes. -/
inductive TieRule where
  | even | up
  deriving DecidableEq, Repr

/-- The reals that read back as one float, in units of `2 ^ unit`: from `low` to `high` around
`centre`, the two ends included when `closed`. -/
structure ReadingInterval where
  low : Nat
  centre : Nat
  high : Nat
  unit : Int
  closed : Bool

namespace ReadingInterval

/-- The interval of a positive float. Numbers just below a power of two lie twice as close, so
that the interval of the power ends nearer below it. -/
def of (l : FloatLayout) (significand : Nat) (exponent : Int) : ReadingInterval :=
  let narrow := significand = 2 ^ l.fractionBits ∧ l.leastExponent < exponent
  { low := 4 * significand - if narrow then 1 else 2
    centre := 4 * significand
    high := 4 * significand + 2
    unit := exponent - 2
    closed := significand % 2 = 0 }

/-- The factors that take a number of units and a multiple of `10 ^ place` to a common
measure. -/
def factors (i : ReadingInterval) (place : Int) : Nat × Nat :=
  (2 ^ i.unit.toNat * 10 ^ (-place).toNat, 2 ^ (-i.unit).toNat * 10 ^ place.toNat)

/-- The multiple of `10 ^ place` lies in the interval. -/
def holds (i : ReadingInterval) (place : Int) (n : Nat) : Bool :=
  let (a, b) := i.factors place
  if i.closed then i.low * a ≤ n * b && n * b ≤ i.high * a
  else i.low * a < n * b && n * b < i.high * a

/-- The multiple of `10 ^ place` that lies in the interval and is nearest to its centre. Only
the two multiples next to the centre need to be tried. -/
def candidate? (i : ReadingInterval) (tie : TieRule) (place : Int) : Option Nat :=
  let (a, b) := i.factors place
  let below := i.centre * a / b
  let fromBelow := i.centre * a - below * b
  let toAbove := (below + 1) * b - i.centre * a
  match i.holds place below, i.holds place (below + 1) with
  | false, false => none
  | true, false => some below
  | false, true => some (below + 1)
  | true, true =>
    if fromBelow < toAbove then some below
    else if toAbove < fromBelow then some (below + 1)
    else
      match tie with
      | .up => some (below + 1)
      | .even => some (below + below % 2)

/-- The first candidate on grids of falling place. -/
def search (i : ReadingInterval) (tie : TieRule) : (steps : Nat) → (place : Int) → Nat × Int
  | 0, place => (i.centre * (i.factors place).1 / (i.factors place).2, place)
  | steps + 1, place =>
    match i.candidate? tie place with
    | some n => (n, place)
    | none => search i tie steps (place - 1)

end ReadingInterval

/-- A number and a place without trailing zeros in the number. -/
def dropZeros : (steps : Nat) → Nat → Int → Nat × Int
  | 0, n, place => (n, place)
  | steps + 1, n, place =>
    if n % 10 = 0 then dropZeros steps (n / 10) (place + 1) else (n, place)

/-- The shortest decimal `n * 10 ^ place` that reads back as a positive float. The search starts
above the first digit of the float; no layout of at most 64 bits needs more than 17 digits. -/
def FloatLayout.shortest (l : FloatLayout) (tie : TieRule) (significand : Nat) (exponent : Int) :
    Nat × Int :=
  let top := (significand.log2 + 1 + exponent) * 30103 / 100000 + 1
  let (n, place) := (ReadingInterval.of l significand exponent).search tie 20 top
  dropZeros 20 n place

/-! ## Formats -/

/-- The decisions of a format for floats. Numbers whose first digit has an exponent from
`positionalFrom` up to `positionalBelow`, where these are given, are written without an
exponent. -/
structure FloatStyle where
  tie : TieRule
  positionalFrom : Option Int
  positionalBelow : Option Int
  /-- Whether a whole number written without an exponent ends in `.0`. -/
  wholeEnding : Bool
  /-- Whether a positive exponent has a sign. -/
  plusSign : Bool

namespace FloatStyle

/-- Never an exponent, and no `.0`. -/
def plain : FloatStyle := ⟨.up, none, none, false, false⟩

/-- The floats of JSON text. -/
def json : FloatStyle := ⟨.even, some (-5), some 16, true, true⟩

/-- The floats of the text that shows how a value is built. -/
def inspect : FloatStyle := ⟨.up, some (-4), some 16, true, false⟩

/-- The digits of a positive decimal `n * 10 ^ place` without an exponent. -/
def positional (s : FloatStyle) (n : Nat) (place : Int) : List Char :=
  Decimal.digitChars n (-place) ++ if s.wholeEnding ∧ 0 ≤ place then ['.', '0'] else []

/-- The digits of a positive decimal with an exponent: one digit stands before the point. -/
def scientific (s : FloatStyle) (n : Nat) (place : Int) : List Char :=
  let digits := Nat.toDigits 10 n
  let exponent := place + (digits.length - 1)
  let sign := if exponent < 0 then ['-'] else if s.plusSign then ['+'] else []
  let mantissa := match digits with
    | d :: rest@(_ :: _) => d :: '.' :: rest
    | short => short
  mantissa ++ 'e' :: sign ++ Nat.toDigits 10 exponent.natAbs

/-- The text of a number. -/
def chars (s : FloatStyle) (l : FloatLayout) : FloatValue → List Char
  | .nan => ['N', 'a', 'N']
  | .infinite negative => (if negative then ['-'] else []) ++ ['i', 'n', 'f']
  | .finite negative m q =>
    let sign := if negative then ['-'] else []
    if m = 0 then sign ++ s.positional 0 0
    else
      let (n, place) := l.shortest s.tie m q
      let first := place + ((Nat.toDigits 10 n).length - 1)
      let isPositional := s.positionalFrom.all (· ≤ first) && s.positionalBelow.all (first < ·)
      sign ++ if isPositional then s.positional n place else s.scientific n place

end FloatStyle

/-- The plain text of a float of 64 bits. -/
def Binary64.text (x : Binary64) : String :=
  String.ofList (FloatStyle.plain.chars .double x.value)

/-- The plain text of a float of 32 bits. -/
def Binary32.text (x : Binary32) : String :=
  String.ofList (FloatStyle.plain.chars .single x.value)

/-! ## Floats and decimals -/

namespace Decimal

/-- The decimal that the plain text of a finite value shows. -/
def ofValue? (l : FloatLayout) : FloatValue → Option Decimal
  | .finite negative m q =>
    if m = 0 then some ⟨0, 0⟩
    else
      let (n, place) := l.shortest FloatStyle.plain.tie m q
      let n : Int := if negative then -n else n
      some (if 0 ≤ place then ⟨n * 10 ^ place.toNat, 0⟩ else ⟨n, .ofInt (-place)⟩)
  | _ => none

/-- The decimal that the plain text of a finite float of 64 bits shows. -/
def ofBinary64? (x : Binary64) : Option Decimal := ofValue? .double x.value

/-- The decimal that the plain text of a finite float of 32 bits shows. -/
def ofBinary32? (x : Binary32) : Option Decimal := ofValue? .single x.value

/-- How often nineteen low digits of a positive magnitude are left off before it is rounded: as
often as twenty-five digits remain of those that one bit more than it has would fill. The
quotient of constants is the decimal logarithm of two. -/
def groupsLeftOff (magnitude : Nat) : Nat :=
  ((magnitude.log2 + 2) * 301029995663981195 / 1000000000000000000 - 25) / 19

/-- The float of 64 bits for a decimal: the nearest one at scale zero. At another scale some
digits are left off, and it is the nearest one when digits after the point remain, else the
product of the float for the integer and a power of the float ten. A decimal whose scale then
exceeds 32 bits counts as infinite. A scale of five hundred is as good as any above it, since a
zero is nearest to the forty-four digits that may remain. -/
def toBinary64 (d : Decimal) : Binary64 :=
  if d.unscaled = 0 ∨ d.scale = 0 then .ofInt d.unscaled
  else
    let groups := groupsLeftOff d.unscaled.natAbs
    let kept := d.unscaled.natAbs / 10 ^ (19 * groups)
    let scale := d.scale.toInt - 19 * groups
    let negative := d.unscaled < 0
    if scale ≤ 0 then
      (Binary64.ofInt (if negative then -kept else kept)).mul
        ((Binary64.ofInt 10).power (-scale).toNat)
    else if 2 ^ (31 : Nat) ≤ scale then .ofValue (.infinite negative)
    else .ofRatio negative kept (10 ^ (min scale 500).toNat)

end Decimal

end TypedRows
