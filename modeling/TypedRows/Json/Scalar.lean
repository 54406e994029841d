import TypedRows.Json.Numeral
import TypedRows.Text.Hex

/-!
# The scalars of JSON text

Texts and numbers as the grammar of JSON has them: no control characters in strings, no escapes
of lone surrogates, no leading zeros. Every reader here gives what it has read from the front of
a text and the rest of the text, or what is wrong.

## Main definitions

* `TypedRows.JsonReader.skipSpace` — a text from its first character that is no blank on.
* `TypedRows.JsonReader.readString`, `TypedRows.JsonReader.readNumber`,
  `TypedRows.JsonReader.readWord` — the three kinds of scalars.
-/

set_option autoImplicit false

namespace TypedRows

namespace JsonReader

/-- The four blanks of the grammar. -/
def isSpace (c : Char) : Bool :=
  c == ' ' || c == '\n' || c == '\t' || c == '\r'

/-- The text from its first character that is no blank on. -/
def skipSpace (cs : List Char) : List Char := cs.dropWhile isSpace

/-- The number of four hexadecimal digits. -/
def hexUnit? (cs : List Char) : Option Nat :=
  cs.foldl (fun acc c => do return (← acc) * 16 + (← Hex.value? c)) (some 0)

/-- The character of an escape, whose backslash is already read. A surrogate has to be followed
by the escape of its partner. -/
def readEscape : List Char → Except String (Char × List Char)
  | '"' :: rest => .ok ('"', rest)
  | '\\' :: rest => .ok ('\\', rest)
  | '/' :: rest => .ok ('/', rest)
  | 'b' :: rest => .ok (Char.ofNat 8, rest)
  | 'f' :: rest => .ok (Char.ofNat 12, rest)
  | 'n' :: rest => .ok ('\n', rest)
  | 'r' :: rest => .ok ('\r', rest)
  | 't' :: rest => .ok ('\t', rest)
  | 'u' :: a :: b :: c :: d :: rest =>
    match hexUnit? [a, b, c, d] with
    | none => .error "invalid escape"
    | some unit =>
      if unit < 0xD800 ∨ 0xE000 ≤ unit then .ok (Char.ofNat unit, rest)
      else if 0xDC00 ≤ unit then .error "lone surrogate"
      else
        match rest with
        | '\\' :: 'u' :: e :: f :: g :: h :: rest =>
          match hexUnit? [e, f, g, h] with
          | none => .error "invalid escape"
          | some low =>
            if 0xDC00 ≤ low ∧ low < 0xE000 then
              .ok (Char.ofNat (0x10000 + (unit - 0xD800) * 0x400 + (low - 0xDC00)), rest)
            else .error "lone surrogate"
        | _ => .error "lone surrogate"
  | _ => .error "invalid escape"

/-- The characters of a string whose opening quote is already read, and the text after its
closing quote. The fuel is a bound on the length of the text. -/
def readStringBody : (fuel : Nat) → List Char → Except String (List Char × List Char)
  | 0, _ => .error "unterminated string"
  | _, [] => .error "unterminated string"
  | _, '"' :: rest => .ok ([], rest)
  | fuel + 1, '\\' :: rest => do
    let (c, rest) ← readEscape rest
    let (s, rest) ← readStringBody fuel rest
    return (c :: s, rest)
  | fuel + 1, c :: rest =>
    if c.toNat < 32 then .error "control character in a string"
    else do
      let (s, rest) ← readStringBody fuel rest
      return (c :: s, rest)

/-- A string whose opening quote is already read. -/
def readString (cs : List Char) : Except String (String × List Char) := do
  let (s, rest) ← readStringBody (cs.length + 1) cs
  return (String.ofList s, rest)

/-- A non-empty string of digits. -/
def readDigits (cs : List Char) : Except String (List Char × List Char) :=
  match cs.takeWhile Char.isDigit with
  | [] => .error "digit missing"
  | digits => .ok (digits, cs.dropWhile Char.isDigit)

/-- The digits after a point, if there is a point. -/
def readFraction : List Char → Except String (Option (List Char) × List Char)
  | '.' :: rest => do
    let (digits, rest) ← readDigits rest
    return (some digits, rest)
  | cs => .ok (none, cs)

/-- The exponent, if there is one. -/
def readExponent (cs : List Char) : Except String (Option Int × List Char) :=
  match cs with
  | c :: rest =>
    if c == 'e' || c == 'E' then do
      let (negative, rest) : Bool × List Char :=
        match rest with
        | '-' :: rest => (true, rest)
        | '+' :: rest => (false, rest)
        | _ => (false, rest)
      let (digits, rest) ← readDigits rest
      let n : Int := Nat.ofDigitChars 10 digits 0
      return (some (if negative then -n else n), rest)
    else .ok (none, cs)
  | [] => .ok (none, cs)

/-- The parts that a number is written with. -/
structure NumberParts where
  negative : Bool
  integer : List Char
  fraction : Option (List Char)
  exponent : Option Int

/-- The parts of a number, of whatever size it is. -/
def readNumberParts (cs : List Char) : Except String (NumberParts × List Char) := do
  let (negative, cs) : Bool × List Char :=
    match cs with
    | '-' :: rest => (true, rest)
    | _ => (false, cs)
  let (integer, cs) ← readDigits cs
  if integer.head? == some '0' && integer.length != 1 then throw "leading zero"
  let (fraction, cs) ← readFraction cs
  let (exponent, cs) ← readExponent cs
  return (⟨negative, integer, fraction, exponent⟩, cs)

/-- A number. -/
def readNumber (cs : List Char) : Except String (Numeral × List Char) := do
  let (p, cs) ← readNumberParts cs
  match Numeral.ofParts? p.negative p.integer p.fraction p.exponent with
  | some n => return (n, cs)
  | none => throw "number out of range"

/-- The text after a word that it has to begin with. -/
def readWord (word : List Char) (value : JsonValue) (cs : List Char) :
    Except String (JsonValue × List Char) :=
  if word.isPrefixOf cs then .ok (value, cs.drop word.length) else .error "unknown word"

end JsonReader

end TypedRows
