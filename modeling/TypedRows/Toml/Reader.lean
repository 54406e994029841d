import TypedRows.Calendar.Date
import TypedRows.Number.Binary
import TypedRows.Text.Fields
import TypedRows.Text.Hex
import TypedRows.Toml.Document

/-!
# Reading TOML

A document is a run of lines, each of which is blank, a header or an assignment. Readers take
the characters that are left and give back what they read and what is left then. Neither arrays
and inline tables nor the parts of a key may be nested more than 79 deep.

## Main definitions

* `TypedRows.Toml.Document.read?` — the document that a text consists of.
-/

set_option autoImplicit false

namespace TypedRows.Toml

/-- How deep arrays and inline tables may be nested, and how many parts a key may have. -/
def nestingLimit : Nat := 79

/-! ## Blanks, comments and line ends -/

/-- Blanks within a line. -/
def isBlank (c : Char) : Bool := c == ' ' || c == '\t'

/-- The characters that text may not hold unescaped, line ends among them. -/
def isControl (c : Char) : Bool := (c.toNat < 32 && c != '\t') || c.toNat == 127

/-- What is left after blanks. -/
def skipBlanks (cs : List Char) : List Char := cs.dropWhile isBlank

/-- What is left after a comment, if there is one. -/
def skipComment : List Char → List Char
  | '#' :: rest => rest.dropWhile (!isControl ·)
  | cs => cs

/-- What is left after the end of a line. The end of the text ends a line too. -/
def lineEnd? : List Char → Option (List Char)
  | [] => some []
  | '\n' :: rest => some rest
  | '\r' :: '\n' :: rest => some rest
  | _ => none

/-- What is left after blanks, a comment and the end of a line. -/
def restOfLine? (cs : List Char) : Option (List Char) :=
  lineEnd? (skipComment (skipBlanks cs))

/-- What is left after blanks, comments and line ends. -/
def skipLines : (fuel : Nat) → List Char → List Char
  | 0, cs => cs
  | fuel + 1, cs =>
    match skipComment (skipBlanks cs) with
    | '\n' :: rest => skipLines fuel rest
    | '\r' :: '\n' :: rest => skipLines fuel rest
    | rest => rest

/-! ## Text -/

/-- The character of an escape, and what is left. -/
def readEscape? : List Char → Option (Char × List Char)
  | 'b' :: rest => some ('\x08', rest)
  | 't' :: rest => some ('\t', rest)
  | 'n' :: rest => some ('\n', rest)
  | 'f' :: rest => some ('\x0c', rest)
  | 'r' :: rest => some ('\r', rest)
  | '"' :: rest => some ('"', rest)
  | '\\' :: rest => some ('\\', rest)
  | 'u' :: rest => code 4 rest
  | 'U' :: rest => code 8 rest
  | _ => none
where
  /-- The character whose number has so many hexadecimal digits. -/
  code (digits : Nat) (cs : List Char) : Option (Char × List Char) := do
    let values ← (cs.take digits).mapM Hex.value?
    let n := values.foldl (fun n v => n * 16 + v) 0
    if values.length == digits && n.isValidChar then some (Char.ofNat n, cs.drop digits) else none

/-- The rest of a text between double quotes. -/
def readBasic? : (fuel : Nat) → List Char → Option (List Char × List Char)
  | 0, _ => none
  | _, [] => none
  | _, '"' :: rest => some ([], rest)
  | fuel + 1, '\\' :: rest => do
    let (c, rest) ← readEscape? rest
    let (cs, rest) ← readBasic? fuel rest
    return (c :: cs, rest)
  | fuel + 1, c :: rest =>
    if isControl c then none
    else do
      let (cs, rest) ← readBasic? fuel rest
      return (c :: cs, rest)

/-- The rest of a text between single quotes, which has no escapes. -/
def readLiteral? (cs : List Char) : Option (List Char × List Char) :=
  match cs.span (fun c => c != '\'' && !isControl c) with
  | (text, '\'' :: rest) => some (text, rest)
  | _ => none

/-- What is left after blanks and line ends. -/
def skipGaps : List Char → List Char
  | [] => []
  | '\n' :: rest => skipGaps rest
  | '\r' :: '\n' :: rest => skipGaps rest
  | c :: rest => if isBlank c then skipGaps rest else c :: rest

/-- What is left after the blanks and line ends that follow a backslash at the end of a line; a
backslash that no line end follows is an escape and not meant here. -/
def continued? (cs : List Char) : Option (List Char) :=
  match lineEnd? (skipBlanks cs) with
  | some rest => if (skipBlanks cs).isEmpty then none else some (skipGaps rest)
  | none => none

/-- The rest of a text between triple quotes. Up to two quotes may stand before the end. -/
def readLong? (quote : Char) : (fuel : Nat) → List Char → Option (List Char × List Char)
  | 0, _ => none
  | _, [] => none
  | fuel + 1, c :: rest =>
    if c = quote then
      let quotes := (c :: rest).takeWhile (· == quote)
      let rest := (c :: rest).dropWhile (· == quote)
      if quotes.length < 3 then do
        let (cs, rest) ← readLong? quote fuel rest
        return (quotes ++ cs, rest)
      else if quotes.length ≤ 5 then some (quotes.drop 3, rest)
      else none
    else if c = '\\' && quote = '"' then
      match continued? rest with
      | some rest => readLong? quote fuel rest
      | none => do
        let (c, rest) ← readEscape? rest
        let (cs, rest) ← readLong? quote fuel rest
        return (c :: cs, rest)
    else
      match c, rest with
      | '\r', '\n' :: rest => do
        let (cs, rest) ← readLong? quote fuel rest
        return ('\n' :: cs, rest)
      | _, _ =>
        if isControl c && c != '\n' then none
        else do
          let (cs, rest) ← readLong? quote fuel rest
          return (c :: cs, rest)

/-- A line end that directly follows the opening quotes does not count. -/
def skipFirstLineEnd (cs : List Char) : List Char :=
  match cs with
  | [] => []
  | cs => (lineEnd? cs).getD cs

/-- A text in any of the four kinds of quotes. -/
def readText? (cs : List Char) : Option (String × List Char) := do
  let (text, rest) ← match cs with
    | '"' :: '"' :: '"' :: rest => readLong? '"' (rest.length + 1) (skipFirstLineEnd rest)
    | '"' :: rest => readBasic? (rest.length + 1) rest
    | '\'' :: '\'' :: '\'' :: rest => readLong? '\'' (rest.length + 1) (skipFirstLineEnd rest)
    | '\'' :: rest => readLiteral? rest
    | _ => none
  return (String.ofList text, rest)

/-! ## Keys -/

/-- The characters of a key that needs no quotes. -/
def isBare (c : Char) : Bool := c.isAlphanum || c == '-' || c == '_'

/-- A key without dots. -/
def readSimpleKey? (cs : List Char) : Option (String × List Char) :=
  match cs with
  | '"' :: rest => do
    let (text, rest) ← readBasic? (rest.length + 1) rest
    return (String.ofList text, rest)
  | '\'' :: rest => do
    let (text, rest) ← readLiteral? rest
    return (String.ofList text, rest)
  | cs =>
    match cs.span isBare with
    | ([], _) => none
    | (text, rest) => some (String.ofList text, rest)

/-- The parts of a key, with dots between them. -/
def readKeyParts? : (fuel : Nat) → List Char → Option (List String × List Char)
  | 0, _ => none
  | fuel + 1, cs => do
    let (key, rest) ← readSimpleKey? (skipBlanks cs)
    match skipBlanks rest with
    | '.' :: rest =>
      let (keys, rest) ← readKeyParts? fuel rest
      return (key :: keys, rest)
    | rest => return ([key], rest)

/-- A key, which has no more parts than the limit allows for. -/
def readKey? (cs : List Char) : Option (List String × List Char) := do
  let (keys, rest) ← readKeyParts? (cs.length + 1) cs
  if keys.length ≤ nestingLimit then some (keys, rest) else none

/-! ## Numbers, dates and times -/

/-- Digits of a kind, with single underscores between them. -/
def isDigits (isDigit : Char → Bool) (cs : List Char) : Bool :=
  match cs with
  | [] => false
  | c :: rest => isDigit c && go rest
where
  /-- The digits after the first one. -/
  go : List Char → Bool
    | [] => true
    | '_' :: c :: rest => isDigit c && go rest
    | c :: rest => isDigit c && go rest

/-- The number that digits stand for, underscores aside. -/
def digitsValue (base : Nat) (cs : List Char) : Nat :=
  (cs.filterMap Hex.value?).foldl (fun n v => n * base + v) 0

/-- A decimal integer without superfluous zeros. -/
def isPlainInteger (cs : List Char) : Bool :=
  isDigits Char.isDigit cs && (cs.head? != some '0' || cs.length == 1)

/-- The sign of a number, and its digits. -/
def splitSign : List Char → Bool × List Char
  | '-' :: rest => (true, rest)
  | '+' :: rest => (false, rest)
  | cs => (false, cs)

/-- The integer that a word stands for. -/
def integer? (word : List Char) : Option Int :=
  let (negative, digits) := splitSign word
  let inRange (n : Int) : Option Int :=
    if -(2 ^ (63 : Nat)) ≤ n ∧ n < 2 ^ (63 : Nat) then some n else none
  match word with
  | '0' :: 'x' :: rest =>
    if isDigits (fun c => (Hex.value? c).isSome) rest then inRange (digitsValue 16 rest) else none
  | '0' :: 'o' :: rest =>
    if isDigits (fun c => '0' ≤ c && c ≤ '7') rest then inRange (digitsValue 8 rest) else none
  | '0' :: 'b' :: rest =>
    if isDigits (fun c => c == '0' || c == '1') rest then inRange (digitsValue 2 rest) else none
  | _ =>
    if isPlainInteger digits then
      inRange (if negative then -(digitsValue 10 digits : Int) else digitsValue 10 digits)
    else none

/-- The digits before the point, those after it and the exponent of a float without its sign,
where there are any. -/
def floatParts (digits : List Char) : List Char × Option (List Char) × Option (List Char) :=
  let (mantissa, exponent) := Text.cut (fun c => c == 'e' || c == 'E') digits
  let (whole, fraction) := Text.cut (· == '.') mantissa
  (whole, fraction, exponent)

/-- Whether a float without its sign is too large for the floats of 64 bits. A number with some
digits is less than the power of ten of their number, and one with an exponent above 400 larger
than any float. -/
def isTooLarge (digits : List Char) : Bool :=
  let (whole, fraction, exponent) := floatParts digits
  let fraction := fraction.getD []
  let significand := digitsValue 10 (whole ++ fraction)
  let (negative, exponent) := splitSign (exponent.getD [])
  let exponent : Int := if negative then -(digitsValue 10 exponent : Int)
    else digitsValue 10 exponent
  let place := exponent - (fraction.filter (· != '_')).length
  significand != 0 && 0 < place + (Nat.toDigits 10 significand).length &&
    (400 < place ||
      FloatLayout.double.nearest (significand * 10 ^ place.toNat) (10 ^ (-place).toNat)
        == FloatLayout.double.infinityBits)

/-- Whether a word is a float: an integer with a fraction, an exponent or both, or the name of
an infinity or of a NaN. Only below zero may the floats be exceeded. -/
def isFloat (word : List Char) : Bool :=
  let (negative, digits) := splitSign word
  let (whole, fraction, exponent) := floatParts digits
  digits == ['i', 'n', 'f'] || digits == ['n', 'a', 'n']
    || (isPlainInteger whole && (fraction.isSome || exponent.isSome)
      && fraction.all (isDigits Char.isDigit)
      && (exponent.all fun e => isDigits Char.isDigit (splitSign e).2)
      && (negative || !isTooLarge digits))

/-- The number that exactly so many digits stand for, no more than `greatest`. -/
def field? (digits least greatest : Nat) (cs : List Char) : Option Nat := do
  let n ← if cs.length == digits then Text.natural? cs else none
  if least ≤ n && n ≤ greatest then some n else none

/-- Whether a word is a date. -/
def isDate (word : List Char) : Bool :=
  match Text.splitAtMost '-' 2 word with
  | [year, month, day] =>
    match field? 4 0 9999 year, field? 2 1 12 month with
    | some y, some m => (field? 2 1 (Calendar.daysInMonth y m) day).isSome
    | _, _ => false
  | _ => false

/-- Whether a word is a time of day. -/
def isTime (word : List Char) : Bool :=
  match Text.splitAtMost ':' 2 word with
  | [hour, minute, second] =>
    let (second, fraction) := Text.cut (· == '.') second
    (field? 2 0 23 hour).isSome && (field? 2 0 59 minute).isSome && (field? 2 0 60 second).isSome
      && fraction.all fun f => (Text.natural? f).isSome
  | _ => false

/-- Whether a word is a time of day with an offset from UTC or without one. -/
def isOffsetTime (word : List Char) : Bool :=
  let (time, zone) := word.span (fun c => !(c == 'Z' || c == 'z' || c == '+' || c == '-'))
  isTime time &&
    match zone with
    | [] => true
    | ['Z'] | ['z'] => true
    | _ :: offset =>
      match Text.splitAtMost ':' 1 offset with
      | [hour, minute] => (field? 2 0 23 hour).isSome && (field? 2 0 59 minute).isSome
      | _ => false

/-- Whether a word is a date, a time of day, or a date and a time with a `T` or a blank between
them. -/
def isMoment (word : List Char) : Bool :=
  isDate word || isTime word ||
    match Text.cut (fun c => c == 'T' || c == 't' || c == ' ') word with
    | (date, some time) => isDate date && isOffsetTime time
    | _ => false

/-- The characters of numbers, dates and times. -/
def isWordChar (c : Char) : Bool := c.isAlphanum || c ∈ ['+', '-', '_', '.', ':']

/-- A word. The blank between a date and a time belongs to it. -/
def readWord (cs : List Char) : List Char × List Char :=
  let (word, rest) := cs.span isWordChar
  match isDate word, rest with
  | true, ' ' :: c :: tail =>
    if c.isDigit then
      let (time, rest) := (c :: tail).span isWordChar
      (word ++ ' ' :: time, rest)
    else (word, rest)
  | _, _ => (word, rest)

/-- The value that a word stands for. -/
def wordValue? (word : List Char) : Option Value :=
  match integer? word with
  | some n => some (.integer n)
  | none =>
    if word == "true".toList then some (.bool true)
    else if word == "false".toList then some (.bool false)
    else if isFloat word then some (.float (String.ofList word))
    else if isMoment word then some (.moment (String.ofList word))
    else none

/-! ## Values -/

mutual

/-- A value. Arrays and inline tables may be nested as deep as `depth` says. -/
def readValue? : (fuel depth : Nat) → List Char → Option (Value × List Char)
  | 0, _, _ => none
  | fuel + 1, depth, cs =>
    match cs, depth with
    | '"' :: _, _ | '\'' :: _, _ => do
      let (text, rest) ← readText? cs
      return (.string text, rest)
    | '[' :: _, 0 | '\x7b' :: _, 0 => none
    | '[' :: rest, depth + 1 => do
      let (items, rest) ← readItems? fuel depth rest
      return (.array items, rest)
    | '\x7b' :: rest, depth + 1 =>
      match skipBlanks rest with
      | '\x7d' :: rest => some (.table [], rest)
      | rest => do
        let (entries, rest) ← readEntries? fuel depth rest
        if (Document.ofEntries? entries).isSome then some (.table entries, rest) else none
    | cs, _ => do
      let (word, rest) := readWord cs
      return (← wordValue? word, rest)

/-- The items up to the end of an array. A comma may follow the last one. -/
def readItems? : (fuel depth : Nat) → List Char → Option (List Value × List Char)
  | 0, _, _ => none
  | fuel + 1, depth, cs =>
    match skipLines cs.length cs with
    | ']' :: rest => some ([], rest)
    | cs => do
      let (item, rest) ← readValue? fuel depth cs
      match skipLines rest.length rest with
      | ',' :: rest =>
        let (items, rest) ← readItems? fuel depth rest
        return (item :: items, rest)
      | ']' :: rest => return ([item], rest)
      | _ => none

/-- The entries up to the end of an inline table, which stands on one line. -/
def readEntries? :
    (fuel depth : Nat) → List Char → Option (List (List String × Value) × List Char)
  | 0, _, _ => none
  | fuel + 1, depth, cs => do
    let (keys, rest) ← readKey? cs
    let rest ← match rest with
      | '=' :: rest => some (skipBlanks rest)
      | _ => none
    let (value, rest) ← readValue? fuel depth rest
    match skipBlanks rest with
    | ',' :: rest =>
      let (entries, rest) ← readEntries? fuel depth rest
      return ((keys, value) :: entries, rest)
    | '\x7d' :: rest => return ([(keys, value)], rest)
    | _ => none

end

/-! ## Documents -/

/-- One line, given the table that is open, and what is left. -/
def readLine? (table : Path) (d : Document) (cs : List Char) :
    Option (Path × Document × List Char) :=
  match skipBlanks cs with
  | '[' :: '[' :: rest => do
    let (keys, rest) ← readKey? rest
    match rest with
    | ']' :: ']' :: rest =>
      let (table, d) ← d.openElement keys
      return (table, d, ← restOfLine? rest)
    | _ => none
  | '[' :: rest => do
    let (keys, rest) ← readKey? rest
    match rest with
    | ']' :: rest =>
      let (table, d) ← d.openTable keys
      return (table, d, ← restOfLine? rest)
    | _ => none
  | line =>
    match restOfLine? line with
    | some rest => some (table, d, rest)
    | none => do
      let (keys, rest) ← readKey? line
      match rest with
      | '=' :: rest =>
        let (value, rest) ← readValue? (rest.length + 1) nestingLimit (skipBlanks rest)
        return (table, ← d.assign table keys value, ← restOfLine? rest)
      | _ => none

/-- The lines that are left. -/
def readLines? : (fuel : Nat) → Path → Document → List Char → Option Document
  | _, _, d, [] => some d
  | 0, _, _, _ => none
  | fuel + 1, table, d, cs => do
    let (table, d, rest) ← readLine? table d cs
    readLines? fuel table d rest

/-- The document that a text consists of. A byte order mark in front is passed over. -/
def Document.read? (text : String) : Option Document :=
  let cs := match text.toList with
    | '\ufeff' :: rest => rest
    | cs => cs
  readLines? cs.length [] [] cs

end TypedRows.Toml
