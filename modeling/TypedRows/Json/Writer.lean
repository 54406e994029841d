import TypedRows.Json.Value
import TypedRows.Number.Shortest

/-!
# Writing JSON

JSON is written without blanks. Characters beyond ASCII stand for themselves; quotes,
backslashes and control characters are escaped.

## Main definitions

* `TypedRows.JsonValue.text` — the text of a value.
* `TypedRows.Json.quoted` — the text of a string, with its quotes.
-/

set_option autoImplicit false

namespace TypedRows

namespace Json

/-- How a character is written in a string. -/
def escaped (c : Char) : List Char :=
  match c with
  | '"' => ['\\', '"']
  | '\\' => ['\\', '\\']
  | '\n' => ['\\', 'n']
  | '\r' => ['\\', 'r']
  | '\t' => ['\\', 't']
  | c =>
    if c.toNat = 8 then ['\\', 'b']
    else if c.toNat = 12 then ['\\', 'f']
    else if c.toNat < 32 then
      ['\\', 'u', '0', '0', Nat.digitChar (c.toNat / 16), Nat.digitChar (c.toNat % 16)]
    else [c]

/-- A string in its quotes. -/
def quoted (s : String) : List Char :=
  '"' :: s.toList.flatMap escaped ++ ['"']

end Json

/-- The text of a number. There is none for a float that is not finite; it is written as
null. -/
def Numeral.chars : Numeral → List Char
  | integer n => (if n < 0 then ['-'] else []) ++ Nat.toDigits 10 n.natAbs
  | float x =>
    if x.value.isFinite then FloatStyle.json.chars .double x.value else "null".toList

namespace JsonValue

mutual

/-- The characters of a value. -/
def chars : JsonValue → List Char
  | null => "null".toList
  | bool true => "true".toList
  | bool false => "false".toList
  | number n => n.chars
  | string s => Json.quoted s
  | array [] => ['[', ']']
  | array (item :: items) => '[' :: chars item ++ charsOfItems items
  | object [] => ['\x7b', '\x7d']
  | object ((key, value) :: members) =>
    '\x7b' :: Json.quoted key ++ ':' :: chars value ++ charsOfMembers members

/-- The items after the first, each behind a comma, and the closing bracket. -/
def charsOfItems : List JsonValue → List Char
  | [] => [']']
  | item :: items => ',' :: chars item ++ charsOfItems items

/-- The members after the first, each behind a comma, and the closing brace. -/
def charsOfMembers : List (String × JsonValue) → List Char
  | [] => ['\x7d']
  | (key, value) :: members =>
    ',' :: Json.quoted key ++ ':' :: chars value ++ charsOfMembers members

end

/-- The text of a value. -/
def text (v : JsonValue) : String := String.ofList v.chars

end JsonValue

end TypedRows
