import TypedRows.Text.Unprintable

/-!
# Quoted text

Text and characters are shown between quotes, with escapes for the quote itself, for backslashes
and line ends, and for every character that would leave no trace or combine with its neighbour.

## Main definitions

* `TypedRows.Text.quoted` — text between double quotes.
* `TypedRows.Text.quotedChar` — a character between single quotes.
-/

set_option autoImplicit false

namespace TypedRows.Text

/-- The number of a character, in hexadecimal digits between braces. -/
def numbered (c : Char) : List Char :=
  '\\' :: 'u' :: '\x7b' :: Nat.toDigits 16 c.toNat ++ ['\x7d']

/-- A character as it is shown between quotes of a certain kind. -/
def shown (quote : Char) (c : Char) : List Char :=
  match c with
  | '\x00' => ['\\', '0']
  | '\t' => ['\\', 't']
  | '\r' => ['\\', 'r']
  | '\n' => ['\\', 'n']
  | '\\' => ['\\', '\\']
  | c =>
    if c = quote then ['\\', c]
    else if isExtender c || isUnprintable c then numbered c
    else [c]

/-- Text between double quotes. -/
def quoted (s : String) : String :=
  String.ofList ('"' :: s.toList.flatMap (shown '"') ++ ['"'])

/-- A character between single quotes. -/
def quotedChar (c : Char) : String :=
  String.ofList ('\'' :: shown '\'' c ++ ['\''])

end TypedRows.Text
