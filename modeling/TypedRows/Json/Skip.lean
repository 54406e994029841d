import TypedRows.Json.Scalar

/-!
# Passing over JSON values

A value that nobody asks for is passed over. It has to keep to the grammar, but what it denotes
does not matter: numbers may be out of range, escapes may stand for lone surrogates, and arrays
and objects may be nested as deep as they like. What is open is therefore kept in a list and not
in the depth of a recursion.

## Main definitions

* `TypedRows.JsonReader.skipValue` — the text after a value.
-/

set_option autoImplicit false

namespace TypedRows

namespace JsonReader

/-- What is left after a string whose opening quote is already read. -/
def skipString : List Char → Except String (List Char)
  | [] => .error "unterminated string"
  | '"' :: rest => .ok rest
  | '\\' :: 'u' :: a :: b :: c :: d :: rest =>
    if (hexUnit? [a, b, c, d]).isSome then skipString rest else .error "invalid escape"
  | '\\' :: c :: rest =>
    if c ∈ ['"', '\\', '/', 'b', 'f', 'n', 'r', 't'] then skipString rest
    else .error "invalid escape"
  | c :: rest =>
    if c.toNat < 32 then .error "control character in a string" else skipString rest

/-- What is left after a value that is neither an array nor an object. -/
def skipScalar : List Char → Except String (List Char)
  | '"' :: rest => skipString rest
  | 'n' :: rest => Prod.snd <$> readWord ['u', 'l', 'l'] .null rest
  | 't' :: rest => Prod.snd <$> readWord ['r', 'u', 'e'] .null rest
  | 'f' :: rest => Prod.snd <$> readWord ['a', 'l', 's', 'e'] .null rest
  | cs => Prod.snd <$> readNumberParts cs

/-- What is left after the key of a member and its colon. -/
def skipKey (cs : List Char) : Except String (List Char) :=
  match skipSpace cs with
  | '"' :: rest => do
    match skipSpace (← skipString rest) with
    | ':' :: rest => return rest
    | _ => throw "colon missing"
  | _ => .error "key missing"

/-- What values are passed over within. -/
inductive Enclosure where
  | array | object
  deriving DecidableEq, Repr

/-- What is left after the end of everything that is open, the innermost first. Next comes a
value when one is `due`, else a comma or an end. The fuel is a bound on the length of the
text. -/
def skipOpen : (fuel : Nat) → (due : Bool) → List Enclosure → List Char →
    Except String (List Char)
  | _, false, [], cs => .ok cs
  | 0, _, _, _ => .error "text too long"
  | fuel + 1, true, enclosing, cs =>
    match skipSpace cs with
    | '[' :: rest =>
      match skipSpace rest with
      | ']' :: rest => skipOpen fuel false enclosing rest
      | rest => skipOpen fuel true (.array :: enclosing) rest
    | '\x7b' :: rest =>
      match skipSpace rest with
      | '\x7d' :: rest => skipOpen fuel false enclosing rest
      | rest => do skipOpen fuel true (.object :: enclosing) (← skipKey rest)
    | rest => do skipOpen fuel false enclosing (← skipScalar rest)
  | fuel + 1, false, .array :: enclosing, cs =>
    match skipSpace cs with
    | ']' :: rest => skipOpen fuel false enclosing rest
    | ',' :: rest => skipOpen fuel true (.array :: enclosing) rest
    | _ => .error "comma or bracket missing"
  | fuel + 1, false, .object :: enclosing, cs =>
    match skipSpace cs with
    | '\x7d' :: rest => skipOpen fuel false enclosing rest
    | ',' :: rest => do skipOpen fuel true (.object :: enclosing) (← skipKey rest)
    | _ => .error "comma or brace missing"

/-- What is left after a value. -/
def skipValue (cs : List Char) : Except String (List Char) :=
  skipOpen (cs.length + 1) true [] cs

end JsonReader

end TypedRows
