import TypedRows.Json.Skip

/-!
# Reading JSON

The reader takes the texts of the JSON grammar and no others: no trailing commas, nothing after
the value. Values may be nested 127 deep. A reader of objects may be told which members are
wanted; the others have to keep to the grammar and no more.

## Main definitions

* `TypedRows.JsonValue.read` — the value a text denotes, or what is wrong with the text.
* `TypedRows.JsonReader.readMembers` — the wanted members of an object.
-/

set_option autoImplicit false

namespace TypedRows

namespace JsonReader

mutual

/-- A value, whatever stands before it skipped. Arrays and objects may be nested as deep as
`depth` says. The fuel is a bound on the number of values and separators. -/
def readValue : (fuel depth : Nat) → List Char → Except String (JsonValue × List Char)
  | 0, _, _ => .error "text too long"
  | fuel + 1, depth, cs =>
    match skipSpace cs with
    | [] => .error "value missing"
    | '"' :: rest => do
      let (s, rest) ← readString rest
      return (.string s, rest)
    | '[' :: rest =>
      match depth with
      | 0 => .error "nested too deep"
      | depth + 1 =>
        match skipSpace rest with
        | ']' :: rest => .ok (.array [], rest)
        | rest => do
          let (items, rest) ← readItems fuel depth rest
          return (.array items, rest)
    | '\x7b' :: rest =>
      match depth with
      | 0 => .error "nested too deep"
      | depth + 1 =>
        match skipSpace rest with
        | '\x7d' :: rest => .ok (.object [], rest)
        | rest => do
          let (members, rest) ← readMembers (fun _ => true) fuel depth rest
          return (.object members, rest)
    | 'n' :: rest => readWord ['u', 'l', 'l'] .null rest
    | 't' :: rest => readWord ['r', 'u', 'e'] (.bool true) rest
    | 'f' :: rest => readWord ['a', 'l', 's', 'e'] (.bool false) rest
    | rest => do
      let (n, rest) ← readNumber rest
      return (.number n, rest)

/-- The items of an array up to its closing bracket; there is at least one. -/
def readItems : (fuel depth : Nat) → List Char → Except String (List JsonValue × List Char)
  | 0, _, _ => .error "text too long"
  | fuel + 1, depth, cs => do
    let (item, rest) ← readValue fuel depth cs
    match skipSpace rest with
    | ']' :: rest => return ([item], rest)
    | ',' :: rest =>
      let (items, rest) ← readItems fuel depth rest
      return (item :: items, rest)
    | _ => throw "comma or bracket missing"

/-- The wanted members of an object up to its closing brace; there is at least one member. -/
def readMembers (wanted : String → Bool) : (fuel depth : Nat) → List Char →
    Except String (List (String × JsonValue) × List Char)
  | 0, _, _ => .error "text too long"
  | fuel + 1, depth, cs =>
    match skipSpace cs with
    | '"' :: rest => do
      let (key, rest) ← readString rest
      match skipSpace rest with
      | ':' :: rest =>
        let (member, rest) ← if wanted key then do
            let (value, rest) ← readValue fuel depth rest
            pure ([(key, value)], rest)
          else do
            pure ([], ← skipValue rest)
        match skipSpace rest with
        | '\x7d' :: rest => return (member, rest)
        | ',' :: rest =>
          let (members, rest) ← readMembers wanted fuel depth rest
          return (member ++ members, rest)
        | _ => throw "comma or brace missing"
      | _ => throw "colon missing"
    | _ => .error "key missing"

end

/-- How deep values may be nested. -/
def depthLimit : Nat := 127

/-- A bound on the number of values and separators of a text. -/
def enoughFuel (cs : List Char) : Nat := 2 * cs.length + 2

end JsonReader

/-- The value that a text denotes, its members as they are written, or what is wrong with the
text. -/
def JsonValue.read (text : String) : Except String JsonValue := do
  let cs := text.toList
  let (value, rest) ← JsonReader.readValue (JsonReader.enoughFuel cs) JsonReader.depthLimit cs
  if (JsonReader.skipSpace rest).isEmpty then return value
  else throw "text after the value"

end TypedRows
