import TypedRows.Column.Text
import TypedRows.Command.Arguments
import TypedRows.Command.Config
import TypedRows.Inspect
import TypedRows.Row.JsonRows
import TypedRows.Row.ResultSet
import TypedRows.Text.Hex
import TypedRows.Wire.Value

/-!
# Running the command

The three tasks show a value in all of its forms, write a value as a message, and show rows
under columns. What a task prints is kept even if it stops with an error afterwards.

## Main definitions

* `TypedRows.Host` — where a command reads its files.
* `TypedRows.Outcome` — what a command prints, and how it ends.
* `TypedRows.Command.run` — the outcome of a list of arguments.
-/

set_option autoImplicit false

namespace TypedRows

/-- Where a command reads its files: the text of a file or the reason why there is none, and the
text of the standard input. -/
structure Host (m : Type → Type) where
  fileText : String → m (Except String String)
  standardInput : m String

/-- What a command prints, and the error that it ends with. -/
structure Outcome where
  output : String
  error : Option CommandError
  deriving DecidableEq, Repr

namespace Command

variable [Calendar.Platform]

/-! ## Tasks on texts -/

/-- An outcome among values as one of the command. -/
def ofValue {α : Type} : Except Error α → Except CommandError α
  | .ok a => .ok a
  | .error e => .error (.value e)

/-- The bytes of hexadecimal digits; blanks between them do not count. -/
def bytesOfHex (text : String) : Except CommandError (List UInt8) :=
  match Hex.decode? (text.toList.filter fun c => !isGap c) with
  | some bytes => .ok bytes
  | none => .error (.input "bad hex input: pairs of hexadecimal digits expected")
where
  /-- Blanks and line ends. -/
  isGap (c : Char) : Bool := c ∈ [' ', '\t', '\n', '\r', '\x0c']

/-- The typed value of a text. -/
def valueOfText (wire : Bool) (text : String) : Except CommandError TypedValue :=
  if wire then do
    ofValue (Tagged.ofWire (← ofValue (WireMessage.decode (← bytesOfHex text))))
  else ofValue (JsonValue.ofText text >>= Tagged.ofJson)

/-- The forms of a value, for reading. -/
def decodedText (tv : TypedValue) (v : LocalValue) (client : ClientValue) : String :=
  "type:   " ++ tv.tag.name ++ "\n"
    ++ tv.component.elim "" (fun c => "component: " ++ c.name ++ "\n")
    ++ "serial: " ++ tv.toJson.text ++ "\n"
    ++ "local:  " ++ v.inspect ++ "\n"
    ++ "client: " ++ client.inspect ++ "\n"

/-- The forms of a value as a JSON object. -/
def decodedJson (tv : TypedValue) (v : LocalValue) (client : ClientValue) : JsonValue :=
  .object [("client", .string client.inspect),
    ("component", tv.component.elim .null fun c => .string c.name),
    ("local", .string v.inspect), ("serial", tv.toJson), ("type", .string tv.tag.name)]

/-- Shows the forms of a value. -/
def decode (c : Config) (zone : Calendar.Zone) (wire : Bool) (text : String) :
    Except CommandError String := do
  let tv ← valueOfText wire text
  let v ← ofValue tv.toLocal
  let client ← ofValue (tv.toClient (some zone))
  match c.output with
  | .text => return decodedText tv v client
  | .json => return (decodedJson tv v client).text ++ "\n"

/-- Writes a value as a message. -/
def encode (c : Config) (legacy : Bool) (text : String) : Except CommandError String := do
  let tv ← valueOfText false text
  let legacy := legacy || c.legacyWire
  let m ← ofValue (if legacy then tv.toWireLegacy else tv.toWire)
  let bytes := m.encode
  match c.output with
  | .text => return Hex.text bytes ++ "\n"
  | .json =>
    let shown : JsonValue := .object [("hex", .string (Hex.text bytes)), ("legacy", .bool legacy),
      ("len", .number (.integer bytes.length))]
    return shown.text ++ "\n"

/-! ## Rows -/

/-- The texts of the columns of a row, up to the first one that fails. -/
def rowTexts (s : ResultSet JsonRows) : Except Error (List (Option String)) :=
  s.readers.mapM fun r => (s.cursor.read r r.text).1

/-- A row as it is shown. -/
def shownRow (output : OutputFormat) (columns : List Column) (cells : List (Option String)) :
    String :=
  match output with
  | .text => "\t".intercalate (cells.map (·.getD "NULL")) ++ "\n"
  | .json =>
    let members := (columns.zip cells).map fun (column, cell) =>
      (column.name, cell.elim JsonValue.null JsonValue.string)
    (JsonValue.object (Fields.sorted members)).text ++ "\n"

/-- Shows the rows that are left, after what has been shown so far. The first row that fails
ends it. -/
def shownRows (output : OutputFormat) (s : ResultSet JsonRows) (shown : String) : Outcome :=
  match _moved : s.cursor.next with
  | (.error e, _) => ⟨shown, some (.value e)⟩
  | (.ok false, _) => ⟨shown, none⟩
  | (.ok true, cursor) =>
    match rowTexts { s with cursor } with
    | .error e => ⟨shown, some (.value e)⟩
    | .ok cells =>
      shownRows output { s with cursor } (shown ++ shownRow output s.columns cells)
termination_by FiniteRowSource.remaining s.cursor.source
decreasing_by exact ResultSet.remaining_next _moved

/-- Shows rows under columns, with a line of their names in front when they are shown as
text. -/
def rows (c : Config) (zone : Calendar.Zone) (columns : List Column) (source : JsonRows) :
    Outcome :=
  let header := match c.output with
    | .text => "\t".intercalate (columns.map (·.name)) ++ "\n"
    | .json => ""
  shownRows c.output (ResultSet.new source columns (some zone) (some zone)) header

/-! ## Files -/

section

variable {m : Type → Type} [Monad m]

/-- A command that reads files. -/
abbrev Reading (m : Type → Type) := ExceptT CommandError m

/-- A path as it is named in errors, with the reason. -/
def failure (path reason : String) : String := "'" ++ path ++ "': " ++ reason

/-- The text of a file, or of the standard input. -/
def readInput (host : Host m) (path : String) : Reading m String := do
  if path == "-" then host.standardInput
  else
    match ← host.fileText path with
    | .ok text => return text
    | .error reason => throw (.input (failure path reason))

/-- The configuration in a file; the standard one without a file. -/
def readConfig (host : Host m) : Option String → Reading m Config
  | none => return .standard
  | some path => do
    match ← host.fileText path with
    | .error reason => throw (.config .read (failure path reason))
    | .ok text =>
      match Config.read? text with
      | some c => return c
      | none => throw (.config .parse (failure path "not a valid configuration"))

/-- The output of a task that ends well. -/
def finished (output : String) : Outcome := ⟨output, none⟩

/-- Runs a task. -/
def perform (host : Host m) (c : Config) : Task → Reading m Outcome
  | .decode input wire => do
    let zone ← c.zone
    let text ← readInput host input
    return finished (← decode c zone wire text)
  | .encode input legacy => do
    let text ← readInput host input
    return finished (← encode c legacy text)
  | .rows input columns => do
    let zone ← c.zone
    let columns ← ofValue (Column.listOfText (← readInput host columns))
    let source ← ofValue (JsonRows.read (← readInput host input) columns)
    return rows c zone columns source

/-- Runs what was asked for. -/
def run (host : Host m) (i : Invocation) : m Outcome := do
  let task : Reading m Outcome := do
    let c ← readConfig host i.config
    perform host (c.withZone i.zone) i.task
  match ← task.run with
  | .ok outcome => return outcome
  | .error e => return ⟨"", some e⟩

end

end Command

end TypedRows
