import TypedRows.Calendar.Zone
import TypedRows.Command.Error
import TypedRows.Toml.Reader

/-!
# Configuration

A configuration is a TOML document with the keys `time_zone`, `output` and `legacy_wire`, each
of which may be left out; other keys do not matter. The format of `output` is given as a text or
as the only key of a table with nothing in it.

## Main definitions

* `TypedRows.Config`
* `TypedRows.Config.read?` — the configuration that a text describes.
* `TypedRows.Config.zone` — the zone that dates and times are read in.
-/

set_option autoImplicit false

namespace TypedRows

/-- How results are shown. -/
inductive OutputFormat where
  | text | json
  deriving DecidableEq, Repr

/-- The settings of a command. -/
structure Config where
  timeZone : String
  output : OutputFormat
  legacyWire : Bool
  deriving DecidableEq, Repr

namespace Config

/-- The settings where nothing else is said. -/
def standard : Config := ⟨"local", .text, false⟩

/-- The setting that a document has for a key: the standard one where the key is missing, none
where what it is defined as is of another kind. -/
def setting? {α : Type} (d : Toml.Document) (key : String) (standard : α)
    (read : Toml.Path → Option α) : Option α :=
  let path := Toml.Document.rootPath key
  if (d.find? path).isSome then read path else some standard

/-- The settings of a document. -/
def ofDocument? (d : Toml.Document) : Option Config := do
  let timeZone ← setting? d "time_zone" standard.timeZone fun path =>
    match d.find? path with
    | some (.value (.string text)) => some text
    | _ => none
  let output ← setting? d "output" standard.output fun path =>
    match d.name? path with
    | some "text" => some .text
    | some "json" => some .json
    | _ => none
  let legacyWire ← setting? d "legacy_wire" standard.legacyWire fun path =>
    match d.find? path with
    | some (.value (.bool b)) => some b
    | _ => none
  return ⟨timeZone, output, legacyWire⟩

/-- The settings that a text describes. -/
def read? (text : String) : Option Config :=
  Toml.Document.read? text >>= ofDocument?

/-- The settings with another zone, if one is given. -/
def withZone (c : Config) (zone : Option String) : Config :=
  { c with timeZone := zone.getD c.timeZone }

/-- The zone that dates and times are read in. -/
def zone (c : Config) : Except CommandError Calendar.Zone :=
  match Calendar.Zone.read c.timeZone with
  | .ok z => .ok z
  | .error e => .error (.config .timeZone e.message)

end Config

end TypedRows
