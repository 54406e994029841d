/-!
# TOML documents

A document assigns values to keys. Keys are grouped into tables, which headers open and dotted
keys run through; no key may be defined twice, and a table that one of the two has opened may
not be extended by the other. The document is kept as the list of what every path has been
defined as.

## Main definitions

* `TypedRows.Toml.Value` — the values of keys.
* `TypedRows.Toml.Document` — what the paths of a document are defined as.
* `TypedRows.Toml.Document.assign`, `TypedRows.Toml.Document.openTable`,
  `TypedRows.Toml.Document.openElement` — the effect of the lines of a document.
* `TypedRows.Toml.Document.find?`, `TypedRows.Toml.Document.name?` — what a path is defined as,
  and the name that this gives.
-/

set_option autoImplicit false

namespace TypedRows.Toml

/-- A value. Floats, dates and times are kept as they are written, and the keys of an inline
table with the dots they are written with. -/
inductive Value where
  | string (text : String)
  | integer (value : Int)
  | float (text : String)
  | bool (value : Bool)
  | moment (text : String)
  | array (items : List Value)
  | table (entries : List (List String × Value))
  deriving Inhabited

/-- What has opened a table. -/
inductive Origin where
  /-- The header of the table itself. -/
  | header
  /-- The header of a table within. -/
  | inner
  /-- A dotted key. -/
  | dotted
  deriving DecidableEq, Repr

/-- What a path is defined as. -/
inductive Definition where
  | value (value : Value)
  | table (origin : Origin)
  /-- An array of so many tables. -/
  | tables (count : Nat)

/-- The way to a key: each step names a key, and the number of an element where the key is an
array of tables; other keys have the number zero. -/
abbrev Path := List (String × Nat)

/-- What the paths of a document are defined as, the latest first. -/
abbrev Document := List (Path × Definition)

namespace Document

/-- What a path is defined as. -/
def find? (d : Document) (path : Path) : Option Definition :=
  (List.find? (·.1 == path) d).map (·.2)

/-- The table that some keys lead to from a table, opened on the way where it is missing. An
array of tables stands for its last element; a dotted key does not lead into a table that has a
header. -/
def descend (dotted : Bool) :
    (keys : List String) → Path → Document → Option (Path × Document)
  | [], path, d => some (path, d)
  | key :: keys, path, d =>
    let next := path ++ [(key, 0)]
    match d.find? next with
    | none => descend dotted keys next ((next, .table (if dotted then .dotted else .inner)) :: d)
    | some (.value _) => none
    | some (.tables count) => descend dotted keys (path ++ [(key, count)]) d
    | some (.table .header) => if dotted then none else descend dotted keys next d
    | some (.table _) => descend dotted keys next d

/-- Assigns a value to a dotted key within a table. -/
def assign (d : Document) (table : Path) (keys : List String) (value : Value) :
    Option Document := do
  let key ← keys.getLast?
  let (path, d) ← descend true keys.dropLast table d
  let opened := match d.find? path with
    | some (.table .dotted) => true
    | _ => keys.length == 1
  let target := path ++ [(key, 0)]
  if opened && (d.find? target).isNone then some ((target, .value value) :: d) else none

/-- Opens the table of a header. A table that was opened for one within may still get its own
header. -/
def openTable (d : Document) (keys : List String) : Option (Path × Document) := do
  let key ← keys.getLast?
  let (path, d) ← descend false keys.dropLast [] d
  let target := path ++ [(key, 0)]
  match d.find? target with
  | none | some (.table .inner) => some (target, (target, .table .header) :: d)
  | _ => none

/-- Opens one more element of an array of tables. -/
def openElement (d : Document) (keys : List String) : Option (Path × Document) := do
  let key ← keys.getLast?
  let (path, d) ← descend false keys.dropLast [] d
  let target := path ++ [(key, 0)]
  match d.find? target with
  | none => some (path ++ [(key, 1)], (target, .tables 1) :: d)
  | some (.tables count) => some (path ++ [(key, count + 1)], (target, .tables (count + 1)) :: d)
  | _ => none

/-- The document that consists of the entries of an inline table, if its keys can stand side by
side. -/
def ofEntries? (entries : List (List String × Value)) : Option Document :=
  entries.foldlM (fun d (keys, value) => d.assign [] keys value) []

/-- The keys that a table has. -/
def keysIn (d : Document) (table : Path) : List String :=
  (d.filterMap fun (path, _) =>
    if path.dropLast = table then path.getLast?.map (·.1) else none).eraseDups

/-- Whether a path is defined as an array or a table with nothing in it. -/
def isHollow (d : Document) (path : Path) : Bool :=
  match d.find? path with
  | some (.value (.array items)) => items.isEmpty
  | some (.value (.table entries)) => entries.isEmpty
  | some (.table _) => (d.keysIn path).isEmpty
  | _ => false

/-- The name that a path is defined as: a text, or the only key of a table that has nothing in
it. -/
def name? (d : Document) (path : Path) : Option String :=
  match d.find? path with
  | some (.value (.string text)) => some text
  | some (.value (.table entries)) => do sole (← ofEntries? entries) []
  | some (.table _) => sole d path
  | _ => none
where
  /-- The only key of a table. -/
  sole (d : Document) (table : Path) : Option String :=
    match d.keysIn table with
    | [key] => if d.isHollow (table ++ [(key, 0)]) then some key else none
    | _ => none

/-- The path of a key outside of all tables. -/
def rootPath (key : String) : Path := [(key, 0)]

end Document

end TypedRows.Toml
