/-!
# Named fields in the order of their names

## Main definitions

* `TypedRows.Fields.insert` — puts a field into its place, in place of one of the same name.
* `TypedRows.Fields.sorted` — fields in the order of their names; of two with one name the last
  is kept.
* `TypedRows.Fields.get?` — the first field of a name.
-/

set_option autoImplicit false

namespace TypedRows.Fields

variable {α : Type}

/-- The fields with one more, which takes the place of a field of the same name. -/
def insert (name : String) (value : α) : List (String × α) → List (String × α)
  | [] => [(name, value)]
  | (n, v) :: rest =>
    if name < n then (name, value) :: (n, v) :: rest
    else if name = n then (name, value) :: rest
    else (n, v) :: insert name value rest

/-- The fields in the order of their names, the last one of every name. -/
def sorted (fields : List (String × α)) : List (String × α) :=
  fields.foldl (fun acc field => insert field.1 field.2 acc) []

/-- The first field of a name. -/
def get? (name : String) (fields : List (String × α)) : Option α :=
  (fields.find? (·.1 == name)).map (·.2)

end TypedRows.Fields
