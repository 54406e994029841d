import TypedRows.Error

/-!
# Errors of the command

## Main definitions

* `TypedRows.CommandError` — why a command stops.
* `TypedRows.CommandError.message` — the words for it.
-/

set_option autoImplicit false

namespace TypedRows

/-- The steps of settling the configuration. -/
inductive ConfigStage where
  | read | parse | timeZone
  deriving DecidableEq, Repr

/-- The name of a step. -/
def ConfigStage.name : ConfigStage → String
  | read => "read"
  | parse => "parse"
  | timeZone => "time_zone"

/-- Why a command stops. -/
inductive CommandError where
  | config (stage : ConfigStage) (detail : String)
  | input (detail : String)
  | value (error : Error)
  deriving DecidableEq, Repr

/-- The words for an error. -/
def CommandError.message : CommandError → String
  | config stage detail => "config (" ++ stage.name ++ "): " ++ detail
  | input detail => "input: " ++ detail
  | value error => error.message

end TypedRows
