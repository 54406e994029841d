/-!
# Arguments of the command

The command has three subcommands, each with a file to read and options of its own. Options that
hold for all of them may stand before or after the name of the subcommand.

## Main definitions

* `TypedRows.Invocation` — what a command was asked to do.
* `TypedRows.Invocation.read` — what a list of arguments asks for.
-/

set_option autoImplicit false

namespace TypedRows

/-- What the command is asked to do with which files; `-` stands for the standard input. -/
inductive Task where
  /-- Show a value, which is written as JSON or as a message in hexadecimal digits. -/
  | decode (input : String) (wire : Bool)
  /-- Write a value as a message. -/
  | encode (input : String) (legacy : Bool)
  /-- Show rows under columns. -/
  | rows (rows columns : String)
  deriving DecidableEq, Repr

/-- A task, with a configuration file and a zone if they are given. -/
structure Invocation where
  config : Option String
  zone : Option String
  task : Task
  deriving DecidableEq, Repr

/-- Why arguments do not ask for a task. -/
inductive Refusal where
  | help | invalid
  deriving DecidableEq, Repr

/-! ## Options and operands -/

/-- The options that a command knows, with a value and without one, and the number of its
operands. A command with a subcommand leaves everything from its name on alone. -/
structure OptionTable where
  valued : List String
  flags : List String
  operands : Nat
  hasSubcommand : Bool

/-- The options and operands that were given, the latest first. -/
structure Given where
  values : List (String × String)
  flags : List String
  operands : List String

namespace Given

/-- Nothing is given. -/
def nothing : Given := ⟨[], [], []⟩

/-- The value of an option. -/
def value? (g : Given) (name : String) : Option String :=
  (g.values.find? (·.1 == name)).map (·.2)

/-- One more option with a value, which may be given once. -/
def withValue (g : Given) (name value : String) : Except Refusal Given :=
  if (g.value? name).isSome then .error .invalid
  else .ok { g with values := (name, value) :: g.values }

/-- One more option without a value, which may be given once. -/
def withFlag (g : Given) (name : String) : Except Refusal Given :=
  if g.flags.contains name then .error .invalid else .ok { g with flags := name :: g.flags }

/-- One more operand. -/
def withOperand (g : Given) (table : OptionTable) (operand : String) : Except Refusal Given :=
  if g.operands.length < table.operands then .ok { g with operands := operand :: g.operands }
  else .error .invalid

end Given

/-- Whether an argument looks like an option. -/
def looksLikeOption (arg : String) : Bool :=
  arg.startsWith "-" && arg != "-"

/-- Whether an argument asks for help. What follows the short option in one argument does not
count any more. -/
def asksForHelp (arg : String) : Bool :=
  arg == "--help" || arg.startsWith "-h"

/-- The name of a long option and the value attached to it. -/
def splitOption (arg : String) : String × Option String :=
  match (arg.toList.drop 2).span (· != '=') with
  | (name, _ :: value) => (String.ofList name, some (String.ofList value))
  | (name, []) => (String.ofList name, none)

/-- What is given by arguments, and the arguments from the name of a subcommand on. The value of
an option is attached to it or is the next argument, which must not look like an option; after
`--` there are operands only. -/
def scan (table : OptionTable) : List String → Given → Except Refusal (Given × List String)
  | [], g => .ok (g, [])
  | "--" :: rest, g => do
    if table.hasSubcommand then throw .invalid
    return (← rest.foldlM (·.withOperand table ·) g, [])
  | arg :: rest, g =>
    if asksForHelp arg then .error .help
    else if arg.startsWith "--" then
      let (name, value) := splitOption arg
      if table.valued.contains name then
        match value, rest with
        | some value, rest => do scan table rest (← g.withValue name value)
        | none, value :: rest =>
          if looksLikeOption value then .error .invalid
          else do scan table rest (← g.withValue name value)
        | none, [] => .error .invalid
      else if table.flags.contains name && value.isNone then do
        scan table rest (← g.withFlag name)
      else .error .invalid
    else if looksLikeOption arg then .error .invalid
    else if table.hasSubcommand then .ok (g, arg :: rest)
    else do scan table rest (← g.withOperand table arg)

/-! ## Tasks -/

/-- The options that may stand before or after the name of a subcommand. -/
def sharedOptions : List String := ["config", "zone"]

/-- The options before the name of a subcommand. -/
def frontTable : OptionTable := ⟨sharedOptions, [], 0, true⟩

/-- The names of the subcommands. -/
def subcommands : List String := ["decode", "encode", "rows", "help"]

/-- How a request for help ends: it may name one subcommand and nothing else, be it an
option. -/
def helpFor (args : List String) : Refusal :=
  match args with
  | [] => .help
  | [name] => if subcommands.contains name then .help else .invalid
  | _ => .invalid

/-- The task of a subcommand, and what else it was given. -/
def Task.read (name : String) (args : List String) : Except Refusal (Task × Given) :=
  match name with
  | "decode" => do
    let (g, _) ← scan ⟨sharedOptions, ["wire"], 1, false⟩ args .nothing
    return (.decode (g.operands.headD "-") (g.flags.contains "wire"), g)
  | "encode" => do
    let (g, _) ← scan ⟨sharedOptions, ["legacy"], 1, false⟩ args .nothing
    return (.encode (g.operands.headD "-") (g.flags.contains "legacy"), g)
  | "rows" => do
    let (g, _) ← scan ⟨"columns" :: sharedOptions, [], 1, false⟩ args .nothing
    match g.operands, g.value? "columns" with
    | [input], some columns => return (.rows input columns, g)
    | _, _ => throw .invalid
  | "help" => .error (helpFor args)
  | _ => .error .invalid

/-- What a list of arguments asks for. An option after the name of the subcommand counts more
than one before it; `config` is the configuration file where no option names one. -/
def Invocation.read (config : Option String) (args : List String) :
    Except Refusal Invocation := do
  let (front, rest) ← scan frontTable args .nothing
  match rest with
  | [] => throw .invalid
  | name :: args =>
    let (task, g) ← Task.read name args
    let option (name : String) : Option String := (g.value? name).or (front.value? name)
    return ⟨(option "config").or config, option "zone", task⟩

/-- How the command is used. -/
def usage : String :=
  "Usage: [--config FILE] [--zone ZONE] COMMAND\n\nCommands:\n"
    ++ "  decode [--wire] [FILE]      show a value\n"
    ++ "  encode [--legacy] [FILE]    write a value as a message\n"
    ++ "  rows --columns FILE FILE    show rows under columns\n"

end TypedRows
