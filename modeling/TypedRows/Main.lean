import TypedRows.Command.Run

/-!
# The command

Reads arguments, files and the environment, runs the command and prints its outcome. The
configuration file may be named by the environment: the variable is called like the program
itself, in upper case, followed by `_CONFIG`.
-/

set_option autoImplicit false

namespace TypedRows

/-- UTC is set up where the command runs. -/
instance : Calendar.Platform := .utc

/-- The name of the variable that names the configuration file. -/
def configVariable (program : String) : String :=
  let file := (program.toList.reverse.takeWhile (· != '/')).reverse
  String.ofList ((file.takeWhile (· != '.')).map Char.toUpper) ++ "_CONFIG"

/-- The reason why a file cannot be read. -/
def reasonOf : IO.Error → String
  | .noFileOrDirectory .. => "No such file or directory (os error 2)"
  | e => toString e

/-- The text that is left on a stream. -/
partial def readAll (stream : IO.FS.Stream) (text : String) : IO String := do
  let line ← stream.getLine
  if line.isEmpty then return text else readAll stream (text ++ line)

/-- The files of the system. -/
def systemHost : Host IO where
  fileText path := do
    try return .ok (← IO.FS.readFile path)
    catch e => return .error (reasonOf e)
  standardInput := do readAll (← IO.getStdin) ""

/-- Prints the outcome of a command; the exit code tells how it ended. -/
def report (outcome : Outcome) : IO UInt32 := do
  IO.print outcome.output
  match outcome.error with
  | none => return 0
  | some e =>
    IO.eprintln ("Error: " ++ e.message)
    return 1

end TypedRows

open TypedRows in
/-- Runs the command. -/
def main (args : List String) : IO UInt32 := do
  let config ← IO.getEnv (configVariable (toString (← IO.appPath)))
  match Invocation.read config args with
  | .ok invocation => report (← Command.run systemHost invocation)
  | .error .help =>
    IO.print usage
    return 0
  | .error .invalid =>
    IO.eprint usage
    return 2
