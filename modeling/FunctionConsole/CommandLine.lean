import FunctionConsole.Settings

/-!
# The command line

Every option has a value, given as the next argument or after an equals sign: `--url`, `--api-key`,
`--route` and `--config`.
-/

namespace FunctionConsole

/-- What the command line asks for. -/
structure CommandLine where
  overrides : Overrides := {}
  /-- The path of the first screen. -/
  route : String := "/functions"
  /-- The settings file, if not the one at the usual place. -/
  config : Option String := none
  deriving DecidableEq, Repr, Inhabited

/-- Why a command line cannot be read. -/
inductive CommandLineFault where
  | unexpected (argument : String)
  | missingValue (option : String)
  deriving DecidableEq, Repr, Inhabited

/-- The wording of a fault. -/
def CommandLineFault.message : CommandLineFault → String
  | .unexpected a => "error: unexpected argument '" ++ a ++ "' found"
  | .missingValue o => "error: a value is required for '" ++ o ++ "' but none was supplied"

namespace CommandLine

/-- What the value of an option changes; none if there is no such option. -/
def setter? (c : CommandLine) : (option : String) → Option (String → CommandLine)
  | "--url" => some fun v => { c with overrides := { c.overrides with baseUrl := some v } }
  | "--api-key" => some fun v => { c with overrides := { c.overrides with apiKey := some v } }
  | "--route" => some fun v => { c with route := v }
  | "--config" => some fun v => { c with config := some v }
  | _ => none

/-- An argument cut at its first equals sign, if it has one. -/
def splitValue (argument : String) : String × Option String :=
  let cs := argument.toList
  match cs.dropWhile (· != '=') with
  | _ :: value => (String.ofList (cs.takeWhile (· != '=')), some (String.ofList value))
  | [] => (argument, none)

/-- Reads arguments into a command line. -/
def read (c : CommandLine) : List String → Except CommandLineFault CommandLine
  | [] => .ok c
  | argument :: rest =>
    let (option, value) := splitValue argument
    match c.setter? option, value, rest with
    | none, _, _ => .error (.unexpected argument)
    | some set, some v, rest => read (set v) rest
    | some set, none, v :: rest => read (set v) rest
    | some _, none, [] => .error (.missingValue option)

/-- The command line of some arguments. -/
def ofArguments (arguments : List String) : Except CommandLineFault CommandLine :=
  read {} arguments

end CommandLine

end FunctionConsole
