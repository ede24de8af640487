/-!
# Where files are kept

Directories follow the base-directory convention: a variable names the directory if it holds an
absolute path, and otherwise a directory under the home directory stands in. Without either the
current directory is used.
-/

namespace FunctionConsole

/-- The variables that decide where files are kept. -/
structure DirectoryVars where
  home : Option String
  dataHome : Option String
  configHome : Option String
  deriving Repr

namespace Paths

/-- A directory and a name in it. -/
def join (directory name : String) : String :=
  if name.startsWith "/" then name
  else if directory.endsWith "/" || directory = "" then directory ++ name
  else directory ++ "/" ++ name

/-- The directory that a variable names, or the one under the home directory. -/
def baseDirectory? (home named : Option String) (underHome : String) : Option String :=
  match named.filter fun d => d.startsWith "/" with
  | some d => some d
  | none => (home.filter fun h => h ≠ "").map fun h => join h underHome

/-- The directory of the log files. -/
def logDirectory (vars : DirectoryVars) : String :=
  let base := (baseDirectory? vars.home vars.dataHome ".local/share").getD "."
  join (join base "lunar-console") "logs"

/-- The log file, to whose name a date is added. -/
def logFile (vars : DirectoryVars) : String := join (logDirectory vars) "lunar.log"

/-- What is logged when nothing else is asked for. -/
def defaultLogFilter : String :=
  "lunar=info,lunar_core=info,lunar_api=info,lunar_app=info,lunar_tui=info,warn"

end Paths

end FunctionConsole
