/-!
# What can go wrong outside a single request
-/

namespace FunctionConsole

/-- A failure of the console itself, with what it concerns. -/
inductive Problem where
  | io (text : String)
  | terminal (message : String)
  | backend (message : String)
  | invalidUrl (url : String)
  | unknownRoute (path : String)
  | configNotFound (path : String)
  | configInvalid (message : String)
  deriving DecidableEq, Repr

/-- The wording of a failure. -/
def Problem.message : Problem → String
  | .io text => "IO error: " ++ text
  | .terminal message => "Terminal error: " ++ message
  | .backend message => "Backend error: " ++ message
  | .invalidUrl url => "Invalid backend URL: " ++ url
  | .unknownRoute path => "Unknown route: " ++ path
  | .configNotFound path => "Configuration file not found: " ++ path
  | .configInvalid message => "Invalid configuration: " ++ message

end FunctionConsole
