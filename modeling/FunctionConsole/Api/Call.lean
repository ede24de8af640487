import FunctionConsole.Api.Error
import FunctionConsole.Api.Payload
import FunctionConsole.Paging
import FunctionConsole.Resource.Diff

/-!
# Requests and their responses

A request leaves the console with a ticket and comes back as a response with the same ticket. The
ticket names what the request was made for, a screen or the palette, and which generation of it;
a response whose generation has passed is dropped.
-/

namespace FunctionConsole

/-- What a request is made for. -/
inductive TicketScope where
  | view
  | palette
  deriving DecidableEq, Repr, Inhabited

/-- What a request is made for, and which generation of it. Generations are numbers without a bound:
that one of 64 bits would start anew after 2 ^ 64 of them is left out. -/
structure Ticket where
  scope : TicketScope
  generation : Nat
  deriving DecidableEq, Repr, Inhabited

/-- Everything that the console asks of the server. -/
inductive Request where
  | login (apiKey : String)
  | logout
  | listFunctions (limit offset : UInt64)
  | getFunction (id : String)
  | createFunction (function : NewFunction)
  | updateFunction (id : String) (patch : FunctionPatch)
  | deleteFunction (id : String)
  | updateEnv (id : String) (vars : EnvVars)
  | listVersions (id : String) (limit offset : UInt64)
  | activateVersion (id : String) (version : UInt32)
  | diffVersions (id : String) (old new : UInt32)
  | listExecutions (id : String) (limit offset : UInt64)
  | getExecution (id : String)
  | executionLogs (id : String) (limit offset : UInt64)
  | invoke (id : String) (request : InvokeRequest)
  deriving DecidableEq, Repr, Inhabited

/-- The name of a kind of request. -/
def Request.name : Request → String
  | .login _ => "login"
  | .logout => "logout"
  | .listFunctions _ _ => "list_functions"
  | .getFunction _ => "get_function"
  | .createFunction _ => "create_function"
  | .updateFunction _ _ => "update_function"
  | .deleteFunction _ => "delete_function"
  | .updateEnv _ _ => "update_env"
  | .listVersions _ _ _ => "list_versions"
  | .activateVersion _ _ => "activate_version"
  | .diffVersions _ _ _ => "diff_versions"
  | .listExecutions _ _ _ => "list_executions"
  | .getExecution _ => "get_execution"
  | .executionLogs _ _ _ => "execution_logs"
  | .invoke _ _ => "invoke"

/-- A request with its ticket. -/
structure Call where
  ticket : Ticket
  request : Request
  deriving DecidableEq, Repr, Inhabited

/-- The result of a request. The result of a list request carries the page that was asked for, and
the result of a change carries the change. -/
inductive Response where
  | loggedIn (result : ApiError.Result Unit)
  | loggedOut (result : ApiError.Result Unit)
  | functions (page : PageState) (result : ApiError.Result FunctionList)
  | function (result : ApiError.Result Function)
  | functionCreated (result : ApiError.Result Unit)
  | functionUpdated (patch : FunctionPatch) (result : ApiError.Result Unit)
  | functionDeleted (result : ApiError.Result Unit)
  | envUpdated (result : ApiError.Result Unit)
  | versions (page : PageState) (result : ApiError.Result VersionList)
  | versionActivated (version : UInt32) (result : ApiError.Result Unit)
  | diff (result : ApiError.Result VersionDiff)
  | executions (page : PageState) (result : ApiError.Result ExecutionList)
  | execution (result : ApiError.Result Execution)
  | logs (page : PageState) (result : ApiError.Result LogList)
  | invoked (result : ApiError.Result InvokeResponse)

/-- The error of a result. -/
def errorOf {α : Type} : ApiError.Result α → Option ApiError
  | .error e => some e
  | .ok _ => none

/-- The error of a response that failed. -/
def Response.error? : Response → Option ApiError
  | .loggedIn r | .loggedOut r | .functionCreated r | .functionUpdated _ r | .functionDeleted r
  | .envUpdated r | .versionActivated _ r => errorOf r
  | .functions _ r => errorOf r
  | .function r => errorOf r
  | .versions _ r => errorOf r
  | .diff r => errorOf r
  | .executions _ r => errorOf r
  | .execution r => errorOf r
  | .logs _ r => errorOf r
  | .invoked r => errorOf r

/-- Something that answers requests, with whatever effects `m` allows. -/
structure Backend (m : Type → Type) where
  login : String → m (ApiError.Result Unit)
  logout : m (ApiError.Result Unit)
  listFunctions : UInt64 → UInt64 → m (ApiError.Result FunctionList)
  getFunction : String → m (ApiError.Result Function)
  createFunction : NewFunction → m (ApiError.Result Unit)
  updateFunction : String → FunctionPatch → m (ApiError.Result Unit)
  deleteFunction : String → m (ApiError.Result Unit)
  updateEnv : String → EnvVars → m (ApiError.Result Unit)
  listVersions : String → UInt64 → UInt64 → m (ApiError.Result VersionList)
  activateVersion : String → UInt32 → m (ApiError.Result Unit)
  diffVersions : String → UInt32 → UInt32 → m (ApiError.Result VersionDiff)
  listExecutions : String → UInt64 → UInt64 → m (ApiError.Result ExecutionList)
  getExecution : String → m (ApiError.Result Execution)
  executionLogs : String → UInt64 → UInt64 → m (ApiError.Result LogList)
  invoke : String → InvokeRequest → m (ApiError.Result InvokeResponse)

/-- Asks a backend: the response belongs to the kind of the request, and repeats its page, patch or
version. -/
def Backend.execute {m : Type → Type} [Monad m] (b : Backend m) : Request → m Response
  | .login apiKey => .loggedIn <$> b.login apiKey
  | .logout => .loggedOut <$> b.logout
  | .listFunctions limit offset => .functions ⟨limit, offset⟩ <$> b.listFunctions limit offset
  | .getFunction id => .function <$> b.getFunction id
  | .createFunction f => .functionCreated <$> b.createFunction f
  | .updateFunction id patch => .functionUpdated patch <$> b.updateFunction id patch
  | .deleteFunction id => .functionDeleted <$> b.deleteFunction id
  | .updateEnv id vars => .envUpdated <$> b.updateEnv id vars
  | .listVersions id limit offset => .versions ⟨limit, offset⟩ <$> b.listVersions id limit offset
  | .activateVersion id version => .versionActivated version <$> b.activateVersion id version
  | .diffVersions id old new => .diff <$> b.diffVersions id old new
  | .listExecutions id limit offset =>
    .executions ⟨limit, offset⟩ <$> b.listExecutions id limit offset
  | .getExecution id => .execution <$> b.getExecution id
  | .executionLogs id limit offset => .logs ⟨limit, offset⟩ <$> b.executionLogs id limit offset
  | .invoke id request => .invoked <$> b.invoke id request

end FunctionConsole
