import FunctionConsole.Api.Call
import FunctionConsole.Web.Cookies

/-!
# The client of the server

Every request of the console as an exchange with the server, and the reply as the result of the
request. The addresses hang below the one that is configured. How the server is reached is a
parameter; a server that cannot be reached is a failure of the network.
-/

namespace FunctionConsole

open Web (Url Outgoing Incoming Transport Cookies)

/-- A client: the address of its server, and the time. -/
structure Client where
  baseUrl : Url
  now : Int := 0
  deriving Repr, Inhabited

/-- The field in which a function's answer names its execution. -/
def executionIdField : String := "x-execution-id"

namespace Client

/-- The client of the server at an address. -/
def ofAddress (address : String) : Except Problem Client :=
  let trimmed := Text.trim address
  match Url.parse? trimmed.toList with
  | some u => .ok { baseUrl := u }
  | none => .error (.invalidUrl trimmed)

-- ==================================================== addresses

/-- The public address of a function. -/
def invocationUrl (c : Client) (id : String) : Url := c.baseUrl.extend ["fn", id]

/-- The words of a request's path below the address of the server. -/
def segments : Request → List String
  | .login _ => ["api", "login"]
  | .logout => ["api", "logout"]
  | .listFunctions _ _ | .createFunction _ => ["api", "functions"]
  | .getFunction id | .updateFunction id _ | .deleteFunction id => ["api", "functions", id]
  | .updateEnv id _ => ["api", "functions", id, "env"]
  | .listVersions id _ _ => ["api", "functions", id, "versions"]
  | .activateVersion id v => ["api", "functions", id, "versions", toString v.toNat, "activate"]
  | .diffVersions id old new =>
    ["api", "functions", id, "diff", toString old.toNat, toString new.toNat]
  | .listExecutions id _ _ => ["api", "functions", id, "executions"]
  | .getExecution id => ["api", "executions", id]
  | .executionLogs id _ _ => ["api", "executions", id, "logs"]
  | .invoke id _ => ["fn", id]

/-- The page that a list request asks for. -/
def page? : Request → Option PageState
  | .listFunctions limit offset | .listVersions _ limit offset | .listExecutions _ limit offset
  | .executionLogs _ limit offset => some ⟨limit, offset⟩
  | _ => none

/-- The query of a call, without the blanks around it and question marks in front. -/
def callQuery (q : InvokeRequest) : String :=
  String.ofList ((Text.trimChars q.query.toList).dropWhile (· == '?'))

/-- The address of a request. -/
def url (c : Client) (r : Request) : Url :=
  let u := c.baseUrl.extend (segments r)
  match r, page? r with
  | .invoke _ q, _ => if (callQuery q).isEmpty then u else u.withQuery (callQuery q)
  | _, some p =>
    (u.withPair "limit" (toString p.limit.toNat)).withPair "offset" (toString p.offset.toNat)
  | _, none => u

-- ==================================================== exchanges

/-- The method of a request. -/
def method : Request → String
  | .login _ | .logout | .createFunction _ | .activateVersion _ _ => "POST"
  | .updateFunction _ _ | .updateEnv _ _ => "PUT"
  | .deleteFunction _ => "DELETE"
  | .invoke _ q => q.method.name
  | _ => "GET"

/-- The document that a request carries. -/
def document? : Request → Option Json
  | .login key => some (.object [("api_key", .string key)])
  | .createFunction f => some f.toJson
  | .updateFunction _ patch => some patch.toJson
  | .updateEnv _ vars => some (.object [("env_vars", EnvVars.format.encode vars)])
  | _ => none

/-- What is sent for a request. A call with a header field that cannot be sent is none. -/
def outgoing? (c : Client) (r : Request) : Option Outgoing :=
  match r with
  | .invoke _ q => do
    let headers ← q.headers.entries.mapM Web.field?
    some
      { method := method r, url := c.url r, headers
        body := if q.method.hasBody ∧ !q.body.isEmpty then some q.body else none }
  | r =>
    some
      { method := method r, url := c.url r
        headers := if (document? r).isSome then [("content-type", "application/json")] else []
        body := (document? r).map Json.compact }

/-- The failure of a request that was never sent. -/
def unsendable : ApiError := .network "builder error"

/-- The failure of a request that reached nobody. -/
def unreachable (u : Url) : ApiError :=
  .network ("error sending request for url (" ++ u.text ++ ")")

/-- Makes one exchange; the session's cookies go along and are brought up to date. -/
def exchange {m : Type → Type} [Monad m] (c : Client) (transport : Transport m) (r : Request) :
    StateT Cookies m (ApiError.Result Incoming) := do
  match c.outgoing? r with
  | none => return .error unsendable
  | some o =>
    let cookies ← get
    let own := if o.headers.any fun h => h.1 = "cookie" then none else cookies.field? c.now o.url
    match ← transport { o with headers := o.headers ++ own.toList } with
    | none => return .error (unreachable o.url)
    | some reply =>
      set (cookies.update c.now o.url reply)
      return .ok reply

-- ==================================================== results

/-- A reply as the failure that its status stands for. -/
def refusal (r : Incoming) : ApiError := .ofResponse r.status (Web.reason? r.status) r.text

/-- The result of a request whose reply carries nothing. -/
def emptyResult : ApiError.Result Incoming → ApiError.Result Unit
  | .error e => .error e
  | .ok r => if r.isSuccess then .ok () else .error (refusal r)

/-- The result of a request whose reply carries a document. -/
def documentResult {α : Type} (f : Json.Format α) :
    ApiError.Result Incoming → ApiError.Result α
  | .error e => .error e
  | .ok r =>
    if r.isSuccess then
      match Json.Reader.run f.read (Text.symbols r.body) with
      | .ok a => .ok a
      | .error e => .error (.decode e.message)
    else .error (refusal r)

/-- The result of a call: whatever the status, the answer of the function. -/
def callResult : ApiError.Result Incoming → ApiError.Result InvokeResponse
  | .error e => .error e
  | .ok r =>
    .ok
      { status := r.status
        headers := r.headers.map fun h => (h.1, Text.looseText h.2)
        body := r.text
        executionId := (r.visibleValue? executionIdField).bind fun id =>
          if id.isEmpty then none else some id }

/-- The backend that reaches the server through a transport. -/
def backend {m : Type → Type} [Monad m] (c : Client) (transport : Transport m) :
    Backend (StateT Cookies m) :=
  let empty (r : Request) := emptyResult <$> c.exchange transport r
  let document {α : Type} (f : Json.Format α) (r : Request) :=
    documentResult f <$> c.exchange transport r
  { login := fun key => empty (.login key)
    logout := empty .logout
    listFunctions := fun limit offset => document Listing.functions (.listFunctions limit offset)
    getFunction := fun id => document Function.format (.getFunction id)
    createFunction := fun f => empty (.createFunction f)
    updateFunction := fun id patch => empty (.updateFunction id patch)
    deleteFunction := fun id => empty (.deleteFunction id)
    updateEnv := fun id vars => empty (.updateEnv id vars)
    listVersions := fun id limit offset => document Listing.versions (.listVersions id limit offset)
    activateVersion := fun id v => empty (.activateVersion id v)
    diffVersions := fun id old new => document VersionDiff.format (.diffVersions id old new)
    listExecutions := fun id limit offset =>
      document Listing.executions (.listExecutions id limit offset)
    getExecution := fun id => document Execution.format (.getExecution id)
    executionLogs := fun id limit offset => document Listing.logs (.executionLogs id limit offset)
    invoke := fun id q => callResult <$> c.exchange transport (.invoke id q) }

end Client

end FunctionConsole
