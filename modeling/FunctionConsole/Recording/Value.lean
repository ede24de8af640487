import FunctionConsole.Api.Call
import FunctionConsole.Key
import FunctionConsole.Recording.Field
import FunctionConsole.Route
import FunctionConsole.Settings

/-!
# Values in recordings

How keys, routes, failures, requests and responses stand in a recorded session.
-/

namespace FunctionConsole

open Json (listOf texts)

-- ==================================================== keys

/-- The keys that are recorded by a name. -/
def Key.named : List (String × Key) :=
  [("Up", .up), ("Down", .down), ("Left", .left), ("Right", .right), ("Home", .home),
   ("End", .toEnd), ("PageUp", .pageUp), ("PageDown", .pageDown), ("Enter", .enter), ("Esc", .esc),
   ("Tab", .tab), ("BackTab", .backTab), ("Backspace", .backspace), ("Delete", .delete)]

/-- The key that a recorded text stands for: a name, `Char:` or `Ctrl:` with a character, or `F:`
with a number. -/
def Key.ofRecord? (s : String) : Option Key :=
  match s.toList with
  | ['C', 'h', 'a', 'r', ':', c] => some (.char c)
  | ['C', 't', 'r', 'l', ':', c] => some (.ctrl c)
  | 'F' :: ':' :: n => (String.ofList n).toNat?.map fun n => .f (UInt8.ofNat n)
  | _ => (named.find? fun p => p.1 = s).map (·.2)

/-- The recorded text of a key. -/
def Key.record (k : Key) : String :=
  match k with
  | .char c => "Char:" ++ String.singleton c
  | .ctrl c => "Ctrl:" ++ String.singleton c
  | .f n => "F:" ++ toString n.toNat
  | k => ((named.find? fun p => p.2 = k).map (·.1)).getD ""

/-- The recorded name of what a key did. -/
def KeyEffect.record : KeyEffect → String
  | .ignored => "Ignored"
  | .moved => "Moved"
  | .edited => "Edited"

-- ==================================================== routes

/-- A route as a document. -/
def Route.record (r : Route) : Json :=
  let screen (name : String) (more : List (String × Json)) : Json :=
    .object (("screen", .string name) :: more)
  let ofId (name id : String) : Json := screen name [("id", .string id)]
  match r with
  | .login => screen "Login" []
  | .functions => screen "FunctionsList" []
  | .create => screen "FunctionCreate" []
  | .code id => ofId "FunctionCode" id
  | .versions id => ofId "FunctionVersions" id
  | .executions id => ofId "FunctionExecutions" id
  | .settings id => ofId "FunctionSettings" id
  | .test id => ofId "FunctionTest" id
  | .execution id => ofId "ExecutionDetail" id
  | .diff id old new =>
    screen "VersionDiff" [("id", .string id), ("old", .nat old.toNat), ("new", .nat new.toNat)]
  | .preview component => screen "Preview" [("component", .optional .string component)]

/-- The route of a document; a string is read as a path. -/
def Route.ofRecord? (j : Json) : Option Route :=
  match j with
  | .string path => Route.parse path
  | j =>
    let id := j.text "id"
    match j.text "screen" with
    | "Login" => some .login
    | "FunctionsList" => some .functions
    | "FunctionCreate" => some .create
    | "FunctionCode" => some (.code id)
    | "FunctionVersions" => some (.versions id)
    | "FunctionExecutions" => some (.executions id)
    | "FunctionSettings" => some (.settings id)
    | "FunctionTest" => some (.test id)
    | "ExecutionDetail" => some (.execution id)
    | "VersionDiff" => some (.diff id (j.shortWord "old") (j.shortWord "new"))
    | "Preview" => some (.preview (j.text? "component"))
    | _ => none

-- ==================================================== failures

/-- A failure as a document. -/
def ApiError.record (e : ApiError) : Json :=
  let kind (name : String) (more : List (String × Json)) : Json :=
    .object (("kind", .string name) :: more)
  match e with
  | .network text => kind "Network" [("message", .string text)]
  | .decode text => kind "Decode" [("message", .string text)]
  | .validation field message =>
    kind "Validation" [("field", .string field), ("message", .string message)]
  | .status code message => kind "Status" [("status", .nat code.toNat), ("message", .string message)]

/-- The failure of a document; the kind `Response` gives the answer that the failure is made of. -/
def ApiError.ofRecord (j : Json) : ApiError :=
  let status := UInt16.ofNat (j.natural "status")
  match j.text "kind" with
  | "Network" => .network (j.text "message")
  | "Decode" => .decode (j.text "message")
  | "Validation" => .validation (j.text "field") (j.text "message")
  | "Status" => .status status (j.text "message")
  | _ => .ofResponse status (j.text? "reason") (j.text "body")

-- ==================================================== requests

/-- The variables of an object. -/
def EnvVars.ofRecord (j : Json) : EnvVars := .ofList (j.asFields.map fun e => (e.1, e.2.asText))

/-- The method with a name. -/
def HttpMethod.ofName (s : String) : HttpMethod := (all.find? fun m => m.name = s).getD .get

/-- The patch of a document. -/
def FunctionPatch.ofRecord (j : Json) : FunctionPatch :=
  { name := j.text? "name"
    description := j.text? "description"
    code := j.text? "code"
    disabled := (j.field? "disabled").bind fun v =>
      match v with
      | .bool b => some b
      | _ => none }

/-- The new function of a document. -/
def NewFunction.ofRecord (j : Json) : NewFunction :=
  { name := j.text "name", description := j.text "description", code := j.text "code" }

/-- A page as a document. -/
def PageState.record (p : PageState) : Json :=
  .object [("limit", .nat p.limit.toNat), ("offset", .nat p.offset.toNat)]

/-- The page of a document. -/
def PageState.ofRecord (j : Json) : PageState := ⟨j.word "limit" 20, j.word "offset" 0⟩

/-- A request as a document. -/
def Request.record (r : Request) : Json :=
  let page (limit offset : UInt64) : List (String × Json) :=
    [("limit", .nat limit.toNat), ("offset", .nat offset.toNat)]
  let named (id : String) : String × Json := ("id", .string id)
  .object <| ("request", .string r.name) ::
    match r with
    | .login apiKey => [("api_key", .string apiKey)]
    | .logout => []
    | .listFunctions limit offset => page limit offset
    | .getFunction id | .deleteFunction id | .getExecution id => [named id]
    | .createFunction f => [("function", f.toJson)]
    | .updateFunction id patch => [named id, ("patch", patch.toJson)]
    | .updateEnv id vars => [named id, ("env_vars", EnvVars.format.encode vars)]
    | .listVersions id limit offset | .listExecutions id limit offset
    | .executionLogs id limit offset => named id :: page limit offset
    | .activateVersion id version => [named id, ("version", .nat version.toNat)]
    | .diffVersions id old new => [named id, ("old", .nat old.toNat), ("new", .nat new.toNat)]
    | .invoke id q =>
      [named id, ("invoke", .object
        [("method", .string q.method.name), ("query", .string q.query),
         ("headers", EnvVars.format.encode q.headers), ("body", .string q.body)])]

/-- The request of a document. -/
def Request.ofRecord (j : Json) : Request :=
  let id := j.text "id"
  let limit := j.word "limit" 0
  let offset := j.word "offset" 0
  match j.text "request" with
  | "login" => .login (j.text "api_key")
  | "logout" => .logout
  | "list_functions" => .listFunctions limit offset
  | "get_function" => .getFunction id
  | "create_function" => .createFunction (.ofRecord (j.get "function"))
  | "update_function" => .updateFunction id (.ofRecord (j.get "patch"))
  | "delete_function" => .deleteFunction id
  | "update_env" => .updateEnv id (.ofRecord (j.get "env_vars"))
  | "list_versions" => .listVersions id limit offset
  | "activate_version" => .activateVersion id (j.shortWord "version")
  | "diff_versions" => .diffVersions id (j.shortWord "old") (j.shortWord "new")
  | "list_executions" => .listExecutions id limit offset
  | "get_execution" => .getExecution id
  | "execution_logs" => .executionLogs id limit offset
  | _ =>
    let q := j.get "invoke"
    .invoke id
      { method := .ofName (q.text "method")
        query := q.text "query"
        headers := .ofRecord (q.get "headers")
        body := q.text "body" }

-- ==================================================== responses

/-- A function's answer as a document; how long it took is left out. -/
def InvokeResponse.record (r : InvokeResponse) : Json :=
  .object
    [("status", .nat r.status.toNat), ("headers", listOf (fun h => texts [h.1, h.2]) r.headers),
     ("body", .string r.body), ("execution_id", .optional .string r.executionId),
     ("is_success", .bool r.isSuccess), ("pretty_body", .string r.prettyBody)]

/-- The function's answer of a document. -/
def InvokeResponse.ofRecord (j : Json) : InvokeResponse :=
  { status := UInt16.ofNat (j.natural "status")
    headers := (j.items "headers").map Json.asPair
    body := j.text "body"
    durationMs := j.word "duration_ms" 0
    executionId := j.text? "execution_id" }

/-- The result of a document: an object under `err` is a failure, and what is under `ok` is read as
the value. -/
def resultOfRecord {α : Type} (ok : Json → Except Json.Cause α) (j : Json) : ApiError.Result α :=
  match j.field? "err" with
  | some (.object e) => .error (.ofRecord (.object e))
  | _ =>
    match ok (j.get "ok") with
    | .ok a => .ok a
    | .error cause => .error (.decode cause.message)

/-- A result as fields of a document. -/
def resultRecord {α : Type} (f : α → Json) : ApiError.Result α → List (String × Json)
  | .ok a => [("ok", f a)]
  | .error e => [("err", e.record)]

namespace Response

/-- Reads a result that has no value. -/
def nothing (_ : Json) : Except Json.Cause Unit := .ok ()

/-- Reads a function's answer. -/
def invokeAnswer (j : Json) : Except Json.Cause InvokeResponse := .ok (.ofRecord j)

/-- The response of a document. -/
def ofRecord (j : Json) : Response :=
  let page := PageState.ofRecord (j.get "page")
  match j.text "response" with
  | "logged_in" => .loggedIn (resultOfRecord nothing j)
  | "logged_out" => .loggedOut (resultOfRecord nothing j)
  | "functions" => .functions page (resultOfRecord Listing.functions.ofJson j)
  | "function" => .function (resultOfRecord Function.format.ofJson j)
  | "function_created" => .functionCreated (resultOfRecord nothing j)
  | "function_updated" => .functionUpdated (.ofRecord (j.get "patch")) (resultOfRecord nothing j)
  | "function_deleted" => .functionDeleted (resultOfRecord nothing j)
  | "env_updated" => .envUpdated (resultOfRecord nothing j)
  | "versions" => .versions page (resultOfRecord Listing.versions.ofJson j)
  | "version_activated" =>
    .versionActivated (j.shortWord "version") (resultOfRecord nothing j)
  | "diff" => .diff (resultOfRecord VersionDiff.format.ofJson j)
  | "executions" => .executions page (resultOfRecord Listing.executions.ofJson j)
  | "execution" => .execution (resultOfRecord Execution.format.ofJson j)
  | "logs" => .logs page (resultOfRecord Listing.logs.ofJson j)
  | _ => .invoked (resultOfRecord invokeAnswer j)

/-- The name of a kind of response. -/
def name : Response → String
  | .loggedIn _ => "logged_in"
  | .loggedOut _ => "logged_out"
  | .functions _ _ => "functions"
  | .function _ => "function"
  | .functionCreated _ => "function_created"
  | .functionUpdated _ _ => "function_updated"
  | .functionDeleted _ => "function_deleted"
  | .envUpdated _ => "env_updated"
  | .versions _ _ => "versions"
  | .versionActivated _ _ => "version_activated"
  | .diff _ => "diff"
  | .executions _ _ => "executions"
  | .execution _ => "execution"
  | .logs _ _ => "logs"
  | .invoked _ => "invoked"

/-- The result of a response as fields of a document. -/
def result : Response → List (String × Json)
  | .loggedIn r | .loggedOut r | .functionCreated r | .functionUpdated _ r | .functionDeleted r
  | .envUpdated r | .versionActivated _ r => resultRecord (fun _ => .null) r
  | .functions _ r => resultRecord Listing.functions.encode r
  | .function r => resultRecord Function.format.encode r
  | .versions _ r => resultRecord Listing.versions.encode r
  | .diff r => resultRecord VersionDiff.format.encode r
  | .executions _ r => resultRecord Listing.executions.encode r
  | .execution r => resultRecord Execution.format.encode r
  | .logs _ r => resultRecord Listing.logs.encode r
  | .invoked r => resultRecord InvokeResponse.record r

/-- What a response repeats of its request. -/
def echo : Response → List (String × Json)
  | .functions page _ | .versions page _ | .executions page _ | .logs page _ =>
    [("page", page.record)]
  | .functionUpdated patch _ => [("patch", patch.toJson)]
  | .versionActivated version _ => [("version", .nat version.toNat)]
  | _ => []

/-- A response as a document. -/
def record (r : Response) : Json := .object (("response", .string r.name) :: r.echo ++ r.result)

end Response

-- ==================================================== settings

/-- The settings of a document; what is missing has its default. -/
def Settings.ofRecord (j : Json) : Settings :=
  let dflt : Settings := {}
  let server := j.get "server"
  let ui := j.get "ui"
  { server :=
      { baseUrl := (server.text? "base_url").getD dflt.server.baseUrl
        apiKey := server.text? "api_key" }
    ui :=
      { pageSize := ui.word "page_size" dflt.ui.pageSize
        toastDurationMs := ui.word "toast_duration_ms" dflt.ui.toastDurationMs
        paletteLimit := ui.word "palette_limit" dflt.ui.paletteLimit
        tickRateMs := ui.word "tick_rate_ms" dflt.ui.tickRateMs } }

/-- Settings as a document. -/
def Settings.record (s : Settings) : Json :=
  .object
    [("server", .object
       [("base_url", .string s.server.baseUrl), ("api_key", .optional .string s.server.apiKey)]),
     ("ui", .object
       [("page_size", .nat s.ui.pageSize.toNat),
        ("toast_duration_ms", .nat s.ui.toastDurationMs.toNat),
        ("palette_limit", .nat s.ui.paletteLimit.toNat),
        ("tick_rate_ms", .nat s.ui.tickRateMs.toNat)])]

end FunctionConsole
