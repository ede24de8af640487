import FunctionConsole.CodeExample
import FunctionConsole.Editor.TextArea
import FunctionConsole.Editor.TextInput
import FunctionConsole.Screen.Settings

/-!
# Test of a function

A request is put together, the function is called with it, and the answer and its logs are shown.
Headers are typed as a document: an object whose values are taken as texts.
-/

namespace FunctionConsole

/-- The parts of the screen that take keys. -/
inductive TestField where
  | method
  | query
  | headers
  | body
  | send
  deriving DecidableEq, Repr, Inhabited

namespace TestField

/-- The next part; after the last comes the first. -/
def next : TestField → TestField
  | .method => .query
  | .query => .headers
  | .headers => .body
  | .body => .send
  | .send => .method

/-- The part before. -/
def prev : TestField → TestField
  | .method => .send
  | .query => .method
  | .headers => .query
  | .body => .headers
  | .send => .body

end TestField

/-- Why typed headers cannot be sent. -/
inductive HeadersFault where
  | notDocument (fault : Json.Fault)
  | notObject
  deriving DecidableEq, Repr

/-- The wording of a fault in typed headers. -/
def HeadersFault.message : HeadersFault → String
  | .notDocument fault => "Invalid JSON: " ++ fault.message
  | .notObject => "Headers must be a JSON object"

/-- The text of a header's value: a string is taken as it is, any other value as it is written. -/
def headerText : Json → String
  | .string s => s
  | v => v.compact

/-- The headers that a text gives; a blank text gives none. -/
def parseHeaders (text : String) : Except HeadersFault EnvVars :=
  if Text.isAllBlank text then .ok .empty
  else match Json.parse text with
    | .error fault => .error (.notDocument fault)
    | .ok (.object fields) => .ok (.ofList (fields.map fun f => (f.1, headerText f.2)))
    | .ok _ => .error .notObject

/-- The screen on which a function is called. -/
structure TestScreen where
  id : String
  function : Loadable Function := .loading
  focus : TestField := .method
  method : HttpMethod := .get
  query : TextInput := {}
  headers : TextArea
  body : TextArea := {}
  headersError : Option HeadersFault := none
  sending : Bool := false
  response : Option InvokeResponse := none
  /-- The logs of the last call; none until a call names its execution. -/
  logs : Option (Loadable LogList) := none
  language : CodeLanguage := .curl
  baseUrl : String
  deriving DecidableEq, Repr

namespace TestScreen

/-- The headers at first. -/
def initialHeaders : String := "\x7b\n  \"Content-Type\": \"application/json\"\n\x7d"

/-- How many log lines of a call are asked for. -/
def logLimit : UInt64 := 100

/-- The screen on entry, and its requests. -/
def enter (id : String) (ctx : ScreenContext) : TestScreen × List Request :=
  ({ id, headers := .ofString initialHeaders, baseUrl := ctx.baseUrl }, [.getFunction id])

/-- The query that is sent: trimmed, and without one question mark in front. -/
def queryText (s : TestScreen) : String :=
  match Text.trimChars s.query.chars with
  | '?' :: rest => String.ofList rest
  | q => String.ofList q

/-- The address that is called. -/
def url (s : TestScreen) : String :=
  let address := invocationAddress s.baseUrl s.id
  if s.queryText = "" then address else address ++ "?" ++ s.queryText

/-- The example for the call in the chosen language. -/
def codeExample (s : TestScreen) : String :=
  CodeExample.generate s.language s.method s.url s.body.text

/-- Makes the call, unless one is on its way or the headers are at fault. -/
def send (s : TestScreen) : TestScreen × Effects :=
  if s.sending then (s, .none)
  else match parseHeaders s.headers.text with
    | .error fault => ({ s with headersError := some fault, focus := .headers }, .none)
    | .ok headers =>
      ({ s with headersError := none, sending := true, response := none, logs := none },
        .request (.invoke s.id
          { method := s.method, query := s.queryText, headers, body := s.body.text }))

/-- What a key does to the part in focus. -/
def focusedKey (s : TestScreen) (key : Key) : Option (TestScreen × Effects) :=
  match s.focus with
  | .method =>
    match key with
    | .left | .char 'h' => some ({ s with method := s.method.prev }, .none)
    | .right | .char 'l' => some ({ s with method := s.method.next }, .none)
    | _ => none
  | .query =>
    let (query, effect) := s.query.handleKey key
    if effect.consumed then some ({ s with query }, .none) else none
  | .headers =>
    let (headers, effect) := s.headers.handleKey key
    let headersError := if effect.changed then none else s.headersError
    if effect.consumed then some ({ s with headers, headersError }, .none) else none
  | .body =>
    let (body, effect) := s.body.handleKey key
    if effect.consumed then some ({ s with body }, .none) else none
  | .send =>
    match key with
    | .enter => some s.send
    | _ => none

/-- What a key does. -/
def handleKey (s : TestScreen) : Key → Option (TestScreen × Effects)
  | .ctrl 's' => some s.send
  | .ctrl 'e' => some ({ s with language := s.language.next }, .none)
  | .tab => some ({ s with focus := s.focus.next }, .none)
  | .backTab => some ({ s with focus := s.focus.prev }, .none)
  | key => s.focusedKey key

/-- What a response does. -/
def handleResponse (s : TestScreen) : Response → TestScreen × Effects
  | .function (.ok f) => ({ s with function := .loaded f }, .none)
  | .function (.error e) => ({ s with function := .notFound }, .failure e.message)
  | .invoked (.ok r) =>
    match r.executionId with
    | some id =>
      ({ s with sending := false, logs := some .loading, response := some r },
        .request (.executionLogs id logLimit 0))
    | none => ({ s with sending := false, response := some r }, .none)
  | .invoked (.error e) =>
    ({ s with sending := false }, .failure ("Execution failed: " ++ e.message))
  | .logs _ (.ok list) => ({ s with logs := some (.loaded list) }, .none)
  | .logs _ (.error e) => ({ s with logs := some .notFound }, .failure e.message)
  | _ => (s, .none)

end TestScreen

end FunctionConsole
