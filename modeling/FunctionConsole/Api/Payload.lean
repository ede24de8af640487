import FunctionConsole.Resource.EnvVars
import FunctionConsole.Resource.Execution

/-!
# What requests carry

The bodies that the console sends, and the answer of a function that it calls.
-/

namespace FunctionConsole

/-- The body of a request to create a function. -/
structure NewFunction where
  name : String
  description : String
  code : String
  deriving DecidableEq, Repr, Inhabited

/-- A new function as a document. -/
def NewFunction.toJson (f : NewFunction) : Json :=
  .object [("name", .string f.name), ("description", .string f.description),
    ("code", .string f.code)]

/-- The changes that a request makes to a function; what is absent stays as it is. -/
structure FunctionPatch where
  name : Option String := none
  description : Option String := none
  code : Option String := none
  disabled : Option Bool := none
  deriving DecidableEq, Repr, Inhabited

namespace FunctionPatch

/-- The patch as a document, which holds the fields that are set. -/
def toJson (p : FunctionPatch) : Json :=
  .object <|
    (p.name.map fun s => ("name", Json.string s)).toList ++
    (p.description.map fun s => ("description", Json.string s)).toList ++
    (p.code.map fun s => ("code", Json.string s)).toList ++
    (p.disabled.map fun b => ("disabled", Json.bool b)).toList

/-- Whether a patch changes nothing. -/
def isEmpty (p : FunctionPatch) : Bool :=
  p.name.isNone && p.description.isNone && p.code.isNone && p.disabled.isNone

end FunctionPatch

/-- The methods that the test screen offers, in the order of its selector. -/
inductive HttpMethod where
  | get
  | post
  | put
  | delete
  | patch
  deriving DecidableEq, Repr, Inhabited

namespace HttpMethod

/-- The name of a method. -/
def name : HttpMethod → String
  | .get => "GET"
  | .post => "POST"
  | .put => "PUT"
  | .delete => "DELETE"
  | .patch => "PATCH"

/-- Whether a request with this method carries a body. -/
def hasBody : HttpMethod → Bool
  | .post | .put | .patch => true
  | .get | .delete => false

/-- The next method of the selector; after the last comes the first. -/
def next : HttpMethod → HttpMethod
  | .get => .post
  | .post => .put
  | .put => .delete
  | .delete => .patch
  | .patch => .get

/-- The method before, the reverse of `next`. -/
def prev : HttpMethod → HttpMethod
  | .get => .patch
  | .post => .get
  | .put => .post
  | .delete => .put
  | .patch => .delete

/-- All methods in the order of the selector. -/
def all : List HttpMethod := [.get, .post, .put, .delete, .patch]

end HttpMethod

/-- A call of a function through its public address. -/
structure InvokeRequest where
  method : HttpMethod := .get
  /-- The query as typed, without a question mark in front. -/
  query : String := ""
  headers : EnvVars := .empty
  body : String := ""
  deriving DecidableEq, Repr, Inhabited

/-- What a called function answered, whatever the status. -/
structure InvokeResponse where
  status : UInt16
  headers : List (String × String) := []
  body : String := ""
  durationMs : UInt64 := 0
  executionId : Option String := none
  deriving DecidableEq, Repr, Inhabited

namespace InvokeResponse

/-- Whether the status is one of success. -/
def isSuccess (r : InvokeResponse) : Bool := 200 ≤ r.status && r.status < 300

/-- The body, spread out if it is a document. -/
def prettyBody (r : InvokeResponse) : String := prettyText r.body

end InvokeResponse

end FunctionConsole
