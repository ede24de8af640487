import FunctionConsole.Json.Reader
import FunctionConsole.Problem
import FunctionConsole.Text.Word

/-!
# Failed requests

Whatever goes wrong with a request is one of four things: no answer came, the answer could not be
read, the server refused the value of a field, or it answered with another status. The message of
a refusal is taken from the body if it has one.
-/

namespace FunctionConsole

/-- Why a request failed. -/
inductive ApiError where
  | network (text : String)
  | decode (text : String)
  | validation (field message : String)
  | status (code : UInt16) (message : String)
  deriving DecidableEq, Repr, Inhabited

namespace ApiError

/-- The result of a request. -/
abbrev Result (α : Type) := Except ApiError α

/-- The text shown to the user. -/
def message : ApiError → String
  | .network text => text
  | .decode text => "Unexpected response: " ++ text
  | .validation field message => field ++ ": " ++ message
  | .status _ message => message

/-- The status that the server answered with. A refused field counts as 400. -/
def code? : ApiError → Option UInt16
  | .status code _ => some code
  | .validation _ _ => some 400
  | _ => none

/-- The session is unknown to the server. -/
def isUnauthorized (e : ApiError) : Bool := e.code? == some 401

/-- The resource is unknown to the server. -/
def isNotFound (e : ApiError) : Bool := e.code? == some 404

/-- Splits `name: must not be empty` into the field's name and the complaint. The name consists of
word characters, and the complaint stands on one line. -/
def splitFieldError (message : String) : Option (String × String) :=
  let l := Text.trimChars message.toList
  let field := l.takeWhile Text.isWord
  match l.dropWhile Text.isWord with
  | ':' :: rest =>
    let text := rest.dropWhile Text.isBlank
    if field.isEmpty || text.isEmpty || text.contains '\n' then none
    else some (String.ofList field, String.ofList text)
  | _ => none

/-- The message in a body: its `error` field, or its `message` field, whichever first is a text
that is not blank. -/
def bodyMessage? (body : String) : Option String :=
  match Json.parse body with
  | .error _ => none
  | .ok v => ["error", "message"].findSome? fun key =>
    (v.field? key).bind fun f => f.string?.bind fun s => Text.nonBlank? (Text.trim s)

/-- What an answer with a status other than success says: the message in its body, or the reason
that belongs to the status, or its number. -/
def answerText (status : UInt16) (reason : Option String) (body : String) : String :=
  ((bodyMessage? body) <|> reason).getD ("HTTP " ++ toString status.toNat)

/-- The failure that an answer with a status other than success stands for. A text of the form
`field: complaint` under the status 400 or 422 is about that field. -/
def ofResponse (status : UInt16) (reason : Option String) (body : String) : ApiError :=
  let message := answerText status reason body
  if status = 400 || status = 422 then
    match splitFieldError message with
    | some (field, text) => .validation field text
    | none => .status status message
  else .status status message

/-- A failure is about a field exactly if the status allows it and the text is of that form. -/
theorem ofResponse_cases (status : UInt16) (reason : Option String) (body : String) :
    ((status = 400 ∨ status = 422) ∧ ∃ field text,
      splitFieldError (answerText status reason body) = some (field, text) ∧
        ofResponse status reason body = .validation field text) ∨
    ((status = 400 ∨ status = 422 →
      splitFieldError (answerText status reason body) = none) ∧
        ofResponse status reason body = .status status (answerText status reason body)) := by
  unfold ofResponse
  dsimp only
  split
  · next hrefused =>
      have hstatus : status = 400 ∨ status = 422 := by simpa using hrefused
      split
      · next field text hsplit => exact .inl ⟨hstatus, field, text, hsplit, rfl⟩
      · next hwhole => exact .inr ⟨fun _ => hwhole, rfl⟩
  · next hother => exact .inr ⟨fun hstatus => absurd (by simpa using hstatus) hother, rfl⟩

/-- The failure as a problem of the console. -/
def toProblem (e : ApiError) : Problem := .backend e.message

end ApiError

end FunctionConsole
