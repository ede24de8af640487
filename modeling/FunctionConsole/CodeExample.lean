import FunctionConsole.Api.Payload
import FunctionConsole.Text.Blank

/-!
# Code examples

Programs in four languages that make the call which the test screen is about to make. A body is
shown only for a method that carries one, trimmed, and if it is not blank.
-/

namespace FunctionConsole

/-- The languages of the examples. -/
inductive CodeLanguage where
  | curl
  | javaScript
  | python
  | go
  deriving DecidableEq, Repr, Inhabited

namespace CodeLanguage

/-- The label of a language. -/
def label : CodeLanguage → String
  | .curl => "cURL"
  | .javaScript => "JavaScript (fetch)"
  | .python => "Python (requests)"
  | .go => "Go (net/http)"

/-- The languages in the order of the selector. -/
def all : List CodeLanguage := [.curl, .javaScript, .python, .go]

/-- The next language; after the last comes the first. -/
def next : CodeLanguage → CodeLanguage
  | .curl => .javaScript
  | .javaScript => .python
  | .python => .go
  | .go => .curl

end CodeLanguage

namespace CodeExample

/-- A text inside single quotes of a shell: a quote closes them, stands escaped, and opens them
again. -/
def shellQuoted (s : List Char) : List Char :=
  s.flatMap fun c => if c = '\'' then ['\'', '\\', '\'', '\''] else [c]

/-- A text inside a single-quoted script string: backslashes and quotes are escaped. -/
def scriptQuoted (s : List Char) : List Char :=
  s.flatMap fun c => if c = '\\' then ['\\', '\\'] else if c = '\'' then ['\\', '\''] else [c]

/-- The body that is shown. -/
def body? (method : HttpMethod) (body : String) : Option String :=
  if method.hasBody then Text.nonBlank? (Text.trim body) else none

/-- A command for a shell. -/
def curl (method : HttpMethod) (url : String) (body : Option String) : String :=
  "curl -X " ++ method.name ++ " '" ++ url ++ "'" ++
    match body with
    | some b =>
      " \\\n  -H 'Content-Type: application/json' \\\n  -d '" ++
        String.ofList (shellQuoted b.toList) ++ "'"
    | none => ""

/-- A script for a browser. -/
def javaScript (method : HttpMethod) (url : String) (body : Option String) : String :=
  "fetch('" ++ url ++ "', \x7b\n  method: '" ++ method.name ++ "'," ++
    (match body with
    | some b =>
      "\n  headers: \x7b\n    'Content-Type': 'application/json'\n  \x7d,\n  body: '" ++
        String.ofList (scriptQuoted b.toList) ++ "'"
    | none => "") ++
    "\n\x7d)\n  .then(response => response.text())\n  .then(data => console.log(data))\n" ++
    "  .catch(error => console.error('Error:', error));"

/-- A script that takes the body for an expression of its own. -/
def python (method : HttpMethod) (url : String) (body : Option String) : String :=
  "import requests\n\nresponse = requests." ++ method.name.toLower ++ "('" ++ url ++ "'" ++
    (match body with
    | some b => ",\n    json=" ++ b
    | none => "") ++
    ")\nprint(response.text)"

/-- A program of its own. -/
def go (method : HttpMethod) (url : String) (body : Option String) : String :=
  let target := "\"" ++ method.name ++ "\", \"" ++ url ++ "\", "
  let request := match body with
    | some b =>
      "body := strings.NewReader(`" ++ b ++ "`)\n    req, err := http.NewRequest(" ++ target ++
        "body)"
    | none => "req, err := http.NewRequest(" ++ target ++ "nil)"
  "package main\n\nimport (\n    \"fmt\"\n    \"io\"\n    \"net/http\"" ++
    (if body.isSome then "\n    \"strings\"" else "") ++
    "\n)\n\nfunc main() \x7b\n    " ++ request ++
    "\n    if err != nil \x7b\n        panic(err)\n    \x7d\n    " ++
    (if body.isSome then "req.Header.Set(\"Content-Type\", \"application/json\")\n    " else "") ++
    "\n    client := &http.Client\x7b\x7d\n    resp, err := client.Do(req)\n" ++
    "    if err != nil \x7b\n        panic(err)\n    \x7d\n    defer resp.Body.Close()\n\n" ++
    "    bodyBytes, _ := io.ReadAll(resp.Body)\n    fmt.Println(string(bodyBytes))\n\x7d"

/-- The example in a language for a call with the given method, address and body. -/
def generate (language : CodeLanguage) (method : HttpMethod) (url body : String) : String :=
  let b := body? method body
  match language with
  | .curl => curl method url b
  | .javaScript => javaScript method url b
  | .python => python method url b
  | .go => go method url b

end CodeExample

end FunctionConsole
