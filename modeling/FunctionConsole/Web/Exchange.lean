import FunctionConsole.Web.Url

/-!
# Requests and replies on the wire

What is sent to a server and what comes back, how header fields have to look, and the reasons that
belong to the statuses.
-/

namespace FunctionConsole.Web

/-- What is sent. Names of header fields are in lower case. -/
structure Outgoing where
  method : String
  url : Url
  headers : List (String × String) := []
  body : Option String := none
  deriving Repr, Inhabited

/-- What comes back. -/
structure Incoming where
  status : UInt16
  headers : List (String × List UInt8) := []
  body : List UInt8 := []
  deriving Repr, Inhabited

/-- A way to reach a server: the reply to a request, or none if the server cannot be reached. -/
abbrev Transport (m : Type → Type) := Outgoing → m (Option Incoming)

-- ==================================================== header fields

/-- A character of a field's name. -/
def isFieldNameChar (c : Char) : Bool :=
  c.isAlphanum ||
    ['!', '#', '$', '%', '&', '\'', '*', '+', '-', '.', '^', '_', Char.ofNat 0x60, '|', '~'].contains c

/-- A field's name in lower case. -/
def fieldName? (s : String) : Option String :=
  let cs := s.toList
  if cs.isEmpty ∨ !cs.all isFieldNameChar then none else some (String.ofList (cs.map Char.toLower))

/-- Whether a text can be a field's value: it has no control character but the tab. -/
def isFieldValue (s : String) : Bool := s.toList.all fun c => c == '\t' || !isControl c

/-- A header field that can be sent. -/
def field? (e : String × String) : Option (String × String) :=
  (fieldName? e.1).bind fun name => if isFieldValue e.2 then some (name, e.2) else none

namespace Incoming

/-- Whether the status is one of success. -/
def isSuccess (r : Incoming) : Bool := 200 ≤ r.status && r.status < 300

/-- The values of a field. -/
def values (r : Incoming) (name : String) : List (List UInt8) :=
  (r.headers.filter fun h => h.1 = name).map Prod.snd

/-- The body as text. -/
def text (r : Incoming) : String := Text.looseText r.body

/-- The first value of a field, if all of it is visible ASCII. -/
def visibleValue? (r : Incoming) (name : String) : Option String :=
  (r.values name).head?.bind fun v =>
    if v.all fun b => (32 ≤ b && b < 127) || b == 9 then
      some (String.ofList (v.map fun b => Char.ofNat b.toNat))
    else none

end Incoming

-- ==================================================== reasons

/-- The reason that belongs to a status. -/
def reason? (status : UInt16) : Option String :=
  (reasons.find? fun r => r.1 = status).map Prod.snd
where
  /-- The statuses with a reason. -/
  reasons : List (UInt16 × String) :=
    [(100, "Continue"), (101, "Switching Protocols"), (102, "Processing"), (200, "OK"),
     (201, "Created"), (202, "Accepted"), (203, "Non Authoritative Information"),
     (204, "No Content"), (205, "Reset Content"), (206, "Partial Content"), (207, "Multi-Status"),
     (208, "Already Reported"), (226, "IM Used"), (300, "Multiple Choices"),
     (301, "Moved Permanently"), (302, "Found"), (303, "See Other"), (304, "Not Modified"),
     (305, "Use Proxy"), (307, "Temporary Redirect"), (308, "Permanent Redirect"),
     (400, "Bad Request"), (401, "Unauthorized"), (402, "Payment Required"), (403, "Forbidden"),
     (404, "Not Found"), (405, "Method Not Allowed"), (406, "Not Acceptable"),
     (407, "Proxy Authentication Required"), (408, "Request Timeout"), (409, "Conflict"),
     (410, "Gone"), (411, "Length Required"), (412, "Precondition Failed"),
     (413, "Payload Too Large"), (414, "URI Too Long"), (415, "Unsupported Media Type"),
     (416, "Range Not Satisfiable"), (417, "Expectation Failed"), (418, "I'm a teapot"),
     (421, "Misdirected Request"), (422, "Unprocessable Entity"), (423, "Locked"),
     (424, "Failed Dependency"), (425, "Too Early"), (426, "Upgrade Required"),
     (428, "Precondition Required"), (429, "Too Many Requests"),
     (431, "Request Header Fields Too Large"), (451, "Unavailable For Legal Reasons"),
     (500, "Internal Server Error"), (501, "Not Implemented"), (502, "Bad Gateway"),
     (503, "Service Unavailable"), (504, "Gateway Timeout"), (505, "HTTP Version Not Supported"),
     (506, "Variant Also Negotiates"), (507, "Insufficient Storage"), (508, "Loop Detected"),
     (510, "Not Extended"), (511, "Network Authentication Required")]

end FunctionConsole.Web
