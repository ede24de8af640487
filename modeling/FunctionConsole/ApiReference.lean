/-!
# Reference of the function runtime

The calls that the code of a function may make, in sections that the code screen shows as tabs.
-/

namespace FunctionConsole

/-- A call that function code may make. -/
structure ApiItem where
  name : String
  kind : String
  description : String
  deriving DecidableEq, Repr, Inhabited

/-- A module of the runtime. -/
structure ApiSection where
  id : String
  name : String
  description : String
  items : List ApiItem
  deriving DecidableEq, Repr, Inhabited

namespace ApiSection

/-- A call that is a function. -/
def call (name description : String) : ApiItem := ⟨name, "function", description⟩

/-- The sections in the order of their tabs. -/
def all : List ApiSection :=
  [⟨"http", "HTTP", "HTTP client for making web requests",
     [call "http.get(url, opts)" "Perform GET request",
      call "http.post(url, body, opts)" "Perform POST request",
      call "http.put(url, body, opts)" "Perform PUT request",
      call "http.delete(url, opts)" "Perform DELETE request"]⟩,
   ⟨"log", "Log", "Logging utilities for debugging",
     [call "log.info(msg)" "Log info message",
      call "log.error(msg)" "Log error message",
      call "log.warn(msg)" "Log warning message",
      call "log.debug(msg)" "Log debug message"]⟩,
   ⟨"env", "Env", "Environment variable management",
     [call "env.get(key)" "Get environment variable",
      call "env.set(key, value)" "Set environment variable",
      call "env.delete(key)" "Delete environment variable"]⟩,
   ⟨"json", "JSON", "JSON encoding and decoding",
     [call "json.encode(value)" "Encode value to JSON string",
      call "json.decode(str)" "Decode JSON string to value"]⟩]

/-- The section of a tab; positions beyond the last start over. -/
def get (i : Nat) : ApiSection := (all[i % all.length]?).getD default

end ApiSection

end FunctionConsole
