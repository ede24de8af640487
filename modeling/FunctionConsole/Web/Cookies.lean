import FunctionConsole.Web.Exchange

/-!
# Cookies

What a server asks the console to keep and to send back. A cookie belongs to the directory it was
set for and everything below, and may run out after a number of seconds; setting it again replaces
it. The console talks to one server, so domains play no part.
-/

namespace FunctionConsole.Web

/-- A cookie that is kept. Moments are in milliseconds. -/
structure Cookie where
  name : List Char
  value : List Char
  path : List Char
  secure : Bool := false
  expiresAt : Option Int := none
  deriving DecidableEq, Repr, Inhabited

/-- The cookies that are kept, the oldest first. -/
abbrev Cookies := List Cookie

namespace Cookie

/-- Splits at the first equals sign, and trims both parts. -/
def pair (cs : List Char) : List Char × List Char :=
  (Text.trimChars (cs.takeWhile (· ≠ '=')), Text.trimChars ((cs.dropWhile (· ≠ '=')).drop 1))

/-- The directory of a request's path. -/
def directory (path : List Char) : List Char :=
  match Url.toLastSlash path with
  | [] => ['/']
  | ['/'] => ['/']
  | d => d.dropLast

/-- A number of seconds, which may be negative. -/
def seconds? (cs : List Char) : Option Int :=
  match cs with
  | '-' :: ds => if ds.isEmpty then none else (Host.ofDigits? 10 ds).map fun n => -(n : Int)
  | ds => if ds.isEmpty then none else (Host.ofDigits? 10 ds).map Int.ofNat

/-- Applies one attribute. -/
def withAttribute (now : Int) (c : Cookie) (cs : List Char) : Cookie :=
  let (name, value) := pair cs
  match String.ofList (name.map Char.toLower) with
  | "path" => if value.head? = some '/' then { c with path := value } else c
  | "max-age" =>
    match seconds? value with
    | some n => { c with expiresAt := some (if n ≤ 0 then now else now + 1000 * n) }
    | none => c
  | "secure" => { c with secure := true }
  | _ => c

/-- The cookie that a reply to a request for `path` sets. -/
def ofField? (now : Int) (path : List Char) (field : List Char) : Option Cookie :=
  match Text.splitOnChar (· == ';') field with
  | [] => none
  | first :: attributes =>
    let (name, value) := pair first
    if name.isEmpty ∨ !first.contains '=' then none
    else some (attributes.foldl (withAttribute now) { name, value, path := directory path })

/-- Whether a cookie goes with a request. -/
def goesWith (now : Int) (u : Url) (c : Cookie) : Bool :=
  (c.expiresAt.all fun t => now < t) && (!c.secure || u.secure) &&
    (u.path == c.path ||
      (c.path.isPrefixOf u.path &&
        (c.path.getLast? == some '/' || (u.path.drop c.path.length).head? == some '/')))

end Cookie

namespace Cookies

/-- Keeps a cookie, in place of one with the same name and path. -/
def keep (cs : Cookies) (c : Cookie) : Cookies :=
  cs.filter (fun d => !(d.name == c.name && d.path == c.path)) ++ [c]

/-- Keeps what a reply sets, and drops what has run out. -/
def update (now : Int) (u : Url) (r : Incoming) (cs : Cookies) : Cookies :=
  let set := (r.values "set-cookie").filterMap fun v =>
    Cookie.ofField? now u.path (Text.looseText v).toList
  (set.foldl keep cs).filter fun c => c.expiresAt.all fun t => now < t

/-- The header field for a request, if any cookie goes with it. -/
def field? (now : Int) (u : Url) (cs : Cookies) : Option (String × String) :=
  match cs.filter (Cookie.goesWith now u) with
  | [] => none
  | l => some ("cookie", "; ".intercalate (l.map fun c =>
      String.ofList (c.name ++ ['='] ++ c.value)))

end Cookies

end FunctionConsole.Web
