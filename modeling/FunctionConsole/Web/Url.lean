import FunctionConsole.Web.Host

/-!
# Addresses on the web

An address of a server that speaks HTTP, taken apart: who, where, which path, query and fragment.
Reading is as forgiving as the URL standard asks: blanks around the address and tabs and breaks in
it do not count, backslashes are slashes, dot segments are resolved, and what a part may not hold is
percent-coded. The path is kept as text; it starts with a slash.
-/

namespace FunctionConsole.Web

/-- An address of a server that speaks HTTP. -/
structure Url where
  secure : Bool := false
  username : List Char := []
  password : Option (List Char) := none
  host : List Char
  portNumber : Option Nat := none
  path : List Char := ['/']
  query : Option (List Char) := none
  fragment : Option (List Char) := none
  deriving DecidableEq, Repr, Inhabited

namespace Url

-- ==================================================== paths

/-- Tabs and line breaks, which an address ignores wherever they stand. -/
def isIgnored (c : Char) : Bool := c == '\t' || c == '\n' || c == '\r'

/-- The text up to the last slash, that included. -/
def toLastSlash (path : List Char) : List Char := (path.reverse.dropWhile (· ≠ '/')).reverse

/-- The spellings of a segment that stands for the directory itself. -/
def isHere (segment : List Char) : Bool :=
  let s := segment.map Char.toLower
  s == ['.'] || s == "%2e".toList

/-- The spellings of a segment that stands for the directory above. -/
def isAbove (segment : List Char) : Bool :=
  let s := segment.map Char.toLower
  ["..", "%2e%2e", ".%2e", "%2e."].any fun t => s == t.toList

/-- Whether the last segment of a path that ends in a slash names a drive, as in `/C:/`. -/
def endsInDrive (path : List Char) : Bool :=
  match path.reverse with
  | '/' :: colon :: letter :: '/' :: _ => letter.isAlpha && (colon == ':' || colon == '|')
  | _ => false

/-- The path without its last segment, for a path that ends in a slash; the root and a drive
stay. -/
def above (path : List Char) : List Char :=
  if path = ['/'] ∨ endsInDrive path then path else toLastSlash path.dropLast

/-- Adds a segment to a path that ends in a slash, and a slash if more follows. -/
def addSegment (path segment : List Char) (more : Bool) : List Char :=
  if isAbove segment then above path
  else if isHere segment then path
  else path ++ segment ++ (if more then ['/'] else [])

/-- Adds segments to a path that ends in a slash, with slashes between them. -/
def addSegments (path : List Char) : List (List Char) → List Char
  | [] => path
  | [s] => addSegment path s false
  | s :: more => addSegments (addSegment path s true) more

-- ==================================================== reading

/-- A character that separates the segments of a path. -/
def isSlash (c : Char) : Bool := c == '/' || c == '\\'

/-- Splits at the first character that satisfies `p`, which stays with the second part. -/
def splitBefore (p : Char → Bool) (cs : List Char) : List Char × List Char :=
  (cs.takeWhile fun c => !p c, cs.dropWhile fun c => !p c)

/-- The scheme in front of a colon, in lower case, and what comes after. -/
def scheme? (cs : List Char) : Option (List Char × List Char) :=
  match splitBefore (· == ':') cs with
  | (c :: s, ':' :: rest) =>
    if c.isAlpha ∧ s.all fun d => d.isAlphanum || ['+', '-', '.'].contains d then
      some ((c :: s).map Char.toLower, rest)
    else none
  | _ => none

/-- Splits at the last at-sign: who, and where. -/
def splitUser (cs : List Char) : Option (List Char) × List Char :=
  if cs.contains '@' then
    (some ((cs.reverse.dropWhile (· ≠ '@')).drop 1).reverse, (cs.reverse.takeWhile (· ≠ '@')).reverse)
  else (none, cs)

/-- The user name and, unless it is empty, the password. -/
def userParts (user : List Char) : List Char × Option (List Char) :=
  match splitBefore (· == ':') user with
  | (name, ':' :: c :: secret) =>
    (percentEncode inUserSet name, some (percentEncode inUserSet (c :: secret)))
  | (name, _) => (percentEncode inUserSet name, none)

/-- Splits a host from the number after it: at the first colon outside brackets. -/
def splitPort : (inside : Bool) → List Char → List Char × Option (List Char)
  | _, [] => ([], none)
  | inside, c :: cs =>
    if c = ':' ∧ !inside then ([], some cs)
    else
      let (host, number) := splitPort (if c = '[' then true else if c = ']' then false else inside) cs
      (c :: host, number)

/-- The number that a scheme assumes. -/
def assumedPort (secure : Bool) : Nat := if secure then 443 else 80

/-- The number in a text, which may be empty; the assumed one is left out. -/
def portNumber? (secure : Bool) (cs : List Char) : Option (Option Nat) :=
  if cs.all Char.isDigit then
    match Host.ofDigits? 10 cs with
    | some n =>
      if 65535 < n then none
      else some (if cs.isEmpty ∨ n = assumedPort secure then none else some n)
    | none => none
  else none

/-- Reads an address; only those of servers that speak HTTP are addresses here. -/
def parse? (text : List Char) : Option Url := do
  let cs := (Text.dropAroundWhile (fun c => c.toNat ≤ 32) text).filter fun c => !isIgnored c
  let (scheme, rest) ← scheme? cs
  let secure ←
    if scheme = "http".toList then some false else if scheme = "https".toList then some true else none
  let (authority, rest) :=
    splitBefore (fun c => isSlash c || c == '?' || c == '#') (rest.dropWhile isSlash)
  let (user, place) := splitUser authority
  let (username, password) := userParts (user.getD [])
  let (host, number) := splitPort false place
  let host ← Host.parse? host
  let portNumber ← portNumber? secure (number.getD [])
  let (pathText, rest) := splitBefore (fun c => c == '?' || c == '#') rest
  let (queryText, fragmentText) := splitBefore (· == '#') rest
  some
    { secure, username, password, host, portNumber
      path := addSegments ['/']
        ((Text.splitOnChar isSlash (pathText.drop 1)).map (percentEncode inPathSet))
      query := queryText.tail?.map (percentEncode inQuerySet)
      fragment := fragmentText.tail?.map (percentEncode inFragmentSet) }

-- ==================================================== writing

/-- The scheme, who and where, up to the path. -/
def origin (u : Url) : List Char :=
  let user :=
    if u.username.isEmpty ∧ u.password.isNone then []
    else u.username ++ (u.password.map (':' :: ·)).getD [] ++ ['@']
  (if u.secure then "https://" else "http://").toList ++ user ++ u.host ++
    (u.portNumber.map fun n => ':' :: Nat.toDigits 10 n).getD []

/-- The path with the query. -/
def target (u : Url) : List Char := u.path ++ (u.query.map ('?' :: ·)).getD []

/-- The address as text. -/
def text (u : Url) : String :=
  String.ofList (u.origin ++ u.target ++ (u.fragment.map ('#' :: ·)).getD [])

-- ==================================================== changing

/-- The path without a slash at its end, unless it is the root. -/
def openPath (path : List Char) : List Char :=
  if path.length > 1 ∧ path.getLast? = some '/' then path.dropLast else path

/-- Adds one segment behind a slash. The names of the directory itself and of the one above are
skipped. -/
def push (path : List Char) (segment : String) : List Char :=
  if segment = "." ∨ segment = ".." then path
  else
    addSegment (if path = ['/'] then path else path ++ ['/'])
      (percentEncode inSegmentSet (segment.toList.filter fun c => !isIgnored c)) false

/-- The address with segments added to its path. -/
def extend (u : Url) (segments : List String) : Url :=
  { u with path := segments.foldl push (openPath u.path) }

/-- The address with another query. -/
def withQuery (u : Url) (query : String) : Url :=
  { u with query := some (percentEncode inQuerySet (query.toList.filter fun c => !isIgnored c)) }

/-- The address with one more pair in its query. -/
def withPair (u : Url) (name value : String) : Url :=
  let before := u.query.getD []
  let pair := formEncode name.toList ++ ['='] ++ formEncode value.toList
  { u with query := some (if before.isEmpty then pair else before ++ ['&'] ++ pair) }

end Url

end FunctionConsole.Web
