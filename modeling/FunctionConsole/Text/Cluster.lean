import FunctionConsole.Text.Marks

/-!
# What a reader takes for one character

A text splits into clusters: a character with the marks on it, a syllable, a flag, a joined
picture. A cell of the screen holds one cluster.
-/

namespace FunctionConsole.Text

/-- What the characters of a cluster so far allow to come next. -/
structure ClusterState where
  /-- The last character. -/
  last : Char
  /-- A pictograph with marks stands at the end. -/
  pictured : Bool := false
  /-- A pictograph with marks and a joiner stands at the end. -/
  pictureJoined : Bool := false
  /-- A consonant with marks stands at the end. -/
  consonant : Bool := false
  /-- Among the marks on the consonant is one that joins. -/
  conjoined : Bool := false
  /-- An odd number of flag halves stands at the end. -/
  oddFlag : Bool := false
  deriving DecidableEq, Repr

namespace ClusterState

/-- The state after the first character of a cluster. -/
def start (c : Char) : ClusterState :=
  { last := c, pictured := isPictograph c, consonant := isConsonant c, oddFlag := isFlagHalf c }

/-- The state after another character of a cluster. -/
def push (s : ClusterState) (c : Char) : ClusterState :=
  let extending := isExtending c || isSkinTone c
  let conjoins := isConjoiner c
  let mark := (extending && c ≠ '\u200C') || conjoins || c == joiner
  { last := c
    pictured := isPictograph c || (s.pictured && extending)
    pictureJoined := s.pictured && c == joiner
    consonant := isConsonant c || (s.consonant && mark)
    conjoined := s.consonant && mark && (s.conjoined || conjoins)
    oddFlag := isFlagHalf c && !s.oddFlag }

/-- Whether a character goes on with the cluster. -/
def accepts (s : ClusterState) (c : Char) : Bool :=
  if s.last.toNat < 0x80 ∧ c.toNat < 0x80 then s.last == '\r' && c == '\n'
  else if isControlMark s.last || isControlMark c then false
  else
    (match syllablePart? s.last, syllablePart? c with
      | some p, some q => p.goesOn q
      | _, _ => false) ||
    isExtending c || isSkinTone c || c == joiner || isSpacingMark c || isLeading s.last ||
    (s.conjoined && isConsonant c) || (s.pictureJoined && isPictograph c) ||
    (s.oddFlag && isFlagHalf c)

end ClusterState

/-- The clusters of a text after a cluster that is still open, given in reverse. -/
def clustersFrom (held : List Char) (s : ClusterState) : List Char → List (List Char)
  | [] => [held.reverse]
  | c :: cs =>
    if s.accepts c then clustersFrom (c :: held) (s.push c) cs
    else held.reverse :: clustersFrom [c] (.start c) cs

/-- The clusters of a text. -/
def clusters : List Char → List (List Char)
  | [] => []
  | c :: cs => clustersFrom [c] (.start c) cs

end FunctionConsole.Text
