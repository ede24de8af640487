import FunctionConsole.Resource.Execution
import FunctionConsole.Text.Fit
import FunctionConsole.Theme

/-!
# Badges

Short labels in a row of text: how a function stands, how an execution ended, an HTTP status, a
version, an id.
-/

namespace FunctionConsole

/-- How much weight a badge has. -/
inductive BadgeTone where
  | accent
  | secondary
  | good
  | care
  | bad
  /-- In square brackets instead of on a filled ground. -/
  | outline
  deriving DecidableEq, Repr, Inhabited

namespace BadgeTone

/-- The tones in the order of the gallery. -/
def all : List BadgeTone := [.accent, .secondary, .good, .care, .bad, .outline]

/-- The name of a tone in the gallery. -/
def name : BadgeTone → String
  | .accent => "default"
  | .secondary => "secondary"
  | .good => "success"
  | .care => "warning"
  | .bad => "destructive"
  | .outline => "outline"

/-- The style of a tone. -/
def style : BadgeTone → Style
  | .accent => Theme.filled Theme.accentColor
  | .secondary => Theme.filled Theme.secondaryColor
  | .good => Theme.filled Theme.goodColor
  | .care => Theme.filled Theme.careColor
  | .bad => Theme.filled Theme.badColor
  | .outline => Theme.secondary

end BadgeTone

/-- A short label. -/
structure Badge where
  label : String
  tone : BadgeTone
  deriving DecidableEq, Repr, Inhabited

namespace Badge

/-- Whether a function takes requests. -/
def ofDisabled (disabled : Bool) : Badge :=
  if disabled then ⟨"Disabled", .bad⟩ else ⟨"Enabled", .good⟩

/-- How an execution ended. -/
def ofStatus (s : ExecutionStatus) : Badge :=
  { label := s.label
    tone := match s with
      | .success => .good
      | .error => .bad
      | .unknown => .secondary }

/-- An HTTP status: the codes from 200 are good, those from 400 need care, the others are bad. -/
def ofCode (code : UInt16) : Badge :=
  { label := toString code.toNat
    tone :=
      if 200 ≤ code ∧ code ≤ 299 then .good
      else if 400 ≤ code ∧ code ≤ 499 then .care
      else .bad }

/-- The label of a version. -/
def ofVersion (label : String) : Badge := ⟨label, .outline⟩

/-- A badge as a part of a line. -/
def span (b : Badge) : Span :=
  { text := if b.tone = .outline then "[" ++ b.label ++ "]" else " " ++ b.label ++ " "
    style := b.tone.style }

/-- The cells that a badge takes. -/
def width (b : Badge) : Nat := b.span.width

/-- Draws a badge. -/
def draw (badge : Badge) (area : Rect) (b : Buffer) : Buffer := b.drawLine area (.ofSpan badge.span)

end Badge

/-- The most cells of an id that are shown. -/
def idWidth : Nat := 16

/-- An id as a part of a line. -/
def idSpan (id : String) : Span :=
  { text := " " ++ String.ofList (Text.truncate id.toList idWidth) ++ " "
    style := Theme.secondary.withBg Theme.selectedGround }

end FunctionConsole
