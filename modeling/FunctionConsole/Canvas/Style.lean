/-!
# Colours and styles

How a cell looks. A style says what it changes; what it leaves open stays as it was.
-/

namespace FunctionConsole

/-- A colour: one of the terminal's, or a mixture of red, green and blue. -/
inductive Color where
  | reset
  | black
  | red
  | green
  | yellow
  | blue
  | cyan
  | gray
  | darkGray
  | white
  | rgb (r g b : UInt8)
  deriving DecidableEq, Repr, Inhabited

/-- The ways in which text stands out. -/
structure Emphasis where
  bold : Bool := false
  underlined : Bool := false
  reversed : Bool := false
  crossedOut : Bool := false
  deriving DecidableEq, Repr, Inhabited

/-- Both emphases together. -/
def Emphasis.union (a b : Emphasis) : Emphasis :=
  { bold := a.bold || b.bold, underlined := a.underlined || b.underlined
    reversed := a.reversed || b.reversed, crossedOut := a.crossedOut || b.crossedOut }

/-- What a style changes: the colour of the text, that of the ground, and the emphasis it adds. -/
structure Style where
  fg : Option Color := none
  bg : Option Color := none
  emphasis : Emphasis := {}
  deriving DecidableEq, Repr, Inhabited

namespace Style

/-- One style after another: the second wins where both say something. -/
def andThen (a b : Style) : Style :=
  { fg := b.fg <|> a.fg, bg := b.bg <|> a.bg, emphasis := a.emphasis.union b.emphasis }

/-- A style with this colour of the text. -/
def withFg (s : Style) (c : Color) : Style := { s with fg := some c }

/-- A style with this colour of the ground. -/
def withBg (s : Style) (c : Color) : Style := { s with bg := some c }

/-- A style that is also bold. -/
def bold (s : Style) : Style := { s with emphasis := { s.emphasis with bold := true } }

/-- A style that is also underlined. -/
def underlined (s : Style) : Style := { s with emphasis := { s.emphasis with underlined := true } }

/-- A style that is also crossed out. -/
def crossedOut (s : Style) : Style := { s with emphasis := { s.emphasis with crossedOut := true } }

/-- The style that swaps the colours. -/
def reversed : Style := { emphasis := { reversed := true } }

/-- The style that sets the colour of the text. -/
def ofFg (c : Color) : Style := { fg := some c }

/-- The style that sets the colour of the ground. -/
def ofBg (c : Color) : Style := { bg := some c }

end Style

end FunctionConsole
