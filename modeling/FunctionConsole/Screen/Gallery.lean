import FunctionConsole.Gallery
import FunctionConsole.Screen.Basic

/-!
# Gallery screen
-/

namespace FunctionConsole

/-- The screen that shows one piece of the gallery. -/
structure GalleryScreen where
  /-- The piece that the address names, if it names one. -/
  component : Option GalleryPiece
  deriving DecidableEq, Repr

namespace GalleryScreen

/-- The screen for an address. -/
def enter (slug : Option String) : GalleryScreen := { component := slug.bind GalleryPiece.ofSlug? }

/-- The piece that is shown. -/
def current (s : GalleryScreen) : GalleryPiece := s.component.getD .badges

/-- The address of the piece at a position. -/
def routeTo (i : Nat) : Route := .preview ((GalleryPiece.all[i]?).map GalleryPiece.slug)

/-- What a key does. -/
def handleKey (s : GalleryScreen) : Key → Option (GalleryScreen × Effects)
  | .up | .char 'k' => some (s, .goTo (routeTo (s.current.index - 1)))
  | .down | .char 'j' =>
    some (s, .goTo (routeTo (min (s.current.index + 1) (GalleryPiece.all.length - 1))))
  | .char 't' =>
    some (s, ((Effects.success "Function saved successfully").andToast
      "Failed to connect to server" .error).andToast "Deploying new version..." .info)
  | _ => none

end GalleryScreen

end FunctionConsole
