import FunctionConsole.Frame.Diff
import FunctionConsole.Piece.ApiTabs
import FunctionConsole.Piece.Button
import FunctionConsole.Piece.Field
import FunctionConsole.Piece.LogView
import FunctionConsole.Piece.PagingBar
import FunctionConsole.Piece.ToastStack
import FunctionConsole.Screen.Gallery

/-!
# The gallery, drawn

The pieces on the left, and the one that is shown on the right, with its sample data.
-/

namespace FunctionConsole

namespace Gallery

/-- Draws badges of every kind. -/
def drawBadges (area : Rect) (b : Buffer) : Buffer :=
  let space : Span := { text := " " }
  let tones := BadgeTone.all.flatMap fun t => [(Badge.mk t.name t).span, space]
  b.drawParagraph area
    { lines :=
        [.ofText "Variants" Theme.secondary, { spans := tones }, {},
         .ofText "Status" Theme.secondary,
         { spans :=
            [(Badge.ofDisabled false).span, space, (Badge.ofDisabled true).span, space,
             (Badge.ofVersion "v12").span] },
         {}, .ofText "ID pill" Theme.secondary, .ofSpan (idSpan "fn_8c1d2e3f4a5b6c7d8e9f")] }

/-- Draws buttons of every kind. -/
def drawButtons (area : Rect) (b : Buffer) : Buffer :=
  let buttons : List Button :=
    [{ label := "Primary" }, { label := "Secondary", tone := .secondary },
     { label := "Destructive", tone := .danger }, { label := "Focused", focused := true },
     { label := "Disabled", disabled := true }]
  b.drawParagraph area
    { lines := [{ spans := buttons.flatMap fun button => [button.span, { text := "  " }] }] }

/-- Draws cards of every kind. -/
def drawCards (area : Rect) (b : Buffer) : Buffer :=
  let part := Layout.part (Layout.rows area [.length 4, .length 4, .length 4])
  let b := Card.drawMessage { title := "Default" } "A plain card" (part 0) b
  let b :=
    Card.drawMessage { title := "Warning", tone := .care } "Something needs attention" (part 1) b
  Card.drawMessage { title := "Danger", tone := .danger } "This action cannot be undone" (part 2) b

/-- Draws paging bars. -/
def drawPaging (area : Rect) (b : Buffer) : Buffer :=
  let part := Layout.part (Layout.rows area (List.replicate 5 (.length 1)))
  let b := (PageModel.make 25 20 0).drawBar (part 0) b
  ((PageModel.make 95 10 40).drawBar (part 2) b).drawLine (part 4)
    (.ofText "(an empty list renders no pagination bar)" Theme.muted)

/-- The sample toasts. -/
def sampleToasts : Toasts :=
  ((({} : Toasts).push "Function created successfully" .success 0).push
    "Failed to save code: network error" .error 0).push "No changes to save" .info 0

/-- Draws toasts. -/
def drawToasts (area : Rect) (b : Buffer) : Buffer :=
  let part := Layout.part (Layout.rows area [.length 2, .min 1])
  ToastStack.draw sampleToasts.items (part 1) <|
    b.drawLine (part 0) (.ofText "Press t to raise live toasts. Samples:" Theme.secondary)

/-- The code in the sample form. -/
def sampleCode : String :=
  "function handler(ctx, event)\n  return \x7b statusCode = 200 \x7d\nend"

/-- Draws a form. -/
def drawForm (area : Rect) (b : Buffer) : Buffer :=
  let name : InputField :=
    { label := "Name", input := .ofString "hello-world"
      help := some (.normal "Lowercase letters, digits and dashes") }
  let secret : InputField :=
    { label := "API Key", input := TextInput.secret.setValue "sk_live_123" }
  let invalid : InputField :=
    { label := "Description", input := {}, focused := true
      help := some (.fault "Description is required") }
  let part := Layout.part <| Layout.rows area
    [.length name.height, .length secret.height, .length invalid.height, .min 3]
  TextField.draw { label := "Code", area := .ofString sampleCode } (part 3) <|
    invalid.draw (part 2) (secret.draw (part 1) (name.draw (part 0) b))

end Gallery

/-- Draws a piece of the gallery. -/
def GalleryPiece.draw (zone : TimeZone) : GalleryPiece → Rect → Buffer → Buffer
  | .badges => Gallery.drawBadges
  | .buttons => Gallery.drawButtons
  | .cards => Gallery.drawCards
  | .pagination => Gallery.drawPaging
  | .diffViewer => Gallery.sampleDiff.draw 0
  | .toasts => Gallery.drawToasts
  | .logViewer => LogView.draw { zone, logs := Gallery.sampleLogs }
  | .forms => Gallery.drawForm
  | .apiReference => ApiSection.drawTabs ApiSection.all 0

/-- Draws the screen. -/
def GalleryScreen.draw (s : GalleryScreen) (zone : TimeZone) (area : Rect) (b : Buffer) : Buffer :=
  let part := Layout.part (Layout.columns area [.length 20, .fill 1] 1)
  let menu : Card := { title := "Components" }
  let card : Card := { title := s.current.label, focused := true }
  let b := drawMenu GalleryPiece.all GalleryPiece.label s.current (menu.inner (part 0))
    (menu.draw (part 0) b)
  s.current.draw zone (card.inner (part 1)) (card.draw (part 1) b)

end FunctionConsole
