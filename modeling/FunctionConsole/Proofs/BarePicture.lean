import FunctionConsole.Frame
import FunctionConsole.Proofs.DrawnText

/-!
# The picture of a screen with nothing in front

Without a palette, a question or toasts the picture of the console is that of its screen between the
trail and the keys. These three areas have no cell in common, so that what the screen shows is read
in the picture (`Console.frame_reads`).
-/

namespace FunctionConsole.Console

open Buffer

/-- Nothing is in front of the screen. -/
structure Bare (c : Console) : Prop where
  palette : c.palette.isOpen = false
  confirm : c.confirm = none
  toasts : c.toasts.items = []

/-- The area of the screen in a picture of a size. -/
def screenArea (width height : Nat) : Rect := (ScreenAreas.of ⟨0, 0, width, height⟩).body.inset

section

variable (c : Console) (zone : TimeZone) (width height : Nat)

/-- The picture before the screen is drawn. -/
def drawTrail : Buffer :=
  TrailBar.draw c.trail (c.route ≠ .login) (ScreenAreas.of ⟨0, 0, width, height⟩).header
    ((Buffer.blank width height).paint ⟨0, 0, width, height⟩ (.ofBg Theme.ground))

/-- The picture once the screen is drawn. -/
def drawScreen : Buffer :=
  c.screen.draw zone (screenArea width height) (c.drawTrail width height)

theorem frame_eq_of_bare (h : c.Bare) : c.frame zone width height =
    c.hints.draw (ScreenAreas.of ⟨0, 0, width, height⟩).footer
      (c.drawScreen zone width height) := by
  have htoasts (area : Rect) (b : Buffer) : ToastStack.draw [] area b = b := by
    unfold ToastStack.draw
    dsimp only
    split <;> rfl
  unfold frame
  dsimp only
  rw [h.toasts, htoasts, drawConfirm, h.confirm, drawPalette, h.palette]
  rfl

theorem drawTrail_changesOnly : (Buffer.blank width height).ChangesOnly ⟨0, 0, width, height⟩
    (c.drawTrail width height) := by
  have hpaint := paint_changesOnly (b := Buffer.blank width height) ⟨0, 0, width, height⟩
    (.ofBg Theme.ground)
  refine hpaint.trans ?_
  have htrail := TrailBar.draw_changesOnly (ScreenAreas.of ⟨0, 0, width, height⟩).header
    ((Buffer.blank width height).paint ⟨0, 0, width, height⟩ (.ofBg Theme.ground)) c.trail
    (c.route ≠ .login)
  rwa [hpaint.area] at htrail

theorem drawTrail_full : (c.drawTrail width height).Full :=
  (c.drawTrail_changesOnly width height).full (by rw [Full, blank, Array.size_replicate])

theorem screenArea_within : (screenArea width height).Within (c.drawTrail width height).area :=
  (c.drawTrail_changesOnly width height).area ▸
    (Rect.inset_within _).trans (Layout.rows_inside _ _ 1)

end

section

variable {c : Console} {zone : TimeZone} {width height : Nat}

/-- What the screen shows in a part of its area is read in a row of the picture. -/
theorem frame_reads (hbare : c.Bare) {r : Rect} {t : List Char}
    (hdraw : ChangesOnly (screenArea width height) (c.drawTrail width height)
      (c.drawScreen zone width height))
    (hr : r.Within (screenArea width height)) (hin : (c.drawTrail width height).Holds r)
    (hshows : (c.drawScreen zone width height).Shows r t) :
    ∃ y < height, t <:+: ((c.frame zone width height).rowCells y).flatMap Cell.text := by
  have hkeys := c.hints.draw_changesOnly (ScreenAreas.of ⟨0, 0, width, height⟩).footer
    (c.drawScreen zone width height)
  -- the keys are below the screen
  have hapart : r.Apart (ScreenAreas.of ⟨0, 0, width, height⟩).footer :=
    (Layout.rows_apart _ _ (i := 1) (j := 2) (by omega)).mono
      (hr.trans (Rect.inset_within _)) fun _ _ h => h
  have hheight : (c.hints.draw (ScreenAreas.of ⟨0, 0, width, height⟩).footer
      (c.drawScreen zone width height)).height = height := by
    rw [hkeys.height, hdraw.height, (c.drawTrail_changesOnly width height).height]
    rfl
  rw [c.frame_eq_of_bare zone width height hbare]
  obtain ⟨y, hy, hread⟩ := (hshows.kept hkeys hapart).in_row ((hin.kept hdraw).kept hkeys)
  exact ⟨y, hheight ▸ hy, hread⟩

end

end FunctionConsole.Console
