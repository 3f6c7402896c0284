import PanZoom.Drag
import PanZoom.View.Settings

/-!
# Views

The zoom and pan of a viewport. The zoom is held as a distance, and the scale is the scale factor
divided by it: a larger distance shows more of the content. The offset says how far the content
has been moved, in logical units.
-/

namespace PanZoom

/-- The zoom and pan of a viewport, and the drag in progress. -/
structure View (α : Type) where
  distance : α
  scale : α
  /-- How far the content has been moved, in logical units. -/
  offset : Vec2 α
  drag : Drag α
  deriving DecidableEq

namespace View

variable {α : Type} [Scalar α]

/-- The view at a distance, clamped to what the settings allow, with the scale derived from it. -/
def setDistance (v : View α) (settings : ZoomSettings α) (distance : α) : View α :=
  let distance := settings.clamp distance
  { v with distance, scale := settings.scaleFactor / distance }

/-- The view that a viewport starts with: distance one, no offset, no drag. -/
def initial (settings : ZoomSettings α) : View α :=
  setDistance
    { distance := Scalar.one, scale := settings.scaleFactor, offset := Vec2.zero,
      drag := Drag.idle }
    settings Scalar.one

def isPanning (v : View α) : Bool := v.drag.isActive

end View

end PanZoom
