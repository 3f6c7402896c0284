import PanZoom.Grid.Style

/-!
# Grid records

What a grid layer puts on record about its operation.
-/

namespace PanZoom

namespace Grid

inductive Record (α : Type) where
  /-- The layer was attached anew to the viewport that it was attached to. -/
  | reattached
  /-- The layer was attached to another viewport while it was still attached. -/
  | moved
  /-- The layer was to be detached from a viewport that it is not attached to. -/
  | foreignDetach
  | emptyCanvas
  /-- A tier has a frequency that makes no grid. -/
  | invalidTier (tier : Tier α)
  | denseTier (tier : Tier α) (axis : Axis) (needed : α)
  | painted (scale : α) (canvas : Size α)

end Grid

end PanZoom
