import PanZoom.Pointer
import PanZoom.View.Rejection
import PanZoom.View.Subscription

/-!
# Viewport records

What a viewport puts on record about its operation: accepted changes, and input that it refused
or had to make sense of. A record holds the data; its wording is in `PanZoom.Text.Journal`.
-/

namespace PanZoom

inductive ViewportRecord (α : Type) where
  | scrollRejected (delta : α)
  | distanceRejected (distance : α)
  /-- A distance would give a scale out of range. -/
  | distanceOverflow (distance scale : α)
  | zoomed (distance scale : α)
  | panStartRejected (position : Point α)
  | panStarted (position : Point α)
  | panUpdateRejected (position : Point α)
  | panUpdateIdle (position : Point α)
  /-- A pan would give an offset out of range. -/
  | panOverflow (position : Point α) (scale : α)
  | panned (offset : Vec2 α)
  | panEnded (offset : Vec2 α)
  | viewReset
  /-- A subscription of another viewport was to be removed. -/
  | foreignUnsubscribe (id : SubscriptionId)
  /-- The pointer moved without the button that pans. -/
  | panButtonReleased
  | eventRejected (event : PointerEvent α) (cause : Rejection)

end PanZoom
