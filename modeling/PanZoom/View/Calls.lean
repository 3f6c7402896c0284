import PanZoom.View.Gestures

/-!
# Runs of a viewport

Every operation on a viewport as one type of calls, so that what can happen to a viewport is a
list of calls and what it does is one function on that list.
-/

namespace PanZoom

namespace Viewport

inductive Call (α η : Type) where
  | scroll (delta : α)
  | setDistance (distance : α)
  | beginPan (position : Point α)
  | updatePan (position : Point α)
  | endPan
  | reset
  | subscribe (topic : Topic) (handler : η)
  | unsubscribe (id : SubscriptionId)
  | event (gestures : GestureMap) (event : PointerEvent α)

inductive Reply (α : Type) where
  /-- To a zoom: the new scale. -/
  | scale (result : Except Rejection α)
  /-- To the start of a pan. -/
  | begun (result : Except Rejection Unit)
  /-- To a move of a pan: the new offset. -/
  | offset (result : Except Rejection (Vec2 α))
  /-- To the end of a pan and to the removal of a handler: whether there was one. -/
  | found (result : Bool)
  | done
  | subscribed (id : SubscriptionId)
  | responded (response : Response α)

variable {α η : Type} [Scalar α]

def perform (v : Viewport α η) : Call α η → Outcome α η (Reply α)
  | .scroll delta => (v.scroll delta).map .scale
  | .setDistance distance => (v.setDistance distance).map .scale
  | .beginPan position => (v.beginPan position).map .begun
  | .updatePan position => (v.updatePan position).map .offset
  | .endPan => v.endPan.map .found
  | .reset => v.reset.map fun _ => .done
  | .subscribe topic handler =>
    let (viewport, id) := v.subscribe topic handler
    Outcome.silent viewport (.subscribed id)
  | .unsubscribe id => (v.unsubscribe id).map .found
  | .event gestures event => (gestures.handle v event).map .responded

def run (v : Viewport α η) (calls : List (Call α η)) : Viewport α η :=
  calls.foldl (fun v call => (v.perform call).viewport) v

end Viewport

end PanZoom
