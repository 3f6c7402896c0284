import PanZoom.View.Record
import PanZoom.View.State

/-!
# Viewports

A viewport owns a view and is the only one to change it. Each operation checks its input, changes
the view, and tells which handlers are due: those for the scale after every accepted zoom, those
for the offset after every accepted pan, and both after a reset. Refused input changes nothing and
notifies nobody.

A zoom is accepted only if the scale it leads to is finite, not zero and held to full precision,
so the scale can always be divided by.
-/

namespace PanZoom

/-- The owner of a view. Handlers are of type `η`. -/
structure Viewport (α η : Type) where
  /-- The name of the viewport in the subscriptions that it issues. -/
  id : Nat
  settings : ZoomSettings α
  view : View α
  onScale : Observers η
  onOffset : Observers η
  /-- The number of subscriptions made so far, on both topics together. -/
  nextIndex : Nat

structure Outcome (α η β : Type) where
  viewport : Viewport α η
  result : β
  notices : List (Notice α η)
  records : List (ViewportRecord α)

namespace Outcome

variable {α η β γ : Type}

/-- An answer only: no handler is due and nothing is put on record. -/
def silent (viewport : Viewport α η) (result : β) : Outcome α η β :=
  { viewport, result, notices := [], records := [] }

def map (f : β → γ) (o : Outcome α η β) : Outcome α η γ := { o with result := f o.result }

/-- Puts something more on record. -/
def note (o : Outcome α η β) (record : ViewportRecord α) : Outcome α η β :=
  { o with records := o.records ++ [record] }

end Outcome

namespace Viewport

variable {α η : Type} [Scalar α]

/-- A viewport at distance one, without offset and without handlers. -/
def create (id : Nat) (settings : ZoomSettings α) : Viewport α η where
  id := id
  settings := settings
  view := View.initial settings
  onScale := Observers.empty
  onOffset := Observers.empty
  nextIndex := 0

def isPanning (v : Viewport α η) : Bool := v.view.isPanning

/-- The viewport is left as it is, and the caller is told why. -/
def reject {β : Type} (v : Viewport α η) (cause : Rejection) (record : ViewportRecord α) :
    Outcome α η (Except Rejection β) :=
  (Outcome.silent v (.error cause)).note record

/-! ## Zoom -/

/-- Moves to a distance, clamped to the least one, if the scale stays in range. The answer is the
new scale. -/
def zoomTo (v : Viewport α η) (distance : α) : Outcome α η (Except Rejection α) :=
  let scale := v.settings.scaleAt distance
  if Scalar.isFinite distance ∧ Scalar.isNormal scale then
    let view := v.view.setDistance v.settings distance
    { viewport := { v with view }
      result := .ok view.scale
      notices := v.onScale.notify (.scale view.scale)
      records := [.zoomed view.distance view.scale] }
  else v.reject .overflow (.distanceOverflow distance scale)

/-- Zooms by a movement of the wheel: a positive delta goes nearer. -/
def scroll (v : Viewport α η) (delta : α) : Outcome α η (Except Rejection α) :=
  if Scalar.isFinite delta then v.zoomTo (v.view.distance - delta * v.settings.sensitivity)
  else v.reject .nonFiniteDelta (.scrollRejected delta)

def setDistance (v : Viewport α η) (distance : α) : Outcome α η (Except Rejection α) :=
  if Scalar.isFinite distance then v.zoomTo distance
  else v.reject .nonFiniteDelta (.distanceRejected distance)

/-! ## Pan -/

/-- Starts to pan at a position. If a pan is in progress it starts anew from here. -/
def beginPan (v : Viewport α η) (position : Point α) : Outcome α η (Except Rejection Unit) :=
  if position.isFinite then
    let drag := v.view.drag.start v.view.offset position
    (Outcome.silent { v with view := { v.view with drag } } (.ok ())).note (.panStarted position)
  else v.reject .nonFinitePosition (.panStartRejected position)

/-- The offset to which a pan that started at `anchor` has come when the pointer is at
`position`: the pixels moved since the start, in logical units of the present scale, added to the
offset at the start. -/
def panTarget (v : Viewport α η) (anchor : DragAnchor α) (position : Point α) : Vec2 α :=
  anchor.offset + (anchor.displacement position).unscale v.view.scale

/-- Moves the pan in progress to a position. The answer is the new offset. -/
def updatePan (v : Viewport α η) (position : Point α) : Outcome α η (Except Rejection (Vec2 α)) :=
  if position.isFinite then
    match v.view.drag.anchor? with
    | none => v.reject .notPanning (.panUpdateIdle position)
    | some anchor =>
      let offset := v.panTarget anchor position
      if offset.isFinite then
        { viewport := { v with view := { v.view with offset } }
          result := .ok offset
          notices := v.onOffset.notify (.offset offset)
          records := [.panned offset] }
      else v.reject .overflow (.panOverflow position v.view.scale)
  else v.reject .nonFinitePosition (.panUpdateRejected position)

/-- Ends the pan in progress and keeps the offset it has come to. The answer is whether there
was one. -/
def endPan (v : Viewport α η) : Outcome α η Bool :=
  let (drag, ended) := v.view.drag.finish
  let o := Outcome.silent { v with view := { v.view with drag } } ended
  if ended then o.note (.panEnded v.view.offset) else o

/-- Sets zoom and offset back and gives up a pan in progress. -/
def reset (v : Viewport α η) : Outcome α η Unit :=
  let view :=
    { v.view with drag := v.view.drag.finish.1, offset := Vec2.zero }.setDistance v.settings
      Scalar.one
  { viewport := { v with view }
    result := ()
    notices :=
      v.onScale.notify (.scale view.scale) ++
        v.onOffset.notify (.offset view.offset)
    records := [.viewReset] }

/-! ## Subscriptions -/

/-- Registers a handler. The answer is the id of the subscription. -/
def subscribe (v : Viewport α η) (topic : Topic) (handler : η) :
    Viewport α η × SubscriptionId :=
  let id := { viewport := v.id, index := v.nextIndex }
  let v := { v with nextIndex := v.nextIndex + 1 }
  match topic with
  | .scale => ({ v with onScale := v.onScale.insert id handler }, id)
  | .offset => ({ v with onOffset := v.onOffset.insert id handler }, id)

/-- The id was issued here. The handler may have been removed since. -/
def issued (v : Viewport α η) (id : SubscriptionId) : Bool := id.viewport == v.id

/-- Removes the handler registered under the id. The answer is whether there was one; for an id
issued elsewhere there is none. -/
def unsubscribe (v : Viewport α η) (id : SubscriptionId) : Outcome α η Bool :=
  if v.issued id then
    if v.onScale.contains id then Outcome.silent { v with onScale := v.onScale.erase id } true
    else if v.onOffset.contains id then
      Outcome.silent { v with onOffset := v.onOffset.erase id } true
    else Outcome.silent v false
  else (Outcome.silent v false).note (.foreignUnsubscribe id)

/-- The number of handlers, on both topics together. -/
def subscriberCount (v : Viewport α η) : Nat := v.onScale.size + v.onOffset.size

end Viewport

end PanZoom
