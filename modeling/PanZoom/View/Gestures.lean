import PanZoom.View.Viewport

/-!
# Gestures

What pointer events mean to a viewport. The wheel zooms. Pressing the pan button starts a pan,
moving with it held pans, and releasing it ends the pan; a move that reports the button as not
held ends the pan too, since the host has then missed the release. Releasing the menu button asks
the host for a context menu.
-/

namespace PanZoom

structure GestureMap where
  panButton : Button := .middle
  /-- The button whose release asks for a context menu, if any does. -/
  menuButton? : Option Button := some .secondary
  deriving DecidableEq, Repr

inductive Response (α : Type) where
  | zoomed (scale : α)
  | panStarted
  | panned (offset : Vec2 α)
  | panEnded
  /-- The host should open its menu here. -/
  | contextMenu (position : Point α)
  /-- The event means nothing to the viewport. -/
  | ignored
  /-- The event was meant for the viewport but its input is refused. -/
  | rejected (cause : Rejection)
  deriving DecidableEq

namespace Response

variable {α : Type}

/-- The event changed the zoom or the offset. -/
def changedView : Response α → Bool
  | zoomed _ | panned _ => true
  | _ => false

/-- The response to an operation that may be refused. -/
def ofResult {β : Type} (accepted : β → Response α) : Except Rejection β → Response α
  | .ok b => accepted b
  | .error cause => rejected cause

end Response

namespace GestureMap

variable {α η : Type} [Scalar α]

/-- The response to the end of a pan, or to no pan having been in progress. -/
def panFinished (ended : Bool) : Response α := if ended then .panEnded else .ignored

/-- Carries out what an event asks for. -/
def dispatch (g : GestureMap) (v : Viewport α η) :
    PointerEvent α → Outcome α η (Response α)
  | .wheel delta => (v.scroll delta).map (.ofResult .zoomed)
  | .down button position =>
    if button = g.panButton then (v.beginPan position).map (.ofResult fun _ => .panStarted)
    else Outcome.silent v .ignored
  | .move held position =>
    if held.contains g.panButton then (v.updatePan position).map (.ofResult .panned)
    else
      let o := v.endPan
      (if o.result then o.note .panButtonReleased else o).map panFinished
  | .up button position =>
    if button = g.panButton then v.endPan.map panFinished
    else if some button = g.menuButton? then
      if position.isFinite then Outcome.silent v (.contextMenu position)
      else Outcome.silent v (.rejected .nonFinitePosition)
    else Outcome.silent v .ignored

/-- Applies an event to a viewport, and puts a refused one on record. -/
def handle (g : GestureMap) (v : Viewport α η) (event : PointerEvent α) :
    Outcome α η (Response α) :=
  let o := g.dispatch v event
  match o.result with
  | .rejected cause => o.note (.eventRejected event cause)
  | _ => o

end GestureMap

end PanZoom
