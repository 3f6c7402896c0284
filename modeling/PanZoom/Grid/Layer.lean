import PanZoom.Grid.Lines
import PanZoom.Journal
import PanZoom.View.Viewport

/-!
# Grid layers

A grid layer draws a grid behind the content of a viewport. It reads a view whenever it paints and
never changes one. While it is attached to a viewport it has a handler on each topic of it; the
first change after a paint marks the layer as stale and asks the host for a repaint, and further
changes before the next paint ask for nothing.

Each attachment has a *generation*. A handler holds the generation of the attachment that
registered it, and does nothing once the layer has moved on to another generation; so handlers
that an earlier attachment left behind on some viewport are dead.
-/

namespace PanZoom

/-- What a viewport has registered as a handler. -/
inductive Handler where
  | user (tag : Nat)
  /-- The handler of a grid layer: the layer's number, the generation of its attachment, and the
  host to ask for a repaint. -/
  | marker (layer : Nat) (generation : UInt64) (host : String)
  deriving DecidableEq, Repr

namespace Grid

structure Attachment where
  scaleId : SubscriptionId
  offsetId : SubscriptionId
  deriving DecidableEq, Repr

/-- A grid to be painted behind the content of a viewport. -/
structure Layer (α : Type) where
  style : Style α
  /-- The grid has changed since it was last painted, or was never painted. -/
  needsRepaint : Bool
  /-- Counts attachments and detachments. -/
  generation : UInt64
  /-- The subscriptions, while the layer is attached. -/
  attachment? : Option Attachment
  /-- Room for line positions, kept from one paint to the next. -/
  scratch : Array α

/-- What attaching or detaching a layer leads to. -/
structure Wiring (α : Type) where
  layer : Layer α
  viewport : Viewport α Handler
  /-- The layer was attached or detached as asked. -/
  done : Bool
  journal : List (Journal.Entry α)

/-- What painting a layer leads to. -/
structure Painting (α : Type) where
  layer : Layer α
  ops : List (SurfaceOp α)
  records : List (Record α)

variable {α : Type} [Scalar α]

namespace Attachment

/-- The attachment was made to this viewport. -/
def belongsTo (a : Attachment) (v : Viewport α Handler) : Bool :=
  v.issued a.scaleId && v.issued a.offsetId

/-- Removes both handlers. The records are those of the viewport. -/
def remove (a : Attachment) (v : Viewport α Handler) :
    Viewport α Handler × List (Journal.Entry α) :=
  let o₁ := v.unsubscribe a.scaleId
  let o₂ := o₁.viewport.unsubscribe a.offsetId
  (o₂.viewport, (o₁.records ++ o₂.records).map .viewport)

end Attachment

namespace Layer

/-- A layer that is not attached and was never painted. -/
def new (style : Style α) : Layer α :=
  { style, needsRepaint := true, generation := 0, attachment? := none, scratch := #[] }

def isAttached (l : Layer α) : Bool := l.attachment?.isSome

/-- Replaces the style, which makes the layer stale. -/
def setStyle (l : Layer α) (style : Style α) : Layer α := { l with style, needsRepaint := true }

/-! ## Attachment -/

/-- Attaches the layer with number `self` to a viewport. If it is attached there already its
handlers are replaced. If it is attached to another viewport its handlers stay there, dead. -/
def attach (l : Layer α) (self : Nat) (v : Viewport α Handler) (host : String) : Wiring α :=
  let generation := l.generation + 1
  let (v, journal) : Viewport α Handler × List (Journal.Entry α) :=
    match l.attachment? with
    | none => (v, [])
    | some a =>
      if a.belongsTo v then
        let (v, removal) := a.remove v
        (v, .grid .reattached :: removal)
      -- the handlers on the other viewport are out of reach from here
      else (v, [.grid .moved])
  let handler := Handler.marker self generation host
  let (v, scaleId) := v.subscribe .scale handler
  let (v, offsetId) := v.subscribe .offset handler
  { layer := { l with generation, attachment? := some { scaleId, offsetId } }
    viewport := v
    done := true
    journal }

/-- Detaches the layer from a viewport. If it is not attached there, nothing changes. -/
def detach (l : Layer α) (v : Viewport α Handler) : Wiring α :=
  match l.attachment? with
  | none => { layer := l, viewport := v, done := false, journal := [] }
  | some a =>
    if a.belongsTo v then
      let (viewport, journal) := a.remove v
      { layer := { l with generation := l.generation + 1, attachment? := none }
        viewport
        done := true
        journal }
    else { layer := l, viewport := v, done := false, journal := [.grid .foreignDetach] }

/-- A handler registered in a certain generation is notified: the layer afterwards, and whether
the host is asked for a repaint. -/
def mark (l : Layer α) (generation : UInt64) : Layer α × Bool :=
  if l.generation = generation ∧ ¬ l.needsRepaint then ({ l with needsRepaint := true }, true)
  else (l, false)

/-! ## Painting -/

/-- Lines across a canvas at pixel coordinates along an axis. -/
def crossLines (canvas : Size α) (axis : Axis) (positions : List α) : Path α :=
  positions.flatMap fun c =>
    match axis with
    | .x => [.moveTo ⟨c, Scalar.zero⟩, .lineTo ⟨c, canvas.height⟩]
    | .y => [.moveTo ⟨Scalar.zero, c⟩, .lineTo ⟨canvas.width, c⟩]

/-- The lines of a tier along one axis, and the buffer they were placed in. A tier that is too
dense there has none, and is put on record. -/
def axisPath (p : Projection α) (tier : Tier α) (axis : Axis) (scratch : Array α) :
    Path α × Array α × List (Record α) :=
  match linePositions (p.span axis) tier.kind scratch with
  | (.ok (), out) => (crossLines p.canvas axis out.toList, out, [])
  | (.error dense, out) => ([], out, [.denseTier tier axis dense.needed])

structure Strokes (α : Type) where
  ops : List (SurfaceOp α)
  scratch : Array α
  records : List (Record α)

/-- Draws a tier as one stroke: first the lines across the `x` axis, then those across the `y`
axis. A tier that is hidden, that cannot be drawn or that has no line on the canvas makes no
stroke. -/
def strokeTier (p : Projection α) (style : StrokeStyle α) (tier : Tier α) (scratch : Array α) :
    Strokes α :=
  if ¬ tier.IsVisible p.scale then { ops := [], scratch, records := [] }
  else if ¬ tier.IsValid then { ops := [], scratch, records := [.invalidTier tier] }
  else
    let (columns, scratch, records₁) := axisPath p tier .x scratch
    let (rows, scratch, records₂) := axisPath p tier .y scratch
    let path := columns ++ rows
    { ops := if path.isEmpty then [] else SurfaceOp.strokePath path style tier.color
      scratch
      records := records₁ ++ records₂ }

def strokeTiers (p : Projection α) (style : StrokeStyle α) :
    List (Tier α) → Array α → Strokes α
  | [], scratch => { ops := [], scratch, records := [] }
  | tier :: tiers, scratch =>
    let first := strokeTier p style tier scratch
    let rest := strokeTiers p style tiers first.scratch
    { ops := first.ops ++ rest.ops
      scratch := rest.scratch
      records := first.records ++ rest.records }

/-- Paints the grid for a view on a surface of a given size: clears the canvas and draws the tiers
within it. On a canvas without area nothing is drawn. -/
def paint (l : Layer α) (view : View α) (size : Size α) : Painting α :=
  let l := { l with needsRepaint := false }
  let p := Projection.ofView view size
  let bounds := p.canvasRect
  let clear := .draw (.clear bounds)
  if bounds.IsEmpty then { layer := l, ops := [clear], records := [.emptyCanvas] }
  else
    let strokes := strokeTiers p l.style.stroke l.style.tiers l.scratch
    { layer := { l with scratch := strokes.scratch }
      ops := clear :: SurfaceOp.withClip bounds strokes.ops
      records := strokes.records ++ [.painted p.scale p.canvas] }

end Layer

end Grid

end PanZoom
