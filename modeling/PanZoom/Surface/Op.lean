import PanZoom.Plane

/-!
# Drawing operations

What can be asked of a drawing surface. State operations set the paint and the stroke of later
draws and keep the stack of clips; draw operations make pixels.
-/

namespace PanZoom

/-- An opaque or translucent color, eight bits to a channel. -/
structure Color where
  red : UInt8
  green : UInt8
  blue : UInt8
  alpha : UInt8
  deriving DecidableEq, Repr

/-- The opaque grey of a brightness. -/
def Color.grey (brightness : UInt8) : Color := ⟨brightness, brightness, brightness, 255⟩

inductive Brush where
  | solid (color : Color)
  /-- Colors that vary over the plane. -/
  | gradient
  deriving DecidableEq, Repr

/-- How a line is stroked. Only its width matters here; joins, caps and dashes are left out. -/
structure StrokeStyle (α : Type) where
  width : α
  deriving DecidableEq

inductive PathElement (α : Type) where
  | moveTo (p : Point α)
  | lineTo (p : Point α)
  | quadTo (control p : Point α)
  | curveTo (control₁ control₂ p : Point α)
  /-- A line back to the start of the part. -/
  | close
  deriving DecidableEq

abbrev Path (α : Type) := List (PathElement α)

/-- The number of parts of a path, which is how often the pen is put down. -/
def Path.subpathCount {α : Type} (p : Path α) : Nat :=
  p.countP fun
    | .moveTo _ => true
    | _ => false

/-- An operation that changes how later draws are meant. -/
inductive StateOp (α : Type) where
  | setPaint (brush : Brush)
  | setStroke (style : StrokeStyle α)
  | pushClip (rect : Rect α)
  /-- Takes the latest rectangle off the stack of clips; without one, does nothing. -/
  | popClip
  deriving DecidableEq

/-- An operation that makes pixels. -/
inductive DrawOp (α : Type) where
  /-- Makes a rectangle transparent, whatever the clip and the paint. -/
  | clear (rect : Rect α)
  /-- Strokes a path with the current paint and stroke, within the clip. -/
  | strokePath (path : Path α)
  deriving DecidableEq

inductive SurfaceOp (α : Type) where
  | state (op : StateOp α)
  | draw (op : DrawOp α)
  deriving DecidableEq

namespace SurfaceOp

variable {α : Type}

/-- The operations that stroke a path in one color with a given stroke. -/
def strokePath (path : Path α) (style : StrokeStyle α) (color : Color) : List (SurfaceOp α) :=
  [.state (.setPaint (.solid color)), .state (.setStroke style), .draw (.strokePath path)]

/-- Operations carried out inside a clip, which is taken away again afterwards. -/
def withClip (rect : Rect α) (body : List (SurfaceOp α)) : List (SurfaceOp α) :=
  .state (.pushClip rect) :: body ++ [.state .popClip]

end SurfaceOp

end PanZoom
