import PanZoom.View.State

/-!
# Projections

A view mapped onto a canvas of a certain size. The logical point at the centre of the canvas is
the opposite of the offset, so that the origin lies in the middle of an untouched view.
`Span` is the part of one axis that the canvas shows.

A canvas length that is negative or not finite counts as zero; nothing is visible along it.
-/

namespace PanZoom

/-- The visible part of an axis, and what is needed to find its pixels. -/
structure Span (α : Type) where
  /-- Logical coordinate of the near edge of the canvas. -/
  start : α
  /-- Logical coordinate of the far edge of the canvas. -/
  stop : α
  /-- Where the logical origin lies, as a distance from the near edge in logical units. -/
  origin : α
  scale : α
  pixels : α
  deriving DecidableEq

namespace Span

variable {α : Type} [Scalar α]

def toScreen (s : Span α) (v : α) : α := (v + s.origin) * s.scale

/-- The coordinate is visible. The near edge is, the far edge is not. -/
def Contains (s : Span α) (v : α) : Prop := s.start ≤ v ∧ v < s.stop

instance (s : Span α) (v : α) : Decidable (s.Contains v) := inferInstanceAs (Decidable (_ ∧ _))

/-- Nothing is visible: an edge is not a number, or the far edge is not past the near one. -/
def IsEmpty (s : Span α) : Prop := Scalar.isNaN s.start ∨ Scalar.isNaN s.stop ∨ s.stop ≤ s.start

instance (s : Span α) : Decidable s.IsEmpty := inferInstanceAs (Decidable (_ ∨ _))

end Span

structure Projection (α : Type) where
  canvas : Size α
  scale : α
  offset : Vec2 α
  /-- The size of the canvas, in logical units. -/
  extent : Size α
  /-- Where the logical origin lies, as a displacement from the near corner of the canvas in
  logical units. -/
  origin : Vec2 α
  deriving DecidableEq

namespace Projection

variable {α : Type} [Scalar α]

/-- A canvas length as far as it is usable: zero unless it is finite and positive. -/
def usableLength (x : α) : α := if Scalar.IsPositive x then x else Scalar.zero

def halve (x : α) : α := x / Scalar.two

/-- The view on a canvas of a given size. -/
def ofView (view : View α) (size : Size α) : Projection α :=
  let canvas := size.map usableLength
  let extent := canvas.map (· / view.scale)
  { canvas
    scale := view.scale
    offset := view.offset
    extent
    origin := view.offset + (extent.map halve).toVec }

/-- The canvas as a rectangle that starts at the origin, in pixels. -/
def canvasRect (p : Projection α) : Rect α := p.canvas.toRect

def span (p : Projection α) (axis : Axis) : Span α :=
  let extent := p.extent.along axis
  let start := -(p.offset.along axis) - halve extent
  { start
    stop := start + extent
    origin := p.origin.along axis
    scale := p.scale
    pixels := p.canvas.along axis }

def visibleRect (p : Projection α) : Rect α :=
  let x := p.span .x
  let y := p.span .y
  ⟨x.start, y.start, x.stop, y.stop⟩

def toScreen (p : Projection α) (q : Point α) : Point α :=
  ((q.toVec + p.origin).scale p.scale).toPoint

def toLogical (p : Projection α) (q : Point α) : Point α :=
  (q.toVec.unscale p.scale - p.origin).toPoint

end Projection

end PanZoom
