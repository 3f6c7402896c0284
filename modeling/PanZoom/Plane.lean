import PanZoom.Scalar

/-!
# Points, vectors, sizes and rectangles

The plane that canvases and logical content live in, with `x` growing to the right and `y` growing
downwards. A `Point` is a place and a `Vec2` a displacement: the difference of two points is a
vector, and the sum of a point and a vector is a point.
-/

namespace PanZoom

/-- One of the two directions of a canvas. -/
inductive Axis where
  /-- Left to right. -/
  | x
  /-- Top to bottom. -/
  | y
  deriving DecidableEq, Repr

structure Point (α : Type) where
  x : α
  y : α
  deriving DecidableEq

structure Vec2 (α : Type) where
  x : α
  y : α
  deriving DecidableEq

structure Size (α : Type) where
  width : α
  height : α
  deriving DecidableEq

/-- A rectangle, by its two corners. The second corner may lie before the first; such a
rectangle holds no point. -/
structure Rect (α : Type) where
  x0 : α
  y0 : α
  x1 : α
  y1 : α
  deriving DecidableEq

variable {α : Type}

namespace Point

def along (p : Point α) : Axis → α
  | .x => p.x
  | .y => p.y

def map (f : α → α) (p : Point α) : Point α := ⟨f p.x, f p.y⟩

variable [Scalar α]

def isFinite (p : Point α) : Bool := Scalar.isFinite p.x && Scalar.isFinite p.y

instance : HSub (Point α) (Point α) (Vec2 α) := ⟨fun p q => ⟨p.x - q.x, p.y - q.y⟩⟩

def toVec (p : Point α) : Vec2 α := ⟨p.x, p.y⟩

end Point

namespace Vec2

def along (v : Vec2 α) : Axis → α
  | .x => v.x
  | .y => v.y

def toPoint (v : Vec2 α) : Point α := ⟨v.x, v.y⟩

variable [Scalar α]

def zero : Vec2 α := ⟨Scalar.zero, Scalar.zero⟩

def isFinite (v : Vec2 α) : Bool := Scalar.isFinite v.x && Scalar.isFinite v.y

instance : Add (Vec2 α) := ⟨fun v w => ⟨v.x + w.x, v.y + w.y⟩⟩

instance : Sub (Vec2 α) := ⟨fun v w => ⟨v.x - w.x, v.y - w.y⟩⟩

/-- The displacement enlarged by a factor. -/
def scale (v : Vec2 α) (s : α) : Vec2 α := ⟨v.x * s, v.y * s⟩

/-- The displacement divided by a factor. Both components are multiplied by the one reciprocal of
the factor. -/
def unscale (v : Vec2 α) (s : α) : Vec2 α := v.scale (Scalar.one / s)

end Vec2

namespace Size

def along (s : Size α) : Axis → α
  | .x => s.width
  | .y => s.height

def map (f : α → α) (s : Size α) : Size α := ⟨f s.width, f s.height⟩

/-- The displacement from one corner to the opposite one. -/
def toVec (s : Size α) : Vec2 α := ⟨s.width, s.height⟩

/-- The rectangle of this size that starts at the origin. -/
def toRect [Scalar α] (s : Size α) : Rect α := ⟨Scalar.zero, Scalar.zero, s.width, s.height⟩

end Size

namespace Rect

variable [Scalar α]

/-- Part of a rectangle within another: the later of the near corners and the earlier of the far
ones. If the rectangles are disjoint the result has no extent. -/
def intersect (a b : Rect α) : Rect α :=
  let x0 := Scalar.max a.x0 b.x0
  let y0 := Scalar.max a.y0 b.y0
  { x0, y0
    x1 := Scalar.max (Scalar.min a.x1 b.x1) x0
    y1 := Scalar.max (Scalar.min a.y1 b.y1) y0 }

/-- The product of the extents; negative if the corners of one axis are out of order. -/
def area (r : Rect α) : α := (r.x1 - r.x0) * (r.y1 - r.y0)

def IsEmpty (r : Rect α) : Prop := Scalar.IsZero r.area

instance (r : Rect α) : Decidable r.IsEmpty := inferInstanceAs (Decidable (Scalar.IsZero _))

/-- A point lies in the rectangle. The near edges belong to it and the far edges do not. -/
def Contains (r : Rect α) (p : Point α) : Prop :=
  r.x0 ≤ p.x ∧ p.x < r.x1 ∧ r.y0 ≤ p.y ∧ p.y < r.y1

end Rect

end PanZoom
