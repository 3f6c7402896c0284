import PanZoom.Scalar

/-!
# Zoom settings

The constants of a viewport: its scale at distance one, how far a step of the wheel moves the
distance, and the least distance. A change that would spoil the numbers of the viewport is
ignored and the value before it is kept, so that settings built by any changes have a finite
greatest scale.
-/

namespace PanZoom

structure ZoomSettings (α : Type) where
  /-- Pixels per logical unit at distance one. -/
  scaleFactor : α
  /-- Change of distance per unit of wheel movement. -/
  sensitivity : α
  minDistance : α
  deriving DecidableEq

namespace ZoomSettings

variable {α : Type} [Scalar α]

/-- 70 pixels per unit, a 2500th of distance per unit of wheel movement, and a least distance of
a hundred-thousandth. -/
def default : ZoomSettings α where
  scaleFactor := Scalar.ofNat 70
  sensitivity := Scalar.ofRatio 1 2500
  minDistance := Scalar.ofRatio 1 100000

inductive Change (α : Type) where
  | scaleFactor (value : α)
  | sensitivity (value : α)
  | minDistance (value : α)

/-- The settings after a change. The scale factor and the least distance have to be positive, and
the greatest scale that they give has to be finite. The sensitivity has to be finite; a negative
one turns the direction of the wheel around. -/
def apply (s : ZoomSettings α) : Change α → ZoomSettings α
  | .scaleFactor x =>
    if Scalar.IsPositive x ∧ Scalar.isFinite (x / s.minDistance) then { s with scaleFactor := x }
    else s
  | .sensitivity x => if Scalar.isFinite x then { s with sensitivity := x } else s
  | .minDistance x =>
    if Scalar.IsPositive x ∧ Scalar.isFinite (s.scaleFactor / x) then { s with minDistance := x }
    else s

def ofChanges (changes : List (Change α)) : ZoomSettings α := changes.foldl apply default

/-- The scale at the least distance, which no view exceeds. -/
def maxScale (s : ZoomSettings α) : α := s.scaleFactor / s.minDistance

/-- The nearest allowed distance to a requested one. -/
def clamp (s : ZoomSettings α) (distance : α) : α := Scalar.max distance s.minDistance

/-- The scale that a requested distance leads to. -/
def scaleAt (s : ZoomSettings α) (distance : α) : α := s.scaleFactor / s.clamp distance

end ZoomSettings

end PanZoom
