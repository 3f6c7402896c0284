import PanZoom.Surface.Op

/-!
# Grid styles

A grid is drawn in tiers, one stroke each, the later ones over the earlier ones. A tier is a
family of lines, shown from a certain scale on so that its lines never stand too close.
-/

namespace PanZoom

namespace Grid

inductive TierKind (α : Type) where
  /-- The lines at all multiples of `1 / frequency`. -/
  | lines (frequency : α)
  | axis
  deriving DecidableEq

/-- A family of lines drawn alike. -/
structure Tier (α : Type) where
  kind : TierKind α
  /-- The least scale at which the tier is drawn. -/
  minScale : α
  color : Color
  deriving DecidableEq

variable {α : Type} [Scalar α]

namespace Tier

def lines (frequency minScale : α) (color : Color) : Tier α := ⟨.lines frequency, minScale, color⟩

/-- The lines through the origin, drawn at every scale. -/
def axis (color : Color) : Tier α := ⟨.axis, Scalar.zero, color⟩

/-- Four lines per unit, from 35 pixels per unit on. -/
def minor : Tier α := lines (Scalar.ofNat 4) (Scalar.ofNat 35) (.grey 49)

/-- One line per unit, from 3 pixels per unit on. -/
def major : Tier α := lines (Scalar.ofNat 1) (Scalar.ofNat 3) (.grey 43)

/-- The color of the lines through the origin, where no other is chosen. -/
def axisColor : Color := .grey 35

/-- The tier is drawn at a scale: the scale is the least one or more. -/
def IsVisible (t : Tier α) (scale : α) : Prop := t.minScale ≤ scale

instance (t : Tier α) (scale : α) : Decidable (t.IsVisible scale) :=
  inferInstanceAs (Decidable (_ ≤ _))

/-- The tier can be drawn: a frequency has to be finite and positive. -/
def IsValid (t : Tier α) : Prop :=
  match t.kind with
  | .lines frequency => Scalar.IsPositive frequency
  | .axis => True

instance (t : Tier α) : Decidable t.IsValid := by
  unfold IsValid
  split <;> infer_instance

end Tier

structure Style (α : Type) where
  tiers : List (Tier α)
  /-- Width of all lines, in pixels. -/
  lineWidth : α
  deriving DecidableEq

namespace Style

/-- The line width where no other is chosen: one pixel. -/
def defaultLineWidth : α := Scalar.one

def empty : Style α := { tiers := [], lineWidth := defaultLineWidth }

/-- The minor tier, the major tier over it, and the axes on top. -/
def default : Style α :=
  { tiers := [.minor, .major, .axis Tier.axisColor], lineWidth := defaultLineWidth }

def addTier (s : Style α) (tier : Tier α) : Style α := { s with tiers := s.tiers ++ [tier] }

/-- Sets the line width, unless it is not finite or not positive. -/
def setLineWidth (s : Style α) (width : α) : Style α :=
  if Scalar.IsPositive width then { s with lineWidth := width } else s

def stroke (s : Style α) : StrokeStyle α := ⟨s.lineWidth⟩

end Style

end Grid

end PanZoom
