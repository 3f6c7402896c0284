import PanZoom.Plane

/-!
# Grid units and pixel centres

A grid of frequency `f` has `f` lines in each logical unit. In grid units its lines are at the
integers, so that snapping to the grid is rounding. Lines are drawn at pixel centres, which are
half-way between integers: a stroke one pixel wide then covers one column or row exactly.
-/

namespace PanZoom

namespace Grid

variable {α : Type} [Scalar α]

/-- A logical point in units of the grid. -/
def toUnits (frequency : α) (p : Point α) : Point α := p.map (· * frequency)

/-- The logical point of a point in units of the grid. A frequency that is not finite and positive
makes no grid, and the point stays as it is. -/
def ofUnits (frequency : α) (p : Point α) : Point α :=
  if Scalar.IsPositive frequency then p.map (· / frequency) else p

/-- The crossing of grid lines nearest to a logical point; half-way, the one farther from the
origin. A frequency that makes no grid leaves the point as it is. -/
def snap (frequency : α) (p : Point α) : Point α :=
  if Scalar.IsPositive frequency then
    ofUnits frequency ((toUnits frequency p).map Scalar.round)
  else p

/-- The pixel centre for a coordinate: the nearest integer, a half going up, and one half. The
part above the integer below is what decides, since adding one half to the coordinate itself may
round up what is just below a half. -/
def alignPixel (x : α) : α :=
  let below := Scalar.floor x
  let nearest := if Scalar.half ≤ x - below then below + Scalar.one else below
  nearest + Scalar.half

end Grid

end PanZoom
