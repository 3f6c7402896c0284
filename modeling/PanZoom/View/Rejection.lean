/-!
# Rejected input

The causes for which a viewport refuses input. Refused input leaves the viewport as it was.
-/

namespace PanZoom

inductive Rejection where
  /-- A wheel delta or a distance is not a finite number. -/
  | nonFiniteDelta
  | nonFinitePosition
  /-- The pointer moved to pan, but no pan has begun. -/
  | notPanning
  /-- The view would leave the range in which it can be computed with. -/
  | overflow
  deriving DecidableEq, Repr

/-- What a user is told. -/
def Rejection.message : Rejection → String
  | nonFiniteDelta => "zoom input is not a finite number"
  | nonFinitePosition => "pointer position is not finite"
  | notPanning => "no pan gesture is active"
  | overflow => "viewport state would overflow"

end PanZoom
