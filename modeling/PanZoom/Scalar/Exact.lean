import PanZoom.Scalar

/-!
# Exact arithmetic

The rational numbers as scalars. Nothing is rounded, every value is finite, and only zero is not
held to full precision. The geometric laws of the library are read here: they say what a formula
means before any rounding.
-/

namespace PanZoom

namespace Exact

/-- The integer nearest to a fraction; a half goes away from zero. -/
def roundAway (q : Rat) : Int :=
  if q.num < 0 then -(q.neg.add (mkRat 1 2)).floor else (q.add (mkRat 1 2)).floor

end Exact

/-- Rational numbers compute without rounding. -/
instance : Scalar Rat where
  add := Rat.add
  sub := Rat.sub
  mul := Rat.mul
  div := Rat.div
  neg := Rat.neg
  lt a b := a.blt b = true
  le a b := b.blt a = false
  ofRatio := mkRat
  isNaN _ := false
  isFinite _ := true
  isNormal q := q.num != 0
  floor q := Rat.ofInt q.floor
  ceil q := Rat.ofInt q.ceil
  round q := Rat.ofInt (Exact.roundAway q)
  decidableLT a b := inferInstanceAs (Decidable (a.blt b = true))
  decidableLE a b := inferInstanceAs (Decidable (b.blt a = false))

end PanZoom
