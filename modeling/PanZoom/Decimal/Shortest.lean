/-!
# Shortest decimals

The decimal with the fewest digits that lies in an interval around a value, and of those the one
nearest to the value. On a grid of multiples of a power of ten only the two multiples around the
value need be looked at: if any multiple lies in the interval, one of these does. So the grids are
tried from coarse to fine, and the first one with a multiple in the interval wins.
-/

namespace PanZoom

structure Decimal where
  coefficient : Nat
  exponent : Int
  deriving DecidableEq, Repr

namespace Decimal

/-- The decimal of the same value without zeros at the end of the coefficient. -/
def normalize (coefficient : Nat) (exponent : Int) : Decimal :=
  if coefficient ≠ 0 ∧ coefficient % 10 = 0 then normalize (coefficient / 10) (exponent + 1)
  else { coefficient, exponent }
termination_by coefficient
decreasing_by omega

/-- The power of ten with an exponent; one for an exponent below zero. -/
def powerOfTen (p : Int) : Nat := Nat.pow 10 p.toNat

/-- The number of decimal digits of a natural number; zero has one. -/
def digitCount (n : Nat) : Nat := (Nat.toDigits 10 n).length

/-- A positive value between two bounds, as numerators over one denominator. -/
structure Interval where
  low : Nat
  value : Nat
  high : Nat
  denominator : Nat
  closed : Bool

namespace Interval

/-- Compares `c * 10 ^ p` with the fraction `n / denominator`, by what both are when multiplied
by the denominator and by the power of ten that makes them whole. -/
def compareAt (i : Interval) (c : Nat) (p : Int) (n : Nat) : Ordering :=
  compare (c * powerOfTen p * i.denominator) (n * powerOfTen (-p))

/-- The number `c * 10 ^ p` lies in the interval. -/
def holds (i : Interval) (c : Nat) (p : Int) : Bool :=
  match i.compareAt c p i.low, i.compareAt c p i.high with
  | .gt, .lt => true
  | .eq, _ | _, .eq => i.closed
  | _, _ => false

/-- The greatest `c` such that `c * 10 ^ p` is at most the value. -/
def below (i : Interval) (p : Int) : Nat :=
  i.value * powerOfTen (-p) / (powerOfTen p * i.denominator)

/-- The multiple of `10 ^ p` in the interval that is nearest to the value, if there is one.
Half-way between two of them the upper one is taken. -/
def nearest? (i : Interval) (p : Int) : Option Nat :=
  let c := i.below p
  if i.holds c p then
    let twice := compare ((2 * c + 1) * powerOfTen p * i.denominator)
      (2 * i.value * powerOfTen (-p))
    if i.holds (c + 1) p ∧ twice ≠ .gt then some (c + 1) else some c
  else if i.holds (c + 1) p then some (c + 1)
  else none

/-- The first hit on the grids of `10 ^ p`, `10 ^ (p - 1)` and so on. -/
def search (i : Interval) : (fuel : Nat) → (p : Int) → Decimal
  | 0, p => normalize (i.below p) p
  | fuel + 1, p =>
    match i.nearest? p with
    | some c => normalize c p
    | none => i.search fuel (p - 1)

/-- The grids to try for a value with 53 binary digits: 17 decimal digits tell all such values
apart, and the first grid may be one too coarse for a digit. -/
def maxGrids : Nat := 18

/-- The decimal in the interval with the fewest digits that is nearest to the value. The search
starts at the power of ten of the value's leading digit, or one above it. -/
def shortest (i : Interval) : Decimal :=
  let wholeDigits : Int := digitCount (i.value / i.denominator)
  i.search maxGrids (wholeDigits - digitCount (i.denominator / i.value))

end Interval

end Decimal

end PanZoom
