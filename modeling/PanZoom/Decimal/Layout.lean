import PanZoom.Decimal.Shortest

/-!
# Layout of decimals

How the digits of a decimal are set out: with all places written, or as a coefficient with an
exponent.
-/

namespace PanZoom

namespace Decimal

/-- The choices that a layout leaves open. -/
structure Layout where
  /-- The least power of ten of a leading digit that is written with all places. -/
  least? : Option Int
  /-- The greatest power of ten of a leading digit that is written with all places. -/
  greatest? : Option Int
  /-- What follows a whole number written with all places. -/
  wholeSuffix : String

namespace Layout

/-- A leading digit of this power of ten is written with all places. -/
def allPlaces (l : Layout) (power : Int) : Bool :=
  l.least?.all (· ≤ power) && l.greatest?.all (power ≤ ·)

def zeros (n : Nat) : String := String.ofList (List.replicate n '0')

/-- The digits with all places written. The first `point` of them are before the decimal point;
a negative `point` counts zeros after it. -/
def writeAll (l : Layout) (digits : List Char) (point : Int) : String :=
  if point ≤ 0 then "0." ++ zeros (-point).toNat ++ String.ofList digits
  else
    let whole := point.toNat
    if digits.length ≤ whole then
      String.ofList digits ++ zeros (whole - digits.length) ++ l.wholeSuffix
    else String.ofList (digits.take whole) ++ "." ++ String.ofList (digits.drop whole)

/-- The digits as a coefficient with one digit before the point, and an exponent. -/
def writeScaled (digits : List Char) (point : Int) : String :=
  let fraction := digits.drop 1
  String.ofList (digits.take 1) ++
    (if fraction.isEmpty then "" else "." ++ String.ofList fraction) ++
    "e" ++ toString (point - 1)

def write (l : Layout) (d : Decimal) : String :=
  let digits := Nat.toDigits 10 d.coefficient
  let point := digits.length + d.exponent
  if l.allPlaces (point - 1) then l.writeAll digits point else writeScaled digits point

end Layout

end Decimal

end PanZoom
