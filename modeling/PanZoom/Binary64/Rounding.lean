import PanZoom.Binary64

/-!
# Rounding to the nearest number

An exact result is a sign and a fraction of quanta `n / d`. `nearestIndex` finds the magnitude
nearest to it; a tie goes to the even index, which is the even significand. This is the only place
where anything is rounded: an operation computes its exact result and rounds once.

The indices are such that one formula covers every size. With spacing `2^e` quanta, where `e` is
the number of binary digits of the fraction's whole part beyond 53, the rounded multiple of the
spacing lies between one and two binades, both included, and counting a binade of indices for each
doubling of the spacing makes the upper end of a binade the start of the next. For small fractions
`e` stops at zero, and subnormal magnitudes need no rule of their own.
-/

namespace PanZoom

namespace Binary64

/-- The natural number nearest to `n / d`; a tie goes to the even one. -/
def roundHalfEven (n d : Nat) : Nat :=
  let q := n / d
  let r := n % d
  if 2 * r < d then q else if d < 2 * r then q + 1 else q + q % 2

/-- The index of the magnitude nearest to `n / d` quanta; a tie goes to the even index. -/
def nearestIndex (n d : Nat) : Nat :=
  let e := (n / d).log2 - 52
  e * binade + roundHalfEven n (d <<< e)

/-- The number nearest to `n / d` quanta, with a given sign. Past the greatest finite number the
result is infinite; below half the least one it is a zero that keeps the sign. -/
def ofQuanta (negative : Bool) (n d : Nat) : Binary64 :=
  ofIndex negative (nearestIndex n d)

end Binary64

end PanZoom
