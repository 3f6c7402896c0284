import PanZoom.Scalar
import PanZoom.Binary64.Rounding

/-!
# Binary64 arithmetic

Each operation on finite numbers is the exact result rounded once to the nearest number. The rest
of a definition says what the infinities, NaN and the signs of zero do: an operation without a
sensible result gives NaN, a product or quotient takes the sign that the signs of its operands
give, and a sum that is exactly zero is negative only if both terms are.
-/

namespace PanZoom

namespace Binary64

def neg : Binary64 → Binary64
  | nan => nan
  | inf s => inf !s
  | finite s i => finite (!s) i

/-- The rounded sum. Infinities of opposite signs have none. -/
def add : Binary64 → Binary64 → Binary64
  | finite s i, finite t j =>
    let sum := signed s (quantaAt i) + signed t (quantaAt j)
    if sum = 0 then zero (s && t) else ofQuanta (sum < 0) sum.natAbs 1
  | nan, _ => nan
  | _, nan => nan
  | inf s, inf t => if s = t then inf s else nan
  | inf s, finite _ _ => inf s
  | finite _ _, inf t => inf t

def sub (a b : Binary64) : Binary64 := add a (neg b)

/-- The rounded product. Zero times infinity has none. -/
def mul : Binary64 → Binary64 → Binary64
  | finite s i, finite t j => ofQuanta (s != t) (quantaAt i * quantaAt j) unit
  | nan, _ => nan
  | _, nan => nan
  | inf s, inf t => inf (s != t)
  | inf s, finite t j => if j.val = 0 then nan else inf (s != t)
  | finite s i, inf t => if i.val = 0 then nan else inf (s != t)

/-- The rounded quotient. A number other than zero divided by zero is infinite; zero by zero and
infinity by infinity have no quotient. -/
def div : Binary64 → Binary64 → Binary64
  | finite s i, finite t j =>
    if j.val = 0 then
      if i.val = 0 then nan else inf (s != t)
    else ofQuanta (s != t) (quantaAt i * unit) (quantaAt j)
  | nan, _ => nan
  | _, nan => nan
  | inf _, inf _ => nan
  | inf s, finite t _ => inf (s != t)
  | finite s _, inf t => zero (s != t)

/-! ## Comparison -/

/-- Both values have a rank, and the ranks are in the relation `r`. -/
def Ranked (r : Int → Int → Prop) : Option Int → Option Int → Prop
  | some m, some n => r m n
  | _, _ => False

instance (r : Int → Int → Prop) [DecidableRel r] :
    (x y : Option Int) → Decidable (Ranked r x y)
  | some m, some n => inferInstanceAs (Decidable (r m n))
  | some _, none => isFalse id
  | none, _ => isFalse id

/-- One number is below another. NaN is below nothing, and nothing is below it. -/
def lt (a b : Binary64) : Prop := Ranked (· < ·) a.rank? b.rank?

/-- One number is at most another. This fails for NaN, even against itself. -/
def le (a b : Binary64) : Prop := Ranked (· ≤ ·) a.rank? b.rank?

/-! ## Integers -/

/-- Rounds the magnitude of a finite number to a whole number of units by `f`, which is given the
quanta, and keeps the sign also when the result is zero. -/
def mapUnits (f : (negative : Bool) → Nat → Nat) : Binary64 → Binary64
  | finite s i => ofQuanta s (f s (quantaAt i) * unit) 1
  | x => x

def floor : Binary64 → Binary64 :=
  mapUnits fun negative q => if negative then (q + (unit - 1)) / unit else q / unit

def ceil : Binary64 → Binary64 :=
  mapUnits fun negative q => if negative then q / unit else (q + (unit - 1)) / unit

/-- The nearest integer; a half goes away from zero. -/
def round : Binary64 → Binary64 :=
  mapUnits fun _ q => (2 * q + unit) / (2 * unit)

/-! ## Tests and conversions -/

def isNaN : Binary64 → Bool
  | nan => true
  | _ => false

def isFinite : Binary64 → Bool
  | finite _ _ => true
  | _ => false

/-- The value is finite and at least `2^-1022` in magnitude, so that its significand has all its
53 digits. -/
def isNormal : Binary64 → Bool
  | finite _ i => binade ≤ i.val
  | _ => false

def ofRatio (num : Int) (den : Nat) : Binary64 :=
  ofQuanta (num < 0) (num.natAbs * unit) den

instance : Scalar Binary64 where
  add := add
  sub := sub
  mul := mul
  div := div
  neg := neg
  lt := lt
  le := le
  ofRatio := ofRatio
  isNaN := isNaN
  isFinite := isFinite
  isNormal := isNormal
  floor := floor
  ceil := ceil
  round := round
  decidableLT a b := inferInstanceAs (Decidable (Ranked (· < ·) a.rank? b.rank?))
  decidableLE a b := inferInstanceAs (Decidable (Ranked (· ≤ ·) a.rank? b.rank?))

end Binary64

end PanZoom
