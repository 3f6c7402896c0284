/-!
# Scalars: the numbers a view is computed with

Every formula of the library is written once, over a type `α` with `[Scalar α]`, and is read in
two arithmetics: rounded binary arithmetic (`Binary64`), in which the library runs, and exact
rational arithmetic (`Rat`), in which its geometric laws are stated. A scalar type may have values
that are not finite numbers, and its order need not be total: a comparison with a value that is
not a number is false.
-/

namespace PanZoom

/-- A number type with the operations of the library: field operations, comparisons that can be
decided, the three roundings to an integer, and tests for values that are not ordinary numbers. -/
class Scalar (α : Type) extends Add α, Sub α, Mul α, Div α, Neg α, LT α, LE α where
  /-- The scalar nearest to the fraction `num / den`. -/
  ofRatio : (num : Int) → (den : Nat) → α
  isNaN : α → Bool
  isFinite : α → Bool
  /-- The value is finite, is not zero, and is held to full precision. -/
  isNormal : α → Bool
  floor : α → α
  ceil : α → α
  /-- The nearest integer; a half goes away from zero. -/
  round : α → α
  decidableLT : DecidableLT α
  decidableLE : DecidableLE α

attribute [reducible, instance] Scalar.decidableLT Scalar.decidableLE

namespace Scalar

variable {α : Type} [Scalar α]

def ofNat (n : Nat) : α := ofRatio n 1

def zero : α := ofNat 0

def one : α := ofNat 1

def two : α := ofNat 2

def half : α := ofRatio 1 2

/-- The greater of two scalars. A value that is not a number gives way to the other one, and of
two equal values the first is kept. -/
def max (a b : α) : α := if isNaN a then b else if a < b then b else a

/-- The lesser of two scalars. A value that is not a number gives way to the other one, and of
two equal values the first is kept. -/
def min (a b : α) : α := if isNaN a then b else if b < a then b else a

/-- The value equals zero, whatever its sign. -/
def IsZero (a : α) : Prop := a ≤ zero ∧ zero ≤ a

instance (a : α) : Decidable (IsZero a) := inferInstanceAs (Decidable (_ ∧ _))

/-- The value is finite and above zero. -/
def IsPositive (a : α) : Prop := isFinite a ∧ zero < a

instance (a : α) : Decidable (IsPositive a) := inferInstanceAs (Decidable (_ ∧ _))

end Scalar

end PanZoom
