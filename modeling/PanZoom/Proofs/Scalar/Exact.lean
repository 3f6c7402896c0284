import Mathlib.Algebra.Order.Field.Rat
import Mathlib.Algebra.Order.Round
import Mathlib.Data.Rat.Floor
import PanZoom.Scalar.Exact

/-!
# The scalars of exact arithmetic

The constants and the roundings of a scalar, read as rational numbers. The operations of the field
and the order are those of the rational numbers by definition.
-/

namespace PanZoom

namespace Exact

theorem one_eq : (Scalar.one : Rat) = 1 := by decide +kernel

theorem two_eq : (Scalar.two : Rat) = 2 := by decide +kernel

theorem half_eq : (Scalar.half : Rat) = 1 / 2 := by decide +kernel

theorem ofNat_eq (n : Nat) : (Scalar.ofNat n : Rat) = n := by
  have hquotient : (Scalar.ofNat n : Rat) = mkRat n 1 := rfl
  rw [hquotient, Rat.mkRat_eq_div, Int.cast_natCast, Nat.cast_one, div_one]

theorem isPositive_iff (x : Rat) : Scalar.IsPositive x ↔ 0 < x :=
  and_iff_right rfl

theorem max_eq (x y : Rat) : Scalar.max x y = max x y :=
  (max_def_lt x y).symm

theorem floor_eq (x : Rat) : Scalar.floor x = (⌊x⌋ : Rat) := rfl

theorem ceil_eq (x : Rat) : Scalar.ceil x = (⌈x⌉ : Rat) := by
  have hceil : x.ceil = ⌈x⌉ := eq_of_forall_ge_iff fun _ => Rat.ceil_le_iff.trans Int.ceil_le.symm
  exact congrArg Rat.ofInt hceil

/-! ## Rounding to the nearest integer -/

/-- Below zero the rounding is the opposite of the rounding of the opposite. -/
theorem roundAway_eq (x : Rat) : roundAway x = if x < 0 then -round (-x) else round x := by
  have hhalf : mkRat 1 2 = 1 / 2 := by decide +kernel
  rw [roundAway, hhalf]
  simp only [Rat.num_neg, round_eq]
  rfl

theorem roundAway_of_nonneg {x : Rat} (h : 0 ≤ x) : roundAway x = round x := by
  rw [roundAway_eq, if_neg (not_lt.mpr h)]

theorem roundAway_neg (x : Rat) : roundAway (-x) = -roundAway x := by
  rcases lt_trichotomy x 0 with hneg | rfl | hpos
  · rw [roundAway_of_nonneg (neg_nonneg.mpr hneg.le), roundAway_eq, if_pos hneg, neg_neg]
  · decide +kernel
  · rw [roundAway_eq, if_pos (neg_neg_of_pos hpos), neg_neg, roundAway_of_nonneg hpos.le]

theorem roundAway_intCast (k : Int) : roundAway k = k := by
  rw [roundAway_eq]
  split
  · rw [← Int.cast_neg, round_intCast, neg_neg]
  · exact round_intCast k

/-- No integer is nearer. -/
theorem abs_sub_roundAway_le (x : Rat) (k : Int) : |x - roundAway x| ≤ |x - k| := by
  rw [roundAway_eq]
  split
  · have hnearest := round_le (-x) (-k)
    rw [← abs_neg, ← abs_neg (x - k)]
    simpa only [Int.cast_neg, neg_sub', neg_neg] using hnearest
  · exact round_le x k

theorem round_eq (x : Rat) : Scalar.round x = (roundAway x : Rat) := rfl

end Exact

end PanZoom
