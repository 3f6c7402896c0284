import Mathlib.Tactic.Linarith
import Mathlib.Tactic.Ring
import PanZoom.Binary64.Rounding

/-!
# Laws of rounding

Rounding to the nearest magnitude is monotone. A fraction enters as a numerator and a denominator,
and fractions are compared by cross multiplication, so nothing leaves the naturals.

The spacing of the magnitudes grows with the size of the fraction. As long as two fractions get
the same spacing the claim is about `roundHalfEven`; otherwise the index of the smaller fraction
stops where the indices of the next spacing begin.
-/

namespace PanZoom

namespace Binary64

/-! ## Rounding to a natural number -/

theorem div_le_roundHalfEven (n d : Nat) : n / d ≤ roundHalfEven n d := by
  simp only [roundHalfEven]
  split_ifs <;> omega

theorem roundHalfEven_le (n d : Nat) : roundHalfEven n d ≤ n / d + 1 := by
  simp only [roundHalfEven]
  split_ifs <;> omega

theorem div_le_div_of_cross {n d m e : Nat} (hd : 0 < d) (he : 0 < e) (h : n * e ≤ m * d) :
    n / d ≤ m / e := by
  rw [Nat.le_div_iff_mul_le he]
  have hfloor : n / d * d ≤ n := Nat.div_mul_le_self n d
  have hscaled : n / d * e * d ≤ m * d := by
    calc n / d * e * d = n / d * d * e := by ring
      _ ≤ n * e := Nat.mul_le_mul_right e hfloor
      _ ≤ m * d := h
  exact Nat.le_of_mul_le_mul_right hscaled hd

/-- A larger fraction is not rounded to a smaller natural number. -/
theorem roundHalfEven_mono {n d m e : Nat} (hd : 0 < d) (he : 0 < e) (h : n * e ≤ m * d) :
    roundHalfEven n d ≤ roundHalfEven m e := by
  rcases Nat.lt_or_eq_of_le (div_le_div_of_cross hd he h) with hlt | heq
  · calc roundHalfEven n d ≤ n / d + 1 := roundHalfEven_le n d
      _ ≤ m / e := hlt
      _ ≤ roundHalfEven m e := div_le_roundHalfEven m e
  · -- With equal whole parts the remainders decide, and they are in the order of the fractions.
    have hrem : n % d * e ≤ m % e * d := by
      have hn := Nat.div_add_mod n d
      have hm := Nat.div_add_mod m e
      rw [heq] at hn
      nlinarith
    have hhalf : d ≤ 2 * (n % d) → e ≤ 2 * (m % e) := by
      intro hle
      have hde : d * e ≤ 2 * (m % e) * d := by nlinarith
      exact Nat.le_of_mul_le_mul_right (by linarith) hd
    have hpast : d < 2 * (n % d) → e < 2 * (m % e) := by
      intro hlt
      have hde : d * e < 2 * (m % e) * d := by nlinarith
      exact Nat.lt_of_mul_lt_mul_right (a := d) (by linarith)
    simp only [roundHalfEven, heq]
    split_ifs <;> omega

/-! ## Rounding to a magnitude -/

theorem binade_eq : binade = 2 ^ 52 := rfl

theorem two_mul_binade : 2 * binade = 2 ^ 53 := rfl

/-- The index of a fraction stays within the indices of its own spacing and the first of the
next. -/
theorem nearestIndex_le (n d : Nat) :
    nearestIndex n d ≤ ((n / d).log2 - 52) * binade + 2 * binade := by
  -- counted in its spacing, a fraction has at most 53 binary digits
  have hwhole : n / (d <<< ((n / d).log2 - 52)) < 2 * binade := by
    rw [Nat.shiftLeft_eq, ← Nat.div_div_eq_div_mul, Nat.div_lt_iff_lt_mul (by positivity)]
    calc n / d < 2 ^ ((n / d).log2 + 1) := Nat.lt_log2_self
      _ ≤ 2 ^ (53 + ((n / d).log2 - 52)) := Nat.pow_le_pow_right (by omega) (by omega)
      _ = 2 * binade * 2 ^ ((n / d).log2 - 52) := by rw [Nat.pow_add, two_mul_binade]
  have hround := roundHalfEven_le n (d <<< ((n / d).log2 - 52))
  simp only [nearestIndex]
  omega

/-- A fraction whose spacing is not the least one has an index past the first binade of its
spacing. -/
theorem le_nearestIndex {n d : Nat} (h : 0 < (n / d).log2 - 52) :
    ((n / d).log2 - 52) * binade + binade ≤ nearestIndex n d := by
  -- above the least spacing it has all of the 53
  have hwhole : binade ≤ n / (d <<< ((n / d).log2 - 52)) := by
    rw [Nat.shiftLeft_eq, ← Nat.div_div_eq_div_mul, Nat.le_div_iff_mul_le (by positivity)]
    have hne : n / d ≠ 0 := by
      intro hzero
      simp [hzero] at h
    calc binade * 2 ^ ((n / d).log2 - 52) = 2 ^ (52 + ((n / d).log2 - 52)) := by
          rw [Nat.pow_add, binade_eq]
      _ = 2 ^ (n / d).log2 := by congr 1; omega
      _ ≤ n / d := Nat.log2_self_le hne
  have hround := div_le_roundHalfEven n (d <<< ((n / d).log2 - 52))
  simp only [nearestIndex]
  omega

/-- **Rounding is monotone.** A larger fraction does not get a smaller index. -/
theorem nearestIndex_mono {n d m e : Nat} (hd : 0 < d) (he : 0 < e) (h : n * e ≤ m * d) :
    nearestIndex n d ≤ nearestIndex m e := by
  have hlog : (n / d).log2 ≤ (m / e).log2 := by
    rcases Nat.eq_zero_or_pos (n / d) with hzero | hpos
    · simp [hzero]
    · have hwhole := div_le_div_of_cross hd he h
      rw [Nat.le_log2 (by omega)]
      exact le_trans (Nat.log2_self_le (by omega)) hwhole
  rcases Nat.lt_or_ge ((n / d).log2 - 52) ((m / e).log2 - 52) with hlt | hge
  · -- a larger spacing: its first index lies between
    have hupper := nearestIndex_le n d
    have hlower := le_nearestIndex (n := m) (d := e) (by omega)
    have hstep : ((n / d).log2 - 52 + 1) * binade ≤ ((m / e).log2 - 52) * binade :=
      Nat.mul_le_mul_right binade hlt
    rw [Nat.succ_mul] at hstep
    omega
  · -- the same spacing, which enlarges both denominators alike
    have hsame : (n / d).log2 - 52 = (m / e).log2 - 52 := by omega
    have hround : roundHalfEven n (d <<< ((m / e).log2 - 52)) ≤
        roundHalfEven m (e <<< ((m / e).log2 - 52)) := by
      apply roundHalfEven_mono
      · rw [Nat.shiftLeft_eq]
        positivity
      · rw [Nat.shiftLeft_eq]
        positivity
      · rw [Nat.shiftLeft_eq, Nat.shiftLeft_eq, ← Nat.mul_assoc, ← Nat.mul_assoc]
        exact Nat.mul_le_mul_right _ h
    simp only [nearestIndex, hsame]
    omega

end Binary64

end PanZoom
