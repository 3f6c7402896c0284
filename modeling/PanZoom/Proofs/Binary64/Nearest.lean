import Mathlib.Algebra.Order.Field.Basic
import Mathlib.Algebra.Order.Ring.Cast
import Mathlib.Tactic.FieldSimp
import PanZoom.Proofs.Binary64.Signed

/-!
# Correct rounding

The error bound of `PanZoom.Proofs.Binary64.Exact` says how far a rounded result can be off. Here it
is said to be the best there is: no finite number is nearer to the exact result, and where two are
equally near the one with the even last digit is taken (`ofRatio_isRounding`).

The multiples of the spacing are all the magnitudes there are from the first binade of that spacing
on (`IsMagnitude.two_pow_dvd`), and of these the nearest is found by rounding to a natural number.
The magnitudes below are closer together, but the exact result is not among them, and so they are
farther away than the first magnitude of the binade is.
-/

namespace PanZoom

namespace Binary64

attribute [local irreducible] unit overflow

/-! ## Multiples of the spacing -/

/-- From `2 ^ 52` spacings on a magnitude is a multiple of the spacing. -/
theorem IsMagnitude.two_pow_dvd {q k : Nat} (h : IsMagnitude q) (hq : 2 ^ 52 * 2 ^ k ≤ q) :
    2 ^ k ∣ q := by
  obtain ⟨m, e, hm, _, rfl⟩ := h.form
  have hlt : 2 ^ (52 + k) < 2 ^ (53 + e) :=
    calc 2 ^ (52 + k) = 2 ^ 52 * 2 ^ k := Nat.pow_add 2 52 k
      _ ≤ m * 2 ^ e := hq
      _ < 2 ^ 53 * 2 ^ e := Nat.mul_lt_mul_of_pos_right hm (Nat.two_pow_pos e)
      _ = 2 ^ (53 + e) := (Nat.pow_add 2 53 e).symm
  have hexponent := (Nat.pow_lt_pow_iff_right Nat.one_lt_two).mp hlt
  exact (Nat.pow_dvd_pow 2 (by omega)).mul_left m

theorem two_pow_mul_eq_overflow : 2 ^ 53 * 2 ^ 2045 = overflow := by
  rw [overflow, unit_eq, two_pow_mul 53 2045 2098 rfl, two_pow_mul 1024 1074 2098 rfl]

/-- The greatest magnitude is one spacing below the overflow. -/
theorem IsMagnitude.add_le_overflow {q : Nat} (h : IsMagnitude q) : q + 2 ^ 2045 ≤ overflow := by
  obtain ⟨m, e, hm, he, rfl⟩ := h.form
  have hpow : ∀ k, e ≤ k → 2 ^ e ≤ 2 ^ k := fun k => Nat.pow_le_pow_right Nat.two_pos
  replace hpow := hpow 2045 he
  rw [← two_pow_mul_eq_overflow]
  generalize 2 ^ 2045 = s at hpow ⊢
  calc m * 2 ^ e + s ≤ m * s + s := Nat.add_le_add_right (Nat.mul_le_mul_left m hpow) s
    _ = (m + 1) * s := (Nat.succ_mul m s).symm
    _ ≤ 2 ^ 53 * s := Nat.mul_le_mul_right s hm

/-! ## The nearest multiple -/

/-- How far two exact results are from each other. -/
def apart (m n : Int) : Nat := (m - n).natAbs

theorem apart_mul (m n : Int) (d : Nat) : apart (m * d) (n * d) = apart m n * d := by
  rw [apart, ← Int.sub_mul, Int.natAbs_mul, Int.natAbs_natCast, apart]

section Multiples

variable {d : Nat} (hd : 0 < d) (n t : Nat)
include hd

/-- A fraction is rounded to its whole part or to the natural number after it, to the even one of
them if it is half-way. -/
theorem roundHalfEven_cases : ∃ k r, n = k * d + r ∧ r < d ∧
    (roundHalfEven n d = k ∧ 2 * r ≤ d ∧ (2 * r = d → k % 2 = 0) ∨
      roundHalfEven n d = k + 1 ∧ d ≤ 2 * r ∧ (2 * r = d → k % 2 = 1)) := by
  have hsplit := Nat.div_add_mod n d
  rw [Nat.mul_comm] at hsplit
  refine ⟨n / d, n % d, hsplit.symm, Nat.mod_lt n hd, ?_⟩
  simp only [roundHalfEven]
  split_ifs <;> omega

/-- No multiple of `d` is nearer. -/
theorem roundHalfEven_nearest :
    apart (roundHalfEven n d * d : Nat) n ≤ apart (t * d : Nat) n := by
  obtain ⟨k, r, hn, hr, hround⟩ := roundHalfEven_cases hd n
  have hsucc : (k + 1) * d = k * d + d := Nat.succ_mul k d
  have hside : t * d ≤ k * d ∨ (k + 1) * d ≤ t * d := by
    rcases Nat.lt_or_ge k t with hlt | hge
    · exact .inr (Nat.mul_le_mul_right d hlt)
    · exact .inl (Nat.mul_le_mul_right d hge)
  unfold apart
  rcases hround with ⟨hround, _, _⟩ | ⟨hround, _, _⟩ <;> rw [hround] <;> omega

/-- If another multiple is as near, the one that is taken is even. -/
theorem roundHalfEven_even {n t : Nat} (hne : t ≠ roundHalfEven n d)
    (htie : apart (t * d : Nat) n = apart (roundHalfEven n d * d : Nat) n) :
    roundHalfEven n d % 2 = 0 := by
  obtain ⟨k, r, hn, hr, hround⟩ := roundHalfEven_cases hd n
  have hone : (k + 1) * d = k * d + d := Nat.succ_mul k d
  have htwo : (k + 2) * d = k * d + 2 * d := Nat.add_mul k 2 d
  have hnext : (t + 1) * d = t * d + d := Nat.succ_mul t d
  have hside : (t + 1) * d ≤ k * d ∨ t = k ∨ t = k + 1 ∨ (k + 2) * d ≤ t * d := by
    rcases Nat.lt_or_ge t k with hlt | hge
    · exact .inl (Nat.mul_le_mul_right d hlt)
    · rcases Nat.lt_or_ge (k + 1) t with hgt | hle
      · exact .inr (.inr (.inr (Nat.mul_le_mul_right d hgt)))
      · omega
  unfold apart at htie
  rcases hround with ⟨hround, hhalf, heven⟩ | ⟨hround, hhalf, hodd⟩ <;> rw [hround] at hne htie ⊢
  · rcases hside with h | rfl | rfl | h <;> omega
  · rcases hside with h | rfl | rfl | h <;> omega

end Multiples

/-! ## The nearest magnitude -/

section Magnitudes

variable {n d q : Nat} (hd : 0 < d) (hq : IsMagnitude q)
include hd hq

/-- A magnitude is a multiple of the spacing at `n / d`, or it is farther away than the first
magnitude with that spacing. -/
theorem IsMagnitude.dvd_or_apart :
    2 ^ ((n / d).log2 - 52) ∣ q ∨
      apart (2 ^ 52 * (d * 2 ^ ((n / d).log2 - 52)) : Nat) n < apart (q * d : Nat) n := by
  rcases Nat.lt_or_ge q (2 ^ 52 * 2 ^ ((n / d).log2 - 52)) with hsmall | hlarge
  · rcases Nat.eq_zero_or_pos ((n / d).log2 - 52) with hzero | hpos
    · left
      rw [hzero, Nat.pow_zero]
      exact Nat.one_dvd q
    · right
      have hfirst := spacing_le_self hpos
      have hbelow : q * d < 2 ^ 52 * (d * 2 ^ ((n / d).log2 - 52)) :=
        calc q * d < 2 ^ 52 * 2 ^ ((n / d).log2 - 52) * d := Nat.mul_lt_mul_of_pos_right hsmall hd
          _ = 2 ^ 52 * (d * 2 ^ ((n / d).log2 - 52)) := by ring
      unfold apart
      omega
  · exact .inl (hq.two_pow_dvd hlarge)

/-- **No magnitude is nearer** than the one to which a fraction is rounded. -/
theorem nearestQuanta_nearest : apart (nearestQuanta n d * d : Nat) n ≤ apart (q * d : Nat) n := by
  have hspacing : 0 < d * 2 ^ ((n / d).log2 - 52) := Nat.mul_pos hd (Nat.two_pow_pos _)
  rw [nearestQuanta_mul]
  rcases hq.dvd_or_apart hd (n := n) with ⟨t, rfl⟩ | hfar
  · rw [show 2 ^ ((n / d).log2 - 52) * t * d = t * (d * 2 ^ ((n / d).log2 - 52)) by ring]
    exact roundHalfEven_nearest hspacing n t
  · exact (roundHalfEven_nearest hspacing n (2 ^ 52)).trans hfar.le

/-- If another magnitude is as near, the index of the one that is taken is even. -/
theorem nearestIndex_even (hne : q ≠ nearestQuanta n d)
    (htie : apart (q * d : Nat) n = apart (nearestQuanta n d * d : Nat) n) :
    nearestIndex n d % 2 = 0 := by
  have hspacing : 0 < d * 2 ^ ((n / d).log2 - 52) := Nat.mul_pos hd (Nat.two_pow_pos _)
  have heven : roundHalfEven n (d * 2 ^ ((n / d).log2 - 52)) % 2 = 0 := by
    rw [nearestQuanta_mul] at htie
    rcases hq.dvd_or_apart hd (n := n) with ⟨t, rfl⟩ | hfar
    · rw [show 2 ^ ((n / d).log2 - 52) * t * d = t * (d * 2 ^ ((n / d).log2 - 52)) by ring] at htie
      refine roundHalfEven_even hspacing (fun hsame => hne ?_) htie
      rw [nearestQuanta_eq, ← hsame, Nat.mul_comm]
    · have hfirst := roundHalfEven_nearest hspacing n (2 ^ 52)
      omega
  have hbinade : binade % 2 = 0 := rfl
  simp only [nearestIndex, Nat.shiftLeft_eq]
  rw [Nat.add_mod, Nat.mul_mod, hbinade, Nat.mul_zero, Nat.zero_mod, Nat.zero_add, heven]

end Magnitudes

/-! ## The nearest number -/

theorem apart_signed (s : Bool) (m n : Nat) : apart (signed s m) (signed s n) = apart m n := by
  cases s with
  | false => rfl
  | true =>
      simp only [apart, signed, if_true]
      omega

theorem apart_signed_not (s : Bool) (m n : Nat) : apart (signed (!s) m) (signed s n) = m + n := by
  cases s <;>
    simp only [apart, signed, Bool.not_true, Bool.not_false, if_true, if_false,
      Bool.false_eq_true] <;> omega

/-- Sizes are not farther apart than what they are the sizes of. -/
theorem apart_natAbs_le (s : Bool) (z : Int) (n : Nat) : apart z.natAbs n ≤ apart z (signed s n) := by
  cases s <;> simp only [apart, signed, if_true, if_false, Bool.false_eq_true] <;> omega

theorem isMagnitude_natAbs {x : Binary64} (hx : Scalar.isFinite x = true) :
    IsMagnitude x.quanta.natAbs := by
  obtain ⟨s, i, rfl⟩ := isFinite_iff.mp hx
  exact ⟨i, by cases s <;> simp [quanta, signed]⟩

section Rounded

variable {s : Bool} {n d : Nat} {y : Binary64} (hd : 0 < d)
  (h : Scalar.isFinite (ofQuanta s n d) = true) (hy : Scalar.isFinite y = true)
include hd h hy

theorem ofQuanta_nearest :
    apart ((ofQuanta s n d).quanta * d) (signed s n) ≤ apart (y.quanta * d) (signed s n) := by
  have hbest := nearestQuanta_nearest (n := n) hd (isMagnitude_natAbs hy)
  have hsize := apart_natAbs_le s (y.quanta * d) n
  rw [Int.natAbs_mul, Int.natAbs_natCast] at hsize
  rw [ofQuanta_quanta h, ← signed_mul, apart_signed]
  exact hbest.trans hsize

theorem ofQuanta_even (hne : y.quanta ≠ (ofQuanta s n d).quanta)
    (htie : apart (y.quanta * d) (signed s n) = apart ((ofQuanta s n d).quanta * d) (signed s n)) :
    nearestIndex n d % 2 = 0 := by
  have hmagnitude := isMagnitude_natAbs hy
  have hbest := nearestQuanta_nearest (n := n) hd hmagnitude
  have hsize := apart_natAbs_le s (y.quanta * d) n
  rw [Int.natAbs_mul, Int.natAbs_natCast] at hsize
  rw [ofQuanta_quanta h] at hne
  rw [ofQuanta_quanta h, ← signed_mul, apart_signed] at htie
  by_cases hsame : y.quanta.natAbs = nearestQuanta n d
  · -- the opposite number, which is as near only if it is zero
    have hopposite : y.quanta = signed (!s) (nearestQuanta n d) := by
      rw [← hsame] at hne ⊢
      cases s <;> simp only [signed, Bool.not_true, Bool.not_false, if_true, if_false,
        Bool.false_eq_true] at hne ⊢ <;> omega
    rw [hopposite, ← signed_mul, apart_signed_not] at htie
    have hzero : nearestQuanta n d = 0 := by
      rcases Nat.eq_zero_or_pos n with rfl | hn
      · rw [nearestQuanta, nearestIndex_zero_left hd]
        rfl
      · unfold apart at htie
        exact (Nat.mul_eq_zero.mp (by omega)).resolve_right hd.ne'
    rw [hopposite, hzero, signed_zero, signed_zero] at hne
    exact absurd rfl hne
  · exact nearestIndex_even hd hmagnitude hsame (Nat.le_antisymm (hsize.trans htie.le) hbest)

end Rounded

/-- The number is an exact value correctly rounded: it is finite, and no finite number is nearer to
the value. If another one is as near, this is the one whose last digit is even. -/
structure IsRounding (x : Binary64) (r : Rat) : Prop where
  finite : Scalar.isFinite x = true
  nearest : ∀ y : Binary64, Scalar.isFinite y = true → |x.toRat - r| ≤ |y.toRat - r|
  even : ∀ y : Binary64, Scalar.isFinite y = true → y.toRat ≠ x.toRat →
    |y.toRat - r| = |x.toRat - r| → x.toBits % 2 = 0

theorem toRat_eq (x : Binary64) : x.toRat = x.quanta / (unit : Rat) := by
  rw [toRat, Rat.mkRat_eq_div]

/-- The last digit of a rounded result is that of its index. -/
theorem ofQuanta_toBits {s : Bool} {n d : Nat} (h : Scalar.isFinite (ofQuanta s n d) = true) :
    (ofQuanta s n d).toBits = nearestIndex n d + if s then signBit else 0 := by
  unfold ofQuanta ofIndex at h ⊢
  split
  · rfl
  · rename_i hover
    rw [dif_neg hover] at h
    cases h

theorem div_sub_div_unit (w z : Int) {d : Nat} (hd : 0 < d) :
    |(w / unit : Rat) - z / (d * unit)| = apart (w * d) z / (d * unit) := by
  have hd' : (0 : Rat) < d := Nat.cast_pos.mpr hd
  have hunit : (0 : Rat) < unit := Nat.cast_pos.mpr unit_pos
  have hquotient : (w / unit : Rat) - z / (d * unit) = (w * d - z : Int) / ((d : Rat) * unit) := by
    push_cast
    field_simp
  rw [hquotient, abs_div, abs_of_pos (mul_pos hd' hunit), apart, Nat.cast_natAbs, Int.cast_abs]

/-- A rounded result is correctly rounded unless it overflows. -/
theorem ofQuanta_isRounding {s : Bool} {n d : Nat} (hd : 0 < d)
    (h : Scalar.isFinite (ofQuanta s n d) = true) :
    (ofQuanta s n d).IsRounding (signed s n / (d * unit)) := by
  have hpos : (0 : Rat) < d * unit :=
    mul_pos (Nat.cast_pos.mpr hd) (Nat.cast_pos.mpr unit_pos)
  refine ⟨h, fun y hy => ?_, fun y hy hne htie => ?_⟩
  · rw [toRat_eq, toRat_eq, div_sub_div_unit _ _ hd, div_sub_div_unit _ _ hd,
      div_le_div_iff_of_pos_right hpos, Nat.cast_le]
    exact ofQuanta_nearest hd h hy
  · rw [toRat_eq, toRat_eq, div_sub_div_unit _ _ hd, div_sub_div_unit _ _ hd,
      div_left_inj' hpos.ne', Nat.cast_inj] at htie
    have heven := ofQuanta_even hd h hy (fun hsame => hne (by rw [toRat_eq, toRat_eq, hsame])) htie
    have hsign : (if s then signBit else 0) % 2 = 0 := by cases s <;> rfl
    rw [ofQuanta_toBits h]
    omega

/-- The number nearest to a fraction is that fraction correctly rounded. -/
theorem ofRatio_isRounding (num : Int) {den : Nat} (hden : 0 < den)
    (h : Scalar.isFinite (Scalar.ofRatio num den : Binary64) = true) :
    (Scalar.ofRatio num den : Binary64).IsRounding (num / den) := by
  have hround := ofQuanta_isRounding hden h
  rw [signed_mul, signed_natAbs] at hround
  have hunit : (unit : Rat) ≠ 0 := Nat.cast_ne_zero.mpr unit_pos.ne'
  rwa [Int.cast_mul, Int.cast_natCast, mul_div_mul_right _ _ hunit] at hround

end Binary64

end PanZoom
