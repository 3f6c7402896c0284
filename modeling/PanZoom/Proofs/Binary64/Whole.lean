import PanZoom.Proofs.Binary64.Nearest

/-!
# Whole numbers

Whole and half units as binary64 numbers. Rounding down to an integer is exact for every finite
number (`floor_quanta`), and so is adding where the exact sum is a magnitude (`add_exact`). Where it
is not, the sum is rounded to the same magnitude on both sides of zero (`add_opposite`).

Up to `2 ^ 53` units every whole number is a magnitude, and dividing it by a power of two is exact.
Past that only even ones are, and counting on from a whole number stops at the first step or at the
second (`count_on_stops`).
-/

namespace PanZoom

namespace Binary64

/-- Half of one unit, in quanta. -/
def halfUnit : Nat := 2 ^ 1073

theorem unit_eq_two_mul : unit = 2 * halfUnit := by
  rw [unit_eq, halfUnit, ← two_pow_mul 1 1073 1074 rfl, Nat.pow_one]

theorem halfUnit_pos : 0 < halfUnit := by
  have hpos := unit_pos
  rw [unit_eq_two_mul] at hpos
  exact Nat.pos_of_mul_pos_left hpos

theorem isMagnitude_halves {k : Nat} (hk : k < 2 ^ 53) : IsMagnitude (k * halfUnit) := by
  rw [← two_mul_binade] at hk
  have h := isMagnitude_mul_pow (e := 1073) hk (by decide)
  rwa [← halfUnit] at h

theorem isMagnitude_units {k : Nat} (hk : k < 2 ^ 53) : IsMagnitude (k * unit) := by
  rw [← two_mul_binade] at hk
  have h := isMagnitude_mul_pow (e := 1074) hk (by decide)
  rwa [← unit_eq] at h

theorem hasQuanta_ofNat {n : Nat} (hn : n < 2 ^ 53) :
    (Scalar.ofNat n : Binary64).HasQuanta (n * unit) := by
  rw [Scalar.ofNat]
  exact .ofRatio Nat.one_pos (isMagnitude_units hn) (Nat.mul_one (n * unit)).symm

theorem hasQuanta_two : (Scalar.two : Binary64).HasQuanta (2 * unit) := by
  rw [Scalar.two]
  exact hasQuanta_ofNat (by decide)

theorem hasQuanta_half : (Scalar.half : Binary64).HasQuanta halfUnit := by
  have hhalf : IsMagnitude halfUnit := by simpa using isMagnitude_halves (k := 1) (by decide)
  have h : 1 * unit = halfUnit * 2 := by
    rw [unit_eq_two_mul]
    ring
  rw [Scalar.half]
  exact .ofRatio Nat.two_pos hhalf h

theorem halfUnit_eq : halfUnit = 2 ^ 52 * 2 ^ 1021 := (two_pow_mul 52 1021 1073 rfl).symm

attribute [local irreducible] unit overflow halfUnit

/-! ## Exact results of either sign -/

section Results

variable {n d q : Nat}

theorem isFinite_ofQuanta (s : Bool) :
    Scalar.isFinite (ofQuanta s n d) = true ↔ nearestQuanta n d < overflow := by
  rw [nearestQuanta, ← lt_infinityIndex_iff, ofQuanta, ofIndex]
  split
  · rename_i hfits
    exact iff_of_true rfl hfits
  · rename_i hover
    exact iff_of_false Bool.false_ne_true hover

/-- An exact result that is a magnitude. -/
theorem ofQuanta_exact (s : Bool) (hd : 0 < d) (hq : IsMagnitude q) (h : n = q * d) :
    Scalar.isFinite (ofQuanta s n d) = true ∧ (ofQuanta s n d).quanta = signed s q := by
  have hexact : nearestQuanta n d = q := by rw [h, nearestQuanta_exact hq hd]
  have hfinite : Scalar.isFinite (ofQuanta s n d) = true :=
    (isFinite_ofQuanta s).mpr (by rw [hexact]; exact hq.lt_overflow)
  refine ⟨hfinite, ?_⟩
  rw [ofQuanta_quanta hfinite, hexact]

end Results

section Sums

variable {x y z : Binary64} (hx : Scalar.isFinite x = true) (hy : Scalar.isFinite y = true)
include hx hy

/-- A sum of finite numbers is one rounded result, also where it is zero. -/
theorem add_eq_ofQuanta : ∃ s, signed s (x.quanta + y.quanta).natAbs = x.quanta + y.quanta ∧
    x + y = ofQuanta s (x.quanta + y.quanta).natAbs 1 := by
  obtain ⟨s, i, rfl⟩ := isFinite_iff.mp hx
  obtain ⟨t, j, rfl⟩ := isFinite_iff.mp hy
  show ∃ r, _ ∧ add _ _ = _
  simp only [add, quanta]
  split
  · rename_i hzero
    refine ⟨s && t, ?_, ?_⟩
    · rw [hzero, Int.natAbs_zero, signed_zero]
    · rw [hzero, Int.natAbs_zero, ofQuanta, nearestIndex_zero]
      rfl
  · exact ⟨_, signed_natAbs _, rfl⟩

theorem add_exact (h : IsMagnitude (x.quanta + y.quanta).natAbs) :
    Scalar.isFinite (x + y) = true ∧ (x + y).quanta = x.quanta + y.quanta := by
  obtain ⟨s, hsign, hsum⟩ := add_eq_ofQuanta hx hy
  rw [hsum]
  nth_rewrite 3 [← hsign]
  exact ofQuanta_exact s Nat.one_pos h (Nat.mul_one _).symm

theorem sub_exact (h : IsMagnitude (x.quanta - y.quanta).natAbs) :
    Scalar.isFinite (x - y) = true ∧ (x - y).quanta = x.quanta - y.quanta := by
  obtain ⟨hneg, hquanta⟩ := neg_finite hy
  have hadd := add_exact hx hneg
  rw [hquanta, ← Int.sub_eq_add_neg] at hadd
  exact hadd h

/-- Rounding is the same on both sides of zero: terms with the opposite sum have the opposite
result. -/
theorem add_opposite {x' y' : Binary64} (hx' : Scalar.isFinite x' = true)
    (hy' : Scalar.isFinite y' = true) (hsum : x'.quanta + y'.quanta = -(x.quanta + y.quanta))
    (h : Scalar.isFinite (x + y) = true) :
    Scalar.isFinite (x' + y') = true ∧ (x' + y').quanta = -(x + y).quanta := by
  obtain ⟨s, hsign, hresult⟩ := add_eq_ofQuanta hx hy
  obtain ⟨s', hsign', hresult'⟩ := add_eq_ofQuanta hx' hy'
  rw [hsum, Int.natAbs_neg] at hsign' hresult'
  rw [hresult] at h ⊢
  rw [hresult']
  generalize x.quanta + y.quanta = z at *
  have hfinite : Scalar.isFinite (ofQuanta s' z.natAbs 1) = true :=
    (isFinite_ofQuanta s').mpr ((isFinite_ofQuanta s).mp h)
  refine ⟨hfinite, ?_⟩
  rw [ofQuanta_quanta h, ofQuanta_quanta hfinite]
  rcases Bool.eq_or_eq_not s' s with rfl | rfl
  · -- only zero is its own opposite
    have hzero : z.natAbs = 0 := by omega
    rw [hzero, nearestQuanta, nearestIndex_zero, quantaAt_of_lt (by decide), signed_zero]
    rfl
  · exact signed_not s _

omit hy in
/-- Adding a number that is not negative does not give the negative zero. -/
theorem add_eq_zero_of_quanta {q : Nat} (hy : y.HasQuanta q)
    (hsum : Scalar.isFinite (x + y) = true) (h : (x + y).quanta = 0) : x + y = zero false := by
  obtain ⟨s, i, rfl⟩ := isFinite_iff.mp hx
  obtain ⟨j, rfl, rfl⟩ := hy
  obtain ⟨z, hadd⟩ : ∃ z : Int, (Binary64.finite s i : Binary64) + .finite false j =
      if z = 0 then zero (s && false) else ofQuanta (z < 0) z.natAbs 1 := ⟨_, rfl⟩
  rw [hadd] at hsum h ⊢
  split
  · rw [Bool.and_false]
  · rename_i hne
    rw [if_neg hne] at hsum h
    rw [ofQuanta_quanta hsum] at h
    -- one quantum at least is left
    have hone : IsMagnitude 1 := isMagnitude_mul_pow (m := 1) (e := 0) (by decide) (by decide)
    have hleast := le_nearestQuanta hone Nat.one_pos (n := z.natAbs) (by omega)
    cases hs : decide (z < 0) <;> rw [hs] at h <;> simp only [signed] at h <;> omega

/-- The sum of opposites is zero, and not the negative one unless both terms are. -/
theorem add_eq_zero (h : x.quanta = -y.quanta) (hsign : y.quanta = 0 → y = zero false) :
    x + y = zero false := by
  obtain ⟨s, i, rfl⟩ := isFinite_iff.mp hx
  obtain ⟨t, j, rfl⟩ := isFinite_iff.mp hy
  have hadd : (Binary64.finite s i : Binary64) + .finite t j = zero (s && t) := by
    refine if_pos ?_
    show (Binary64.finite s i).quanta + (Binary64.finite t j).quanta = 0
    omega
  rw [hadd]
  cases t with
  | false => rw [Bool.and_false]
  | true =>
      cases s with
      | false => rfl
      | true =>
          -- two negative numbers are no opposites
          have hzero : (Binary64.finite true j).quanta = 0 := by
            simp only [quanta, signed, if_true] at h ⊢
            omega
          cases hsign hzero

/-- No finite number is nearer to the exact sum. -/
theorem add_nearest (h : Scalar.isFinite (x + y) = true) (hz : Scalar.isFinite z = true) :
    apart (x + y).quanta (x.quanta + y.quanta) ≤ apart z.quanta (x.quanta + y.quanta) := by
  obtain ⟨s, hsign, hsum⟩ := add_eq_ofQuanta hx hy
  rw [hsum] at h ⊢
  have hbest := ofQuanta_nearest Nat.one_pos h hz
  rwa [hsign, Int.natCast_one, Int.mul_one, Int.mul_one] at hbest

/-- Adding what is less than half of the last spacing does not overflow. -/
theorem add_finite (h : 2 * y.quanta.natAbs < 2 ^ 2045) : Scalar.isFinite (x + y) = true := by
  obtain ⟨s, hsign, hsum⟩ := add_eq_ofQuanta hx hy
  have hmagnitude := isMagnitude_natAbs hx
  have hroom := hmagnitude.add_le_overflow
  have hbest := nearestQuanta_nearest (n := (x.quanta + y.quanta).natAbs) Nat.one_pos hmagnitude
  rw [hsum]
  rw [isFinite_ofQuanta]
  rw [Nat.mul_one, Nat.mul_one] at hbest
  unfold apart at hbest
  generalize 2 ^ 2045 = spacing at h hroom
  omega

end Sums

/-! ## Rounding down -/

/-- The whole units in a magnitude when it is rounded downwards. -/
def unitsBelow (negative : Bool) (q : Nat) : Nat :=
  if negative then (q + (unit - 1)) / unit else q / unit

/-- A division that rounds up, and one that rounds down on the other side of zero. -/
theorem neg_ediv_eq {q u : Nat} (hu : 0 < u) : -(q : Int) / u = -((q + (u - 1)) / u : Nat) := by
  have hupper := le_div_mul (q := q) hu
  have hlower := Nat.div_mul_le_self (q + (u - 1)) u
  generalize (q + (u - 1)) / u = k at hupper hlower ⊢
  have hcast : ((k * u : Nat) : Int) = k * u := Int.natCast_mul k u
  have hfloor : -(q : Int) / u = -k ∧ -(q : Int) % u = k * u - q := by
    rw [Int.ediv_emod_unique (Int.natCast_pos.mpr hu)]
    refine ⟨by ring, ?_, ?_⟩
    · omega
    · omega
  exact hfloor.1

theorem signed_unitsBelow (s : Bool) (q : Nat) :
    signed s (unitsBelow s q) = signed s q / (unit : Int) := by
  cases s with
  | false =>
      simp only [signed, unitsBelow, Bool.false_eq_true, if_false]
      exact Int.natCast_ediv q unit
  | true =>
      simp only [signed, unitsBelow, if_true]
      rw [neg_ediv_eq unit_pos]

/-- From `2 ^ 52` units on a magnitude is a whole number of them. -/
theorem IsMagnitude.unit_dvd {q : Nat} (h : IsMagnitude q) (hq : 2 ^ 52 * unit ≤ q) : unit ∣ q := by
  rw [unit_eq] at hq ⊢
  exact h.two_pow_dvd hq

/-- What a magnitude with a full significand leaves to the next one of the next spacing. -/
theorem IsMagnitude.two_pow_sub {p k : Nat} (h : IsMagnitude p) (hk : k ≤ 2045)
    (hp : 2 ^ 52 * 2 ^ k ≤ p) : IsMagnitude (2 ^ 53 * 2 ^ k - p) := by
  obtain ⟨m, rfl⟩ := h.two_pow_dvd hp
  rw [Nat.mul_comm _ m] at hp ⊢
  have hm := Nat.le_of_mul_le_mul_right hp (Nat.two_pow_pos k)
  rw [← Nat.sub_mul]
  exact isMagnitude_mul_pow (by rw [two_mul_binade]; omega) hk

/-- Past one half, the digits of a magnitude leave a magnitude to the next unit. -/
theorem IsMagnitude.unit_sub {p : Nat} (h : IsMagnitude p) (hp : halfUnit ≤ p) :
    IsMagnitude (unit - p) := by
  rw [halfUnit_eq] at hp
  have hrest := h.two_pow_sub (by decide) hp
  rwa [two_pow_mul 53 1021 1074 rfl, ← unit_eq] at hrest

theorem isMagnitude_unitsBelow (s : Bool) {q : Nat} (h : IsMagnitude q) :
    IsMagnitude (unitsBelow s q * unit) := by
  have hpos := unit_pos
  rcases Nat.lt_or_ge q (2 ^ 52 * unit) with hsmall | hlarge
  · have hbelow : q / unit < 2 ^ 52 := (Nat.div_lt_iff_lt_mul hpos).mpr hsmall
    have habove : (q + (unit - 1)) / unit < 2 ^ 52 + 1 := by
      rw [Nat.div_lt_iff_lt_mul hpos, Nat.succ_mul]
      omega
    unfold unitsBelow
    split
    · exact isMagnitude_units (by omega)
    · exact isMagnitude_units (by omega)
  · obtain ⟨k, rfl⟩ := h.unit_dvd hlarge
    have hup : (unit * k + (unit - 1)) / unit = k := by
      rw [Nat.mul_add_div hpos, Nat.div_eq_of_lt (by omega), Nat.add_zero]
    have hsame : unitsBelow s (unit * k) = k := by
      unfold unitsBelow
      rw [hup, Nat.mul_div_cancel_left k hpos, ite_self]
    rwa [hsame, Nat.mul_comm]

/-- **Rounding down is exact.** -/
theorem floor_quanta {x : Binary64} (hx : Scalar.isFinite x = true) :
    Scalar.isFinite (Scalar.floor x) = true ∧
      (Scalar.floor x).quanta = x.quanta / unit * unit := by
  obtain ⟨s, i, rfl⟩ := isFinite_iff.mp hx
  have hfloor : Scalar.floor (Binary64.finite s i) =
      ofQuanta s (unitsBelow s (quantaAt i) * unit) 1 := by
    show Binary64.floor _ = _
    simp only [Binary64.floor, mapUnits, unitsBelow]
  have hexact := ofQuanta_exact s Nat.one_pos
    (isMagnitude_unitsBelow s ⟨i, rfl⟩) (Nat.mul_one _).symm
  rwa [← hfloor, signed_mul, signed_unitsBelow] at hexact

/-! ## Counting on -/

theorem whole_natAbs (k : Int) : (k * unit).natAbs = k.natAbs * unit := by
  rw [Int.natAbs_mul, Int.natAbs_natCast]

theorem two_mul_unit : 2 * unit = 2 ^ 1075 := by
  rw [unit_eq, ← two_pow_mul 1 1074 1075 rfl, Nat.pow_one]

theorem two_pow_mul_unit : 2 ^ 53 * unit = 2 ^ 52 * 2 ^ 1075 := by
  rw [← two_mul_unit, ← Nat.mul_assoc, ← Nat.pow_succ]

theorem isMagnitude_of_le {m e : Nat} (hm : m ≤ 2 ^ 53) (he : e ≤ 2044) :
    IsMagnitude (m * 2 ^ e) := by
  rcases Nat.lt_or_eq_of_le hm with hless | rfl
  · exact isMagnitude_mul_pow (by rwa [two_mul_binade]) (by omega)
  · rw [Nat.pow_succ, Nat.mul_assoc, ← Nat.pow_succ']
    exact isMagnitude_mul_pow (by decide) (by omega)

/-- Up to `2 ^ 53` every whole number is a number. -/
theorem isMagnitude_whole {k : Int} (hk : k.natAbs ≤ 2 ^ 53) : IsMagnitude (k * unit).natAbs := by
  rw [whole_natAbs, unit_eq]
  exact isMagnitude_of_le hk (by decide)

/-- From there on only the even ones are. -/
theorem IsMagnitude.even {k : Int} (h : IsMagnitude (k * unit).natAbs) (hk : 2 ^ 53 ≤ k.natAbs) :
    2 ∣ k := by
  rw [whole_natAbs] at h
  have hlarge : 2 ^ 52 * 2 ^ 1075 ≤ k.natAbs * unit := by
    rw [← two_pow_mul_unit]
    exact Nat.mul_le_mul_right unit hk
  have hdvd := h.two_pow_dvd hlarge
  rw [← two_mul_unit] at hdvd
  exact Int.natCast_dvd.mpr (Nat.dvd_of_mul_dvd_mul_right unit_pos hdvd)

section Counting

variable {x : Binary64} {k : Int} {n : Nat}

theorem toRat_whole (h : x.quanta = k * unit) : x.toRat = k := by
  have hunit : (unit : Rat) ≠ 0 := Nat.cast_ne_zero.mpr unit_pos.ne'
  rw [toRat_eq, h]
  push_cast
  field_simp

theorem exists_whole (hk : k.natAbs ≤ 2 ^ 53) :
    ∃ w : Binary64, Scalar.isFinite w = true ∧ w.quanta = k * unit := by
  obtain ⟨i, hi⟩ := isMagnitude_whole hk
  refine ⟨.finite (k * unit < 0) i, rfl, ?_⟩
  rw [quanta, hi, signed_natAbs]

/-- The exact product with a power of two. -/
theorem toRat_mul_two_pow (x : Binary64) {y : Binary64} {e : Nat}
    (hy : y.HasQuanta (2 ^ e * unit)) :
    x.toRat * y.toRat = ((x.quanta * 2 ^ e : Int) : Rat) / unit := by
  have hquanta : y.quanta = (2 ^ e : Int) * unit := by
    rw [hy.quanta_cast]
    push_cast
    rfl
  rw [toRat_whole hquanta, toRat_eq]
  push_cast
  ring

/-- A sum of whole numbers is a whole number, also where it is rounded. -/
theorem add_whole {y : Binary64} {m : Int} (hx : Scalar.isFinite x = true)
    (hy : Scalar.isFinite y = true) (h : Scalar.isFinite (x + y) = true)
    (hxk : x.quanta = k * unit) (hym : y.quanta = m * unit) :
    ∃ j : Int, (x + y).quanta = j * unit := by
  obtain ⟨s, _, hsum⟩ := add_eq_ofQuanta hx hy
  have hdvd : unit ∣ nearestQuanta (x.quanta + y.quanta).natAbs 1 := by
    rw [hxk, hym, ← Int.add_mul, whole_natAbs, unit_eq]
    exact two_pow_dvd_nearestQuanta (Nat.dvd_mul_left _ _)
  obtain ⟨j, hj⟩ := hdvd
  rw [hsum] at h ⊢
  rw [ofQuanta_quanta h, hj, Nat.mul_comm]
  exact ⟨signed s j, signed_mul s j unit⟩

theorem two_mul_units_lt (hn : n < 2 ^ 53) : 2 * (n * unit) < 2 ^ 2045 := by
  have hpow : ∀ a b, a < b → 2 ^ a < 2 ^ b := fun a b => Nat.pow_lt_pow_right Nat.one_lt_two
  have hless : 2 ^ 54 * unit < 2 ^ 2045 := by
    rw [unit_eq, two_pow_mul 54 1074 1128 rfl]
    exact hpow 1128 2045 (by decide)
  have hle : 2 * n * unit ≤ 2 ^ 54 * unit := Nat.mul_le_mul_right unit (by omega)
  rw [← Nat.mul_assoc]
  exact Nat.lt_of_le_of_lt hle hless

theorem add_ofNat_finite (hx : Scalar.isFinite x = true) (hn : n < 2 ^ 53) :
    Scalar.isFinite (x + Scalar.ofNat n) = true := by
  have hquanta := hasQuanta_ofNat hn
  refine add_finite hx hquanta.isFinite ?_
  rw [hquanta.quanta_cast, Int.natAbs_natCast]
  exact two_mul_units_lt hn

theorem add_ofNat_exact (hx : Scalar.isFinite x = true) (hxk : x.quanta = k * unit)
    (hn : n < 2 ^ 53) (h : IsMagnitude ((k + n) * unit).natAbs) :
    (x + Scalar.ofNat n).quanta = (k + n) * unit := by
  have hquanta := hasQuanta_ofNat hn
  have hsum : x.quanta + (Scalar.ofNat n : Binary64).quanta = (k + n) * unit := by
    rw [hxk, hquanta.quanta_cast, Int.natCast_mul, Int.add_mul]
  rw [← hsum] at h ⊢
  exact (add_exact hx hquanta.isFinite h).2

/-- Dividing these whole numbers by a power of two is exact. -/
theorem div_two_pow_quanta {y : Binary64} {e : Nat} (he : e ≤ 1074)
    (hx : Scalar.isFinite x = true) (hxk : x.quanta = k * unit) (hk : k.natAbs ≤ 2 ^ 53)
    (hy : y.HasQuanta (2 ^ e * unit)) :
    Scalar.isFinite (x / y) = true ∧ (x / y).quanta * 2 ^ e = x.quanta := by
  have hpos : 0 < 2 ^ e * unit := Nat.mul_pos (Nat.two_pow_pos e) unit_pos
  have hunit : unit = 2 ^ (1074 - e) * 2 ^ e := by
    rw [unit_eq, two_pow_mul (1074 - e) e 1074 (by omega)]
  obtain ⟨s, i, rfl⟩ := isFinite_iff.mp hx
  have hquanta : quantaAt i = k.natAbs * 2 ^ (1074 - e) * 2 ^ e := by
    rw [Nat.mul_assoc, ← hunit, ← whole_natAbs, ← hxk]
    cases s <;> simp [quanta, signed]
  have hproduct : quantaAt i * unit = k.natAbs * 2 ^ (1074 - e) * (2 ^ e * unit) := by
    rw [hquanta, Nat.mul_assoc]
  obtain ⟨hfinite, hquotient⟩ := ofQuanta_exact s hpos (isMagnitude_of_le hk (by omega)) hproduct
  rw [div_eq_ofQuanta s i hy hpos]
  refine ⟨hfinite, ?_⟩
  rw [hquotient, quanta, hquanta, signed_mul s (k.natAbs * 2 ^ (1074 - e)) (2 ^ e)]
  push_cast
  rfl

/-- The sum after one that is exact is one unit away from the exact sum at most. -/
theorem add_ofNat_near (hx : Scalar.isFinite x = true) (hxk : x.quanta = k * unit)
    (hn : n + 1 < 2 ^ 53) (hnow : IsMagnitude ((k + n) * unit).natAbs) :
    ∃ j : Int, (x + Scalar.ofNat (n + 1)).quanta = j * unit ∧
      (j = k + n ∨ j = k + n + 1 ∨ j = k + n + 2) := by
  have hone := hasQuanta_ofNat hn
  have hfinite := add_ofNat_finite hx hn
  have hunits : (Scalar.ofNat (n + 1) : Binary64).quanta = ((n + 1 : Nat) : Int) * unit := by
    rw [hone.quanta_cast, Int.natCast_mul]
  obtain ⟨j, hj⟩ := add_whole hx hone.isFinite hfinite hxk hunits
  refine ⟨j, hj, ?_⟩
  have hbest := add_nearest hx hone.isFinite hfinite (add_ofNat_finite (n := n) hx (by omega))
  have hsum : k * unit + ((n + 1 : Nat) : Int) * unit = (k + n + 1) * unit := by
    push_cast
    ring
  rw [hj, add_ofNat_exact hx hxk (by omega) hnow, hxk, hunits, hsum, apart_mul, apart_mul] at hbest
  have hstep := Nat.le_of_mul_le_mul_right hbest unit_pos
  unfold apart at hstep
  omega

/-- **Counting on stops** past `2 ^ 53`: the sum after a whole number is that number again, or it is
the sum after the next one too. -/
theorem count_on_stops (hx : Scalar.isFinite x = true) (hxk : x.quanta = k * unit)
    (hn : n + 2 < 2 ^ 53) (hnow : IsMagnitude ((k + n) * unit).natAbs)
    (hfar : 2 ^ 53 < (k + n + 1).natAbs) :
    (x + Scalar.ofNat (n + 1)).quanta = (x + Scalar.ofNat n).quanta ∨
      (x + Scalar.ofNat (n + 2)).quanta = (x + Scalar.ofNat (n + 1)).quanta := by
  obtain ⟨j, hj, hnear⟩ := add_ofNat_near hx hxk (by omega) hnow
  have hmagnitude := isMagnitude_natAbs (add_ofNat_finite (n := n + 1) hx (by omega))
  rw [hj] at hmagnitude
  rcases hnear with rfl | rfl | rfl
  · exact .inl (hj.trans (add_ofNat_exact hx hxk (by omega) hnow).symm)
  · -- past the bound only even numbers of units are exact
    have heven := hnow.even (by omega)
    have hodd := hmagnitude.even hfar.le
    omega
  · right
    have hnext : k + n + 2 = k + (n + 2 : Nat) := by push_cast; ring
    rw [hnext] at hj hmagnitude
    rw [add_ofNat_exact hx hxk (by omega) hmagnitude, hj]

end Counting

end Binary64

end PanZoom
