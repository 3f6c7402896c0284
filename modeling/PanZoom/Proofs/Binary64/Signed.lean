import Mathlib.Data.Rat.Cast.Order
import PanZoom.Proofs.Binary64.Exact

/-!
# Results of either sign

`nearestRank` is the place in the order of all numbers to which an exact result is rounded. It is
monotone on both sides of zero, and where a result overflows (`nearestRank_mono`). Each operation
on finite numbers has a lemma that says of which exact result it gives the rank, so that facts on
rounded numbers are facts on the order of fractions.
-/

namespace PanZoom

namespace Binary64

attribute [local irreducible] unit overflow

/-! ## Signs -/

theorem signed_natAbs (z : Int) : signed (z < 0) z.natAbs = z := by
  unfold signed
  by_cases hz : z < 0
  · simp only [hz, decide_true, if_true]
    omega
  · simp only [hz, decide_false, Bool.false_eq_true, if_false]
    omega

theorem signed_mul (s : Bool) (m n : Nat) : signed s (m * n) = signed s m * n := by
  cases s <;> simp [signed]

theorem signed_mul_signed (s t : Bool) (m n : Nat) :
    signed (s != t) (m * n) = signed s m * signed t n := by
  cases s <;> cases t <;> simp [signed]

theorem signed_zero (s : Bool) : signed s 0 = 0 := by
  cases s <;> rfl

theorem signed_not (s : Bool) (n : Nat) : signed (!s) n = -signed s n := by
  cases s <;> simp [signed]

/-- Signed magnitudes are in order if the magnitudes are, which below zero is the other order. -/
theorem signed_le_signed {z w : Int} {m n : Nat} (hsign : w < 0 → z < 0) (hneg : w < 0 → n ≤ m)
    (hpos : 0 ≤ z → m ≤ n) : signed (z < 0) m ≤ signed (w < 0) n := by
  unfold signed
  by_cases hz : z < 0
  · by_cases hw : w < 0
    · have hle := hneg hw
      simp only [hz, hw, decide_true, if_true]
      omega
    · simp only [hz, hw, decide_true, decide_false, Bool.false_eq_true, if_true, if_false]
      omega
  · have hw : ¬ w < 0 := fun h => hz (hsign h)
    have hle := hpos (by omega)
    simp only [hz, hw, decide_false, Bool.false_eq_true, if_false]
    omega

/-! ## The rank of a rounded result -/

/-- The rank of the number nearest to `z / d` quanta. -/
def nearestRank (z : Int) (d : Nat) : Int :=
  signed (z < 0) (min (nearestIndex z.natAbs d) infinityIndex)

theorem ofIndex_rank (s : Bool) (i : Nat) :
    (ofIndex s i).rank? = some (signed s (min i infinityIndex : Nat)) := by
  unfold ofIndex
  split
  · rename_i hi
    rw [Nat.min_eq_left hi.le]
    rfl
  · rename_i hi
    rw [Nat.min_eq_right (Nat.le_of_not_lt hi)]
    rfl

theorem nearestIndex_zero_left {d : Nat} (hd : 0 < d) : nearestIndex 0 d = 0 := by
  have h := nearestIndex_quantaAt 0 hd
  rwa [quantaAt_of_lt (by decide), Nat.zero_mul] at h

theorem ofQuanta_rank (s : Bool) (n : Nat) {d : Nat} (hd : 0 < d) :
    (ofQuanta s n d).rank? = some (nearestRank (signed s n) d) := by
  rw [ofQuanta, ofIndex_rank, nearestRank]
  rcases Nat.eq_zero_or_pos n with rfl | hn
  · -- a zero of either sign has the rank zero
    rw [signed_zero, Int.natAbs_zero, nearestIndex_zero_left hd, Nat.zero_min, signed_zero,
      signed_zero]
  · have hsign : decide (signed s n < 0) = s := by cases s <;> simp [signed, hn]
    have habs : (signed s n).natAbs = n := by cases s <;> simp [signed]
    rw [hsign, habs]

/-- **Rounding is monotone** on all of the line. -/
theorem nearestRank_mono {z w : Int} {d e : Nat} (hd : 0 < d) (he : 0 < e)
    (h : z * e ≤ w * d) : nearestRank z d ≤ nearestRank w e := by
  have hd' : (0 : Int) < d := Int.natCast_pos.mpr hd
  have he' : (0 : Int) < e := Int.natCast_pos.mpr he
  refine signed_le_signed ?_ ?_ ?_
  · intro hw
    exact neg_of_mul_neg_left (h.trans_lt (mul_neg_of_neg_of_pos hw hd')) he'.le
  · intro hw
    have hz : z < 0 := neg_of_mul_neg_left (h.trans_lt (mul_neg_of_neg_of_pos hw hd')) he'.le
    refine min_le_min_right _ (nearestIndex_mono he hd ?_)
    zify
    rw [abs_of_neg hz, abs_of_neg hw]
    linarith
  · intro hz
    have hw : 0 ≤ w := nonneg_of_mul_nonneg_left ((mul_nonneg hz he'.le).trans h) hd'
    refine min_le_min_right _ (nearestIndex_mono hd he ?_)
    zify
    rwa [abs_of_nonneg hz, abs_of_nonneg hw]

theorem nearestRank_zero {d : Nat} (hd : 0 < d) : nearestRank 0 d = 0 := by
  rw [nearestRank, Int.natAbs_zero, nearestIndex_zero_left hd, Nat.zero_min, signed_zero]

/-- Rounding keeps the sign, or gives zero. -/
theorem nearestRank_nonneg {z : Int} {d : Nat} (hd : 0 < d) (h : 0 ≤ z) : 0 ≤ nearestRank z d := by
  rw [← nearestRank_zero hd]
  exact nearestRank_mono hd hd (Int.mul_le_mul_of_nonneg_right h (Int.natCast_nonneg _))

theorem nearestRank_nonpos {z : Int} {d : Nat} (hd : 0 < d) (h : z ≤ 0) : nearestRank z d ≤ 0 := by
  rw [← nearestRank_zero hd]
  exact nearestRank_mono hd hd (Int.mul_le_mul_of_nonneg_right h (Int.natCast_nonneg _))

/-! ## Finite numbers -/

section Finite

variable {x y : Binary64}

/-- A finite number is rounded to itself. -/
theorem rank_eq (hx : Scalar.isFinite x = true) : x.rank? = some (nearestRank x.quanta 1) := by
  obtain ⟨s, i, rfl⟩ := isFinite_iff.mp hx
  have h := ofQuanta_rank s (quantaAt i) Nat.one_pos
  rwa [ofQuanta_quantaAt] at h

theorem neg_finite (hx : Scalar.isFinite x = true) :
    Scalar.isFinite (-x) = true ∧ (-x).quanta = -x.quanta := by
  obtain ⟨s, i, rfl⟩ := isFinite_iff.mp hx
  exact ⟨rfl, signed_not s (quantaAt i)⟩

theorem add_rank (hx : Scalar.isFinite x = true) (hy : Scalar.isFinite y = true) :
    (x + y).rank? = some (nearestRank (x.quanta + y.quanta) 1) := by
  obtain ⟨s, i, rfl⟩ := isFinite_iff.mp hx
  obtain ⟨t, j, rfl⟩ := isFinite_iff.mp hy
  show (add _ _).rank? = _
  simp only [add, quanta]
  split
  · rename_i hzero
    rw [hzero]
    cases s <;> cases t <;> rfl
  · rw [ofQuanta_rank _ _ Nat.one_pos, signed_natAbs]

theorem sub_rank (hx : Scalar.isFinite x = true) (hy : Scalar.isFinite y = true) :
    (x - y).rank? = some (nearestRank (x.quanta - y.quanta) 1) := by
  obtain ⟨hneg, hquanta⟩ := neg_finite hy
  have h := add_rank hx hneg
  rwa [hquanta, ← Int.sub_eq_add_neg] at h

theorem mul_rank (hx : Scalar.isFinite x = true) (hy : Scalar.isFinite y = true) :
    (x * y).rank? = some (nearestRank (x.quanta * y.quanta) unit) := by
  obtain ⟨s, i, rfl⟩ := isFinite_iff.mp hx
  obtain ⟨t, j, rfl⟩ := isFinite_iff.mp hy
  show (ofQuanta (s != t) (quantaAt i * quantaAt j) unit).rank? = _
  rw [ofQuanta_rank _ _ unit_pos, signed_mul_signed, quanta, quanta]

variable {q : Nat}

theorem div_eq_ofQuanta (s : Bool) (i : Fin infinityIndex) (hy : y.HasQuanta q) (hq : 0 < q) :
    Binary64.finite s i / y = ofQuanta s (quantaAt i * unit) q := by
  obtain ⟨j, rfl, rfl⟩ := hy
  have hj : 0 < j.val := quantaAt_strictMono.lt_iff_lt.mp hq
  show div _ _ = _
  simp only [div]
  rw [if_neg hj.ne', Bool.bne_false]

theorem div_rank (hx : Scalar.isFinite x = true) (hy : y.HasQuanta q) (hq : 0 < q) :
    (x / y).rank? = some (nearestRank (x.quanta * unit) q) := by
  obtain ⟨s, i, rfl⟩ := isFinite_iff.mp hx
  rw [div_eq_ofQuanta s i hy hq, ofQuanta_rank _ _ hq, signed_mul, quanta]

theorem le_iff_quanta (hx : Scalar.isFinite x = true) (hy : Scalar.isFinite y = true) :
    x ≤ y ↔ x.quanta ≤ y.quanta := by
  obtain ⟨s, i, rfl⟩ := isFinite_iff.mp hx
  obtain ⟨t, j, rfl⟩ := isFinite_iff.mp hy
  rw [finite_le_finite]
  have horder : ∀ i j : Fin infinityIndex, quantaAt i ≤ quantaAt j ↔ i.val ≤ j.val :=
    fun _ _ => quantaAt_strictMono.le_iff_le
  have hzero : ∀ i : Fin infinityIndex, quantaAt i = 0 ↔ i.val = 0 :=
    fun i => quantaAt_strictMono.injective.eq_iff' (quantaAt_of_lt (by decide))
  have hij := horder i j
  have hji := horder j i
  have hi := hzero i
  have hj := hzero j
  cases s <;> cases t <;>
    simp only [quanta, signed, if_true, if_false, Bool.false_eq_true] <;> omega

theorem lt_iff_quanta (hx : Scalar.isFinite x = true) (hy : Scalar.isFinite y = true) :
    x < y ↔ x.quanta < y.quanta := by
  rw [← Int.not_le, ← le_iff_quanta hy hx, lt_iff_rank (rank_eq hx) (rank_eq hy),
    le_iff_rank (rank_eq hy) (rank_eq hx), Int.not_le]

theorem zero_le_iff (hx : Scalar.isFinite x = true) : Scalar.zero ≤ x ↔ 0 ≤ x.quanta := by
  rw [zero_eq]
  exact le_iff_quanta rfl hx

theorem le_zero_iff (hx : Scalar.isFinite x = true) : x ≤ Scalar.zero ↔ x.quanta ≤ 0 := by
  rw [zero_eq]
  exact le_iff_quanta hx rfl

/-- A product has the sign of the exact product, unless it is zero. -/
theorem zero_le_mul (hx : Scalar.isFinite x = true) (hy : Scalar.isFinite y = true)
    (h : 0 ≤ x.quanta * y.quanta) : zero false ≤ x * y :=
  (le_iff_rank rfl (mul_rank hx hy)).mpr (nearestRank_nonneg unit_pos h)

theorem mul_le_zero (hx : Scalar.isFinite x = true) (hy : Scalar.isFinite y = true)
    (h : x.quanta * y.quanta ≤ 0) : x * y ≤ zero false :=
  (le_iff_rank (mul_rank hx hy) rfl).mpr (nearestRank_nonpos unit_pos h)

end Finite

protected theorem lt_of_lt_of_le {x y z : Binary64} (hxy : x < y) (hyz : y ≤ z) : x < z := by
  obtain ⟨m, n, hm, hn, hlt⟩ := ranked_iff.mp hxy
  obtain ⟨n', k, hn', hk, hle⟩ := ranked_iff.mp hyz
  obtain rfl : n = n' := Option.some.inj (hn.symm.trans hn')
  exact ranked_iff.mpr ⟨m, k, hm, hk, Int.lt_of_lt_of_le hlt hle⟩

protected theorem lt_of_le_of_lt {x y z : Binary64} (hxy : x ≤ y) (hyz : y < z) : x < z := by
  obtain ⟨m, n, hm, hn, hle⟩ := ranked_iff.mp hxy
  obtain ⟨n', k, hn', hk, hlt⟩ := ranked_iff.mp hyz
  obtain rfl : n = n' := Option.some.inj (hn.symm.trans hn')
  exact ranked_iff.mpr ⟨m, k, hm, hk, Int.lt_of_le_of_lt hle hlt⟩

/-! ## Whole numbers of units -/

theorem two_pow_dvd_nearestQuanta {n k : Nat} (h : 2 ^ k ∣ n) : 2 ^ k ∣ nearestQuanta n 1 := by
  rw [nearestQuanta_eq, Nat.div_one, Nat.one_mul]
  generalize n.log2 - 52 = e
  rcases Nat.le_total k e with hle | hle
  · exact (Nat.pow_dvd_pow 2 hle).mul_left _
  · -- the spacing divides the number, and so nothing is rounded
    obtain ⟨m, hm⟩ := (Nat.pow_dvd_pow 2 hle).trans h
    rw [Nat.mul_comm] at hm
    rw [hm, roundHalfEven_mul (by positivity), ← hm]
    exact h

theorem ofQuanta_quanta {s : Bool} {n d : Nat} (h : Scalar.isFinite (ofQuanta s n d) = true) :
    (ofQuanta s n d).quanta = signed s (nearestQuanta n d) := by
  unfold ofQuanta ofIndex at h ⊢
  split
  · rfl
  · rename_i hover
    rw [dif_neg hover] at h
    cases h

section Units

variable {x y : Binary64}

/-- The whole units in a magnitude when it is rounded upwards. -/
def unitsAbove (negative : Bool) (q : Nat) : Nat :=
  if negative then q / unit else (q + (unit - 1)) / unit

theorem ceil_finite (s : Bool) (i : Fin infinityIndex) :
    Scalar.ceil (Binary64.finite s i) = ofQuanta s (unitsAbove s (quantaAt i) * unit) 1 := by
  show Binary64.ceil _ = _
  simp only [Binary64.ceil, mapUnits, unitsAbove]

theorem le_div_mul {q u : Nat} (hu : 0 < u) : q ≤ (q + (u - 1)) / u * u := by
  have hsplit := Nat.div_add_mod (q + (u - 1)) u
  have hrest := Nat.mod_lt (q + (u - 1)) hu
  rw [Nat.mul_comm] at hsplit
  omega

theorem signed_le_unitsAbove (s : Bool) (q : Nat) :
    signed s q ≤ signed s (unitsAbove s q * unit : Nat) := by
  cases s with
  | false =>
      simp only [signed, unitsAbove, Bool.false_eq_true, if_false]
      exact Int.ofNat_le.mpr (le_div_mul unit_pos)
  | true =>
      simp only [signed, unitsAbove, if_true]
      exact Int.neg_le_neg (Int.ofNat_le.mpr (Nat.div_mul_le_self q unit))

theorem le_ceil (hx : Scalar.isFinite x = true) : x ≤ Scalar.ceil x := by
  have hrank := rank_eq hx
  obtain ⟨s, i, rfl⟩ := isFinite_iff.mp hx
  rw [ceil_finite, le_iff_rank hrank (ofQuanta_rank _ _ Nat.one_pos)]
  refine nearestRank_mono Nat.one_pos Nat.one_pos ?_
  rw [Int.natCast_one, Int.mul_one, Int.mul_one]
  exact signed_le_unitsAbove s (quantaAt i)

/-- What is rounded up to an integer is one, also where not every integer is a number. -/
theorem ceil_units (h : Scalar.isFinite (Scalar.ceil x) = true) :
    Scalar.isFinite x = true ∧ ∃ k : Int, (Scalar.ceil x).quanta = k * unit := by
  cases x with
  | nan => cases h
  | inf s => cases h
  | finite s i =>
      rw [ceil_finite] at h ⊢
      refine ⟨rfl, ?_⟩
      have hdvd : unit ∣ nearestQuanta (unitsAbove s (quantaAt i) * unit) 1 := by
        rw [unit_eq]
        exact two_pow_dvd_nearestQuanta (Nat.dvd_mul_left _ _)
      obtain ⟨k, hk⟩ := hdvd
      rw [ofQuanta_quanta h, hk, Nat.mul_comm]
      exact ⟨signed s k, signed_mul s k unit⟩

/-- Only finite numbers have a finite difference. -/
theorem sub_finite (h : Scalar.isFinite (x - y) = true) :
    Scalar.isFinite x = true ∧ Scalar.isFinite y = true := by
  cases x with
  | nan => cases h
  | inf s =>
      cases y with
      | nan => cases h
      | inf t => cases s <;> cases t <;> cases h
      | finite t j => cases h
  | finite s i =>
      cases y with
      | nan => cases h
      | inf t => cases h
      | finite t j => exact ⟨rfl, rfl⟩

theorem HasQuanta.quanta_cast {q : Nat} (h : x.HasQuanta q) : x.quanta = q := by
  obtain ⟨i, rfl, rfl⟩ := h
  rfl

end Units

/-! ## Monotone operations -/

section Monotone

variable {x y z : Binary64} {q : Nat}

theorem not_nan_of_le (h : x ≤ y) : Scalar.isNaN x = false ∧ Scalar.isNaN y = false := by
  obtain ⟨m, n, hm, hn, _⟩ := ranked_iff.mp h
  exact ⟨not_nan_of_rank hm, not_nan_of_rank hn⟩

theorem add_le_add_left (hx : Scalar.isFinite x = true) (hy : Scalar.isFinite y = true)
    (hz : Scalar.isFinite z = true) (h : y ≤ z) : x + y ≤ x + z := by
  rw [le_iff_quanta hy hz] at h
  rw [le_iff_rank (add_rank hx hy) (add_rank hx hz)]
  refine nearestRank_mono Nat.one_pos Nat.one_pos ?_
  rw [Int.natCast_one, Int.mul_one, Int.mul_one]
  exact Int.add_le_add_left h _

theorem rank_bounds {n : Int} (h : x.rank? = some n) :
    signed true infinityIndex ≤ n ∧ n ≤ signed false infinityIndex := by
  cases x with
  | nan => cases h
  | inf s =>
      obtain rfl : signed s infinityIndex = n := Option.some.inj h
      cases s <;> decide
  | finite s i =>
      obtain rfl : signed s i = n := Option.some.inj h
      have hi := i.isLt
      cases s <;> simp only [signed, if_true, if_false, Bool.false_eq_true] <;> omega

/-- Infinity is above all that has a place in the order, and its opposite below. -/
theorem inf_bounds (hx : Scalar.isNaN x = false) : Binary64.inf true ≤ x ∧ x ≤ .inf false := by
  obtain ⟨n, hn⟩ := exists_rank hx
  obtain ⟨hlower, hupper⟩ := rank_bounds hn
  exact ⟨(le_iff_rank rfl hn).mpr hlower, (le_iff_rank hn rfl).mpr hupper⟩

theorem not_finite_le_inf (s : Bool) (i : Fin infinityIndex) :
    ¬ Binary64.finite s i ≤ .inf true := by
  intro hle
  have hlt : i.val < infinityIndex := i.isLt
  have hle : signed s i.val ≤ signed true infinityIndex := hle
  cases s <;> simp only [signed, if_true, if_false, Bool.false_eq_true] at hle <;> omega

/-- Where one number is at most another, both are finite unless one of them is infinite at its end
of the order. -/
theorem le_cases (h : x ≤ y) :
    x = .inf true ∨ y = .inf false ∨ Scalar.isFinite x = true ∧ Scalar.isFinite y = true := by
  obtain ⟨hx, hy⟩ := not_nan_of_le h
  cases x with
  | nan => cases hx
  | inf s =>
      cases s with
      | true => exact .inl rfl
      | false =>
          cases y with
          | nan => cases hy
          | inf t =>
              cases t with
              | true => exact absurd h (by decide)
              | false => exact .inr (.inl rfl)
          | finite t j => exact absurd h (not_inf_le_finite t j)
  | finite s i =>
      cases y with
      | nan => cases hy
      | inf t =>
          cases t with
          | true => exact absurd h (not_finite_le_inf s i)
          | false => exact .inr (.inl rfl)
      | finite t j => exact .inr (.inr ⟨rfl, rfl⟩)

theorem sub_inf (hx : Scalar.isFinite x = true) (s : Bool) : x - Binary64.inf s = .inf (!s) := by
  obtain ⟨t, i, rfl⟩ := isFinite_iff.mp hx
  rfl

theorem sub_not_nan (hx : Scalar.isFinite x = true) (hy : Scalar.isNaN y = false) :
    Scalar.isNaN (x - y) = false := by
  cases y with
  | nan => cases hy
  | inf s =>
      rw [sub_inf hx]
      rfl
  | finite s i => exact not_nan_of_rank (sub_rank hx rfl)

/-- Differences from a finite number are in the opposite order of the subtrahends, infinite ones
included. -/
theorem sub_le_sub_left (hx : Scalar.isFinite x = true) (h : y ≤ z) : x - z ≤ x - y := by
  obtain ⟨hy, hz⟩ := not_nan_of_le h
  rcases le_cases h with rfl | rfl | ⟨hyfinite, hzfinite⟩
  · rw [sub_inf hx]
    exact (inf_bounds (sub_not_nan hx hz)).2
  · rw [sub_inf hx]
    exact (inf_bounds (sub_not_nan hx hy)).1
  · rw [le_iff_quanta hyfinite hzfinite] at h
    rw [le_iff_rank (sub_rank hx hzfinite) (sub_rank hx hyfinite)]
    refine nearestRank_mono Nat.one_pos Nat.one_pos ?_
    exact Int.mul_le_mul_of_nonneg_right (Int.sub_le_sub_left h _) (Int.natCast_nonneg _)

/-- Taking zero away changes nothing but perhaps the sign of a zero. -/
theorem sub_zero_rank (hx : Scalar.isFinite x = true) (s : Bool) :
    (x - zero s).rank? = x.rank? := by
  have hzero : (zero s).quanta = 0 := signed_zero s
  rw [sub_rank hx rfl, hzero, Int.sub_zero, rank_eq hx]

theorem sub_le_self {s : Bool} (hx : Scalar.isFinite x = true) (hy : zero s ≤ y) : x - y ≤ x := by
  have h := sub_le_sub_left hx hy
  rwa [le_iff, sub_zero_rank hx, ← le_iff] at h

theorem le_sub_self {s : Bool} (hx : Scalar.isFinite x = true) (hy : y ≤ zero s) : x ≤ x - y := by
  have h := sub_le_sub_left hx hy
  rwa [le_iff, sub_zero_rank hx, ← le_iff] at h

theorem inf_div (s : Bool) (hz : z.HasQuanta q) : Binary64.inf s / z = .inf s := by
  obtain ⟨i, rfl, _⟩ := hz
  cases s <;> rfl

theorem div_not_nan (hx : Scalar.isNaN x = false) (hz : z.HasQuanta q) (hq : 0 < q) :
    Scalar.isNaN (x / z) = false := by
  cases x with
  | nan => cases hx
  | inf s =>
      rw [inf_div s hz]
      rfl
  | finite s i => exact not_nan_of_rank (div_rank rfl hz hq)

/-- Quotients by a positive number are in the order of the dividends, infinite ones included. -/
theorem div_le_div (hz : z.HasQuanta q) (hq : 0 < q) (h : x ≤ y) : x / z ≤ y / z := by
  obtain ⟨hx, hy⟩ := not_nan_of_le h
  rcases le_cases h with rfl | rfl | ⟨hxfinite, hyfinite⟩
  · rw [inf_div true hz]
    exact (inf_bounds (div_not_nan hy hz hq)).1
  · rw [inf_div false hz]
    exact (inf_bounds (div_not_nan hx hz hq)).2
  · rw [le_iff_quanta hxfinite hyfinite] at h
    rw [le_iff_rank (div_rank hxfinite hz hq) (div_rank hyfinite hz hq)]
    refine nearestRank_mono hq hq ?_
    exact Int.mul_le_mul_of_nonneg_right
      (Int.mul_le_mul_of_nonneg_right h (Int.natCast_nonneg _)) (Int.natCast_nonneg _)

/-- Multiplied, rounded up to an integer and divided again, a number does not come back smaller
unless the product was rounded down. -/
theorem le_ceil_div (hy : y.HasQuanta q) (hq : 0 < q)
    (hx : Scalar.isFinite x = true) (hfinite : Scalar.isFinite (Scalar.ceil (x * y)) = true)
    (h : x.quanta * q ≤ (x * y).quanta * unit) :
    x ≤ Scalar.ceil (x * y) / y := by
  obtain ⟨hproduct, _⟩ := ceil_units hfinite
  have hceil := (le_iff_quanta hproduct hfinite).mp (le_ceil hproduct)
  rw [le_iff_rank (rank_eq hx) (div_rank hfinite hy hq)]
  refine nearestRank_mono Nat.one_pos hq ?_
  rw [Int.natCast_one, Int.mul_one]
  exact h.trans (Int.mul_le_mul_of_nonneg_right hceil (Int.natCast_nonneg unit))

theorem div_finite (hy : y.HasQuanta q) (h : Scalar.isFinite (x / y) = true) :
    Scalar.isFinite x = true := by
  cases x with
  | nan => cases h
  | inf s =>
      rw [inf_div s hy] at h
      cases h
  | finite s j => rfl

/-- An infinity keeps what is added to it away from the finite numbers. -/
theorem inf_add (s : Bool) (x : Binary64) :
    Binary64.inf s + x = .nan ∨ Binary64.inf s + x = .inf s := by
  cases x with
  | nan => exact .inl rfl
  | inf t => cases s <;> cases t <;> decide
  | finite t i => exact .inr rfl

theorem not_nan_of_mul (h : Scalar.isNaN (x * y) = false) : Scalar.isNaN x = false := by
  cases x with
  | nan => cases h
  | inf s => rfl
  | finite s i => rfl

/-- Sums of finite numbers with the same number are in the order of the numbers, unless they are
none. -/
theorem add_le_add_right (hx : Scalar.isFinite x = true) (hy : Scalar.isFinite y = true)
    (hsum : Scalar.isNaN (x + z) = false) (h : x ≤ y) : x + z ≤ y + z := by
  obtain ⟨s, i, rfl⟩ := isFinite_iff.mp hx
  obtain ⟨t, j, rfl⟩ := isFinite_iff.mp hy
  cases z with
  | nan => cases hsum
  | inf r => exact Binary64.le_refl (x := .inf r) rfl
  | finite r k =>
      rw [le_iff_quanta rfl rfl] at h
      rw [le_iff_rank (add_rank rfl rfl) (add_rank rfl rfl)]
      refine nearestRank_mono Nat.one_pos Nat.one_pos ?_
      exact Int.mul_le_mul_of_nonneg_right (Int.add_le_add_right h _) (Int.natCast_nonneg _)

theorem inf_mul (s : Bool) (hz : z.HasQuanta q)
    (h : Scalar.isNaN (Binary64.inf s * z) = false) : Binary64.inf s * z = .inf s := by
  obtain ⟨i, rfl, _⟩ := hz
  have hmul : Binary64.inf s * .finite false i = if i.val = 0 then nan else .inf (s != false) :=
    rfl
  rw [hmul] at h ⊢
  split at h
  · cases h
  · rename_i hi
    rw [if_neg hi, Bool.bne_false]

theorem mul_not_nan (hx : Scalar.isNaN x = false) (hz : z.HasQuanta q) (hq : 0 < q) :
    Scalar.isNaN (x * z) = false := by
  cases x with
  | nan => cases hx
  | inf s =>
      obtain ⟨i, rfl, rfl⟩ := hz
      have hi : 0 < i.val := quantaAt_strictMono.lt_iff_lt.mp hq
      have hmul : Binary64.inf s * .finite false i = .inf (s != false) := if_neg hi.ne'
      rw [hmul]
      rfl
  | finite s i => exact not_nan_of_rank (mul_rank rfl hz.isFinite)

theorem zero_mul_eq (hz : z.HasQuanta q) : zero false * z = zero false := by
  obtain ⟨i, rfl, _⟩ := hz
  have hmul : zero false * .finite false i = ofQuanta false (0 * quantaAt i) unit := rfl
  rw [hmul, Nat.zero_mul, ofQuanta, nearestIndex_zero_left unit_pos]
  rfl

/-- Products with a number that is not negative are in the order of the factors, unless they are
none. -/
theorem mul_le_mul_right (hz : z.HasQuanta q) (hleft : Scalar.isNaN (x * z) = false)
    (hright : Scalar.isNaN (y * z) = false) (h : x ≤ y) : x * z ≤ y * z := by
  rcases le_cases h with rfl | rfl | ⟨hx, hy⟩
  · rw [inf_mul true hz hleft]
    exact (inf_bounds hright).1
  · rw [inf_mul false hz hright]
    exact (inf_bounds hleft).2
  · rw [le_iff_quanta hx hy] at h
    rw [le_iff_rank (mul_rank hx hz.isFinite) (mul_rank hy hz.isFinite), hz.quanta_cast]
    refine nearestRank_mono unit_pos unit_pos ?_
    exact Int.mul_le_mul_of_nonneg_right
      (Int.mul_le_mul_of_nonneg_right h (Int.natCast_nonneg _)) (Int.natCast_nonneg _)

theorem mul_finite (hy : y.HasQuanta q) (h : Scalar.isFinite (x * y) = true) :
    Scalar.isFinite x = true := by
  obtain ⟨i, rfl, _⟩ := hy
  cases x with
  | nan => cases h
  | inf s =>
      have hmul : Binary64.inf s * .finite false i = if i.val = 0 then nan else .inf (s != false) :=
        rfl
      rw [hmul] at h
      split at h <;> cases h
  | finite s j => rfl

end Monotone

/-! ## Products with powers of two -/

theorem exists_quantaAt_double (i : Nat) : ∃ j, quantaAt j = quantaAt i * 2 := by
  obtain ⟨e, m, hm, hfull, rfl⟩ := index_eq i
  rw [quantaAt_eq hm.le hfull]
  rcases Nat.lt_or_ge m binade with hsmall | hlarge
  · -- a significand with a digit to spare, and so the least exponent
    obtain rfl : e = 0 := by omega
    refine ⟨0 * binade + m * 2, ?_⟩
    rw [quantaAt_eq (by omega) (.inl rfl)]
    omega
  · refine ⟨(e + 1) * binade + m, ?_⟩
    rw [quantaAt_eq hm.le (.inr hlarge), Nat.pow_succ, Nat.mul_assoc]

theorem exists_quantaAt_mul_two_pow (i k : Nat) : ∃ j, quantaAt j = quantaAt i * 2 ^ k := by
  induction k with
  | zero => exact ⟨i, (Nat.mul_one _).symm⟩
  | succ k ih =>
      obtain ⟨j, hj⟩ := ih
      obtain ⟨j', hj'⟩ := exists_quantaAt_double j
      exact ⟨j', by rw [hj', hj, Nat.pow_succ, Nat.mul_assoc]⟩

/-- A product with a power of two is exact unless it overflows. -/
theorem mul_two_pow_quanta {x y : Binary64} {k : Nat} (hx : Scalar.isFinite x = true)
    (hy : y.HasQuanta (2 ^ k * unit)) (h : Scalar.isFinite (x * y) = true) :
    (x * y).quanta = x.quanta * 2 ^ k := by
  obtain ⟨s, i, rfl⟩ := isFinite_iff.mp hx
  obtain ⟨j, rfl, hj⟩ := hy
  obtain ⟨m, hm⟩ := exists_quantaAt_mul_two_pow i k
  have hproduct : quantaAt i * (2 ^ k * unit) = quantaAt m * unit := by
    rw [hm, Nat.mul_assoc]
  have hmul : Binary64.finite s i * .finite false j = ofQuanta s (quantaAt m * unit) unit := by
    show ofQuanta (s != false) (quantaAt i * quantaAt j) unit = _
    rw [hj, hproduct, Bool.bne_false]
  rw [hmul] at h ⊢
  rw [ofQuanta_quanta h, nearestQuanta, nearestIndex_quantaAt m unit_pos, hm, signed_mul, quanta]
  push_cast
  rfl

/-! ## Exact values -/

/-- Values of products are compared by their quanta. -/
theorem toRat_lt_mul_iff (x y z : Binary64) :
    z.toRat < x.toRat * y.toRat ↔ z.quanta * unit < x.quanta * y.quanta := by
  have hunit : (0 : Rat) < unit := Nat.cast_pos.mpr unit_pos
  rw [toRat, toRat, toRat, Rat.mkRat_eq_div, Rat.mkRat_eq_div, Rat.mkRat_eq_div, div_mul_div_comm,
    div_lt_div_iff₀ hunit (mul_pos hunit hunit), ← mul_assoc, mul_lt_mul_iff_left₀ hunit]
  exact_mod_cast Iff.rfl

end Binary64

end PanZoom
