import PanZoom.Binary64.Arithmetic
import PanZoom.Proofs.Binary64.Rounding

/-!
# The order of binary64 numbers

Comparing numbers is comparing ranks, so the order of the numbers that are not NaN is the order of
the integers. A positive number is its index alone, and indices grow with the magnitudes, which
makes the quotient of positive numbers antitone in its divisor.
-/

namespace PanZoom

namespace Binary64

/-! ## Magnitudes -/

theorem quantaAt_of_lt {i : Nat} (h : i < 2 * binade) : quantaAt i = i := if_pos h

theorem quantaAt_of_ge {i : Nat} (h : 2 * binade ≤ i) :
    quantaAt i = (binade + i % binade) * 2 ^ (i / binade - 1) := by
  rw [quantaAt, if_neg (by omega), Nat.shiftLeft_eq]

theorem quantaAt_lt_succ (i : Nat) : quantaAt i < quantaAt (i + 1) := by
  rcases Nat.lt_or_ge (i + 1) (2 * binade) with hsmall | hlarge
  · rw [quantaAt_of_lt (by omega), quantaAt_of_lt hsmall]
    omega
  · rcases Nat.lt_or_ge i (2 * binade) with hlast | hpast
    · -- the last magnitude whose spacing is one quantum
      have hi : i + 1 = 2 * binade := by omega
      rw [quantaAt_of_lt hlast, quantaAt_of_ge hlarge, hi]
      norm_num [binade]
      omega
    · rw [quantaAt_of_ge hpast, quantaAt_of_ge hlarge]
      have hsplit := Nat.mod_add_div i binade
      have hmod : i % binade < binade := Nat.mod_lt i (by decide)
      rcases Nat.lt_or_ge (i % binade + 1) binade with hsame | hnext
      · -- within a binade the spacing stays
        have hsucc : i + 1 = i % binade + 1 + binade * (i / binade) := by omega
        have hquot : (i + 1) / binade = i / binade := by
          rw [hsucc, Nat.add_mul_div_left _ _ (by decide), Nat.div_eq_of_lt hsame, Nat.zero_add]
        have hrest : (i + 1) % binade = i % binade + 1 := by
          rw [hsucc, Nat.add_mul_mod_self_left, Nat.mod_eq_of_lt hsame]
        rw [hquot, hrest]
        exact Nat.mul_lt_mul_of_pos_right (by omega) (by positivity)
      · -- one binade ends and the spacing doubles
        have hsucc : i + 1 = binade * (i / binade + 1) := by
          rw [Nat.mul_succ]
          omega
        have hquot : (i + 1) / binade = i / binade + 1 := by
          rw [hsucc, Nat.mul_div_cancel_left _ (by decide)]
        have hrest : (i + 1) % binade = 0 := by rw [hsucc, Nat.mul_mod_right]
        have htwo : 2 ≤ i / binade := (Nat.le_div_iff_mul_le (by decide)).mpr hpast
        have hexp : i / binade + 1 - 1 = (i / binade - 1) + 1 := by omega
        rw [hquot, hrest, hexp, Nat.pow_succ]
        have hpos : 0 < 2 ^ (i / binade - 1) := by positivity
        nlinarith

theorem quantaAt_strictMono : StrictMono quantaAt := strictMono_nat_of_lt_succ quantaAt_lt_succ

theorem quantaAt_pos {i : Nat} (h : 0 < i) : 0 < quantaAt i :=
  lt_of_le_of_lt (Nat.zero_le _) (quantaAt_strictMono h)

/-! ## Comparison -/

theorem isFinite_iff {x : Binary64} :
    Scalar.isFinite x = true ↔ ∃ s i, x = .finite s i := by
  cases x with
  | nan => simp [Scalar.isFinite, isFinite]
  | inf s => simp [Scalar.isFinite, isFinite]
  | finite s i => simp [Scalar.isFinite, isFinite]

theorem isNormal_iff {x : Binary64} :
    Scalar.isNormal x = true ↔ ∃ s i, x = .finite s i ∧ binade ≤ i.val := by
  cases x with
  | nan => simp [Scalar.isNormal, isNormal]
  | inf s => simp [Scalar.isNormal, isNormal]
  | finite s i => simp [Scalar.isNormal, isNormal]

theorem isFinite_of_isNormal {x : Binary64} (h : Scalar.isNormal x = true) :
    Scalar.isFinite x = true := by
  obtain ⟨s, i, rfl, _⟩ := isNormal_iff.mp h
  rfl

theorem exists_rank {x : Binary64} (h : Scalar.isNaN x = false) : ∃ n, x.rank? = some n := by
  cases x with
  | nan => cases h
  | inf s => exact ⟨_, rfl⟩
  | finite s i => exact ⟨_, rfl⟩

theorem le_iff {x y : Binary64} : x ≤ y ↔ Ranked (· ≤ ·) x.rank? y.rank? := Iff.rfl

theorem lt_iff {x y : Binary64} : x < y ↔ Ranked (· < ·) x.rank? y.rank? := Iff.rfl

theorem ranked_iff {r : Int → Int → Prop} {x y : Option Int} :
    Ranked r x y ↔ ∃ m n, x = some m ∧ y = some n ∧ r m n := by
  cases x <;> cases y <;> simp [Ranked]

protected theorem le_trans {x y z : Binary64} (hxy : x ≤ y) (hyz : y ≤ z) : x ≤ z := by
  obtain ⟨m, n, hm, hn, hle⟩ := ranked_iff.mp hxy
  obtain ⟨n', k, hn', hk, hle'⟩ := ranked_iff.mp hyz
  obtain rfl : n = n' := Option.some.inj (hn.symm.trans hn')
  exact ranked_iff.mpr ⟨m, k, hm, hk, Int.le_trans hle hle'⟩

protected theorem le_refl {x : Binary64} (h : Scalar.isNaN x = false) : x ≤ x := by
  obtain ⟨n, hn⟩ := exists_rank h
  exact ranked_iff.mpr ⟨n, n, hn, hn, Int.le_refl n⟩

protected theorem le_of_lt {x y : Binary64} (h : x < y) : x ≤ y := by
  obtain ⟨m, n, hm, hn, hlt⟩ := ranked_iff.mp h
  exact ranked_iff.mpr ⟨m, n, hm, hn, Int.le_of_lt hlt⟩

theorem not_le_of_lt {x y : Binary64} (hxy : x < y) : ¬ y ≤ x := by
  intro hyx
  obtain ⟨m, n, hm, hn, hlt⟩ := ranked_iff.mp hxy
  obtain ⟨n', m', hn', hm', hle⟩ := ranked_iff.mp hyx
  obtain rfl : m = m' := Option.some.inj (hm.symm.trans hm')
  obtain rfl : n = n' := Option.some.inj (hn.symm.trans hn')
  exact absurd hle (Int.not_le.mpr hlt)

theorem finite_le_finite {s t : Bool} {i j : Fin infinityIndex} :
    (Binary64.finite s i ≤ .finite t j) ↔ signed s i ≤ signed t j := Iff.rfl

theorem not_inf_le_finite (s : Bool) (i : Fin infinityIndex) :
    ¬ Binary64.inf false ≤ .finite s i := by
  intro hle
  have hlt : i.val < infinityIndex := i.isLt
  have hle : signed false infinityIndex ≤ signed s i.val := hle
  cases s <;> simp only [signed, if_true, if_false, Bool.false_eq_true] at hle <;> omega

theorem zero_eq : (Scalar.zero : Binary64) = .finite false ⟨0, by decide⟩ := by decide +kernel

theorem zero_rank : (Scalar.zero : Binary64).rank? = some 0 := by decide +kernel

/-- A positive number is an index other than zero. -/
theorem isPositive_iff {x : Binary64} :
    Scalar.IsPositive x ↔ ∃ i : Fin infinityIndex, 0 < i.val ∧ x = .finite false i := by
  unfold Scalar.IsPositive
  rw [isFinite_iff, lt_iff, zero_rank]
  constructor
  · rintro ⟨⟨s, i, rfl⟩, hpos⟩
    cases s with
    | false => exact ⟨i, by simpa [Ranked, rank?, signed] using hpos, rfl⟩
    | true =>
        simp only [Ranked, rank?, signed, if_true] at hpos
        omega
  · rintro ⟨i, hi, rfl⟩
    exact ⟨⟨false, i, rfl⟩, by simpa [Ranked, rank?, signed] using hi⟩

/-- A finite number not below a positive one is positive. -/
theorem finite_of_positive_le {m : Fin infinityIndex} {d : Binary64}
    (hd : Scalar.isFinite d = true) (hm : 0 < m.val) (h : Binary64.finite false m ≤ d) :
    ∃ k : Fin infinityIndex, m ≤ k ∧ d = .finite false k := by
  obtain ⟨s, k, rfl⟩ := isFinite_iff.mp hd
  rw [finite_le_finite] at h
  cases s with
  | false => exact ⟨k, Fin.le_def.mpr (by simpa [signed] using h), rfl⟩
  | true =>
      simp only [signed, if_true, Bool.false_eq_true, if_false] at h
      omega

/-! ## Maximum and minimum -/

theorem not_nan_of_rank {x : Binary64} {n : Int} (h : x.rank? = some n) :
    Scalar.isNaN x = false := by
  cases x with
  | nan => cases h
  | inf s => rfl
  | finite s i => rfl

section Ranks

variable {x y : Binary64} {m n : Int} (hx : x.rank? = some m) (hy : y.rank? = some n)
include hx hy

theorem le_iff_rank : x ≤ y ↔ m ≤ n := by
  rw [le_iff, hx, hy]
  rfl

theorem lt_iff_rank : x < y ↔ m < n := by
  rw [lt_iff, hx, hy]
  rfl

theorem rank_max : (Scalar.max x y).rank? = some (max m n) := by
  unfold Scalar.max
  rw [if_neg (by rw [not_nan_of_rank hx]; exact Bool.false_ne_true)]
  simp only [lt_iff_rank hx hy]
  split
  · rw [hy, max_eq_right (by omega)]
  · rw [hx, max_eq_left (by omega)]

theorem rank_min : (Scalar.min x y).rank? = some (min m n) := by
  unfold Scalar.min
  rw [if_neg (by rw [not_nan_of_rank hx]; exact Bool.false_ne_true)]
  simp only [lt_iff_rank hy hx]
  split
  · rw [hy, min_eq_right (by omega)]
  · rw [hx, min_eq_left (by omega)]

end Ranks

theorem max_not_nan {a b : Binary64} (ha : Scalar.isNaN a = false) (hb : Scalar.isNaN b = false) :
    Scalar.isNaN (Scalar.max a b) = false := by
  obtain ⟨m, hm⟩ := exists_rank ha
  obtain ⟨n, hn⟩ := exists_rank hb
  exact not_nan_of_rank (rank_max hm hn)

theorem min_not_nan {a b : Binary64} (ha : Scalar.isNaN a = false) (hb : Scalar.isNaN b = false) :
    Scalar.isNaN (Scalar.min a b) = false := by
  obtain ⟨m, hm⟩ := exists_rank ha
  obtain ⟨n, hn⟩ := exists_rank hb
  exact not_nan_of_rank (rank_min hm hn)

theorem max_le {a b c : Binary64} (ha : a ≤ c) (hb : b ≤ c) : Scalar.max a b ≤ c := by
  obtain ⟨l, n, hl, hn, hleft⟩ := ranked_iff.mp ha
  obtain ⟨m, n', hm, hn', hright⟩ := ranked_iff.mp hb
  obtain rfl : n = n' := Option.some.inj (hn.symm.trans hn')
  exact (le_iff_rank (rank_max hl hm) hn).mpr (Int.max_le.mpr ⟨hleft, hright⟩)

theorem le_max_of_le_left {a b c : Binary64} (ha : c ≤ a) (hb : Scalar.isNaN b = false) :
    c ≤ Scalar.max a b := by
  obtain ⟨n, l, hn, hl, hle⟩ := ranked_iff.mp ha
  obtain ⟨m, hm⟩ := exists_rank hb
  exact (le_iff_rank hn (rank_max hl hm)).mpr (Int.le_trans hle (Int.le_max_left l m))

theorem max_finite {a b : Binary64} (ha : Scalar.isFinite a = true)
    (hb : Scalar.isFinite b = true) : Scalar.isFinite (Scalar.max a b) = true := by
  unfold Scalar.max
  split_ifs <;> assumption

theorem right_le_max {a b : Binary64} (ha : Scalar.isFinite a = true)
    (hb : Scalar.isFinite b = true) : b ≤ Scalar.max a b := by
  obtain ⟨s, i, rfl⟩ := isFinite_iff.mp ha
  obtain ⟨t, j, rfl⟩ := isFinite_iff.mp hb
  exact (le_iff_rank rfl (rank_max rfl rfl)).mpr (le_max_right _ _)

/-! ## Quotients -/

theorem ofIndex_mono {i j : Nat} (h : i ≤ j) : ofIndex false i ≤ ofIndex false j := by
  rw [le_iff]
  unfold ofIndex
  split_ifs with hi hj hj
  -- from `infinityIndex` on everything is infinite, and infinity is above the rest
  · simpa [Ranked, rank?, signed] using h
  · simpa [Ranked, rank?, signed] using hi.le
  · omega
  · simp [Ranked, rank?]

theorem div_positive (i : Fin infinityIndex) {j : Fin infinityIndex} (hj : 0 < j.val) :
    (Binary64.finite false i : Binary64) / .finite false j =
      ofIndex false (nearestIndex (quantaAt i * unit) (quantaAt j)) := by
  show div _ _ = _
  simp only [div]
  rw [if_neg (by omega)]
  rfl

theorem ofIndex_not_nan (s : Bool) (i : Nat) : Scalar.isNaN (ofIndex s i) = false := by
  unfold ofIndex
  split <;> rfl

theorem ofIndex_positive {i : Nat} (h : Scalar.isNormal (ofIndex false i) = true) :
    (Scalar.zero : Binary64) < ofIndex false i := by
  obtain ⟨s, k, hk, hbinade⟩ := isNormal_iff.mp h
  unfold ofIndex at hk ⊢
  split at hk
  · rename_i hi
    rw [dif_pos hi]
    obtain ⟨-, hik⟩ := Binary64.finite.inj hk
    have hpos : 0 < k.val := Nat.lt_of_lt_of_le (by decide) hbinade
    exact (isPositive_iff.mpr ⟨⟨i, hi⟩, hik ▸ hpos, rfl⟩).2
  · cases hk

/-- Only zero by zero and infinity by infinity have no quotient. -/
theorem div_positive_not_nan (i : Fin infinityIndex) {j : Fin infinityIndex} (hj : 0 < j.val) :
    Scalar.isNaN ((Binary64.finite false i : Binary64) / .finite false j) = false := by
  rw [div_positive i hj]
  exact ofIndex_not_nan _ _

theorem zero_div_positive {j : Fin infinityIndex} (hj : 0 < j.val) :
    (Scalar.zero : Binary64) / .finite false j = Scalar.zero := by
  have hpos : 0 < quantaAt j := quantaAt_pos hj
  have hquanta : quantaAt 0 = 0 := rfl
  have hindex : nearestIndex (quantaAt 0 * unit) (quantaAt j) = 0 := by
    rw [hquanta, Nat.zero_mul]
    simp [nearestIndex, roundHalfEven, hpos]
  rw [zero_eq, div_positive _ hj, hindex]
  rfl

/-- A positive number divided by a larger one gives a smaller quotient, also where the quotients
are rounded or infinite. -/
theorem div_antitone (i : Fin infinityIndex) {j k : Fin infinityIndex} (hj : 0 < j.val)
    (hjk : j ≤ k) :
    (Binary64.finite false i : Binary64) / .finite false k ≤ .finite false i / .finite false j := by
  have hk : 0 < k.val := lt_of_lt_of_le hj hjk
  rw [div_positive i hj, div_positive i hk]
  apply ofIndex_mono
  apply nearestIndex_mono (quantaAt_pos hk) (quantaAt_pos hj)
  exact Nat.mul_le_mul_left _ (quantaAt_strictMono.monotone hjk)

end Binary64

end PanZoom
