import Mathlib.Tactic.Positivity
import PanZoom.Proofs.Binary64.Order

/-!
# Exact and nearly exact results

A magnitude has a significand and an exponent: its quanta are `m * 2 ^ e` for an `m` below `2 ^ 53`.
All that is said here comes from this form. An operation whose exact result is a magnitude gives
just that (`nearestIndex_quantaAt`), and any other fraction is off by half a unit in the last
place of the significand at most (`nearestQuanta_error`).

`HasQuanta` says what number of quanta a finite number that is not negative consists of, and lemmas
on the operations say what they do to the quanta.
-/

namespace PanZoom

namespace Binary64

theorem unit_eq : unit = 2 ^ 1074 :=
  have hshift : ∀ k, 1 <<< k = 2 ^ k := Nat.one_shiftLeft
  hshift 1074

/-- Powers are multiplied by adding exponents. For exponents in the thousands this is stated with
their sum, so that no power is computed. -/
theorem two_pow_mul (a b c : Nat) (h : a + b = c) : 2 ^ a * 2 ^ b = 2 ^ c := by
  rw [← h, Nat.pow_add]

theorem unit_pos : 0 < unit := by
  rw [unit_eq]
  positivity

theorem two_pow_le_unit : 2 ^ 53 ≤ unit := by
  have hpow : ∀ a b, a ≤ b → 2 ^ a ≤ 2 ^ b := fun a b => Nat.pow_le_pow_right Nat.two_pos
  rw [unit_eq]
  exact hpow 53 1074 (by decide)

/-! ## Significands -/

/-- Within a binade the index counts in spacings. -/
theorem quantaAt_binade {k t : Nat} (hk : 0 < k) (ht : t < binade) :
    quantaAt (k * binade + t) = (binade + t) * 2 ^ (k - 1) := by
  rcases Nat.eq_or_lt_of_le hk with rfl | hk
  · rw [quantaAt_of_lt (by omega)]
    simp
  · have hmod : (k * binade + t) % binade = t := by
      rw [Nat.mul_add_mod_self_right, Nat.mod_eq_of_lt ht]
    have hdiv : (k * binade + t) / binade = k := by
      rw [Nat.mul_comm, Nat.mul_add_div (by decide), Nat.div_eq_of_lt ht, Nat.add_zero]
    have hge : 2 * binade ≤ k * binade + t :=
      Nat.le_trans (Nat.mul_le_mul_right binade hk) (Nat.le_add_right _ _)
    rw [quantaAt_of_ge hge, hmod, hdiv]

/-- The magnitude with a given exponent and significand. The significand is full unless the exponent
is the least one; the first of the next binade may be counted as the last of this one. -/
theorem quantaAt_eq {e m : Nat} (hm : m ≤ 2 * binade) (hfull : e = 0 ∨ binade ≤ m) :
    quantaAt (e * binade + m) = m * 2 ^ e := by
  rcases Nat.lt_or_ge m binade with hsmall | hlarge
  · obtain rfl : e = 0 := by omega
    rw [quantaAt_of_lt (by omega)]
    omega
  · rcases Nat.eq_or_lt_of_le hm with rfl | hm
    · have hindex : e * binade + 2 * binade = (e + 2) * binade + 0 := by ring
      rw [hindex, quantaAt_binade (by omega) (by decide)]
      rw [show e + 2 - 1 = e + 1 by omega, Nat.pow_succ]
      ring
    · have hindex : e * binade + m = (e + 1) * binade + (m - binade) := by
        rw [Nat.succ_mul]
        omega
      rw [hindex, quantaAt_binade (by omega) (by omega), Nat.add_sub_cancel' hlarge]
      rfl

/-- Every index has an exponent and a significand. -/
theorem index_eq (i : Nat) :
    ∃ e m, m < 2 * binade ∧ (e = 0 ∨ binade ≤ m) ∧ i = e * binade + m := by
  rcases Nat.lt_or_ge i (2 * binade) with hsmall | hlarge
  · exact ⟨0, i, hsmall, .inl rfl, by omega⟩
  · have hsplit := Nat.mod_add_div i binade
    have hmod : i % binade < binade := Nat.mod_lt i (by decide)
    have hdiv : 2 ≤ i / binade := (Nat.le_div_iff_mul_le (by decide)).mpr hlarge
    refine ⟨i / binade - 1, binade + i % binade, by omega, .inr (Nat.le_add_right _ _), ?_⟩
    obtain ⟨k, hk⟩ : ∃ k, i / binade = k + 1 := ⟨i / binade - 1, by omega⟩
    rw [hk, Nat.mul_succ, Nat.mul_comm] at hsplit
    rw [hk, Nat.add_sub_cancel]
    omega

/-! ## Exact results -/

/-- A fraction may be cancelled before it is rounded. -/
theorem nearestIndex_cancel (n : Nat) {d k : Nat} (hd : 0 < d) (hk : 0 < k) :
    nearestIndex (n * k) (d * k) = nearestIndex n d := by
  have hcross : n * k * d = n * (d * k) := by ring
  exact Nat.le_antisymm (nearestIndex_mono (by positivity) hd hcross.le)
    (nearestIndex_mono hd (by positivity) hcross.ge)

theorem roundHalfEven_mul {d : Nat} (hd : 0 < d) (m : Nat) : roundHalfEven (m * d) d = m := by
  simp [roundHalfEven, Nat.mul_div_cancel m hd, hd]

/-- The spacing of a magnitude is its own exponent. -/
theorem log2_significand {e m : Nat} (hm : m < 2 * binade) (hfull : e = 0 ∨ binade ≤ m) :
    (m * 2 ^ e).log2 - 52 = e := by
  rcases Nat.eq_zero_or_pos m with rfl | hpos
  · have hzero : e = 0 := by omega
    simp [hzero]
  · have hlog : (m * 2 ^ e).log2 = m.log2 + e := by
      rw [Nat.log2_eq_iff (by positivity)]
      have hlower := Nat.log2_self_le hpos.ne'
      have hupper := Nat.lt_log2_self (n := m)
      constructor
      · rw [Nat.pow_add]
        exact Nat.mul_le_mul_right _ hlower
      · rw [show m.log2 + e + 1 = m.log2 + 1 + e by omega, Nat.pow_add]
        exact Nat.mul_lt_mul_of_pos_right hupper (by positivity)
    have hle : m.log2 < 53 := (Nat.log2_lt hpos.ne').mpr hm
    rw [hlog]
    rcases hfull with rfl | hfull
    · omega
    · have hge : 52 ≤ m.log2 := (Nat.le_log2 hpos.ne').mpr hfull
      omega

/-- **A magnitude is rounded to itself.** -/
theorem nearestIndex_quantaAt (i : Nat) {d : Nat} (hd : 0 < d) :
    nearestIndex (quantaAt i * d) d = i := by
  obtain ⟨e, m, hm, hfull, rfl⟩ := index_eq i
  have hscaled : m * 2 ^ e * d = m * (d <<< e) := by
    rw [Nat.shiftLeft_eq]
    ring
  simp only [nearestIndex]
  rw [quantaAt_eq hm.le hfull, Nat.mul_div_cancel _ hd, log2_significand hm hfull, hscaled,
    roundHalfEven_mul (by rw [Nat.shiftLeft_eq]; positivity)]

/-! ## Nearly exact results -/

/-- The quanta of the magnitude nearest to `n / d`. -/
def nearestQuanta (n d : Nat) : Nat := quantaAt (nearestIndex n d)

theorem roundHalfEven_error (n : Nat) {d : Nat} (hd : 0 < d) :
    2 * (roundHalfEven n d * d) ≤ 2 * n + d ∧ 2 * n ≤ 2 * (roundHalfEven n d * d) + d := by
  have hsplit := Nat.div_add_mod n d
  have hrest := Nat.mod_lt n hd
  have hsame : n / d * d = d * (n / d) := Nat.mul_comm _ _
  have hsucc : (n / d + 1) * d = d * (n / d) + d := by ring
  rcases Nat.lt_or_ge (2 * (n % d)) d with hdown | hdown
  · simp only [roundHalfEven, if_pos hdown]
    omega
  · rcases Nat.lt_or_ge d (2 * (n % d)) with hup | hup
    · simp only [roundHalfEven, if_neg hdown.not_gt, if_pos hup]
      omega
    · -- half-way, whichever neighbour is even
      simp only [roundHalfEven, if_neg hdown.not_gt, if_neg hup.not_gt]
      rcases Nat.mod_two_eq_zero_or_one (n / d) with heven | hodd
      · rw [heven, Nat.add_zero]
        omega
      · rw [hodd]
        omega

/-- A fraction whose spacing is not the least one is at least `2 ^ 52` spacings. -/
theorem spacing_le_self {n d : Nat} (h : 0 < (n / d).log2 - 52) :
    2 ^ 52 * (d * 2 ^ ((n / d).log2 - 52)) ≤ n := by
  have hne : n / d ≠ 0 := by
    intro hzero
    simp [hzero] at h
  calc 2 ^ 52 * (d * 2 ^ ((n / d).log2 - 52)) = 2 ^ (52 + ((n / d).log2 - 52)) * d := by
        rw [Nat.pow_add]
        ring
    _ = 2 ^ (n / d).log2 * d := by
        congr 2
        omega
    _ ≤ n / d * d := Nat.mul_le_mul_right _ (Nat.log2_self_le hne)
    _ ≤ n := Nat.div_mul_le_self n d

/-- The spacing around a fraction is one digit out of 53 of it, or one quantum. -/
theorem spacing_le (n d : Nat) : 2 ^ 52 * (d * 2 ^ ((n / d).log2 - 52)) ≤ max n (2 ^ 52 * d) := by
  rcases Nat.eq_zero_or_pos ((n / d).log2 - 52) with hzero | hpos
  · rw [hzero, Nat.pow_zero, Nat.mul_one]
    exact Nat.le_max_right _ _
  · exact (spacing_le_self hpos).trans (Nat.le_max_left _ _)

theorem nearestQuanta_eq (n d : Nat) : nearestQuanta n d =
    roundHalfEven n (d * 2 ^ ((n / d).log2 - 52)) * 2 ^ ((n / d).log2 - 52) := by
  have hupper := nearestIndex_le n d
  have hlower := le_nearestIndex (n := n) (d := d)
  simp only [nearestIndex, Nat.shiftLeft_eq] at hupper hlower
  simp only [nearestQuanta, nearestIndex, Nat.shiftLeft_eq]
  refine quantaAt_eq (by omega) ?_
  rcases Nat.eq_zero_or_pos ((n / d).log2 - 52) with hzero | hpos
  · exact .inl hzero
  · exact .inr (by have := hlower hpos; omega)

theorem nearestQuanta_mul (n d : Nat) : nearestQuanta n d * d =
    roundHalfEven n (d * 2 ^ ((n / d).log2 - 52)) * (d * 2 ^ ((n / d).log2 - 52)) := by
  rw [nearestQuanta_eq]
  ring

/-- **The error of rounding.** It is at most half a unit in the last of the 53 digits of the result,
or half a quantum for subnormal results. -/
theorem nearestQuanta_error (n : Nat) {d : Nat} (hd : 0 < d) :
    2 ^ 53 * (nearestQuanta n d * d) ≤ 2 ^ 53 * n + max n (2 ^ 52 * d) ∧
      2 ^ 53 * n ≤ 2 ^ 53 * (nearestQuanta n d * d) + max n (2 ^ 52 * d) := by
  have hspacing := spacing_le n d
  obtain ⟨hupper, hlower⟩ := roundHalfEven_error n
    (d := d * 2 ^ ((n / d).log2 - 52)) (by positivity)
  rw [nearestQuanta_mul]
  omega

/-! ## Magnitudes -/

theorem infinityIndex_eq : infinityIndex = 2047 * binade := rfl

/-- So many quanta are a finite magnitude. -/
def IsMagnitude (q : Nat) : Prop := ∃ i : Fin infinityIndex, quantaAt i = q

theorem isMagnitude_mul_pow {m e : Nat} (hm : m < 2 * binade) (he : e ≤ 2045) :
    IsMagnitude (m * 2 ^ e) := by
  induction e generalizing m with
  | zero =>
      refine ⟨⟨m, by rw [infinityIndex_eq]; omega⟩, ?_⟩
      rw [quantaAt_of_lt hm, Nat.pow_zero, Nat.mul_one]
  | succ e ih =>
      rcases Nat.lt_or_ge m binade with hsmall | hfull
      · -- a significand with a digit to spare
        have hhalf := ih (m := 2 * m) (by omega) (by omega)
        rwa [show 2 * m * 2 ^ e = m * 2 ^ (e + 1) by ring] at hhalf
      · have hindex : (e + 1) * binade + m < infinityIndex := by
          have hle : (e + 1) * binade ≤ 2045 * binade := Nat.mul_le_mul_right binade he
          rw [infinityIndex_eq]
          omega
        exact ⟨⟨_, hindex⟩, quantaAt_eq hm.le (.inr hfull)⟩

theorem nearestQuanta_exact {q d : Nat} (hq : IsMagnitude q) (hd : 0 < d) :
    nearestQuanta (q * d) d = q := by
  obtain ⟨i, rfl⟩ := hq
  rw [nearestQuanta, nearestIndex_quantaAt i hd]

/-- Rounding does not cross a magnitude. -/
theorem nearestQuanta_le {q n d : Nat} (hq : IsMagnitude q) (hd : 0 < d) (h : n ≤ q * d) :
    nearestQuanta n d ≤ q := by
  rw [← nearestQuanta_exact hq hd]
  exact quantaAt_strictMono.monotone (nearestIndex_mono hd hd (Nat.mul_le_mul_right d h))

theorem le_nearestQuanta {q n d : Nat} (hq : IsMagnitude q) (hd : 0 < d) (h : q * d ≤ n) :
    q ≤ nearestQuanta n d := by
  rw [← nearestQuanta_exact hq hd]
  exact quantaAt_strictMono.monotone (nearestIndex_mono hd hd (Nat.mul_le_mul_right d h))

theorem IsMagnitude.form {q : Nat} (h : IsMagnitude q) :
    ∃ m e, m < 2 * binade ∧ e ≤ 2045 ∧ q = m * 2 ^ e := by
  obtain ⟨⟨i, hi⟩, rfl⟩ := h
  obtain ⟨e, m, hm, hfull, rfl⟩ := index_eq i
  refine ⟨m, e, hm, ?_, quantaAt_eq hm.le hfull⟩
  by_contra hlarge
  have hle : 2046 * binade ≤ e * binade := Nat.mul_le_mul_right binade (by omega)
  rw [infinityIndex_eq] at hi
  omega

/-- The low digits of a magnitude are a magnitude. -/
theorem IsMagnitude.mod {q : Nat} (h : IsMagnitude q) (k : Nat) : IsMagnitude (q % 2 ^ k) := by
  obtain ⟨m, e, hm, he, rfl⟩ := h.form
  rcases Nat.le_total k e with hle | hle
  · obtain ⟨f, rfl⟩ := Nat.exists_eq_add_of_le hle
    rw [Nat.pow_add, show m * (2 ^ k * 2 ^ f) = m * 2 ^ f * 2 ^ k by ring, Nat.mul_mod_left]
    exact isMagnitude_mul_pow (m := 0) (e := 0) (by decide) (by decide)
  · obtain ⟨f, rfl⟩ := Nat.exists_eq_add_of_le hle
    rw [Nat.add_comm, Nat.pow_add, Nat.mul_mod_mul_right]
    exact isMagnitude_mul_pow (Nat.lt_of_le_of_lt (Nat.mod_le _ _) hm) he

/-- The quanta of `2 ^ 1024`, where the finite numbers end. -/
def overflow : Nat := 2 ^ 1024 * unit

theorem quantaAt_infinityIndex : quantaAt infinityIndex = overflow := by
  have hindex : 2045 * binade + 2 * binade = infinityIndex := by decide
  rw [← hindex, quantaAt_eq le_rfl (.inr (by decide)), two_mul_binade, overflow, unit_eq,
    two_pow_mul 53 2045 2098 rfl, two_pow_mul 1024 1074 2098 rfl]

theorem lt_infinityIndex_iff {i : Nat} : i < infinityIndex ↔ quantaAt i < overflow :=
  quantaAt_infinityIndex ▸ quantaAt_strictMono.lt_iff_lt.symm

theorem IsMagnitude.lt_overflow {q : Nat} (h : IsMagnitude q) : q < overflow := by
  obtain ⟨i, rfl⟩ := h
  exact lt_infinityIndex_iff.mp i.isLt

/-- The reciprocal of the greatest number is subnormal, but only just. -/
theorem two_pow_mul_overflow : 2 ^ 50 * overflow = unit * unit := by
  have hunit : unit = 2 ^ 50 * 2 ^ 1024 := unit_eq.trans (two_pow_mul 50 1024 1074 rfl).symm
  rw [overflow, ← Nat.mul_assoc, ← hunit]

/-! ## Zeros in sums -/

theorem isZero_iff {x : Binary64} : Scalar.IsZero x ↔ ∃ s, x = zero s := by
  unfold Scalar.IsZero
  rw [le_iff, le_iff, zero_rank]
  constructor
  · rintro ⟨hle, hge⟩
    cases x with
    | nan => exact hle.elim
    | inf s => cases s <;> simp [Ranked, rank?, signed] at hle hge
    | finite s i =>
        have hi : i = ⟨0, by decide⟩ := by
          apply Fin.ext
          cases s <;> (simp [Ranked, rank?, signed] at hle hge ⊢; omega)
        exact ⟨s, by rw [hi, zero]⟩
  · rintro ⟨s, rfl⟩
    cases s <;> simp [Ranked, rank?, signed, zero]

theorem ofQuanta_quantaAt (s : Bool) (i : Fin infinityIndex) :
    ofQuanta s (quantaAt i) 1 = .finite s i := by
  have hindex := nearestIndex_quantaAt i.val Nat.one_pos
  rw [Nat.mul_one] at hindex
  rw [ofQuanta, hindex]
  exact dif_pos i.isLt

theorem zero_add_finite (s t : Bool) {i : Fin infinityIndex} (hi : 0 < i.val) :
    zero s + .finite t i = .finite t i := by
  have hpos : 0 < quantaAt i := quantaAt_pos hi
  have hsum : signed s (quantaAt 0) + signed t (quantaAt i) = signed t (quantaAt i) := by
    cases s <;> simp [signed, quantaAt_of_lt]
  have hne : ¬ signed t (quantaAt i) = 0 := by cases t <;> simp [signed] <;> omega
  have hsign : decide (signed t (quantaAt i) < 0) = t := by
    cases t with
    | false => simp [signed]
    | true => simpa [signed] using hpos
  have habs : (signed t (quantaAt i)).natAbs = quantaAt i := by cases t <;> simp [signed]
  show add (.finite s _) _ = _
  simp only [add]
  rw [hsum, if_neg hne, hsign, habs, ofQuanta_quantaAt]

theorem zero_lt_ofQuanta {n : Nat} (hn : 0 < n) : (Scalar.zero : Binary64) < ofQuanta false n 1 := by
  have hindex : 0 < nearestIndex n 1 := by
    have hone := nearestIndex_quantaAt 1 Nat.one_pos
    rw [Nat.mul_one, quantaAt_of_lt (by decide)] at hone
    have hmono := nearestIndex_mono Nat.one_pos Nat.one_pos (n := 1) (m := n) (by omega)
    omega
  rw [lt_iff, zero_rank, ofQuanta, ofIndex]
  split
  · simpa [Ranked, rank?, signed] using hindex
  · simp [Ranked, rank?, signed]

/-! ## Operations on quanta -/

theorem nearestIndex_zero : nearestIndex 0 1 = 0 := by simp [nearestIndex, roundHalfEven]

/-- A sum that is not negative, of terms that are not both negative. -/
theorem add_of_nonneg {s t : Bool} {i j : Fin infinityIndex} {n : Nat} (hsign : (s && t) = false)
    (h : signed s (quantaAt i) + signed t (quantaAt j) = n) :
    (Binary64.finite s i : Binary64) + .finite t j = ofQuanta false n 1 := by
  have hadd : (Binary64.finite s i : Binary64) + .finite t j =
      if signed s (quantaAt i) + signed t (quantaAt j) = 0 then zero (s && t)
      else ofQuanta (signed s (quantaAt i) + signed t (quantaAt j) < 0)
        (signed s (quantaAt i) + signed t (quantaAt j)).natAbs 1 := rfl
  rw [hadd, h, hsign]
  rcases Nat.eq_zero_or_pos n with hn | hn
  · rw [if_pos (by omega), ofQuanta, hn, nearestIndex_zero]
    rfl
  · have hne : ¬ (n : Int) = 0 := by omega
    have hnot : ¬ (n : Int) < 0 := by omega
    rw [if_neg hne, Int.natAbs_natCast, decide_eq_false hnot]

/-- The number is finite, not negative, and consists of so many quanta. -/
def HasQuanta (x : Binary64) (q : Nat) : Prop :=
  ∃ i : Fin infinityIndex, x = .finite false i ∧ quantaAt i = q

theorem hasQuanta_zero : (Scalar.zero : Binary64).HasQuanta 0 := ⟨⟨0, by decide⟩, zero_eq, rfl⟩

namespace HasQuanta

variable {x y : Binary64} {p q : Nat}

theorem isMagnitude (h : x.HasQuanta q) : IsMagnitude q := by
  obtain ⟨i, _, hq⟩ := h
  exact ⟨i, hq⟩

theorem quanta_eq (hp : x.HasQuanta p) (hq : x.HasQuanta q) : p = q := by
  obtain ⟨i, rfl, rfl⟩ := hp
  obtain ⟨j, hj, rfl⟩ := hq
  cases hj
  rfl

theorem isPositive (hx : x.HasQuanta q) (hq : 0 < q) : Scalar.IsPositive x := by
  obtain ⟨i, rfl, rfl⟩ := hx
  exact isPositive_iff.mpr ⟨i, quantaAt_strictMono.lt_iff_lt.mp hq, rfl⟩

theorem isFinite (hx : x.HasQuanta q) : Scalar.isFinite x = true := by
  obtain ⟨i, rfl, _⟩ := hx
  rfl

theorem le_iff (hx : x.HasQuanta p) (hy : y.HasQuanta q) : x ≤ y ↔ p ≤ q := by
  obtain ⟨i, rfl, rfl⟩ := hx
  obtain ⟨j, rfl, rfl⟩ := hy
  rw [quantaAt_strictMono.le_iff_le]
  exact Int.ofNat_le

theorem not_isZero (hx : x.HasQuanta q) (hq : 0 < q) : ¬ Scalar.IsZero x := by
  rintro ⟨hle, _⟩
  exact hq.not_ge ((hx.le_iff hasQuanta_zero).mp hle)

/-- A rounded result that does not overflow. -/
theorem ofQuanta {n d : Nat} (h : nearestQuanta n d < overflow) :
    (Binary64.ofQuanta false n d).HasQuanta (nearestQuanta n d) := by
  have hindex : nearestIndex n d < infinityIndex := lt_infinityIndex_iff.mpr h
  exact ⟨⟨_, hindex⟩, dif_pos hindex, rfl⟩

/-- An exact result that is a magnitude. -/
theorem ofQuanta_exact {n d : Nat} (hd : 0 < d) (hq : IsMagnitude q) (h : n = q * d) :
    (Binary64.ofQuanta false n d).HasQuanta q := by
  obtain ⟨i, rfl⟩ := hq
  have hindex : nearestIndex n d = i := by rw [h, nearestIndex_quantaAt i hd]
  refine ⟨i, ?_, rfl⟩
  rw [Binary64.ofQuanta, hindex]
  exact dif_pos i.isLt

theorem ofRatio {num den : Nat} (hden : 0 < den) (hq : IsMagnitude q)
    (h : num * unit = q * den) : (Scalar.ofRatio (num : Int) den : Binary64).HasQuanta q := by
  have hsign : ¬ ((num : Int) < 0) := by omega
  show (Binary64.ofRatio num den).HasQuanta q
  rw [Binary64.ofRatio, Int.natAbs_natCast, decide_eq_false hsign]
  exact ofQuanta_exact hden hq h

theorem sub (hx : x.HasQuanta p) (hy : y.HasQuanta q) (hle : q ≤ p)
    (hdiff : IsMagnitude (p - q)) : (x - y).HasQuanta (p - q) := by
  obtain ⟨i, rfl, rfl⟩ := hx
  obtain ⟨j, rfl, rfl⟩ := hy
  have hsub : (Binary64.finite false i : Binary64) - .finite false j =
      Binary64.finite false i + .finite true j := rfl
  rw [hsub, add_of_nonneg rfl (n := quantaAt i - quantaAt j) (by simp [signed]; omega)]
  exact ofQuanta_exact Nat.one_pos hdiff (Nat.mul_one _).symm

theorem sub_zero (hx : x.HasQuanta p) : (x - Scalar.zero).HasQuanta p := by
  have hmagnitude : IsMagnitude (p - 0) := by
    rw [Nat.sub_zero]
    exact hx.isMagnitude
  have hsub := hx.sub hasQuanta_zero (Nat.zero_le _) hmagnitude
  rwa [Nat.sub_zero] at hsub

theorem mul (hx : x.HasQuanta p) (hy : y.HasQuanta q)
    (h : nearestQuanta (p * q) unit < overflow) :
    (x * y).HasQuanta (nearestQuanta (p * q) unit) := by
  obtain ⟨i, rfl, rfl⟩ := hx
  obtain ⟨j, rfl, rfl⟩ := hy
  have hmul : (Binary64.finite false i : Binary64) * .finite false j =
      Binary64.ofQuanta false (quantaAt i * quantaAt j) unit := by
    show Binary64.mul _ _ = _
    simp [Binary64.mul]
  rw [hmul]
  exact ofQuanta h

theorem div (hx : x.HasQuanta p) (hy : y.HasQuanta q) (hq : 0 < q)
    (h : nearestQuanta (p * unit) q < overflow) :
    (x / y).HasQuanta (nearestQuanta (p * unit) q) := by
  obtain ⟨i, rfl, rfl⟩ := hx
  obtain ⟨j, rfl, rfl⟩ := hy
  have hj : 0 < j.val := quantaAt_strictMono.lt_iff_lt.mp hq
  rw [div_positive i hj]
  exact ofQuanta h

/-- A quotient that overflows, or has no divisor. -/
theorem div_overflow (hx : x.HasQuanta p) (hp : 0 < p) (hy : y.HasQuanta q)
    (h : q = 0 ∨ overflow ≤ nearestQuanta (p * unit) q) : x / y = .inf false := by
  obtain ⟨i, rfl, rfl⟩ := hx
  obtain ⟨j, rfl, rfl⟩ := hy
  have hi : 0 < i.val := quantaAt_strictMono.lt_iff_lt.mp hp
  rcases Nat.eq_zero_or_pos j.val with hzero | hj
  · show Binary64.div _ _ = _
    simp only [Binary64.div]
    rw [if_pos hzero, if_neg (by omega)]
    rfl
  · have hpos : 0 < quantaAt j := quantaAt_pos hj
    have hlarge : overflow ≤ nearestQuanta (quantaAt i * unit) (quantaAt j) :=
      h.resolve_left hpos.ne'
    rw [div_positive i hj, ofIndex, dif_neg]
    rw [lt_infinityIndex_iff]
    exact hlarge.not_gt

/-- What divides a number that is not negative is above zero if the quotient is finite. -/
theorem div_of_isFinite (hx : x.HasQuanta p) (hy : y.HasQuanta q)
    (h : Scalar.isFinite (x / y) = true) : 0 < q ∧ ∃ r, (x / y).HasQuanta r := by
  obtain ⟨i, rfl, rfl⟩ := hx
  obtain ⟨j, rfl, rfl⟩ := hy
  rcases Nat.eq_zero_or_pos j.val with hzero | hj
  · exfalso
    have hdiv : (Binary64.finite false i : Binary64) / .finite false j =
        if i.val = 0 then .nan else .inf false := if_pos hzero
    rw [hdiv] at h
    split at h <;> cases h
  · rw [div_positive i hj] at h ⊢
    refine ⟨quantaAt_pos hj, ?_⟩
    unfold ofIndex at h ⊢
    split
    · exact ⟨_, _, rfl, rfl⟩
    · rename_i hover
      rw [dif_neg hover] at h
      cases h

end HasQuanta

end Binary64

end PanZoom
