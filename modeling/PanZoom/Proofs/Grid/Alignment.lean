import Mathlib.Data.Rat.Floor
import PanZoom.Grid.Units
import PanZoom.Proofs.Binary64.Whole

/-!
# Pixel centres

Aligning a coordinate to a pixel centre goes through four operations: the integer below, the part
above it, perhaps the next integer, and the centre. The two integers are exact for every finite
number. The part above the integer below can be rounded, for a negative coordinate close to zero,
but not across one half (`half_le_part_iff`). So the integer is the right one, and only the last
operation rounds, where the numbers are too far apart for halves
(`alignPixel_correctly_rounded`).
-/

namespace PanZoom

namespace Grid

open Binary64

attribute [local irreducible] unit overflow halfUnit

/-- The centre of the pixel that begins at an integer. -/
def pixelCentre {α : Type} [Scalar α] (k : Nat) : α := Scalar.ofRatio ((2 * k + 1 : Nat) : Int) 2

theorem hasQuanta_pixelCentre {k : Nat} (hk : k < 2 ^ 52) :
    (pixelCentre k : Binary64).HasQuanta ((2 * k + 1) * halfUnit) := by
  have h : (2 * k + 1) * unit = (2 * k + 1) * halfUnit * 2 := by
    rw [unit_eq_two_mul]
    ring
  rw [pixelCentre]
  exact .ofRatio Nat.two_pos (isMagnitude_halves (by omega)) h

theorem pixelCentre_injective {k m : Nat} (hk : k < 2 ^ 52) (hm : m < 2 ^ 52)
    (h : (pixelCentre k : Binary64) = pixelCentre m) : k = m := by
  have hquanta := (h ▸ hasQuanta_pixelCentre hk).quanta_eq (hasQuanta_pixelCentre hm)
  have hodd := Nat.eq_of_mul_eq_mul_right halfUnit_pos hquanta
  omega

/-! ## The integer of a pixel -/

/-- The integer nearest to `z / u`, halves up, and the one below. -/
theorem ediv_nearest (z : Int) {u h : Nat} (hu : u = 2 * h) (hh : 0 < h) :
    (2 * z + u) / (2 * u) = if (h : Int) ≤ z % u then z / u + 1 else z / u := by
  have hpos : (0 : Int) < u := by omega
  have hsplit := Int.emod_add_mul_ediv z u
  have hnonneg := Int.emod_nonneg z hpos.ne'
  have hrest := Int.emod_lt_of_pos z hpos
  have hsum : 2 * z + u = 2 * (z % u) + u + 2 * u * (z / u) := by
    nth_rewrite 1 [← hsplit]
    ring
  rw [hsum, Int.add_mul_ediv_left _ _ (by omega)]
  split
  · have hone : (2 * (z % u) + u) / (2 * (u : Int)) = 1 := by
      rw [show 2 * (z % u) + (u : Int) = 2 * (z % u) - u + 2 * u * 1 by ring,
        Int.add_mul_ediv_left _ _ (by omega), Int.ediv_eq_zero_of_lt (by omega) (by omega)]
      rfl
    rw [hone, Int.add_comm]
  · rw [Int.ediv_eq_zero_of_lt (by omega) (by omega), Int.zero_add]

/-- Less than one half above an integer, the part above it is a magnitude. -/
theorem isMagnitude_emod {z : Int} (hz : IsMagnitude z.natAbs) (h : z % unit < halfUnit) :
    IsMagnitude (z % unit).natAbs := by
  have hdigits := hz.mod 1074
  rw [← unit_eq] at hdigits
  have hpos := unit_pos
  obtain ⟨q, rfl | rfl⟩ := Int.eq_nat_or_neg z
  · rw [← Int.natCast_emod, Int.natAbs_natCast]
    rwa [Int.natAbs_natCast] at hdigits
  · rw [Int.natAbs_neg, Int.natAbs_natCast] at hdigits
    have hsplit := Nat.mod_add_div q unit
    have hrest := Nat.mod_lt q hpos
    rcases Nat.eq_zero_or_pos (q % unit) with hzero | hsome
    · have hdvd : (unit : Int) ∣ -q :=
        Int.dvd_neg.mpr (Int.natCast_dvd_natCast.mpr (Nat.dvd_of_mod_eq_zero hzero))
      rw [Int.emod_eq_zero_of_dvd hdvd]
      exact isMagnitude_mul_pow (m := 0) (e := 0) (by decide) (by decide)
    · have hpart : -(q : Int) % unit = (unit - q % unit : Nat) := by
        have hsum : -(q : Int) = (unit - q % unit : Nat) + unit * (-(q / unit : Nat) - 1) := by
          rw [Int.mul_sub, Int.mul_neg, ← Int.natCast_mul]
          omega
        rw [hsum, Int.add_mul_emod_self_left, Int.emod_eq_of_lt (by omega) (by omega)]
      rw [hpart, Int.natAbs_natCast]
      rw [hpart] at h
      have hdouble := unit_eq_two_mul
      exact hdigits.unit_sub (by omega)

section Finite

variable {x : Binary64} (hx : Scalar.isFinite x = true)
include hx

/-- The part above the integer below is compared with one half as if it were not rounded. -/
theorem half_le_part_iff :
    Scalar.half ≤ x - Scalar.floor x ↔ (halfUnit : Int) ≤ x.quanta % unit := by
  obtain ⟨hfinite, hfloor⟩ := floor_quanta hx
  have hpart : x.quanta - (Scalar.floor x).quanta = x.quanta % unit := by
    rw [hfloor, Int.emod_def, Int.mul_comm]
  rcases Int.lt_or_le (x.quanta % unit) halfUnit with hless | hmore
  · have hmagnitude := isMagnitude_emod (isMagnitude_natAbs hx) hless
    rw [← hpart] at hmagnitude
    obtain ⟨hpartFinite, hquanta⟩ := sub_exact hx hfinite hmagnitude
    rw [le_iff_quanta hasQuanta_half.isFinite hpartFinite, hquanta, hpart,
      hasQuanta_half.quanta_cast]
  · refine iff_of_true ?_ hmore
    rw [le_iff_rank (rank_eq hasQuanta_half.isFinite) (sub_rank hx hfinite), hpart,
      hasQuanta_half.quanta_cast]
    exact nearestRank_mono Nat.one_pos Nat.one_pos (Int.mul_le_mul_of_nonneg_right hmore (by decide))

/-- A number with a part above the integer below is small enough for whole units. -/
theorem natAbs_floor_le (h : (halfUnit : Int) ≤ x.quanta % unit) :
    (x.quanta / unit).natAbs ≤ 2 ^ 52 := by
  have hpos : (0 : Int) < unit := Int.natCast_pos.mpr unit_pos
  have hsmall : x.quanta.natAbs < 2 ^ 52 * unit := by
    by_contra hlarge
    have hdvd := (isMagnitude_natAbs hx).unit_dvd (Nat.le_of_not_lt hlarge)
    rw [Int.emod_eq_zero_of_dvd (Int.natCast_dvd.mpr hdvd)] at h
    exact absurd h (by have := halfUnit_pos; omega)
  have hlower : -(2 ^ 52) ≤ x.quanta / unit := by
    rw [Int.le_ediv_iff_mul_le hpos]
    omega
  have hupper : x.quanta / unit < 2 ^ 52 := by
    rw [Int.ediv_lt_iff_lt_mul hpos]
    omega
  omega

/-- The integer that alignment goes to before it adds one half. -/
theorem nearest_quanta {nearest : Binary64}
    (h : nearest = if Scalar.half ≤ x - Scalar.floor x then Scalar.floor x + Scalar.one
      else Scalar.floor x) :
    Scalar.isFinite nearest = true ∧
      nearest.quanta = (2 * x.quanta + unit) / (2 * unit) * unit := by
  obtain ⟨hfinite, hfloor⟩ := floor_quanta hx
  have hone : (Scalar.one : Binary64).HasQuanta (1 * unit) := by
    rw [Scalar.one]
    exact hasQuanta_ofNat (by decide)
  simp only [half_le_part_iff hx] at h
  rw [ediv_nearest _ unit_eq_two_mul halfUnit_pos]
  split at h
  · rename_i hhalf
    have hsmall := natAbs_floor_le hx hhalf
    have hsum : (Scalar.floor x).quanta + (Scalar.one : Binary64).quanta =
        (x.quanta / unit + 1) * unit := by
      rw [hfloor, hone.quanta_cast, Int.add_mul, Nat.one_mul, Int.one_mul]
    have hexact := add_exact hfinite hone.isFinite
    rw [hsum] at hexact
    rw [h, if_pos hhalf]
    exact hexact (isMagnitude_whole (by omega))
  · rename_i hhalf
    rw [h, if_neg hhalf]
    exact ⟨hfinite, hfloor⟩

end Finite

/-! ## The pixel -/

theorem ofRatio_rank (num : Int) {den : Nat} (hden : 0 < den) :
    (Scalar.ofRatio num den : Binary64).rank? = some (nearestRank (num * unit) den) := by
  show (ofQuanta (num < 0) (num.natAbs * unit) den).rank? = _
  rw [ofQuanta_rank _ _ hden, signed_mul, signed_natAbs]

/-- One half past an integer is rounded like the fraction. -/
theorem add_half {y : Binary64} {k : Int} (hy : Scalar.isFinite y = true)
    (hk : y.quanta = k * unit) : y + Scalar.half = Scalar.ofRatio (2 * k + 1) 2 := by
  obtain ⟨s, hsign, hsum⟩ := add_eq_ofQuanta hy hasQuanta_half.isFinite
  have hhalves : y.quanta + (Scalar.half : Binary64).quanta = (2 * k + 1) * halfUnit := by
    rw [hk, hasQuanta_half.quanta_cast, unit_eq_two_mul]
    push_cast
    ring
  rw [hhalves, Int.natAbs_mul, Int.natAbs_natCast] at hsum hsign
  have hne : (halfUnit : Int) ≠ 0 := Int.natCast_ne_zero.mpr halfUnit_pos.ne'
  rw [signed_mul] at hsign
  have hodd : signed s (2 * k + 1).natAbs = 2 * k + 1 := Int.eq_of_mul_eq_mul_right hne hsign
  have hs : decide (2 * k + 1 < 0) = s := by
    cases s <;> simp only [signed, if_true, if_false, Bool.false_eq_true, decide_eq_true_eq,
      decide_eq_false_iff_not] at hodd ⊢ <;> omega
  have hcancel := nearestIndex_cancel ((2 * k + 1).natAbs * halfUnit) Nat.one_pos Nat.two_pos
  show _ = ofQuanta (2 * k + 1 < 0) ((2 * k + 1).natAbs * unit) 2
  rw [hsum, hs, ofQuanta, ofQuanta, ← hcancel, Nat.one_mul, Nat.mul_assoc, Nat.mul_comm _ 2,
    ← unit_eq_two_mul]

theorem alignPixel_eq_ofRatio {x : Binary64} (hx : Scalar.isFinite x = true) :
    alignPixel x = Scalar.ofRatio (2 * ((2 * x.quanta + unit) / (2 * unit)) + 1) 2 := by
  obtain ⟨hfinite, hquanta⟩ := nearest_quanta hx rfl
  exact add_half hfinite hquanta

/-- A number that is not negative goes to the pixel at the nearest natural number. -/
theorem alignPixel_eq {x : Binary64} {q : Nat} (hx : x.HasQuanta q) :
    alignPixel x = pixelCentre ((2 * q + unit) / (2 * unit)) := by
  rw [alignPixel_eq_ofRatio hx.isFinite, hx.quanta_cast, pixelCentre]
  push_cast
  rfl

theorem alignPixel_isFinite {x : Binary64} (hx : Scalar.isFinite x = true) :
    Scalar.isFinite (alignPixel x) = true := by
  obtain ⟨hfinite, _⟩ := nearest_quanta hx rfl
  refine add_finite hfinite hasQuanta_half.isFinite ?_
  have hroom := two_mul_units_lt (n := 1) (by decide)
  have hdouble := unit_eq_two_mul
  rw [hasQuanta_half.quanta_cast, Int.natAbs_natCast]
  exact Nat.lt_of_le_of_lt (by omega) hroom

attribute [local irreducible] alignPixel

/-- Numbers in order have their pixels in order. -/
theorem alignPixel_mono {x y : Binary64} (hx : Scalar.isFinite x = true)
    (hy : Scalar.isFinite y = true) (h : x ≤ y) : alignPixel x ≤ alignPixel y := by
  rw [le_iff_quanta hx hy] at h
  have hpos : (0 : Int) < 2 * unit := by
    have hunit := unit_pos
    omega
  rw [alignPixel_eq_ofRatio hx, alignPixel_eq_ofRatio hy,
    le_iff_rank (ofRatio_rank _ Nat.two_pos) (ofRatio_rank _ Nat.two_pos)]
  refine nearestRank_mono Nat.two_pos Nat.two_pos ?_
  have hinteger : (2 * x.quanta + unit) / (2 * unit) ≤ (2 * y.quanta + unit) / (2 * unit) :=
    Int.ediv_le_ediv hpos (by omega)
  gcongr

/-- The integer nearest to an exact value, halves up. -/
theorem floor_toRat_add_half (x : Binary64) :
    ⌊x.toRat + 1 / 2⌋ = (2 * x.quanta + unit) / (2 * unit) := by
  have hunit : (unit : Rat) ≠ 0 := Nat.cast_ne_zero.mpr unit_pos.ne'
  have hsum : x.toRat + 1 / 2 = ((2 * x.quanta + unit : Int) : Rat) / ((2 * unit : Nat) : Rat) := by
    rw [toRat_eq]
    push_cast
    field_simp
  rw [hsum, Rat.floor_intCast_div_natCast]
  push_cast
  rfl

/-- **Alignment rounds correctly.** For every finite coordinate the pixel is the exact centre, the
nearest integer with halves going up and one half, rounded once; and coordinates in order have
their pixels in order. -/
theorem alignPixel_correctly_rounded (x : Binary64) (hx : Scalar.isFinite x = true) :
    alignPixel x = Scalar.ofRatio (2 * ⌊x.toRat + 1 / 2⌋ + 1) 2 ∧
      (alignPixel x).IsRounding (⌊x.toRat + 1 / 2⌋ + 1 / 2) ∧
      ∀ y : Binary64, Scalar.isFinite y = true → x ≤ y → alignPixel x ≤ alignPixel y := by
  have hpixel : alignPixel x = Scalar.ofRatio (2 * ⌊x.toRat + 1 / 2⌋ + 1) 2 := by
    rw [floor_toRat_add_half, alignPixel_eq_ofRatio hx]
  have hfinite := alignPixel_isFinite hx
  refine ⟨hpixel, ?_, fun y hy h => alignPixel_mono hx hy h⟩
  rw [hpixel] at hfinite ⊢
  have hround := ofRatio_isRounding _ Nat.two_pos hfinite
  have hcentre : ((2 * ⌊x.toRat + 1 / 2⌋ + 1 : Int) : Rat) / (2 : Nat) =
      ⌊x.toRat + 1 / 2⌋ + 1 / 2 := by
    push_cast
    ring
  rwa [hcentre] at hround

/-- The number before one half goes to the first pixel, although the sum with one half is rounded to
one, and the number before minus one half to the pixel before that. -/
theorem alignPixel_before_half :
    let x : Binary64 := .ofBits 0x3fdfffffffffffff
    let y : Binary64 := .ofBits 0xbfe0000000000001
    Scalar.isFinite x = true ∧ Scalar.isFinite y = true ∧
      x + Scalar.half = Scalar.one ∧ ⌊x.toRat + 1 / 2⌋ = 0 ∧ ⌊y.toRat + 1 / 2⌋ = -1 ∧
      (alignPixel x).IsRounding (1 / 2) ∧ (alignPixel y).IsRounding (-1 / 2) ∧
      alignPixel y ≤ alignPixel x := by
  intro x y
  have hx : Scalar.isFinite x = true := by decide +kernel
  have hy : Scalar.isFinite y = true := by decide +kernel
  have hxfloor : ⌊x.toRat + 1 / 2⌋ = 0 := by decide +kernel
  have hyfloor : ⌊y.toRat + 1 / 2⌋ = -1 := by decide +kernel
  obtain ⟨_, hxround, _⟩ := alignPixel_correctly_rounded x hx
  obtain ⟨_, hyround, hmono⟩ := alignPixel_correctly_rounded y hy
  rw [hxfloor] at hxround
  rw [hyfloor] at hyround
  refine ⟨hx, hy, by decide +kernel, hxfloor, hyfloor, ?_, ?_, hmono x hx (by decide +kernel)⟩
  · convert hxround using 1
    norm_num
  · convert hyround using 1
    norm_num

end Grid

end PanZoom
