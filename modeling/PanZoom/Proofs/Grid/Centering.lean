import PanZoom.Proofs.Grid.Alignment
import PanZoom.Proofs.Grid.Painting
import PanZoom.Proofs.View.Divisor
import PanZoom.Proofs.View.Projection

/-!
# Where the axes are drawn

In a view whose offset is zero the axes cross in the middle of the canvas, and so they should be
drawn at the pixel at which the middle is rounded, halves up. The painter goes a longer way: it
divides the canvas by the scale, takes the half of that, multiplies it by the scale again and
aligns the result. The three roundings together are off by less than one part in `2 ^ 49`
(`centre_near`), which is far too little to reach another pixel unless the middle is half-way
between two of them. So for an even number of pixels the line is where it should be, and for an odd
number it is one pixel too low if the half of the extent comes back too small
(`odd_axes_misplaced`). And so far out that the extent overflows there is no line at all
(`centreLines`, `axes_through_centre`).
-/

namespace PanZoom

theorem Size.along_x {α : Type} (w h : α) : (Size.mk w h).along .x = w := rfl

theorem Size.along_y {α : Type} (w h : α) : (Size.mk w h).along .y = h := rfl

namespace Binary64

attribute [local irreducible] unit overflow halfUnit

/-- The half of an extent, as a multiple of the scale `s`. -/
theorem half_near (e s : Nat) :
    2 ^ 53 * (2 * (nearestQuanta e 2 * s)) ≤ 2 ^ 53 * (e * s) + e * s + 2 ^ 53 * s ∧
      2 ^ 53 * (e * s) ≤ 2 ^ 53 * (2 * (nearestQuanta e 2 * s)) + e * s + 2 ^ 53 * s := by
  obtain ⟨hupper, hlower⟩ := nearestQuanta_error e Nat.two_pos
  constructor
  · calc 2 ^ 53 * (2 * (nearestQuanta e 2 * s)) = 2 ^ 53 * (nearestQuanta e 2 * 2) * s := by ring
      _ ≤ (2 ^ 53 * e + e + 2 ^ 53) * s := Nat.mul_le_mul_right s (by omega)
      _ = 2 ^ 53 * (e * s) + e * s + 2 ^ 53 * s := by ring
  · calc 2 ^ 53 * (e * s) = 2 ^ 53 * e * s := by ring
      _ ≤ (2 ^ 53 * (nearestQuanta e 2 * 2) + e + 2 ^ 53) * s := Nat.mul_le_mul_right s (by omega)
      _ = 2 ^ 53 * (2 * (nearestQuanta e 2 * s)) + e * s + 2 ^ 53 * s := by ring

/-- Three roundings one after another, of what is `x`, half of it, and the same. -/
theorem errors_compose {x p q w s u : Nat} (hx : 0 < x) (hs : 2 ^ 50 * s ≤ x)
    (hu : 2 ^ 53 * u ≤ x)
    (hp : 2 ^ 53 * p ≤ 2 ^ 53 * x + max x (2 ^ 52 * s) ∧
      2 ^ 53 * x ≤ 2 ^ 53 * p + max x (2 ^ 52 * s))
    (hq : 2 ^ 53 * (2 * q) ≤ 2 ^ 53 * p + p + 2 ^ 53 * s ∧
      2 ^ 53 * p ≤ 2 ^ 53 * (2 * q) + p + 2 ^ 53 * s)
    (hw : 2 ^ 53 * w ≤ 2 ^ 53 * q + max q (2 ^ 52 * u) ∧
      2 ^ 53 * q ≤ 2 ^ 53 * w + max q (2 ^ 52 * u)) :
    0 < q ∧ q < p ∧ 2 ^ 49 * (2 * w) ≤ 2 ^ 49 * x + x ∧ 2 ^ 49 * x ≤ 2 ^ 49 * (2 * w) + x := by
  omega

/-- The extent of a canvas length, its half, and the pixel of that half, each rounded: together they
are off by less than one part in `2 ^ 49`. The half is less than the whole. -/
theorem centre_near {n s e h c : Nat} (hn : 0 < n) (hs : 0 < s) (hlimit : s < overflow)
    (he : e = nearestQuanta (n * unit * unit) s) (hh : h = nearestQuanta e 2)
    (hc : c = nearestQuanta (h * s) unit) :
    0 < h ∧ h < e ∧ 2 ^ 49 * (2 * c) ≤ 2 ^ 49 * (n * unit) + n * unit ∧
      2 ^ 49 * (n * unit) ≤ 2 ^ 49 * (2 * c) + n * unit := by
  have hsquare : unit * unit ≤ n * unit * unit := by
    rw [Nat.mul_assoc]
    exact Nat.le_mul_of_pos_left _ hn
  -- neither the scale nor the unit is large enough to matter for the errors
  have hscale : 2 ^ 50 * s ≤ n * unit * unit := by
    have hle : 2 ^ 50 * s ≤ 2 ^ 50 * overflow := Nat.mul_le_mul_left _ hlimit.le
    rw [two_pow_mul_overflow] at hle
    exact Nat.le_trans hle hsquare
  have hunit : 2 ^ 53 * unit ≤ n * unit * unit :=
    Nat.le_trans (Nat.mul_le_mul_right unit two_pow_le_unit) hsquare
  have hpos : 0 < n * unit * unit :=
    Nat.mul_pos (Nat.mul_pos hn unit_pos) unit_pos
  have hextent := nearestQuanta_error (n * unit * unit) hs
  have hhalf := half_near e s
  have hcentre := nearestQuanta_error (h * s) unit_pos
  rw [← he] at hextent
  rw [← hh] at hhalf
  rw [← hc] at hcentre
  obtain ⟨hless, hmore, hupper, hlower⟩ :=
    errors_compose hpos hscale hunit hextent hhalf hcentre
  have hleft : 2 ^ 49 * (2 * c) * unit = 2 ^ 49 * (2 * (c * unit)) := by ring
  have hright : (2 ^ 49 * (n * unit) + n * unit) * unit =
      2 ^ 49 * (n * unit * unit) + n * unit * unit := by ring
  refine ⟨Nat.pos_of_mul_pos_right hless, Nat.lt_of_mul_lt_mul_right hmore, ?_, ?_⟩
  · refine Nat.le_of_mul_le_mul_right ?_ unit_pos
    rw [hleft, hright]
    exact hupper
  · refine Nat.le_of_mul_le_mul_right ?_ unit_pos
    rw [Nat.add_mul, hleft, Nat.mul_assoc]
    exact hlower

theorem lt_of_near {n c u : Nat} (hu : 0 < u) (hn : n < 2 ^ 31)
    (hupper : 2 ^ 49 * (2 * c) ≤ 2 ^ 49 * (n * u) + n * u) : c < 2 ^ 31 * u := by
  have hsize : n * u < 2 ^ 31 * u := Nat.mul_lt_mul_of_pos_right hn hu
  omega

/-- What is near half of `n` units is rounded to an integer beside it. -/
theorem nearest_half {n c u : Nat} (hu : 0 < u) (hn : n < 2 ^ 31)
    (hupper : 2 ^ 49 * (2 * c) ≤ 2 ^ 49 * (n * u) + n * u)
    (hlower : 2 ^ 49 * (n * u) ≤ 2 ^ 49 * (2 * c) + n * u) :
    (2 * c + u) / (2 * u) = if n % 2 = 0 ∨ n * u ≤ 2 * c then (n + 1) / 2 else (n - 1) / 2 := by
  have hsize : n * u < 2 ^ 31 * u := Nat.mul_lt_mul_of_pos_right hn hu
  have hdiv : ∀ m, 2 * (m * u) ≤ 2 * c + u → 2 * c + u < 2 * (m * u) + 2 * u →
      (2 * c + u) / (2 * u) = m := by
    intro m hle hlt
    refine Nat.div_eq_of_lt_le ?_ ?_
    · calc m * (2 * u) = 2 * (m * u) := by ring
        _ ≤ 2 * c + u := hle
    · calc 2 * c + u < 2 * (m * u) + 2 * u := hlt
        _ = (m + 1) * (2 * u) := by ring
  obtain ⟨m, rfl | rfl⟩ : ∃ m, n = 2 * m ∨ n = 2 * m + 1 := ⟨n / 2, by omega⟩
  · have heven : 2 * m * u = 2 * (m * u) := by ring
    rw [if_pos (.inl (Nat.mul_mod_right 2 m)), show (2 * m + 1) / 2 = m by omega]
    exact hdiv m (by omega) (by omega)
  · have hodd : (2 * m + 1) * u = 2 * (m * u) + u := by ring
    split
    · rename_i hcase
      have hnext : (m + 1) * u = m * u + u := by ring
      have hpast : (2 * m + 1) * u ≤ 2 * c := hcase.resolve_left (by omega)
      rw [show (2 * m + 1 + 1) / 2 = m + 1 by omega]
      exact hdiv (m + 1) (by omega) (by omega)
    · rename_i hcase
      have hbelow : ¬ (2 * m + 1) * u ≤ 2 * c := fun hle => hcase (.inr hle)
      rw [show (2 * m + 1 - 1) / 2 = m by omega]
      exact hdiv m (by omega) (by omega)

end Binary64

namespace Grid

open Binary64

/-! ## The axis on a span -/

theorem tierPixels_axis (p : Projection Binary64) (minScale : Binary64) (color : Color)
    (axis : Axis) : tierPixels p ⟨.axis, minScale, color⟩ axis =
      if (p.span axis).IsEmpty then []
      else if (p.span axis).Contains Scalar.zero then
        [alignPixel ((p.span axis).toScreen Scalar.zero)]
      else [] := by
  unfold tierPixels linePositions
  by_cases hempty : (p.span axis).IsEmpty
  · simp [hempty]
  · by_cases hcontains : (p.span axis).Contains Scalar.zero <;> simp [hempty, hcontains]

/-- The lines of the axes across the direction along which the canvas has `n` pixels, where nothing
is moved. Far out, where the extent overflows, there is none. -/
def centreLines (scale : Binary64) (n : Nat) : List Binary64 :=
  let extent : Binary64 := Scalar.ofNat n / scale
  if ¬ Scalar.isFinite extent then []
  else if n % 2 = 0 ∨ Projection.halve (Scalar.ofNat n) ≤ Projection.halve extent * scale then
    [pixelCentre ((n + 1) / 2)]
  else [pixelCentre ((n - 1) / 2)]

/-- They are the lines through the centre of the pixel at which the middle of the canvas is rounded,
halves up, just if the extent is finite and the half of it does not fall short of the middle. -/
theorem centreLines_eq_iff {scale : Binary64} {n : Nat} (hn : n < 2 ^ 31) :
    centreLines scale n = [pixelCentre ((n + 1) / 2)] ↔
      Scalar.isFinite (Scalar.ofNat n / scale : Binary64) = true ∧
        (n % 2 = 0 ∨ Projection.halve (Scalar.ofNat n : Binary64) ≤
          Projection.halve (Scalar.ofNat n / scale) * scale) := by
  by_cases hfinite : Scalar.isFinite (Scalar.ofNat n / scale : Binary64) = true
  · rw [centreLines, if_neg (not_not_intro hfinite)]
    split
    · rename_i hhalf
      exact iff_of_true rfl ⟨hfinite, hhalf⟩
    · rename_i hhalf
      refine iff_of_false ?_ fun h => hhalf h.2
      intro hsame
      have hodd : ¬ n % 2 = 0 := fun heven => hhalf (.inl heven)
      have hpixel : (n - 1) / 2 = (n + 1) / 2 :=
        pixelCentre_injective (by omega) (by omega) (List.singleton_inj.mp hsame)
      omega
  · rw [centreLines, if_pos hfinite]
    exact iff_of_false (List.cons_ne_nil _ _).symm fun h => hfinite h.1

theorem hasQuanta_halve {x : Binary64} {e : Nat} (hx : x.HasQuanta e)
    (hlimit : nearestQuanta e 2 < overflow) :
    (Projection.halve x).HasQuanta (nearestQuanta e 2) := by
  have hcancel : nearestQuanta (e * unit) (2 * unit) = nearestQuanta e 2 := by
    rw [nearestQuanta, nearestQuanta, nearestIndex_cancel e Nat.two_pos unit_pos]
  have hpos : 0 < 2 * unit := Nat.mul_pos Nat.two_pos unit_pos
  rw [← hcancel] at hlimit ⊢
  rw [Projection.halve]
  exact hx.div hasQuanta_two hpos hlimit

/-- The half of an infinite extent leaves nothing to see. -/
theorem span_empty {span : Span Binary64} {o extent : Binary64} (ho : Scalar.IsZero o)
    (hextent : extent = .inf false)
    (hstop : span.stop = -o - Projection.halve extent + extent) : span.IsEmpty := by
  obtain ⟨s, rfl⟩ := isZero_iff.mp ho
  obtain ⟨two, htwo, _⟩ := hasQuanta_two
  have hnan : span.stop = .nan := by
    rw [hstop, hextent, Projection.halve, htwo]
    rfl
  exact .inr (.inl (by rw [hnan]; rfl))

/-- Otherwise the origin is seen, at the pixel of the half of the extent. -/
theorem span_centre (span : Span Binary64) {o extent : Binary64} {e h : Nat}
    (ho : Scalar.IsZero o) (hextent : extent.HasQuanta e)
    (hhalf : (Projection.halve extent).HasQuanta h) (hpos : 0 < h) (hless : h < e)
    (hstart : span.start = -o - Projection.halve extent)
    (hstop : span.stop = span.start + extent)
    (horigin : span.origin = o + Projection.halve extent) :
    ¬ span.IsEmpty ∧ span.Contains Scalar.zero ∧
      span.toScreen Scalar.zero = Projection.halve extent * span.scale := by
  obtain ⟨s, rfl⟩ := isZero_iff.mp ho
  obtain ⟨j, hj, rfl⟩ := hhalf
  obtain ⟨k, rfl, rfl⟩ := hextent
  have hindex : 0 < j.val := quantaAt_strictMono.lt_iff_lt.mp hpos
  have hzero : (Scalar.zero : Binary64) = zero false := zero_eq
  rw [hj] at hstart horigin ⊢
  have hnear : span.start = .finite true j :=
    hstart.trans (zero_add_finite (!s) true hindex)
  have hfar : span.stop = ofQuanta false (quantaAt k - quantaAt j) 1 := by
    rw [hstop, hnear]
    exact add_of_nonneg rfl (by simp [signed]; omega)
  have hseen : (Scalar.zero : Binary64) < span.stop := by
    rw [hfar]
    exact zero_lt_ofQuanta (by omega)
  have hbefore : span.start ≤ (Scalar.zero : Binary64) := by
    rw [hnear, le_iff, zero_rank]
    simp [Ranked, rank?, signed]
  refine ⟨?_, ⟨hbefore, hseen⟩, ?_⟩
  · rintro (hnan | hnan | hle)
    · rw [hnear] at hnan
      cases hnan
    · rw [hfar, ofQuanta, ofIndex_not_nan] at hnan
      cases hnan
    · exact not_le_of_lt hseen (Binary64.le_trans hle hbefore)
  · rw [Span.toScreen, horigin, zero_add_finite s false hindex, hzero,
      zero_add_finite false false hindex]

theorem hasQuanta_halve_ofNat {n : Nat} (hn : n < 2 ^ 53) :
    (Projection.halve (Scalar.ofNat n : Binary64)).HasQuanta (n * halfUnit) := by
  have hhalf : n * unit = n * halfUnit * 2 := by
    rw [unit_eq_two_mul]
    ring
  have hexact : nearestQuanta (n * unit) 2 = n * halfUnit := by
    rw [hhalf, nearestQuanta_exact (isMagnitude_halves hn) Nat.two_pos]
  have h := hasQuanta_halve (hasQuanta_ofNat hn)
  rw [hexact] at h
  exact h (isMagnitude_halves hn).lt_overflow

/-- The pixel of the half of an extent, which is seen. -/
theorem alignPixel_half {scale extent : Binary64} {n s : Nat} (hn : 0 < n) (hsmall : n < 2 ^ 31)
    (hs : 0 < s) (hscale : scale.HasQuanta s)
    (hextent : extent.HasQuanta (nearestQuanta (n * unit * unit) s)) :
    (∃ h, (Projection.halve extent).HasQuanta h ∧ 0 < h ∧
        h < nearestQuanta (n * unit * unit) s) ∧
      alignPixel (Projection.halve extent * scale) =
        if n % 2 = 0 ∨ Projection.halve (Scalar.ofNat n) ≤ Projection.halve extent * scale then
          pixelCentre ((n + 1) / 2)
        else pixelCentre ((n - 1) / 2) := by
  obtain ⟨hpos, hless, hupper, hlower⟩ :=
    centre_near hn hs hscale.isMagnitude.lt_overflow rfl rfl rfl
  have hhalf := hasQuanta_halve hextent (Nat.lt_trans hless hextent.isMagnitude.lt_overflow)
  -- the pixel is far from overflowing
  have hlimit := lt_of_near unit_pos hsmall hupper
  have hfits : 2 ^ 31 * unit < overflow := (isMagnitude_units (by decide)).lt_overflow
  have hcentre := hhalf.mul hscale (Nat.lt_trans hlimit hfits)
  have hdouble : n * unit = 2 * (n * halfUnit) := by
    rw [unit_eq_two_mul]
    ring
  have hcompare : n * unit ≤ 2 * nearestQuanta (nearestQuanta (nearestQuanta (n * unit * unit) s)
      2 * s) unit ↔ Projection.halve (Scalar.ofNat n) ≤ Projection.halve extent * scale := by
    rw [(hasQuanta_halve_ofNat (by omega)).le_iff hcentre, hdouble]
    exact Nat.mul_le_mul_left_iff Nat.two_pos
  refine ⟨⟨_, hhalf, hpos, hless⟩, ?_⟩
  rw [alignPixel_eq hcentre, nearest_half unit_pos hsmall hupper hlower]
  simp only [hcompare]
  split <;> rfl

theorem usableLength_ofNat {n : Nat} (hn : 0 < n) (hsmall : n < 2 ^ 31) :
    Projection.usableLength (Scalar.ofNat n : Binary64) = Scalar.ofNat n := by
  have hlength : (Scalar.ofNat n : Binary64).HasQuanta (n * unit) := hasQuanta_ofNat (by omega)
  exact if_pos (hlength.isPositive (Nat.mul_pos hn unit_pos))

/-- **Where an axis crosses.** Nothing is moved, and the canvas has `n` pixels along this direction:
the lines of the axis tier are the ones through the centre. -/
theorem tierPixels_centre {view : View Binary64} {size : Size Binary64} {axis : Axis} {n s : Nat}
    (hn : 0 < n) (hsmall : n < 2 ^ 31) (hscale : view.scale.HasQuanta s)
    (hsize : size.along axis = Scalar.ofNat n)
    (hoffset : Scalar.IsZero (view.offset.along axis)) (minScale : Binary64) (color : Color) :
    tierPixels (Projection.ofView view size) ⟨.axis, minScale, color⟩ axis =
      centreLines view.scale n := by
  have hlength : (Scalar.ofNat n : Binary64).HasQuanta (n * unit) := hasQuanta_ofNat (by omega)
  have hpositive : 0 < n * unit := Nat.mul_pos hn unit_pos
  have husable : Projection.usableLength (size.along axis) = Scalar.ofNat n := by
    rw [hsize, usableLength_ofNat hn hsmall]
  have hspan := Projection.span_eq axis view size
  rw [husable] at hspan
  rw [tierPixels_axis, centreLines]
  by_cases hover : s = 0 ∨ overflow ≤ nearestQuanta (n * unit * unit) s
  · -- the extent is infinite
    have hextent := hlength.div_overflow hpositive hscale hover
    have hempty : ((Projection.ofView view size).span axis).IsEmpty :=
      span_empty hoffset hextent (by rw [hspan])
    have hinfinite : ¬ Scalar.isFinite (Scalar.ofNat n / view.scale : Binary64) = true := by
      rw [hextent]
      exact Bool.false_ne_true
    rw [if_pos hempty, if_pos hinfinite]
  · rw [not_or, Nat.not_le] at hover
    obtain ⟨hs, hfits⟩ := hover
    have hextent := hlength.div hscale (Nat.pos_of_ne_zero hs) hfits
    obtain ⟨⟨h, hhalf, hpos, hless⟩, hpixel⟩ :=
      alignPixel_half hn hsmall (Nat.pos_of_ne_zero hs) hscale hextent
    obtain ⟨hseen, hcontains, hscreen⟩ := span_centre
      ((Projection.ofView view size).span axis) hoffset hextent hhalf hpos hless (by rw [hspan])
      (by rw [hspan]) (by rw [hspan])
    have hfinite : ¬ ¬ Scalar.isFinite (Scalar.ofNat n / view.scale : Binary64) = true :=
      not_not_intro hextent.isFinite
    have hsame : ((Projection.ofView view size).span axis).scale = view.scale := by rw [hspan]
    rw [if_neg hseen, if_pos hcontains, hscreen, if_neg hfinite, hsame, hpixel]
    split <;> rfl

/-! ## The axes on a canvas -/

theorem area_bounds {w h u : Nat} (hw : 1 ≤ w) (hwidth : w < 2 ^ 31) (hh : 1 ≤ h)
    (hheight : h < 2 ^ 31) :
    1 * u * u ≤ w * u * (h * u) ∧ w * u * (h * u) ≤ 2 ^ 62 * u * u := by
  have hproduct : w * h ≤ 2 ^ 31 * 2 ^ 31 := Nat.mul_le_mul hwidth.le hheight.le
  have hleast : 1 * 1 ≤ w * h := Nat.mul_le_mul hw hh
  have hsquare : w * u * (h * u) = w * h * (u * u) := by ring
  have hlow : 1 * u * u = 1 * 1 * (u * u) := by ring
  have hhigh : 2 ^ 62 * u * u = 2 ^ 31 * 2 ^ 31 * (u * u) := by ring
  rw [hsquare, hlow, hhigh]
  exact ⟨Nat.mul_le_mul_right _ hleast, Nat.mul_le_mul_right _ hproduct⟩

theorem isMagnitude_area : IsMagnitude (2 ^ 62 * unit) := by
  have h := isMagnitude_mul_pow (m := 1) (e := 1136) (by decide) (by decide)
  rwa [Nat.one_mul, ← two_pow_mul 62 1074 1136 rfl, ← unit_eq] at h

theorem canvas_ofNat {w h : Nat} (hw : 0 < w) (hwidth : w < 2 ^ 31) (hh : 0 < h)
    (hheight : h < 2 ^ 31) (view : View Binary64) :
    (Projection.ofView view ⟨Scalar.ofNat w, Scalar.ofNat h⟩).canvas =
      ⟨Scalar.ofNat w, Scalar.ofNat h⟩ := by
  rw [Projection.ofView, Size.map, usableLength_ofNat hw hwidth, usableLength_ofNat hh hheight]

/-- A canvas of some pixels by some pixels is not empty. -/
theorem canvasRect_not_isEmpty {w h : Nat} (hw : 0 < w) (hwidth : w < 2 ^ 31) (hh : 0 < h)
    (hheight : h < 2 ^ 31) (view : View Binary64) :
    ¬ (Projection.ofView view ⟨Scalar.ofNat w, Scalar.ofNat h⟩).canvasRect.IsEmpty := by
  obtain ⟨hleast, hmost⟩ := area_bounds (u := unit) hw hwidth hh hheight
  have hlow := le_nearestQuanta (isMagnitude_units (k := 1) (by decide)) unit_pos hleast
  have hhigh := nearestQuanta_le isMagnitude_area unit_pos hmost
  have hfits := Nat.lt_of_le_of_lt hhigh isMagnitude_area.lt_overflow
  have hcolumns : (Scalar.ofNat w : Binary64).HasQuanta (w * unit) := hasQuanta_ofNat (by omega)
  have hrows : (Scalar.ofNat h : Binary64).HasQuanta (h * unit) := hasQuanta_ofNat (by omega)
  have harea := hcolumns.sub_zero.mul hrows.sub_zero hfits
  rw [Projection.canvasRect, canvas_ofNat hw hwidth hh hheight, Size.toRect, Rect.IsEmpty,
    Rect.area]
  exact harea.not_isZero (Nat.lt_of_lt_of_le (Nat.mul_pos Nat.one_pos unit_pos) hlow)

end Grid

namespace Viewport

open Grid

variable {η : Type}

/-- **The axes of a centred view.** Whatever zooms were accepted, if the offset is zero then a
layer in the default style draws the axes last, in one stroke of the lines through the centre, and
draws nothing else in their color. Where there is no such line it leaves the stroke out. -/
theorem axes_through_centre (changes : List (ZoomSettings.Change Binary64)) (id : Nat)
    (calls : List (Call Binary64 η)) (l : Layer Binary64) (hstyle : l.style = .default) {w h : Nat}
    (hw : 0 < w) (hwidth : w < 2 ^ 31) (hh : 0 < h) (hheight : h < 2 ^ 31) :
    let view := ((create id (.ofChanges changes) : Viewport Binary64 η).run calls).view
    let size : Size Binary64 := ⟨Scalar.ofNat w, Scalar.ofNat h⟩
    let axes := Layer.crossLines size .x (centreLines view.scale w) ++
      Layer.crossLines size .y (centreLines view.scale h)
    Scalar.IsZero view.offset.x → Scalar.IsZero view.offset.y →
      ∃ front, (l.paint view size).ops =
          front ++ (if axes.isEmpty then []
            else SurfaceOp.strokePath axes Style.default.stroke Tier.axisColor) ++
            [.state .popClip] ∧
        ∀ op ∈ front, op ≠ .state (.setPaint (.solid Tier.axisColor)) := by
  intro view size axes hx hy
  have hs := ZoomSettings.ofChanges_sound changes
  obtain ⟨_, hrange⟩ := run_inRange (v := create id (.ofChanges changes)) hs
    (View.initial_inRange hs) calls
  obtain ⟨q, hscale⟩ := hrange.scale_hasQuanta hs
  have hvisible : Scalar.zero ≤ view.scale := (Binary64.hasQuanta_zero.le_iff hscale).mpr q.zero_le
  have htiers : l.style.tiers = [.minor, .major] ++ [.axis Tier.axisColor] := by
    rw [hstyle]
    rfl
  have hlower : ∀ t ∈ [(Tier.minor : Tier Binary64), .major], t.color ≠ Tier.axisColor := by decide
  obtain ⟨front, hops, hfront⟩ := Layer.paint_axes htiers hlower hvisible
    (canvasRect_not_isEmpty hw hwidth hh hheight view)
  refine ⟨front, ?_, hfront⟩
  have hcolumn : tierPixels (Projection.ofView view size) (.axis Tier.axisColor) .x =
      centreLines view.scale w :=
    tierPixels_centre hw hwidth hscale (Size.along_x _ _) hx _ _
  have hrow : tierPixels (Projection.ofView view size) (.axis Tier.axisColor) .y =
      centreLines view.scale h :=
    tierPixels_centre hh hheight hscale (Size.along_y _ _) hy _ _
  rw [canvas_ofNat hw hwidth hh hheight, Layer.tierPath_eq, hcolumn, hrow, hstyle] at hops
  exact hops

/-- At half of the scale the axes still are at the pixels in the middle of a canvas of 48 by 29
pixels. -/
theorem centred_after_zoom :
    let calls : List (Call Binary64 Unit) := [.setDistance (Scalar.ofNat 2)]
    let view := ((create 0 (.ofChanges [])).run calls).view
    let size : Size Binary64 := ⟨Scalar.ofNat 48, Scalar.ofNat 29⟩
    let axes := Layer.crossLines size .x [pixelCentre 24] ++
      Layer.crossLines size .y [pixelCentre 15]
    view.scale = Scalar.ofNat 35 ∧ Scalar.IsZero view.offset.x ∧ Scalar.IsZero view.offset.y ∧
      ∃ front, ((Layer.new .default).paint view size).ops =
          front ++ SurfaceOp.strokePath axes Style.default.stroke Tier.axisColor ++
            [.state .popClip] ∧
        ∀ op ∈ front, op ≠ .state (.setPaint (.solid Tier.axisColor)) := by
  intro calls view size axes
  have hcolumn : centreLines ((create 0 (.ofChanges [])).run calls).view.scale 48 =
      [pixelCentre 24] := by decide +kernel
  have hrow : centreLines ((create 0 (.ofChanges [])).run calls).view.scale 29 =
      [pixelCentre 15] := by decide +kernel
  obtain ⟨front, hops, hfront⟩ := axes_through_centre [] 0 calls (Layer.new .default) rfl (w := 48)
    (h := 29) (by decide) (by decide) (by decide) (by decide) (by decide +kernel)
    (by decide +kernel)
  rw [hcolumn, hrow] at hops
  exact ⟨by decide +kernel, by decide +kernel, by decide +kernel, front, hops, hfront⟩

/-- On a canvas of 47 by 47 pixels at the default scale the axes are at the pixel 23, and not at 24:
the half of the extent is rounded, and what comes back from it is less than 23.5. -/
theorem odd_axes_misplaced :
    let view := ((create 0 (.ofChanges []) : Viewport Binary64 Unit).run []).view
    let size : Size Binary64 := ⟨Scalar.ofNat 47, Scalar.ofNat 47⟩
    let axes (k : Nat) := Layer.crossLines size .x [pixelCentre k] ++
      Layer.crossLines size .y [pixelCentre k]
    let ops := ((Layer.new .default).paint view size).ops
    Scalar.IsZero view.offset.x ∧ Scalar.IsZero view.offset.y ∧
      .draw (.strokePath (axes 24)) ∉ ops ∧
      SurfaceOp.strokePath (axes 23) Style.default.stroke Tier.axisColor ++ [.state .popClip] <:+
        ops := by
  decide +kernel

end Viewport

end PanZoom
