import Mathlib.Data.List.Range
import PanZoom.Proofs.Grid.Painting
import PanZoom.Proofs.Grid.Placement

/-!
# Spacing of lines

Neighbouring lines are equally far apart, and each is drawn at the pixel centre nearest to it. The
distance of the pixels is then the distance of the lines rounded down or up, wherever the lines are
(`alignPixel_add`). From the scale on at which a default tier is shown this leaves some pixels
between its lines, so that no tier of the default style covers a canvas (`spacing_of_lines`), unless
the canvas is so small that a single line does.
-/

namespace PanZoom

namespace Grid

/-! ## Neighbouring lines -/

section Neighbours

variable {span : Span Rat} {frequency : Rat}

/-- The pixels of two coordinates are as far apart as these, rounded down or up. -/
theorem alignPixel_add (x d : Rat) :
    alignPixel (x + d) - alignPixel x = ⌊d⌋ ∨ alignPixel (x + d) - alignPixel x = ⌈d⌉ := by
  have hbelow := Int.le_floor_add (x + 1 / 2) d
  have habove : ⌊x + 1 / 2 + d⌋ ≤ ⌊x + 1 / 2⌋ + ⌈d⌉ := by
    rw [← Int.floor_add_intCast]
    exact Int.floor_mono (add_le_add_right (Int.le_ceil d) _)
  have hstep := Int.ceil_le_floor_add_one d
  have hdistance : alignPixel (x + d) - alignPixel x =
      ((⌊x + 1 / 2 + d⌋ - ⌊x + 1 / 2⌋ : Int) : Rat) := by
    rw [alignPixel_exact, alignPixel_exact, add_right_comm, Int.cast_sub, add_sub_add_right_eq_sub]
  rw [hdistance, Int.cast_inj, Int.cast_inj]
  omega

theorem linePixel_succ (k : Int) :
    linePixel span frequency (k + 1) =
      alignPixel (span.toScreen (k / frequency) + span.scale / frequency) := by
  rw [linePixel, Span.toScreen_exact, Span.toScreen_exact, Int.cast_add, Int.cast_one]
  congr 1
  ring

theorem lineNumbers_isChain : (lineNumbers span frequency).IsChain fun k k' => k' = k + 1 := by
  rw [lineNumbers, List.isChain_map, List.isChain_range]
  intro n _
  rw [Nat.succ_eq_add_one, Int.natCast_add, Int.natCast_one, add_assoc]

theorem placed_isChain (span : Span Rat) (buffer : Array Rat) (positive : 0 < frequency) :
    (linePositions span (.lines frequency) buffer).2.toList.IsChain fun x y =>
      y - x = (⌊span.scale / frequency⌋ : Rat) ∨ y - x = (⌈span.scale / frequency⌉ : Rat) := by
  rw [linePositions_lines span buffer positive]
  split
  · refine (List.isChain_map _).mpr (lineNumbers_isChain.imp ?_)
    rintro k _ rfl
    rw [linePixel_succ, linePixel]
    exact alignPixel_add _ _
  · exact List.IsChain.nil

theorem placed_isChain_of_le (span : Span Rat) (buffer : Array Rat) (positive : 0 < frequency)
    {n : Nat} (hn : (n : Rat) ≤ span.scale / frequency) :
    (linePositions span (.lines frequency) buffer).2.toList.IsChain fun x y =>
      (n : Rat) ≤ y - x := by
  have hdown : (n : Rat) ≤ (⌊span.scale / frequency⌋ : Rat) := by
    rw [← Int.cast_natCast n, Int.cast_le, Int.le_floor, Int.cast_natCast]
    exact hn
  have hup : (n : Rat) ≤ (⌈span.scale / frequency⌉ : Rat) :=
    hdown.trans (Int.cast_le.mpr (Int.floor_le_ceil _))
  refine (placed_isChain span buffer positive).imp ?_
  rintro x y (hdistance | hdistance)
  · rw [hdistance]
    exact hdown
  · rw [hdistance]
    exact hup

end Neighbours

/-! ## The tiers of the default style -/

section Tiers

variable {p : Projection Rat}

/-- From a certain scale on the lines of a tier are at least so many pixels apart. -/
theorem tierPixels_isChain {frequency minScale n : Nat} {color : Color} (positive : 0 < frequency)
    (hn : n * frequency ≤ minScale) :
    let tier : Tier Rat := .lines (Scalar.ofNat frequency) (Scalar.ofNat minScale) color
    tier.IsVisible p.scale →
      ∀ axis, (tierPixels p tier axis).IsChain fun x y => (n : Rat) ≤ y - x := by
  intro tier hvisible axis
  have hpositive : (0 : Rat) < frequency := Nat.cast_pos.mpr positive
  have hkind : tier.kind = .lines (frequency : Rat) := by
    rw [← Exact.ofNat_eq]
    rfl
  have hscale : (minScale : Rat) ≤ p.scale := by
    rw [← Exact.ofNat_eq]
    exact hvisible
  have hlines : (n : Rat) ≤ (p.span axis).scale / frequency := by
    rw [le_div_iff₀ hpositive, ← Nat.cast_mul]
    exact (Nat.cast_le.mpr hn).trans hscale
  rw [tierPixels_eq p tier axis #[], hkind]
  exact placed_isChain_of_le (p.span axis) #[] hpositive hlines

theorem axis_isChain (color : Color) (axis : Axis) (R : Rat → Rat → Prop) :
    (tierPixels p (.axis color) axis).IsChain R := by
  have hkind : (Tier.axis color : Tier Rat).kind = .axis := rfl
  rw [tierPixels_eq p _ axis #[], hkind, linePositions_axis]
  split
  · exact List.IsChain.singleton _
  · exact List.IsChain.nil

theorem default_isChain {tier : Tier Rat} (htier : tier ∈ (Style.default : Style Rat).tiers)
    (hvisible : tier.IsVisible p.scale) (axis : Axis) :
    (tierPixels p tier axis).IsChain fun x y => 3 ≤ y - x := by
  simp only [Style.default, List.mem_cons, List.not_mem_nil, or_false] at htier
  rcases htier with rfl | rfl | rfl
  · refine (tierPixels_isChain (n := 8) (by decide) (by decide) hvisible axis).imp ?_
    intro x y hdistance
    exact le_trans (by norm_num) hdistance
  · exact tierPixels_isChain (n := 3) (by decide) (by decide) hvisible axis
  · exact axis_isChain _ axis _

end Tiers

/-! ## A canvas is not covered -/

section Coverage

/-- A place on an axis is within a line of a certain width at one of the pixels. -/
def Covers (width : Rat) (pixels : List Rat) (c : Rat) : Prop := ∃ x ∈ pixels, |c - x| ≤ width / 2

theorem three_le_abs_sub {pixels : List Rat} (h : pixels.IsChain fun x y => 3 ≤ y - x) :
    ∀ x ∈ pixels, ∀ y ∈ pixels, x ≠ y → 3 ≤ |x - y| := by
  have htrans : Trans (fun x y : Rat => 3 ≤ y - x) (fun x y => 3 ≤ y - x) (fun x y => 3 ≤ y - x) :=
    ⟨fun {x y z} hxy hyz => by linarith⟩
  have hsymm : Std.Symm fun x y : Rat => 3 ≤ |x - y| :=
    ⟨fun x y hdistance => by rwa [abs_sub_comm]⟩
  have hpairs : pixels.Pairwise fun x y => 3 ≤ |x - y| := by
    refine h.pairwise.imp ?_
    intro x y hdistance
    rw [abs_sub_comm]
    exact hdistance.trans (le_abs_self _)
  exact fun x hx y hy => hpairs.forall hx hy

/-- Lines one pixel wide that are three pixels apart leave a place free on an axis of more than one
pixel. -/
theorem exists_not_covers {pixels : List Rat} (h : pixels.IsChain fun x y => 3 ≤ y - x)
    {length : Rat} (hlength : 1 < length) : ∃ c, (0 ≤ c ∧ c < length) ∧ ¬ Covers 1 pixels c := by
  -- two places too far apart for one line, and too close together for two
  obtain ⟨c, hc, hcanvas, hclose⟩ : ∃ c : Rat, 1 < c ∧ c < length ∧ c < 2 := by
    obtain ⟨c, hc, hmin⟩ := exists_between (lt_min hlength one_lt_two)
    exact ⟨c, hc, lt_min_iff.mp hmin⟩
  by_contra hall
  have hcovers : ∀ c, 0 ≤ c → c < length → Covers 1 pixels c := by
    intro c hnear hfar
    by_contra hfree
    exact hall ⟨c, ⟨hnear, hfar⟩, hfree⟩
  obtain ⟨x, hx, hxnear⟩ := hcovers 0 le_rfl (by linarith)
  obtain ⟨y, hy, hynear⟩ := hcovers c (by linarith) hcanvas
  rw [abs_le] at hxnear hynear
  by_cases hsame : x = y
  · subst hsame
    linarith
  · rcases le_abs.mp (three_le_abs_sub h x hx y hy hsame) with hapart | hapart <;> linarith

end Coverage

/-- **Lines stay apart.** Lines placed next to each other on a span are as many pixels apart as
there are between two lines, rounded down or up. Wherever the default style shows its minor lines
these are at least 8 pixels apart, and its major lines at least 3. Between two lines of any of its
tiers at least two pixels are free, and on a canvas of more than one pixel either way there is a
place that no line of the tier covers. -/
theorem spacing_of_lines :
    (∀ (span : Span Rat) (frequency : Rat) (buffer : Array Rat), 0 < frequency →
      (linePositions span (.lines frequency) buffer).2.toList.IsChain fun x y =>
        y - x = (⌊span.scale / frequency⌋ : Rat) ∨ y - x = (⌈span.scale / frequency⌉ : Rat)) ∧
      ∀ (view : View Rat) (size : Size Rat),
        let p := Projection.ofView view size
        let style : Style Rat := Style.default
        (Tier.minor.IsVisible p.scale →
          ∀ axis, (tierPixels p .minor axis).IsChain fun x y => 8 ≤ y - x) ∧
        (Tier.major.IsVisible p.scale →
          ∀ axis, (tierPixels p .major axis).IsChain fun x y => 3 ≤ y - x) ∧
        ∀ tier ∈ style.tiers, tier.IsVisible p.scale →
          (∀ axis, (tierPixels p tier axis).IsChain fun x y => style.lineWidth + 2 ≤ y - x) ∧
            (1 < size.width → 1 < size.height → ∃ q : Point Rat, p.canvasRect.Contains q ∧
              ∀ axis, ¬ Covers style.lineWidth (tierPixels p tier axis) (q.along axis)) := by
  constructor
  · intro span frequency buffer positive
    exact placed_isChain span buffer positive
  · intro view size p style
    have hwidth : style.lineWidth = 1 := Exact.one_eq
    refine ⟨?_, ?_, ?_⟩
    · exact tierPixels_isChain (n := 8) (by decide) (by decide)
    · exact tierPixels_isChain (n := 3) (by decide) (by decide)
    · intro tier htier hvisible
      have hchain := default_isChain htier hvisible
      rw [hwidth]
      refine ⟨fun axis => (hchain axis).imp ?_, ?_⟩
      · intro x y hdistance
        linarith
      · intro hw hh
        have hcanvas := Projection.canvas_exact view size
        obtain ⟨x, ⟨hx, hxw⟩, hfreex⟩ := exists_not_covers (hchain .x) hw
        obtain ⟨y, ⟨hy, hyh⟩, hfreey⟩ := exists_not_covers (hchain .y) hh
        refine ⟨⟨x, y⟩, ?_, ?_⟩
        · rw [Projection.canvasRect, hcanvas]
          exact ⟨hx, lt_max_of_lt_left hxw, hy, lt_max_of_lt_left hyh⟩
        · rintro (_ | _)
          · exact hfreex
          · exact hfreey

/-- At the least scale at which minor lines are shown they are 8 or 9 pixels apart, on either side
of the origin. -/
theorem spacing_at_least_scale :
    let view : View Rat := ⟨1, 35, ⟨3 / 70, -4 / 7⟩, Drag.idle⟩
    let p := Projection.ofView view ⟨80, 50⟩
    let pixels := (linePositions (p.span .x) (.lines 4) #[]).2.toList
    (0 : Rat) < 4 ∧ pixels = [15 / 2, 31 / 2, 49 / 2, 67 / 2, 85 / 2, 101 / 2, 119 / 2, 137 / 2,
        155 / 2] ∧
      (pixels.IsChain fun x y => y - x = 8 ∨ y - x = 9) ∧ Tier.minor.IsVisible p.scale ∧
      (∀ axis, (tierPixels p .minor axis).IsChain fun x y => 8 ≤ y - x) ∧
      ∃ q : Point Rat, p.canvasRect.Contains q ∧
        ∀ axis, ¬ Covers 1 (tierPixels p .minor axis) (q.along axis) := by
  intro view p pixels
  have positive : (0 : Rat) < 4 := by decide +kernel
  have hvisible : Tier.minor.IsVisible p.scale := by decide +kernel
  have hdown : (⌊(p.span .x).scale / 4⌋ : Rat) = 8 := by decide +kernel
  have hup : (⌈(p.span .x).scale / 4⌉ : Rat) = 9 := by decide +kernel
  obtain ⟨hplaced, htiers⟩ := spacing_of_lines
  have hpixels := hplaced (p.span .x) 4 #[] positive
  rw [hdown, hup] at hpixels
  obtain ⟨hminor, _, hdefault⟩ := htiers view ⟨80, 50⟩
  obtain ⟨_, hfree⟩ := hdefault .minor (.head _) hvisible
  have hcanvas := hfree (by decide +kernel) (by decide +kernel)
  rw [show (Style.default : Style Rat).lineWidth = 1 from Exact.one_eq] at hcanvas
  exact ⟨positive, by decide +kernel, hpixels, hvisible, hminor hvisible, hcanvas⟩

end Grid

end PanZoom
