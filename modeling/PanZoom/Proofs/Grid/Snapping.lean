import PanZoom.Grid.Units
import PanZoom.Proofs.Grid.Placement

/-!
# Snapping to drawn lines

A point is snapped by rounding its coordinates in units of the grid, while lines are counted from
the first one in view. Both find the same lines: in exact arithmetic a snapped coordinate is the
one of a nearest line, and if it is in view its line is drawn (`snap_exact`).
-/

namespace PanZoom

theorem Point.map_along {α : Type} (f : α → α) (p : Point α) (axis : Axis) :
    (p.map f).along axis = f (p.along axis) := by
  cases axis <;> rfl

namespace Grid

variable {frequency : Rat} (p : Point Rat) (axis : Axis)

/-! ## Units of the grid -/

theorem toUnits_along : (toUnits frequency p).along axis = p.along axis * frequency :=
  Point.map_along _ p axis

theorem ofUnits_along (positive : 0 < frequency) :
    (ofUnits frequency p).along axis = p.along axis / frequency := by
  rw [ofUnits, if_pos ((Exact.isPositive_iff frequency).mpr positive), Point.map_along]

theorem ofUnits_toUnits (positive : 0 < frequency) :
    ofUnits frequency (toUnits frequency p) = p := by
  refine Point.ext_along fun axis => ?_
  rw [ofUnits_along _ _ positive, toUnits_along, mul_div_cancel_right₀ _ positive.ne']

theorem toUnits_ofUnits (positive : 0 < frequency) :
    toUnits frequency (ofUnits frequency p) = p := by
  refine Point.ext_along fun axis => ?_
  rw [toUnits_along, ofUnits_along _ _ positive, div_mul_cancel₀ _ positive.ne']

/-! ## Snapping -/

/-- The number of the line that a coordinate is snapped to. -/
def snapLine (frequency x : Rat) : Int := Exact.roundAway (x * frequency)

theorem snap_along (positive : 0 < frequency) :
    (snap frequency p).along axis = snapLine frequency (p.along axis) / frequency := by
  rw [snap, if_pos ((Exact.isPositive_iff frequency).mpr positive), ofUnits_along _ _ positive,
    Point.map_along, toUnits_along, Exact.round_eq, snapLine]

theorem snapLine_line (positive : 0 < frequency) (k : Int) :
    snapLine frequency (k / frequency) = k := by
  rw [snapLine, div_mul_cancel₀ _ positive.ne', Exact.roundAway_intCast]

theorem snapLine_neg (x : Rat) : snapLine frequency (-x) = -snapLine frequency x := by
  rw [snapLine, neg_mul, Exact.roundAway_neg, snapLine]

/-- No line is nearer. -/
theorem snapLine_nearest (positive : 0 < frequency) (x : Rat) (m : Int) :
    |x - snapLine frequency x / frequency| ≤ |x - m / frequency| := by
  have hdistance : ∀ k : Int, |x - k / frequency| = |x * frequency - k| / frequency := by
    intro k
    have hunits : x - k / frequency = (x * frequency - k) / frequency := by
      rw [sub_div, mul_div_cancel_right₀ _ positive.ne']
    rw [hunits, abs_div, abs_of_pos positive]
  rw [hdistance, hdistance]
  exact div_le_div_of_nonneg_right (Exact.abs_sub_roundAway_le _ m) positive.le

theorem snap_snap (positive : 0 < frequency) :
    snap frequency (snap frequency p) = snap frequency p := by
  refine Point.ext_along fun axis => ?_
  rw [snap_along _ _ positive, snap_along _ _ positive, snapLine_line positive]

theorem snap_neg (positive : 0 < frequency) :
    snap frequency (p.map (- ·)) = (snap frequency p).map (- ·) := by
  refine Point.ext_along fun axis => ?_
  rw [Point.map_along, snap_along _ _ positive, snap_along _ _ positive, Point.map_along,
    snapLine_neg, Int.cast_neg, neg_div]

/-- The line of a number is drawn if it is in view and its tier is not too dense. -/
theorem linePixel_mem (positive : 0 < frequency) {span : Span Rat} {buffer : Array Rat}
    (hplaced : (linePositions span (.lines frequency) buffer).1 = .ok ()) {k : Int}
    (hseen : span.Contains (k / frequency)) :
    linePixel span frequency k ∈ (linePositions span (.lines frequency) buffer).2 := by
  rw [← Array.mem_toList_iff, placed_toList span buffer positive hplaced]
  exact List.mem_map_of_mem ((mem_lineNumbers positive).mpr hseen)

/-- **Snapping finds drawn lines.** A snapped coordinate is on a line and no line is nearer to the
coordinate. What is snapped stays as it is, the opposite of a point is snapped to the opposite, and
the conversions to units of the grid and back undo each other. Where the lines are not too many, the
line of a snapped coordinate in view is among those that are placed. -/
theorem snap_exact (frequency : Rat) (p : Point Rat) (positive : 0 < frequency) :
    let snapped := snap frequency p
    (∀ axis, ∃ k : Int, snapped.along axis = k / frequency ∧
        ∀ m : Int, |p.along axis - snapped.along axis| ≤ |p.along axis - m / frequency|) ∧
      snap frequency snapped = snapped ∧ snap frequency (p.map (- ·)) = snapped.map (- ·) ∧
      ofUnits frequency (toUnits frequency p) = p ∧ toUnits frequency (ofUnits frequency p) = p ∧
      ∀ span buffer axis, (linePositions span (.lines frequency) buffer).1 = .ok () →
        span.Contains (snapped.along axis) →
          alignPixel (span.toScreen (snapped.along axis)) ∈
            (linePositions span (.lines frequency) buffer).2 := by
  intro snapped
  refine ⟨?_, snap_snap p positive, snap_neg p positive, ofUnits_toUnits p positive,
    toUnits_ofUnits p positive, ?_⟩
  · intro axis
    have hline : snapped.along axis = snapLine frequency (p.along axis) / frequency :=
      snap_along p axis positive
    rw [hline]
    exact ⟨_, rfl, snapLine_nearest positive (p.along axis)⟩
  · intro span buffer axis hplaced hseen
    have hline : snapped.along axis = snapLine frequency (p.along axis) / frequency :=
      snap_along p axis positive
    rw [hline] at hseen ⊢
    exact linePixel_mem positive hplaced hseen

/-- A point half-way between two lines either way is snapped to those farther from the origin. One
of them is at the near edge of the view, and is drawn. -/
theorem snap_to_near_edge :
    let span := (Projection.ofView (⟨1, 70, ⟨0, 0⟩, Drag.idle⟩ : View Rat) ⟨70, 9⟩).span .x
    let p : Point Rat := ⟨-3 / 8, 5 / 8⟩
    let snapped : Point Rat := ⟨-1 / 2, 3 / 4⟩
    (0 : Rat) < 4 ∧ snap 4 p = snapped ∧ (∀ m : Int, |p.x - snapped.x| ≤ |p.x - m / 4|) ∧
      snap 4 snapped = snapped ∧ snap 4 (p.map (- ·)) = ⟨1 / 2, -3 / 4⟩ ∧
      span.start = snapped.x ∧
      alignPixel (span.toScreen snapped.x) ∈ (linePositions span (.lines 4) #[]).2 := by
  intro span p snapped
  have positive : (0 : Rat) < 4 := by decide +kernel
  have hsnapped : snap 4 p = snapped := by decide +kernel
  have hopposite : snapped.map (- ·) = ⟨1 / 2, -3 / 4⟩ := by decide +kernel
  obtain ⟨hlines, hstays, hneg, _, _, hdrawn⟩ := snap_exact 4 p positive
  rw [hsnapped] at hlines hstays hneg hdrawn
  obtain ⟨_, _, hnearest⟩ := hlines .x
  refine ⟨positive, hsnapped, hnearest, hstays, hneg.trans hopposite, by decide +kernel, ?_⟩
  exact hdrawn span #[] .x (by decide +kernel) (by decide +kernel)

end Grid

end PanZoom
