import Mathlib.Tactic.FieldSimp
import Mathlib.Tactic.Ring
import PanZoom.Proofs.Scalar.Exact
import PanZoom.View.Projection

/-!
# A projection is one map

The edges of a span are computed from the opposite of the offset, points are moved by the offset
and half the extent, and the way back divides. Read in exact arithmetic these three describe one
map of each axis, `c ↦ (c + origin) * scale`: it takes the near edge of the span to zero and the far
edge to the length of the canvas, and it keeps the order. The rest follows (`projection_is_one_map`).
-/

namespace PanZoom

/-! ## The formulas in exact arithmetic -/

namespace Point

theorem ext_along {α : Type} {p q : Point α} (h : ∀ axis, p.along axis = q.along axis) : p = q := by
  obtain ⟨x, y⟩ := p
  obtain ⟨x', y'⟩ := q
  obtain rfl : x = x' := h .x
  obtain rfl : y = y' := h .y
  rfl

end Point

namespace Span

variable (s : Span Rat)

theorem toScreen_exact (c : Rat) : s.toScreen c = (c + s.origin) * s.scale := rfl

theorem contains_exact (c : Rat) : s.Contains c ↔ s.start ≤ c ∧ c < s.stop := Iff.rfl

theorem isEmpty_exact : s.IsEmpty ↔ s.stop ≤ s.start := by
  refine ⟨?_, fun h => .inr (.inr h)⟩
  rintro (h | h | h)
  · cases h
  · cases h
  · exact h

/-- The test for emptiness finds just the spans without coordinates; the near edge is one. -/
theorem isEmpty_iff : s.IsEmpty ↔ ∀ c, ¬ s.Contains c := by
  rw [isEmpty_exact]
  constructor
  · rintro hle c ⟨hstart, hstop⟩
    exact absurd (hstart.trans_lt hstop) (not_lt.mpr hle)
  · intro hnone
    exact not_lt.mp fun hlt => hnone s.start ⟨le_rfl, hlt⟩

theorem toScreen_le_toScreen {s : Span Rat} (h : 0 < s.scale) {c c' : Rat} :
    s.toScreen c ≤ s.toScreen c' ↔ c ≤ c' := by
  rw [toScreen_exact, toScreen_exact, mul_le_mul_iff_left₀ h, add_le_add_iff_right]

theorem toScreen_lt_toScreen {s : Span Rat} (h : 0 < s.scale) {c c' : Rat} :
    s.toScreen c < s.toScreen c' ↔ c < c' := by
  rw [toScreen_exact, toScreen_exact, mul_lt_mul_iff_left₀ h, add_lt_add_iff_right]

/-- If the edges of a span are at the edges of the canvas, the coordinates in it are just those
that are on the canvas. -/
theorem contains_iff_toScreen {s : Span Rat} (h : 0 < s.scale) {length : Rat}
    (hstart : s.toScreen s.start = 0) (hstop : s.toScreen s.stop = length) (c : Rat) :
    s.Contains c ↔ 0 ≤ s.toScreen c ∧ s.toScreen c < length := by
  rw [contains_exact, ← hstart, ← hstop, toScreen_le_toScreen h, toScreen_lt_toScreen h]

end Span

namespace Projection

section Components

variable {α : Type} [Scalar α] (p : Projection α) (q : Point α) (axis : Axis)

theorem span_eq (view : View α) (size : Size α) :
    (ofView view size).span axis =
      let extent := usableLength (size.along axis) / view.scale
      let start := -(view.offset.along axis) - halve extent
      { start
        stop := start + extent
        origin := view.offset.along axis + halve extent
        scale := view.scale
        pixels := usableLength (size.along axis) } := by
  cases axis <;> rfl

theorem span_toScreen : (p.span axis).toScreen (q.along axis) = (p.toScreen q).along axis := by
  cases axis <;> rfl

theorem toLogical_along :
    (p.toLogical q).along axis =
      q.along axis * (Scalar.one / p.scale) - p.origin.along axis := by
  cases axis <;> rfl

end Components

theorem toScreen_along (p : Projection Rat) (q : Point Rat) (axis : Axis) :
    (p.toScreen q).along axis = (q.along axis + p.origin.along axis) * p.scale := by
  cases axis <;> rfl

theorem toLogical_along_exact (p : Projection Rat) (q : Point Rat) (axis : Axis) :
    (p.toLogical q).along axis = q.along axis * (1 / p.scale) - p.origin.along axis := by
  rw [toLogical_along, Exact.one_eq]

theorem usableLength_exact (x : Rat) : usableLength x = max x 0 := by
  unfold usableLength
  split
  · rename_i h
    exact (max_eq_left ((Exact.isPositive_iff x).mp h).le).symm
  · rename_i h
    exact (max_eq_right (not_lt.mp fun hpos => h ((Exact.isPositive_iff x).mpr hpos))).symm

theorem halve_exact (x : Rat) : halve x = x / 2 := by
  rw [halve, Exact.two_eq]

/-! ## The edges of the canvas -/

variable (view : View Rat) (size : Size Rat) (axis : Axis)

theorem canvas_exact : (ofView view size).canvas = ⟨max size.width 0, max size.height 0⟩ := by
  simp only [ofView, Size.map, usableLength_exact]

theorem span_exact :
    (ofView view size).span axis =
      let extent := max (size.along axis) 0 / view.scale
      { start := -view.offset.along axis - extent / 2
        stop := -view.offset.along axis - extent / 2 + extent
        origin := view.offset.along axis + extent / 2
        scale := view.scale
        pixels := max (size.along axis) 0 } := by
  simp only [span_eq, usableLength_exact, halve_exact]

theorem origin_along_exact :
    (ofView view size).origin.along axis =
      view.offset.along axis + max (size.along axis) 0 / view.scale / 2 :=
  congrArg Span.origin (span_exact view size axis)

theorem toScreen_start :
    ((ofView view size).span axis).toScreen ((ofView view size).span axis).start = 0 := by
  rw [Span.toScreen_exact, span_exact]
  ring

variable {view}

theorem toScreen_stop (positive : 0 < view.scale) :
    ((ofView view size).span axis).toScreen ((ofView view size).span axis).stop =
      max (size.along axis) 0 := by
  rw [Span.toScreen_exact, span_exact]
  field_simp
  ring

/-! ## The map -/

/-- All that a projection computes agrees with one map onto a canvas of a certain width and
height. -/
structure IsOneMap (p : Projection Rat) (width height : Rat) : Prop where
  canvas : p.canvas = ⟨width, height⟩
  toLogical_toScreen : ∀ q, p.toLogical (p.toScreen q) = q
  toScreen_toLogical : ∀ q, p.toScreen (p.toLogical q) = q
  /-- The spans map their axes like points are mapped. -/
  span : ∀ axis q, (p.span axis).toScreen (q.along axis) = (p.toScreen q).along axis
  /-- The corners of the visible rectangle are the corners of the canvas. -/
  nearCorner : p.toScreen ⟨p.visibleRect.x0, p.visibleRect.y0⟩ = ⟨0, 0⟩
  farCorner : p.toScreen ⟨p.visibleRect.x1, p.visibleRect.y1⟩ = ⟨width, height⟩
  /-- A point is in both spans just if it is mapped onto the canvas, far edges excluded. -/
  visible : ∀ q, (p.span .x).Contains q.x ∧ (p.span .y).Contains q.y ↔
    (0 ≤ (p.toScreen q).x ∧ (p.toScreen q).x < width) ∧
      0 ≤ (p.toScreen q).y ∧ (p.toScreen q).y < height
  empty : ∀ axis, (p.span axis).IsEmpty ↔ ∀ c, ¬ (p.span axis).Contains c

/-- **A projection is one map.** For every view with a positive scale and every canvas, whose
negative lengths count as zero. -/
theorem projection_is_one_map (view : View Rat) (size : Size Rat) (positive : 0 < view.scale) :
    (ofView view size).IsOneMap (max size.width 0) (max size.height 0) where
  canvas := canvas_exact view size
  toLogical_toScreen := by
    intro q
    refine Point.ext_along fun axis => ?_
    rw [toLogical_along_exact, toScreen_along]
    have hscale : (ofView view size).scale ≠ 0 := positive.ne'
    field_simp
    ring
  toScreen_toLogical := by
    intro q
    refine Point.ext_along fun axis => ?_
    rw [toScreen_along, toLogical_along_exact]
    have hscale : (ofView view size).scale ≠ 0 := positive.ne'
    field_simp
    ring
  span := fun axis q => span_toScreen _ q axis
  nearCorner := by
    refine Point.ext_along fun axis => ?_
    rw [← span_toScreen]
    cases axis with
    | x => exact toScreen_start view size .x
    | y => exact toScreen_start view size .y
  farCorner := by
    refine Point.ext_along fun axis => ?_
    rw [← span_toScreen]
    cases axis with
    | x => exact toScreen_stop size .x positive
    | y => exact toScreen_stop size .y positive
  visible := by
    intro q
    have haxis : ∀ axis, ((ofView view size).span axis).Contains (q.along axis) ↔
        0 ≤ ((ofView view size).toScreen q).along axis ∧
          ((ofView view size).toScreen q).along axis < max (size.along axis) 0 := by
      intro axis
      rw [← span_toScreen]
      refine Span.contains_iff_toScreen ?_ (toScreen_start view size axis)
        (toScreen_stop size axis positive) _
      rw [span_exact]
      exact positive
    exact and_congr (haxis .x) (haxis .y)
  empty := fun axis => Span.isEmpty_iff _

/-- A canvas without height shows nothing, but has points mapped to it and back all the same. -/
theorem flat_canvas_is_one_map :
    let view : View Rat := ⟨2, 35, ⟨1 / 3, -4⟩, Drag.idle⟩
    let p := ofView view ⟨47, -5⟩
    0 < view.scale ∧ p.IsOneMap 47 0 ∧ (p.span .y).IsEmpty ∧
      p.toScreen ⟨0, 0⟩ = ⟨211 / 6, -140⟩ := by
  intro view p
  have positive : 0 < view.scale := by decide +kernel
  refine ⟨positive, ?_, by decide +kernel, by decide +kernel⟩
  exact projection_is_one_map view ⟨47, -5⟩ positive

end Projection

end PanZoom
