import PanZoom.Proofs.View.Projection
import PanZoom.Proofs.View.Zooming

/-!
# Zooming about the centre

The point about which a view zooms is not stored anywhere. A projection adds half the extent of the
canvas to the offset, and half the canvas divided by the scale is the same half, so the point in the
middle of the canvas is the opposite of the offset at every scale and on every canvas
(`Projection.toLogical_centre`). As zooms leave the offset alone they leave that point where it is,
and all that they do to what is around it is to change its size (`zooming_fixes_centre`).
-/

namespace PanZoom

variable {η : Type}

namespace Projection

/-- The point in the middle of the canvas does not depend on the scale. -/
theorem toLogical_centre (view : View Rat) (size : Size Rat) :
    (ofView view size).toLogical ⟨max size.width 0 / 2, max size.height 0 / 2⟩ =
      ⟨-view.offset.x, -view.offset.y⟩ := by
  have hscale : (ofView view size).scale = view.scale := rfl
  refine Point.ext_along fun axis => ?_
  rw [toLogical_along_exact, origin_along_exact, hscale]
  cases axis with
  | x =>
      simp only [Point.along, Size.along, Vec2.along]
      ring
  | y =>
      simp only [Point.along, Size.along, Vec2.along]
      ring

/-- Where the canvas lies has no part in a displacement. -/
theorem toLogical_sub_toLogical (p : Projection Rat) (q q' : Point Rat) :
    p.toLogical q' - p.toLogical q = (q' - q).scale (1 / p.scale) := by
  have hcoordinate : ∀ a b o r : Rat, b * r - o - (a * r - o) = (b - a) * r := by
    intro a b o r
    ring
  rw [← Exact.one_eq]
  exact congrArg₂ Vec2.mk (hcoordinate ..) (hcoordinate ..)

end Projection

/-- The second view shows what the first one shows in another size: the same point is in the middle
of every canvas, and displacements are multiplied by the quotient of the scales. -/
structure View.Concentric (v w : View Rat) : Prop where
  /-- Lengths of a canvas that are negative count as zero. -/
  centre : ∀ view ∈ [v, w], ∀ size : Size Rat,
    (Projection.ofView view size).toLogical ⟨max size.width 0 / 2, max size.height 0 / 2⟩ =
      ⟨-v.offset.x, -v.offset.y⟩
  /-- The canvas may have been resized in the meantime. -/
  displacement : ∀ (size size' : Size Rat) (p q : Point Rat),
    (Projection.ofView w size').toLogical q - (Projection.ofView w size').toLogical p =
      ((Projection.ofView v size).toLogical q - (Projection.ofView v size).toLogical p).scale
        (v.scale / w.scale)

/-- Views with the same offset are concentric. -/
theorem View.Concentric.of_offset {v w : View Rat} (h : w.offset = v.offset) (hv : v.scale ≠ 0) :
    v.Concentric w where
  centre := by
    intro view hview size
    have hoffset : view.offset = v.offset := by
      rcases List.mem_pair.mp hview with rfl | rfl
      · rfl
      · exact h
    rw [Projection.toLogical_centre, hoffset]
  displacement := by
    intro size size' p q
    have hcoordinate : ∀ d : Rat, d * (1 / w.scale) = d * (1 / v.scale) * (v.scale / w.scale) := by
      intro d
      field_simp
    rw [Projection.toLogical_sub_toLogical, Projection.toLogical_sub_toLogical]
    exact congrArg₂ Vec2.mk (hcoordinate _) (hcoordinate _)

namespace Viewport

/-- Zooms keep to the centre, also those that are refused. -/
theorem run_concentric (v : Viewport Rat η) (hscale : v.view.scale ≠ 0) (zooms : List (Zoom Rat)) :
    v.view.Concentric (v.run (zooms.map Zoom.call)).view := by
  obtain ⟨distance, scale, hrun⟩ := v.run_zooms zooms
  rw [hrun]
  exact .of_offset rfl hscale

/-- **Zooming fixes the centre of the canvas.** In every viewport that is reached the scale is above
zero, and it stays so through any zooms. After them the middle of every canvas shows the point that
it showed before, which is the opposite of the offset, and every displacement is what it was before
times the quotient of the scales. -/
theorem zooming_fixes_centre (changes : List (ZoomSettings.Change Rat)) (id : Nat)
    (calls : List (Call Rat η)) (zooms : List (Zoom Rat)) :
    let v := (create id (.ofChanges changes) : Viewport Rat η).run calls
    let w := v.run (zooms.map Zoom.call)
    0 < v.view.scale ∧ 0 < w.view.scale ∧ v.view.Concentric w.view := by
  intro v w
  obtain ⟨hpositive, hsettled⟩ := reached_exact (η := η) changes id calls
  have hbefore : 0 < v.view.scale := hsettled.scale_pos hpositive
  have hafter : 0 < w.view.scale := by
    refine (run_settled hsettled (zooms.map Zoom.call)).scale_pos ?_
    rw [run_settings]
    exact hpositive
  exact ⟨hbefore, hafter, run_concentric v hbefore.ne' zooms⟩

end Viewport

end PanZoom
