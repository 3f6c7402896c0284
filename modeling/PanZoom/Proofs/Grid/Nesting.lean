import Mathlib.Data.List.Flatten
import Mathlib.Data.List.Sort
import PanZoom.Proofs.Grid.Painting
import PanZoom.Proofs.Grid.Placement

/-!
# Tiers over one another

The line `k` of a frequency is where the line `m * k` of `m` times the frequency is, so in exact
arithmetic a coarse tier has all of its lines on lines of a finer one, at the same pixels. The lines
are placed in order, and so the pixels of the coarse tier are a sublist of the pixels of the finer
one (`tiers_nest`): no two lines of the coarse tier are over the same line of the finer one.
-/

namespace PanZoom

namespace Grid

/-! ## Lines of a multiple -/

section Lines

variable (span : Span Rat) {frequency : Rat} {m : Int}

theorem multiple_positive (positive : 0 < frequency) (hm : 1 ≤ m) : 0 < (m : Rat) * frequency :=
  mul_pos (Int.cast_pos.mpr (by omega)) positive

theorem line_of_multiple (hm : 1 ≤ m) (k : Int) :
    ((m * k : Int) : Rat) / (m * frequency) = k / frequency := by
  have hne : (m : Rat) ≠ 0 := Int.cast_ne_zero.mpr (by omega)
  rw [Int.cast_mul, mul_div_mul_left _ _ hne]

theorem linePixel_of_multiple (hm : 1 ≤ m) (k : Int) :
    linePixel span (m * frequency) (m * k) = linePixel span frequency k := by
  rw [linePixel, line_of_multiple hm, linePixel]

/-- The lines of a frequency are among those of a multiple of it, in the same order. -/
theorem lineNumbers_sublist (positive : 0 < frequency) (hm : 1 ≤ m) :
    ((lineNumbers span frequency).map fun k : Int => m * k).Sublist
      (lineNumbers span (m * frequency)) := by
  have hcoarse : ((lineNumbers span frequency).map fun k : Int => m * k).Pairwise (· < ·) := by
    refine List.pairwise_map.mpr (lineNumbers_pairwise.imp ?_)
    intro k k' hlt
    exact Int.mul_lt_mul_of_pos_left hlt (by omega)
  have hfine : (lineNumbers span (m * frequency)).Pairwise (· < ·) := lineNumbers_pairwise
  have hsubset : ((lineNumbers span frequency).map fun k : Int => m * k) ⊆
      lineNumbers span (m * frequency) := by
    intro n hn
    obtain ⟨k, hk, rfl⟩ := List.mem_map.mp hn
    rw [mem_lineNumbers positive] at hk
    rwa [mem_lineNumbers (multiple_positive positive hm), line_of_multiple hm]
  have hsubperm := List.subperm_of_subset (hcoarse.imp ne_of_lt) hsubset
  exact List.sublist_of_subperm_of_pairwise hsubperm (hcoarse.imp le_of_lt) (hfine.imp le_of_lt)

end Lines

/-! ## What is placed -/

section Placed

variable (span : Span Rat) {frequency : Rat} {m : Int} {buffer buffer' : Array Rat}

/-- The finer tier needs at least as many lines. -/
theorem coarse_ok (positive : 0 < frequency) (hm : 1 ≤ m)
    (h : (linePositions span (.lines (m * frequency)) buffer').1 = .ok ()) :
    (linePositions span (.lines frequency) buffer).1 = .ok () := by
  rw [linePositions_ok_iff span _ (multiple_positive positive hm)] at h
  rw [linePositions_ok_iff span _ positive]
  have hlength := (lineNumbers_sublist span positive hm).length_le
  rw [List.length_map] at hlength
  exact hlength.trans h

theorem coarse_sublist (positive : 0 < frequency) (hm : 1 ≤ m)
    (h : (linePositions span (.lines (m * frequency)) buffer').1 = .ok ()) :
    (linePositions span (.lines frequency) buffer).2.toList.Sublist
      (linePositions span (.lines (m * frequency)) buffer').2.toList := by
  rw [placed_toList span _ (multiple_positive positive hm) h,
    placed_toList span _ positive (coarse_ok span positive hm h)]
  have hpixels := (lineNumbers_sublist span positive hm).map (linePixel span (m * frequency))
  rw [List.map_map] at hpixels
  have hsame : linePixel span (m * frequency) ∘ (fun k : Int => m * k) = linePixel span frequency :=
    funext fun k => linePixel_of_multiple span hm k
  rwa [hsame] at hpixels

/-- The line through the origin is a line of every frequency. -/
theorem axis_sublist (positive : 0 < frequency)
    (h : (linePositions span (.lines frequency) buffer).1 = .ok ()) :
    (linePositions span .axis buffer').2.toList.Sublist
      (linePositions span (.lines frequency) buffer).2.toList := by
  rw [linePositions_axis, placed_toList span _ positive h]
  split
  · rename_i hseen
    have horigin : ((0 : Int) : Rat) / frequency = Scalar.zero := by
      rw [Int.cast_zero, zero_div]
      rfl
    have hline : (0 : Int) ∈ lineNumbers span frequency := by
      rw [mem_lineNumbers positive, horigin]
      exact hseen.2
    refine List.singleton_sublist.mpr (List.mem_map.mpr ⟨0, hline, ?_⟩)
    rw [linePixel, horigin]
  · exact List.nil_sublist _

end Placed

/-! ## What is drawn -/

section Drawn

variable {α : Type} [Scalar α] {p : Projection α}

theorem tierPath_sublist {above below : Tier α}
    (h : ∀ axis, (tierPixels p above axis).Sublist (tierPixels p below axis)) (width height : α) :
    (tierPath p width height above).Sublist (tierPath p width height below) :=
  ((h .x).flatMap _).append ((h .y).flatMap _)

end Drawn

/-- **Tiers nest.** If the lines at `m` times a frequency are not too many on a span, then those at
the frequency are not either, and their pixels are among those of the former, in the same order;
and so is the pixel of the axis among those of each frequency whose lines are not too many. Where a
style has the three as its tiers, the axes are stroked last, over lines of the coarse tier, and
these over lines of the fine tier. -/
theorem tiers_nest (frequency : Rat) (m : Int) (positive : 0 < frequency) (hm : 1 ≤ m) :
    (∀ span buffer,
      let fine := linePositions span (.lines (m * frequency)) buffer
      let coarse := linePositions span (.lines frequency) buffer
      let axis := linePositions span .axis buffer
      (fine.1 = .ok () → coarse.1 = .ok () ∧ coarse.2.toList.Sublist fine.2.toList) ∧
        (coarse.1 = .ok () → axis.2.toList.Sublist coarse.2.toList)) ∧
      ∀ (l : Layer Rat) (fine coarse axes : Tier Rat) (view : View Rat) (size : Size Rat),
        let p := Projection.ofView view size
        let path := tierPath p p.canvas.width p.canvas.height
        l.style.tiers = [fine, coarse, axes] → fine.kind = .lines (m * frequency) →
          coarse.kind = .lines frequency → axes.kind = .axis → ¬ p.canvasRect.IsEmpty →
          (∀ axis, (linePositions (p.span axis) fine.kind #[]).1 = .ok ()) →
          (path axes).Sublist (path coarse) ∧ (path coarse).Sublist (path fine) ∧
            (l.paint view size).ops = .draw (.clear p.canvasRect) ::
              SurfaceOp.withClip p.canvasRect
                (([fine, coarse, axes].filter fun tier => tier.IsDrawn p p.scale).flatMap
                  fun tier => SurfaceOp.strokePath (path tier) l.style.stroke tier.color) := by
  constructor
  · intro span buffer fine coarse axis
    refine ⟨fun h => ⟨coarse_ok span positive hm h, coarse_sublist span positive hm h⟩, ?_⟩
    exact fun h => axis_sublist span positive h
  · intro l fine coarse axes view size p path htiers hfine hcoarse haxes hcanvas hplaced
    simp only [hfine] at hplaced
    refine ⟨tierPath_sublist (fun axis => ?_) _ _, tierPath_sublist (fun axis => ?_) _ _, ?_⟩
    · rw [tierPixels_eq p axes axis #[], tierPixels_eq p coarse axis #[], haxes, hcoarse]
      exact axis_sublist _ positive (coarse_ok _ positive hm (hplaced axis))
    · rw [tierPixels_eq p coarse axis #[], tierPixels_eq p fine axis #[], hcoarse, hfine]
      exact coarse_sublist _ positive hm (hplaced axis)
    · rw [Layer.paint, if_neg hcanvas, ← htiers]
      simp only [Layer.strokeTiers_ops]
      rfl

/-- The tiers of the default style at the least scale at which all of them are shown, with the
origin between two pixel centres. -/
theorem default_tiers_nest :
    let view : View Rat := ⟨1, 35, ⟨3 / 70, -4 / 7⟩, Drag.idle⟩
    let p := Projection.ofView view ⟨80, 50⟩
    let axes : Tier Rat := .axis Tier.axisColor
    let path := tierPath p p.canvas.width p.canvas.height
    ((0 : Rat) < 1 ∧ (1 : Int) ≤ 4) ∧
      tierPixels p .minor .y = [11 / 2, 29 / 2, 47 / 2, 63 / 2, 81 / 2, 99 / 2] ∧
      tierPixels p .major .y = [11 / 2, 81 / 2] ∧ tierPixels p axes .y = [11 / 2] ∧
      (path axes).Sublist (path .major) ∧ (path .major).Sublist (path .minor) ∧
      ((Layer.new Style.default).paint view ⟨80, 50⟩).ops = .draw (.clear p.canvasRect) ::
        SurfaceOp.withClip p.canvasRect ([Tier.minor, Tier.major, axes].flatMap fun tier =>
          SurfaceOp.strokePath (path tier) ⟨1⟩ tier.color) := by
  intro view p axes path
  have positive : (0 : Rat) < 1 := by decide +kernel
  have hplaced : ∀ axis, (linePositions (p.span axis) Tier.minor.kind #[]).1 = .ok () := by
    rintro (_ | _) <;> decide +kernel
  have hdrawn : ([Tier.minor, Tier.major, axes].filter fun tier => tier.IsDrawn p p.scale) =
      [Tier.minor, Tier.major, axes] := by decide +kernel
  obtain ⟨_, hpainted⟩ := tiers_nest 1 4 positive (by decide)
  obtain ⟨haxes, hmajor, hops⟩ := hpainted (Layer.new Style.default) .minor .major axes view
    ⟨80, 50⟩ rfl (by decide +kernel) (by decide +kernel) rfl (by decide +kernel) hplaced
  have hstroke : (Layer.new Style.default : Layer Rat).style.stroke = ⟨1⟩ := by decide +kernel
  rw [hdrawn, hstroke] at hops
  exact ⟨⟨positive, by decide⟩, by decide +kernel, by decide +kernel, by decide +kernel, haxes,
    hmajor, hops⟩

end Grid

end PanZoom
