import PanZoom.Proofs.Grid.Lines
import PanZoom.Scene

/-!
# What a grid layer paints

`referenceOps` says what painting asks of a surface without a loop, a buffer or an early return:
the canvas is cleared, and within a clip to it each tier that is shown, can be drawn and has a line
somewhere is stroked in one piece, in the order of the style. Painting asks for exactly that,
whatever the layer went through before.
-/

namespace PanZoom

namespace Grid

variable {α : Type} [Scalar α]

/-! ## The reference -/

/-- The pixels of the lines of a tier along an axis, placed in a buffer of their own. A tier that
is too dense along the axis has none there. -/
def tierPixels (p : Projection α) (tier : Tier α) (axis : Axis) : List α :=
  match linePositions (p.span axis) tier.kind #[] with
  | (.ok (), out) => out.toList
  | (.error _, _) => []

/-- The lines of a tier on a canvas `w` wide and `h` high: from top to bottom at each pixel of the
`x` axis, then from left to right at each pixel of the `y` axis. -/
def tierPath (p : Projection α) (w h : α) (tier : Tier α) : Path α :=
  ((tierPixels p tier .x).flatMap fun x => [.moveTo ⟨x, Scalar.zero⟩, .lineTo ⟨x, h⟩]) ++
    (tierPixels p tier .y).flatMap fun y => [.moveTo ⟨Scalar.zero, y⟩, .lineTo ⟨w, y⟩]

/-- The tier leaves a stroke: it is shown at the scale, it can be drawn, and it has a line along
one of the axes. -/
def Tier.IsDrawn (p : Projection α) (scale : α) (tier : Tier α) : Prop :=
  tier.minScale ≤ scale ∧ tier.IsValid ∧
    ((tierPixels p tier .x).isEmpty = false ∨ (tierPixels p tier .y).isEmpty = false)

instance (p : Projection α) (scale : α) (tier : Tier α) : Decidable (tier.IsDrawn p scale) :=
  inferInstanceAs (Decidable (_ ∧ _ ∧ _))

/-- What painting a style asks of a surface of a given size. -/
def referenceOps (style : Style α) (view : View α) (size : Size α) : List (SurfaceOp α) :=
  let p := Projection.ofView view size
  let w := if Scalar.isFinite size.width ∧ Scalar.zero < size.width then size.width else Scalar.zero
  let h :=
    if Scalar.isFinite size.height ∧ Scalar.zero < size.height then size.height else Scalar.zero
  let bounds : Rect α := ⟨Scalar.zero, Scalar.zero, w, h⟩
  if bounds.IsEmpty then [.draw (.clear bounds)]
  else
    [.draw (.clear bounds), .state (.pushClip bounds)] ++
      ((style.tiers.filter fun tier => tier.IsDrawn p view.scale).flatMap fun tier =>
        [.state (.setPaint (.solid tier.color)), .state (.setStroke ⟨style.lineWidth⟩),
          .draw (.strokePath (tierPath p w h tier))]) ++
      [.state .popClip]

/-- A view enters with its scale and its offset only. -/
theorem referenceOps_congr {view view' : View α} (hscale : view.scale = view'.scale)
    (hoffset : view.offset = view'.offset) (style : Style α) (size : Size α) :
    referenceOps style view size = referenceOps style view' size := by
  obtain ⟨distance, scale, offset, drag⟩ := view
  obtain ⟨distance', scale', offset', drag'⟩ := view'
  obtain rfl : scale = scale' := hscale
  obtain rfl : offset = offset' := hoffset
  rfl

/-! ## Lines -/

/-- What is left in the buffer has no part in the lines. -/
theorem linePositions_buffer (span : Span α) (kind : TierKind α) (buffer : Array α) :
    linePositions span kind buffer = linePositions span kind #[] := by
  have hshrink : buffer.shrink 0 = (#[] : Array α).shrink 0 := by simp
  unfold linePositions
  rw [hshrink]

/-- The lines of a tier are all that is placed. -/
theorem tierPixels_eq (p : Projection α) (tier : Tier α) (axis : Axis) (buffer : Array α) :
    tierPixels p tier axis = (linePositions (p.span axis) tier.kind buffer).2.toList := by
  rw [linePositions_buffer, tierPixels]
  split
  · rename_i hplaced
    rw [hplaced]
  · rename_i hdense
    rw [linePositions_of_error _ (congrArg Prod.fst hdense)]

namespace Layer

theorem axisPath_fst (p : Projection α) (tier : Tier α) (axis : Axis) (scratch : Array α) :
    (axisPath p tier axis scratch).1 = crossLines p.canvas axis (tierPixels p tier axis) := by
  unfold axisPath tierPixels
  rw [linePositions_buffer]
  rcases linePositions (p.span axis) tier.kind #[] with ⟨result, out⟩
  cases result with
  | ok done => rfl
  | error dense => rfl

theorem crossLines_isEmpty (canvas : Size α) (axis : Axis) (positions : List α) :
    (crossLines canvas axis positions).isEmpty = positions.isEmpty := by
  cases positions with
  | nil => rfl
  | cons c rest => cases axis <;> rfl

theorem tierPath_eq (p : Projection α) (w h : α) (tier : Tier α) :
    tierPath p w h tier =
      crossLines ⟨w, h⟩ .x (tierPixels p tier .x) ++ crossLines ⟨w, h⟩ .y (tierPixels p tier .y) :=
  rfl

/-- The path is empty just if neither axis has a line. -/
theorem tierPath_isEmpty (p : Projection α) (w h : α) (tier : Tier α) :
    (tierPath p w h tier).isEmpty =
      ((tierPixels p tier .x).isEmpty && (tierPixels p tier .y).isEmpty) := by
  rw [tierPath_eq, ← crossLines_isEmpty ⟨w, h⟩ .x, ← crossLines_isEmpty ⟨w, h⟩ .y]
  cases crossLines ⟨w, h⟩ .x (tierPixels p tier .x) <;> rfl

/-- A tier that is shown and can be drawn is drawn just if it has a path. -/
theorem isDrawn_iff {p : Projection α} {scale : α} {tier : Tier α} (w h : α)
    (hvisible : tier.IsVisible scale) (hvalid : tier.IsValid) :
    tier.IsDrawn p scale ↔ (tierPath p w h tier).isEmpty = false := by
  rw [tierPath_isEmpty, Bool.and_eq_false_iff]
  exact ⟨fun h => h.2.2, fun h => ⟨hvisible, hvalid, h⟩⟩

/-! ## Tiers -/

/-- A tier makes its stroke or none, whatever an earlier tier left in the buffer. -/
theorem strokeTier_ops (p : Projection α) (style : StrokeStyle α) (tier : Tier α)
    (scratch : Array α) :
    (strokeTier p style tier scratch).ops =
      if tier.IsDrawn p p.scale then
        SurfaceOp.strokePath (tierPath p p.canvas.width p.canvas.height tier) style tier.color
      else [] := by
  unfold strokeTier
  by_cases hvisible : tier.IsVisible p.scale
  · by_cases hvalid : tier.IsValid
    · rw [if_neg (not_not_intro hvisible), if_neg (not_not_intro hvalid)]
      simp only [axisPath_fst, isDrawn_iff p.canvas.width p.canvas.height hvisible hvalid, tierPath_eq]
      cases hempty : (crossLines p.canvas .x (tierPixels p tier .x) ++
        crossLines p.canvas .y (tierPixels p tier .y)).isEmpty with
      | true => simp
      | false => simp
    · rw [if_neg (not_not_intro hvisible), if_pos hvalid, if_neg (fun h => hvalid h.2.1)]
  · rw [if_pos hvisible, if_neg (fun h => hvisible h.1)]

/-- Tiers are stroked one after another, those that are not drawn left out. -/
theorem strokeTiers_ops (p : Projection α) (style : StrokeStyle α) (tiers : List (Tier α))
    (scratch : Array α) :
    (strokeTiers p style tiers scratch).ops =
      (tiers.filter fun tier => tier.IsDrawn p p.scale).flatMap fun tier =>
        SurfaceOp.strokePath (tierPath p p.canvas.width p.canvas.height tier) style tier.color := by
  induction tiers generalizing scratch with
  | nil => rfl
  | cons tier rest ih =>
      simp only [strokeTiers, strokeTier_ops, ih]
      by_cases hdrawn : tier.IsDrawn p p.scale
      · simp [hdrawn]
      · simp [hdrawn]

theorem strokeTiers_append (p : Projection α) (style : StrokeStyle α) (lower upper : List (Tier α))
    (scratch : Array α) :
    (strokeTiers p style (lower ++ upper) scratch).ops =
      (strokeTiers p style lower scratch).ops ++ (strokeTiers p style upper #[]).ops := by
  rw [strokeTiers_ops, strokeTiers_ops, strokeTiers_ops, List.filter_append, List.flatMap_append]

/-- A color is chosen for the tiers of that color only. -/
theorem strokeTiers_paint {p : Projection α} {style : StrokeStyle α} {tiers : List (Tier α)}
    {scratch : Array α} {color : Color}
    (h : .state (.setPaint (.solid color)) ∈ (strokeTiers p style tiers scratch).ops) :
    ∃ tier ∈ tiers, tier.color = color := by
  rw [strokeTiers_ops, List.mem_flatMap] at h
  obtain ⟨tier, htier, hstroke⟩ := h
  have hcolor : color = tier.color := by simpa [SurfaceOp.strokePath] using hstroke
  exact ⟨tier, (List.mem_filter.mp htier).1, hcolor.symm⟩

/-- The axes are shown at every scale, and so they are stroked just if they have a line. -/
theorem strokeTiers_axis {p : Projection α} (style : StrokeStyle α) (color : Color)
    (scratch : Array α) (hscale : Scalar.zero ≤ p.scale) :
    let axes := tierPath p p.canvas.width p.canvas.height (.axis color)
    (strokeTiers p style [.axis color] scratch).ops =
      if axes.isEmpty then [] else SurfaceOp.strokePath axes style color := by
  intro axes
  have hdrawn : (Tier.axis color).IsDrawn p p.scale ↔ axes.isEmpty = false :=
    isDrawn_iff p.canvas.width p.canvas.height hscale trivial
  have hcolor : (Tier.axis color : Tier α).color = color := rfl
  rw [strokeTiers_ops]
  cases hempty : axes.isEmpty with
  | true => simp [hdrawn, hempty]
  | false => simp [hdrawn, hempty, hcolor, axes]

/-! ## Layers -/

theorem paint_ops (l : Layer α) (view : View α) (size : Size α) :
    (l.paint view size).ops = referenceOps l.style view size := by
  unfold paint
  by_cases hempty : (Projection.ofView view size).canvasRect.IsEmpty
  · rw [if_pos hempty]
    exact (if_pos hempty).symm
  · rw [if_neg hempty]
    simp only [strokeTiers_ops]
    exact (if_neg hempty).symm

/-- The paths that are stroked are those of the tiers that are drawn. -/
theorem strokePath_mem_paint {l : Layer α} {view : View α} {size : Size α} {path : Path α} :
    let p := Projection.ofView view size
    .draw (.strokePath path) ∈ (l.paint view size).ops ↔
      ¬ p.canvasRect.IsEmpty ∧ ∃ tier ∈ l.style.tiers, tier.IsDrawn p p.scale ∧
        path = tierPath p p.canvas.width p.canvas.height tier := by
  intro p
  unfold paint
  by_cases hempty : p.canvasRect.IsEmpty
  · rw [if_pos hempty]
    simp [hempty]
  · rw [if_neg hempty]
    simp [hempty, SurfaceOp.withClip, SurfaceOp.strokePath, strokeTiers_ops, and_assoc, p]

/-- Where the axes are the last tier, and no tier below them has their color, their stroke comes
last and is the only one in that color. -/
theorem paint_axes {l : Layer α} {lower : List (Tier α)} {color : Color}
    (htiers : l.style.tiers = lower ++ [.axis color]) (hlower : ∀ t ∈ lower, t.color ≠ color)
    {view : View α} {size : Size α} (hscale : Scalar.zero ≤ view.scale)
    (hcanvas : ¬ (Projection.ofView view size).canvasRect.IsEmpty) :
    let p := Projection.ofView view size
    let axes := tierPath p p.canvas.width p.canvas.height (.axis color)
    ∃ front, (l.paint view size).ops =
        front ++ (if axes.isEmpty then [] else SurfaceOp.strokePath axes l.style.stroke color) ++
          [.state .popClip] ∧
      ∀ op ∈ front, op ≠ .state (.setPaint (.solid color)) := by
  intro p axes
  refine ⟨[.draw (.clear p.canvasRect), .state (.pushClip p.canvasRect)] ++
    (strokeTiers p l.style.stroke lower l.scratch).ops, ?_, ?_⟩
  · have haxes := strokeTiers_axis (p := p) l.style.stroke color #[] hscale
    rw [paint, if_neg hcanvas, htiers, ← haxes]
    simp only [strokeTiers_append, SurfaceOp.withClip, List.append_assoc, List.cons_append,
      List.nil_append, p]
  · rintro op hop rfl
    rcases List.mem_append.mp hop with hclear | hstroke
    · simp at hclear
    · obtain ⟨tier, htier, hcolor⟩ := strokeTiers_paint hstroke
      exact hlower tier htier hcolor

end Layer

end Grid

/-- **A painting is its reference.** Whatever a layer and a scene went through before, painting a
layer asks the surface for the reference of its style, the view and the size of the surface. The
staleness, the attachment and the buffer of the layer have no part in it, and the view enters with
its scale and its offset only. -/
theorem Scene.painted_eq_reference {α : Type} [Scalar α] (l : Grid.Layer α) (view : View α)
    (size : Size α) :
    (l.paint view size).ops = Grid.referenceOps l.style view size ∧
      (∀ needsRepaint generation attachment? scratch distance drag,
        (Grid.Layer.paint { l with needsRepaint, generation, attachment?, scratch }
          { view with distance, drag } size).ops = (l.paint view size).ops) ∧
      ∀ (s : Scene α) (layer viewport : Nat),
        (s.step (.paint layer viewport size)).reply =
          match s.layers[layer]?, s.viewports[viewport]? with
          | some l, some v => .painted (Grid.referenceOps l.style v.view size)
          | _, _ => .absent := by
  refine ⟨l.paint_ops view size, ?_, ?_⟩
  · -- the reference reads none of these
    intro needsRepaint generation attachment? scratch distance drag
    rw [Grid.Layer.paint_ops, Grid.Layer.paint_ops]
    rfl
  · intro s layer viewport
    simp only [step, withBoth]
    cases s.layers[layer]? with
    | none => rfl
    | some l =>
        cases s.viewports[viewport]? with
        | none => rfl
        | some v => simp only [Grid.Layer.paint_ops]

end PanZoom
