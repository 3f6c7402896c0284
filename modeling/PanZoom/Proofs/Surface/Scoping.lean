import PanZoom.Binary64.Arithmetic
import PanZoom.Proofs.Grid.Painting
import PanZoom.Proofs.Surface.Replay

/-!
# Clips are scoped

A drawing puts a clip around content and takes it away after it, at any depth; painting a grid is
such a clip with strokes in it. So clips belong to the content that they are put around, while paint
and stroke stay set for what is drawn later. `Drawing.strokes` says this by recursion on the
drawing: clips are handed down to the content, and a pen is handed on from one part to the next. A
stroke shows what its clips leave of the plane, cut down by one after another from the outermost on
(`Rect.common`). There is no stack in it. A recording keeps one, and computes the common part anew
after each pop; it ends with the clips that it began with and has recorded just these strokes
(`clips_are_scoped`).
-/

namespace PanZoom

variable {α : Type}

namespace Rect

variable [Scalar α]

/-- What a further clip leaves of a part of the plane; `none` is all of it. -/
def narrow (part? : Option (Rect α)) (clip : Rect α) : Option (Rect α) :=
  match part? with
  | none => some clip
  | some part => some (part.intersect clip)

/-- What clips of which the outermost comes first leave of the plane, cut down by one after
another. -/
def common (clips : List (Rect α)) : Option (Rect α) := clips.foldl narrow none

end Rect

/-- The first clip, cut down by the ones after it, is what a recording computes. -/
theorem Snapshot.clipOf_eq [Scalar α] (clips : List (Rect α)) :
    clipOf clips = Rect.common clips := by
  cases clips with
  | nil => rfl
  | cons outermost rest =>
      have hstep : rest.foldl Rect.narrow (some outermost) =
          some (rest.foldl Rect.intersect outermost) :=
        List.foldl_hom some fun _ _ => rfl
      exact hstep.symm

/-- The paint and the stroke of later draws, as far as they are set. -/
structure Pen (α : Type) where
  paint? : Option Brush
  stroke? : Option (StrokeStyle α)

namespace Pen

def solid (color : Color) (style : StrokeStyle α) : Pen α := ⟨some (.solid color), some style⟩

/-- A path drawn with the pen, within clips of which the outermost comes first. -/
def draw [Scalar α] (pen : Pen α) (clips : List (Rect α)) (path : Path α) : RecordedStroke α where
  path := path
  paint? := pen.paint?
  style? := pen.stroke?
  clip? := Rect.common clips

end Pen

/-- What is drawn on a surface when clips are only put around content. -/
inductive Drawing (α : Type) where
  | nothing
  | seq (first second : Drawing α)
  | within (rect : Rect α) (content : Drawing α)
  /-- A path stroked in a color and a style of its own. -/
  | stroke (path : Path α) (style : StrokeStyle α) (color : Color)
  | draw (op : DrawOp α)
  | setPaint (brush : Brush)
  | setStroke (style : StrokeStyle α)
  /-- A grid layer, in whatever state it is, painted for a view. -/
  | grid (layer : Grid.Layer α) (view : View α)

variable [Scalar α]

/-- The tiers of a style that are stroked on a surface of a given size; none on a canvas without
area. -/
def Grid.Style.strokedTiers (style : Grid.Style α) (view : View α) (size : Size α) :
    List (Grid.Tier α) :=
  let p := Projection.ofView view size
  if p.canvasRect.IsEmpty then [] else style.tiers.filter fun tier => tier.IsDrawn p p.scale

namespace Drawing

/-- The pen that a drawing leaves behind. -/
def penAfter (size : Size α) : Drawing α → Pen α → Pen α
  | nothing, pen => pen
  | seq first second, pen => second.penAfter size (first.penAfter size pen)
  | within _ content, pen => content.penAfter size pen
  | stroke _ style color, _ => .solid color style
  | draw _, pen => pen
  | setPaint brush, pen => { pen with paint? := some brush }
  | setStroke style, pen => { pen with stroke? := some style }
  | grid layer view, pen =>
    (layer.style.strokedTiers view size).foldl
      (fun _ tier => .solid tier.color layer.style.stroke) pen

/-- The strokes of a drawing on a surface of a given size, within clips of which the outermost comes
first, if it begins with a certain pen. -/
def strokes (size : Size α) : Drawing α → List (Rect α) → Pen α → List (RecordedStroke α)
  | nothing, _, _ => []
  | seq first second, clips, pen =>
    first.strokes size clips pen ++ second.strokes size clips (first.penAfter size pen)
  | within rect content, clips, pen => content.strokes size (clips ++ [rect]) pen
  | stroke path style color, clips, _ => [(Pen.solid color style).draw clips path]
  | draw (.strokePath path), clips, pen => [pen.draw clips path]
  | draw (.clear _), _, _ => []
  | setPaint _, _, _ => []
  | setStroke _, _, _ => []
  | grid layer view, clips, _ =>
    let p := Projection.ofView view size
    (layer.style.strokedTiers view size).map fun tier =>
      (Pen.solid tier.color layer.style.stroke).draw (clips ++ [p.canvasRect])
        (Grid.tierPath p p.canvas.width p.canvas.height tier)

/-- The operations that a drawing comes down to. -/
def ops (size : Size α) : Drawing α → List (SurfaceOp α)
  | nothing => []
  | seq first second => first.ops size ++ second.ops size
  | within rect content => SurfaceOp.withClip rect (content.ops size)
  | stroke path style color => SurfaceOp.strokePath path style color
  | draw op => [.draw op]
  | setPaint brush => [.state (.setPaint brush)]
  | setStroke style => [.state (.setStroke style)]
  | grid layer view => (layer.paint view size).ops

end Drawing

/-! ## Operations in a context -/

namespace DrawContext

def pen (c : DrawContext α) : Pen α := ⟨c.paint?, c.stroke?⟩

/-- The context with another pen, and the same clips. -/
def withPen (c : DrawContext α) (pen : Pen α) : DrawContext α :=
  { c with paint? := pen.paint?, stroke? := pen.stroke? }

/-- The context of the content of a clip. -/
def inside (c : DrawContext α) (rect : Rect α) : DrawContext α := { c with clips := c.clips ++ [rect] }

/-- A path stroked in a context lies within what the clips of the context leave. -/
theorem stroke_eq (c : DrawContext α) (path : Path α) :
    c.stroke path = c.pen.draw c.clips path := by
  rw [stroke, Snapshot.clipOf_eq, Pen.draw, pen]

/-- A path with a color and a style of its own does not show the pen of the context. -/
theorem strokes_strokePath (c : DrawContext α) (path : Path α) (style : StrokeStyle α)
    (color : Color) :
    c.strokes (SurfaceOp.strokePath path style color) =
      [(Pen.solid color style).draw c.clips path] :=
  congrArg List.singleton ((c.withPen (.solid color style)).stroke_eq path)

omit [Scalar α] in
theorem afterAll_append (c : DrawContext α) (first second : List (SurfaceOp α)) :
    c.afterAll (first ++ second) = (c.afterAll first).afterAll second :=
  List.foldl_append

theorem strokes_append (c : DrawContext α) (first second : List (SurfaceOp α)) :
    c.strokes (first ++ second) = c.strokes first ++ (c.afterAll first).strokes second := by
  induction first generalizing c with
  | nil => rfl
  | cons op rest ih =>
      cases op with
      | state op => exact ih (c.after (.state op))
      | draw op =>
          cases op with
          | clear rect => exact ih c
          | strokePath path => exact congrArg (c.stroke path :: ·) (ih c)

omit [Scalar α] in
/-- If the content leaves the clips as it found them, all that is left of it is its pen. -/
theorem afterAll_withClip {c : DrawContext α} {rect : Rect α} {body : List (SurfaceOp α)}
    {pen : Pen α} (h : (c.inside rect).afterAll body = (c.inside rect).withPen pen) :
    c.afterAll (SurfaceOp.withClip rect body) = c.withPen pen := by
  have hbody : c.afterAll (SurfaceOp.withClip rect body) =
      ((c.inside rect).afterAll body).after (.state .popClip) :=
    afterAll_concat (c.inside rect) body (.state .popClip)
  rw [hbody, h]
  exact congrArg (DrawContext.mk pen.paint? pen.stroke?) List.dropLast_concat

theorem strokes_withClip (c : DrawContext α) (rect : Rect α) (body : List (SurfaceOp α)) :
    c.strokes (SurfaceOp.withClip rect body) = (c.inside rect).strokes body := by
  have hbody : c.strokes (SurfaceOp.withClip rect body) =
      (c.inside rect).strokes (body ++ [.state .popClip]) := rfl
  rw [hbody, strokes_append]
  exact List.append_nil _

section Tiers

variable (c : DrawContext α) (style : StrokeStyle α) (path : Grid.Tier α → Path α)
  (tiers : List (Grid.Tier α))

omit [Scalar α] in
theorem afterAll_tiers :
    c.afterAll (tiers.flatMap fun tier => SurfaceOp.strokePath (path tier) style tier.color) =
      c.withPen (tiers.foldl (fun _ tier => .solid tier.color style) c.pen) := by
  induction tiers generalizing c with
  | nil => rfl
  | cons tier rest ih =>
      rw [List.flatMap_cons, afterAll_append, ih]
      rfl

theorem strokes_tiers :
    c.strokes (tiers.flatMap fun tier => SurfaceOp.strokePath (path tier) style tier.color) =
      tiers.map fun tier => (Pen.solid tier.color style).draw c.clips (path tier) := by
  induction tiers generalizing c with
  | nil => rfl
  | cons tier rest ih =>
      rw [List.flatMap_cons, strokes_append, strokes_strokePath, ih]
      rfl

end Tiers

end DrawContext

/-! ## Drawings in a context -/

/-- A painting clears the canvas and strokes its tiers within it. -/
theorem Grid.Layer.paint_cases (l : Grid.Layer α) (view : View α) (size : Size α) :
    let p := Projection.ofView view size
    (l.paint view size).ops = [.draw (.clear p.canvasRect)] ∧
        l.style.strokedTiers view size = [] ∨
      (l.paint view size).ops = .draw (.clear p.canvasRect) ::
        SurfaceOp.withClip p.canvasRect ((l.style.strokedTiers view size).flatMap fun tier =>
          SurfaceOp.strokePath (tierPath p p.canvas.width p.canvas.height tier) l.style.stroke
            tier.color) := by
  intro p
  unfold paint Style.strokedTiers
  by_cases hempty : p.canvasRect.IsEmpty
  · exact .inl ⟨congrArg Painting.ops (if_pos hempty), if_pos hempty⟩
  · refine .inr ?_
    rw [if_neg hempty, if_neg hempty]
    simp only [strokeTiers_ops, p]

namespace Drawing

theorem afterAll_ops (size : Size α) (d : Drawing α) (c : DrawContext α) :
    c.afterAll (d.ops size) = c.withPen (d.penAfter size c.pen) := by
  induction d generalizing c with
  | nothing | stroke | draw | setPaint | setStroke => rfl
  | seq first second ih₁ ih₂ =>
      rw [ops, DrawContext.afterAll_append, ih₁, ih₂]
      rfl
  | within rect content ih => exact DrawContext.afterAll_withClip (ih _)
  | grid layer view =>
      rw [ops, penAfter]
      rcases layer.paint_cases view size with ⟨hops, hnone⟩ | hops
      · rw [hops, hnone]
        rfl
      · rw [hops]
        exact DrawContext.afterAll_withClip (DrawContext.afterAll_tiers ..)

theorem strokes_ops (size : Size α) (d : Drawing α) (c : DrawContext α) :
    c.strokes (d.ops size) = d.strokes size c.clips c.pen := by
  induction d generalizing c with
  | nothing | setPaint | setStroke => rfl
  | stroke path style color => exact c.strokes_strokePath path style color
  | draw op =>
      cases op with
      | clear rect => rfl
      | strokePath path => exact congrArg List.singleton (c.stroke_eq path)
  | seq first second ih₁ ih₂ =>
      rw [ops, DrawContext.strokes_append, ih₁, afterAll_ops, ih₂]
      rfl
  | within rect content ih =>
      rw [ops, DrawContext.strokes_withClip, ih]
      rfl
  | grid layer view =>
      rw [ops, strokes]
      rcases layer.paint_cases view size with ⟨hops, hnone⟩ | hops
      · rw [hops, hnone]
        rfl
      · rw [hops]
        exact (DrawContext.strokes_withClip ..).trans (DrawContext.strokes_tiers ..)

end Drawing

/-! ## Drawings on a recording -/

namespace Recording

/-- Carries out a drawing. What a clip is put around is carried out inside it. -/
def carryOut (r : Recording α) : Drawing α → Recording α
  | .nothing => r
  | .seq first second => (r.carryOut first).carryOut second
  | .within rect content => (r.withClip rect fun inside => (inside.carryOut content, ())).1
  | .stroke path style color => r.strokePath path style color
  | .draw op => r.apply (.draw op)
  | .setPaint brush => r.apply (.state (.setPaint brush))
  | .setStroke style => r.apply (.state (.setStroke style))
  | .grid layer view => r.applyAll (layer.paint view r.size).ops

theorem applyAll_append (r : Recording α) (first second : List (SurfaceOp α)) :
    r.applyAll (first ++ second) = (r.applyAll first).applyAll second :=
  List.foldl_append

theorem carryOut_eq (r : Recording α) (d : Drawing α) :
    r.carryOut d = r.applyAll (d.ops r.size) := by
  induction d generalizing r with
  | nothing | stroke | draw | setPaint | setStroke | grid => rfl
  | seq first second ih₁ ih₂ =>
      rw [carryOut, ih₁, ih₂, applyAll_size, Drawing.ops, applyAll_append]
  | within rect content ih =>
      have hinside : (r.apply (.state (.pushClip rect))).size = r.size := rfl
      have hbody := ih (r.apply (.state (.pushClip rect)))
      rw [hinside] at hbody
      have hclip : r.carryOut (.within rect content) =
          ((r.apply (.state (.pushClip rect))).carryOut content).apply (.state .popClip) := rfl
      rw [hclip, hbody, Drawing.ops]
      exact (List.foldl_concat ..).symm

theorem Logged.strokes_eq {r : Recording α} {base : DrawContext α} {ops : List (SurfaceOp α)}
    (h : r.Logged base ops) : r.strokes = base.strokes ops := by
  rw [h.replays.strokes, h.log]

section Logged

variable {r : Recording α} {base : DrawContext α} {ops : List (SurfaceOp α)}

theorem Logged.carryOut (h : r.Logged base ops) (d : Drawing α) :
    (r.carryOut d).Logged base (ops ++ d.ops r.size) := by
  rw [carryOut_eq]
  exact h.applyAll _

theorem Logged.carryOut_context (h : r.Logged base ops) (d : Drawing α) :
    (r.carryOut d).context = r.context.withPen (d.penAfter r.size r.context.pen) := by
  rw [(h.carryOut d).context, DrawContext.afterAll_append, ← h.context, Drawing.afterAll_ops]

theorem Logged.carryOut_strokes (h : r.Logged base ops) (d : Drawing α) :
    (r.carryOut d).strokes = r.strokes ++ d.strokes r.size r.clips r.context.pen := by
  rw [(h.carryOut d).strokes_eq, DrawContext.strokes_append, ← h.strokes_eq, ← h.context,
    Drawing.strokes_ops]
  rfl

end Logged

/-- **Clips are scoped.** Whatever a surface was asked for before, a drawing leaves the stack of
clips as it was, and so the number and the common part of the clips. It records the strokes that it
has by itself: each lies within the clips that were there before and then those put around it, and a
path stroked in a color and a style of its own, a line of a grid included, is recorded with these. -/
theorem clips_are_scoped (size : Size α) (calls : List (Call α)) (d : Drawing α) :
    let r := (new size).run calls
    let r' := r.carryOut d
    (r'.clips = r.clips ∧ r'.state.clipDepth = r.state.clipDepth ∧ r'.state.clip? = r.state.clip?) ∧
      r'.strokes = r.strokes ++ d.strokes r.size r.clips r.context.pen := by
  intro r r'
  have hlogged := run_logged size calls
  have hcontext : r'.context = r.context.withPen (d.penAfter r.size r.context.pen) :=
    hlogged.carryOut_context d
  -- what is shown of the clips is computed from the stack
  have hstate : r'.state = (r.context.withPen (d.penAfter r.size r.context.pen)).snapshot := by
    rw [← hcontext]
    exact (hlogged.carryOut d).state
  have hbefore : r.state = r.context.snapshot := hlogged.state
  refine ⟨⟨congrArg DrawContext.clips hcontext, ?_, ?_⟩, hlogged.carryOut_strokes d⟩
  · rw [hstate, hbefore]
    rfl
  · rw [hstate, hbefore]
    rfl

/-- On a new surface, and on one with an open clip and a gradient set, a drawing strokes a path,
strokes two more in two clips, one with a color of its own, and paints a grid in the outer clip. -/
theorem strokes_in_nested_clips :
    let rect (x0 y0 x1 y1 : Nat) : Rect Binary64 :=
      ⟨Scalar.ofNat x0, Scalar.ofNat y0, Scalar.ofNat x1, Scalar.ofNat y1⟩
    let size : Size Binary64 := ⟨Scalar.ofNat 70, Scalar.ofNat 45⟩
    let red : Color := ⟨255, 0, 0, 255⟩
    let wide : StrokeStyle Binary64 := ⟨Scalar.ofNat 3⟩
    let thin : StrokeStyle Binary64 := ⟨Scalar.one⟩
    let view : View Binary64 := ⟨Scalar.one, Scalar.ofNat 70, Vec2.zero, Drag.idle⟩
    let d : Drawing Binary64 :=
      .seq (.draw (.strokePath [])) (.within (rect 10 5 90 60)
        (.seq (.within (rect 20 0 60 30) (.seq (.stroke [] wide red) (.draw (.strokePath []))))
          (.grid (.new .default) view)))
    let calls : List (Call Binary64) :=
      [.popClip, .pushClip (rect 0 0 80 40), .state (.setPaint .gradient), .clearEvents]
    let r := ((new size).run calls).carryOut d
    ((new size).carryOut d).strokes.head? = some ⟨[], none, none, none⟩ ∧
      r.clips = [rect 0 0 80 40] ∧ r.state.clipDepth = 1 ∧
      r.state.clip? = some (rect 0 0 80 40) ∧
      r.strokes.map (fun s => (s.paint?, s.style?, s.clip?)) =
        [(some .gradient, none, some (rect 0 0 80 40)),
          (some (.solid red), some wide, some (rect 20 5 60 30)),
          (some (.solid red), some wide, some (rect 20 5 60 30)),
          (some (.solid (.grey 49)), some thin, some (rect 10 5 70 40)),
          (some (.solid (.grey 43)), some thin, some (rect 10 5 70 40)),
          (some (.solid (.grey 35)), some thin, some (rect 10 5 70 40))] := by
  intro rect size red wide thin view d calls r
  obtain ⟨_, hfresh⟩ := clips_are_scoped size [] d
  obtain ⟨⟨hclips, hdepth, hclip⟩, hstrokes⟩ := clips_are_scoped size calls d
  refine ⟨(congrArg List.head? hfresh).trans rfl, hclips, hdepth, hclip.trans ?_, ?_⟩
  · decide +kernel
  · show ((new size).run calls |>.carryOut d).strokes.map _ = _
    rw [hstrokes]
    decide +kernel

end Recording

end PanZoom
