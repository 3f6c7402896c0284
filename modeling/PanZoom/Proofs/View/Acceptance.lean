import PanZoom.Proofs.View.Divisor

/-!
# Which zooms are accepted

Whether a zoom is accepted is decided before it is made. The check clamps the distance that is
asked for and derives a scale from it, and if the scale is held to full precision the zoom is made,
with the distance clamped and the scale derived once more. A zoom that passed the check but led to
another scale would leave one that cannot be divided by.

The two agree on every value (`zoom_verdict`): a request is refused just for the reasons that the
check names, and otherwise the answer, the view and what the handlers are told is one scale, which
is finite, held to full precision and above zero. That it is above zero is not checked. It follows
since sound settings and a distance at or above the least one have no negative scale.
-/

namespace PanZoom

namespace Viewport

variable {η : Type} {v : Viewport Binary64 η}

theorem not_admits_iff {distance : Binary64} :
    ¬ v.Admits distance ↔ Scalar.isFinite distance = false ∨
      Scalar.isNormal (v.settings.scaleAt distance) = false := by
  rw [Admits, Classical.not_and_iff_not_or_not, Bool.not_eq_true, Bool.not_eq_true]

/-- The zoom to a distance was made, and `scale` came of it. -/
structure Accepted (v : Viewport Binary64 η) (distance scale : Binary64)
    (o : Outcome Binary64 η (Except Rejection Binary64)) : Prop where
  finite : Scalar.isFinite scale = true
  normal : Scalar.isNormal scale = true
  positive : Scalar.zero < scale
  viewport : o.viewport =
    let distance := Scalar.max distance v.settings.minDistance
    { v with view := { v.view with distance, scale } }
  scale_eq : scale = v.settings.scaleFactor / o.viewport.view.distance
  told : o.notices = v.noticesOf .scale (.scale scale)
  toldOnce : (o.notices.map Notice.id).Nodup

/-- What becomes of a request to zoom, for each answer to it. -/
structure Verdict (v : Viewport Binary64 η) (zoom : Zoom Binary64)
    (o : Outcome Binary64 η (Except Rejection Binary64)) : Prop where
  nonFinite : o.result = .error .nonFiniteDelta ↔ Scalar.isFinite zoom.argument = false
  overflow : o.result = .error .overflow ↔
    Scalar.isFinite zoom.argument = true ∧
      (Scalar.isFinite (zoom.target v) = false ∨
        let distance := Scalar.max (zoom.target v) v.settings.minDistance
        Scalar.isNormal (v.settings.scaleFactor / distance) = false)
  refused : ∀ cause, o.result = .error cause →
    (cause = .nonFiniteDelta ∨ cause = .overflow) ∧ o.viewport = v ∧ o.notices = []
  accepted : ∀ scale, o.result = .ok scale → Accepted v (zoom.target v) scale o

/-- The check lets nothing pass that the zoom makes something else of. -/
theorem Zoomed.accepted (hv : v.InRange) (ho : v.Orderly) {distance : Binary64}
    {o : Outcome Binary64 η (Except Rejection Binary64)} (zoomed : Zoomed v distance o) :
    Accepted v distance o.viewport.view.scale o := by
  have hview : o.viewport.view = v.view.setDistance v.settings distance :=
    congrArg Viewport.view zoomed.viewport
  have hrange : o.viewport.view.InRange v.settings := by
    rw [hview]
    exact View.setDistance_inRange hv.sound zoomed.finite hv.view.offset_finite
      hv.view.anchor_finite
  have hnormal : Scalar.isNormal o.viewport.view.scale = true := by
    rw [hview]
    exact zoomed.normal
  have hdivisible := hrange.divisible hv.sound hnormal
  exact {
    finite := hdivisible.finite
    normal := hnormal
    positive := hdivisible.positive
    viewport := by
      rw [hview]
      exact zoomed.viewport
    scale_eq := hrange.scale_eq
    told := zoomed.notices
    toldOnce := by
      rw [zoomed.notices]
      exact ho.noticesOf_nodup .scale _ }

theorem ZoomAnswer.verdict (hv : v.InRange) (ho : v.Orderly) {zoom : Zoom Binary64}
    {o : Outcome Binary64 η (Except Rejection Binary64)} (answer : ZoomAnswer v zoom o) :
    Verdict v zoom o := by
  cases answer with
  | nonFinite infinite refused =>
      exact {
        nonFinite := iff_of_true refused.result infinite
        overflow := by simp [refused.result, infinite]
        refused := by
          intro cause hcause
          cases refused.result.symm.trans hcause
          exact ⟨.inl rfl, refused.viewport, refused.notices⟩
        accepted := by
          intro scale hscale
          cases refused.result.symm.trans hscale }
  | overflow finite outside refused =>
      exact {
        nonFinite := by simp [refused.result, finite]
        overflow := iff_of_true refused.result ⟨finite, not_admits_iff.mp outside⟩
        refused := by
          intro cause hcause
          cases refused.result.symm.trans hcause
          exact ⟨.inr rfl, refused.viewport, refused.notices⟩
        accepted := by
          intro scale hscale
          cases refused.result.symm.trans hscale }
  | granted finite zoomed =>
      exact {
        nonFinite := by simp [zoomed.result, finite]
        overflow := by
          refine iff_of_false (by simp [zoomed.result]) fun h => ?_
          exact not_admits_iff.mpr h.2 ⟨zoomed.finite, zoomed.normal⟩
        refused := by
          intro cause hcause
          cases zoomed.result.symm.trans hcause
        accepted := by
          intro scale hscale
          cases zoomed.result.symm.trans hscale
          exact zoomed.accepted hv ho }

/-- **The check before a zoom agrees with the zoom.** In every viewport that is reached, and for
every number, a movement of the wheel and a change of the distance are either refused, for the
reason that the number gives, and then nothing changes and nobody is told, or they are made, with a
scale that can be divided by. -/
theorem zoom_verdict (changes : List (ZoomSettings.Change Binary64)) (id : Nat)
    (calls : List (Call Binary64 η)) (zoom : Zoom Binary64) :
    let v := (create id (.ofChanges changes) : Viewport Binary64 η).run calls
    Verdict v zoom (v.zoom zoom) := by
  intro v
  have hv : v.InRange := reached_inRange changes id calls
  have ho : v.Orderly := (create_orderly id _).run calls
  exact (v.zoom_answer zoom).verdict hv ho

/-- At a scale factor of 2⁻¹⁰⁰⁰ the scale of a finite distance can be too small to be held. A
distance below the least one is not refused. -/
example :
    let changes : List (ZoomSettings.Change Binary64) := [.scaleFactor (.ofBits 0x0170000000000000)]
    let v : Viewport Binary64 Unit := create 0 (.ofChanges changes)
    [.inf false, .ofBits 0x7e70000000000000, Scalar.zero].map (fun d => (v.setDistance d).result) =
      [.error .nonFiniteDelta, .error .overflow, .ok v.settings.maxScale] := by
  decide +kernel

end Viewport

end PanZoom
