import PanZoom.Proofs.Binary64.Whole
import PanZoom.Proofs.View.Divisor
import PanZoom.Proofs.View.Projection
import PanZoom.View.Calls

/-!
# The near edge of a canvas

The near edge of a span is computed as `-offset - extent / 2`, and the place of the origin, which
is added to a coordinate to find its pixel, as `offset + extent / 2`. Both are rounded, but rounding
is the same on both sides of zero, and so they are opposite numbers whatever is lost. The near edge
is mapped to zero, and since the map keeps the order, what is visible is not mapped to the left of
it or above (`near_edge_exact`).

That needs the edge to be a number. Where the extent or the edge overflows, or the scale is zero,
the far edge is not past the near one and the span is empty (`IsFramed.start_finite`).
-/

namespace PanZoom

open Binary64

attribute [local irreducible] unit overflow Scalar.zero

namespace Span

/-- The span lies around the opposite of an offset, half of an extent to either side. -/
structure IsFramed (s : Span Binary64) (offset length : Binary64) : Prop where
  offset_finite : Scalar.isFinite offset = true
  scale_hasQuanta : ∃ q, s.scale.HasQuanta q
  length_hasQuanta : ∃ p, length.HasQuanta p
  start_eq : s.start = -offset - Projection.halve (length / s.scale)
  stop_eq : s.stop = s.start + length / s.scale
  origin_eq : s.origin = offset + Projection.halve (length / s.scale)

variable {s : Span Binary64} {offset length : Binary64}

/-- If the near edge is infinite the far edge is so too, or it is not a number. -/
theorem IsFramed.start_finite (h : s.IsFramed offset length) (hseen : ¬ s.IsEmpty) :
    Scalar.isFinite s.start = true := by
  have hstop := h.stop_eq
  cases hstart : s.start with
  | nan => exact absurd (.inl (by rw [hstart]; rfl)) hseen
  | finite sign i => rfl
  | inf sign =>
      rw [hstart] at hstop
      rcases inf_add sign (length / s.scale) with hnan | hinf
      · exact absurd (.inr (.inl (by rw [hstop, hnan]; rfl))) hseen
      · refine absurd (.inr (.inr ?_)) hseen
        rw [hstop, hinf, hstart]
        exact Binary64.le_refl rfl

/-- What is known of the parts if the near edge is a number: nothing has overflowed, and the scale
is above zero. -/
theorem IsFramed.parts (h : s.IsFramed offset length) (hstart : Scalar.isFinite s.start = true) :
    (∃ q, 0 < q ∧ s.scale.HasQuanta q) ∧
      ∃ r, (Projection.halve (length / s.scale)).HasQuanta r := by
  obtain ⟨q, hscale⟩ := h.scale_hasQuanta
  obtain ⟨p, hlength⟩ := h.length_hasQuanta
  rw [h.start_eq] at hstart
  have hhalf := (sub_finite hstart).2
  have hextent : Scalar.isFinite (length / s.scale) = true := div_finite hasQuanta_two hhalf
  obtain ⟨hq, r, hr⟩ := hlength.div_of_isFinite hscale hextent
  exact ⟨⟨q, hq, hscale⟩, (hr.div_of_isFinite hasQuanta_two hhalf).2⟩

/-- The two sums are opposite numbers. -/
theorem IsFramed.origin_eq_neg (h : s.IsFramed offset length)
    (hstart : Scalar.isFinite s.start = true) :
    Scalar.isFinite s.origin = true ∧ s.origin.quanta = -s.start.quanta := by
  obtain ⟨_, r, hhalf⟩ := h.parts hstart
  obtain ⟨hneg, hopposite⟩ := neg_finite h.offset_finite
  obtain ⟨hneg', hopposite'⟩ := neg_finite hhalf.isFinite
  rw [h.start_eq] at hstart ⊢
  rw [h.origin_eq]
  refine add_opposite hneg hneg' h.offset_finite hhalf.isFinite ?_ hstart
  rw [hopposite, hopposite']
  omega

theorem IsFramed.toScreen_start (h : s.IsFramed offset length)
    (hstart : Scalar.isFinite s.start = true) : s.toScreen s.start = Scalar.zero := by
  obtain ⟨⟨q, _, hscale⟩, r, hhalf⟩ := h.parts hstart
  obtain ⟨horigin, hopposite⟩ := h.origin_eq_neg hstart
  have hsum : s.start + s.origin = zero false := by
    refine add_eq_zero hstart horigin (by omega) ?_
    rw [h.origin_eq] at horigin ⊢
    exact add_eq_zero_of_quanta h.offset_finite hhalf horigin
  rw [toScreen, hsum, zero_mul_eq hscale, zero_eq, zero]

/-- The map keeps the order of finite coordinates as far as their pixels are numbers. -/
theorem toScreen_mono {q : Nat} (hscale : s.scale.HasQuanta q) {v w : Binary64}
    (hv : Scalar.isFinite v = true) (hw : Scalar.isFinite w = true)
    (hleft : Scalar.isNaN (s.toScreen v) = false) (hright : Scalar.isNaN (s.toScreen w) = false)
    (hle : v ≤ w) : s.toScreen v ≤ s.toScreen w :=
  mul_le_mul_right hscale hleft hright (add_le_add_right hv hw (not_nan_of_mul hleft) hle)

/-- A span that contains a coordinate is not empty. If the near edge is a number, so is what is
contained. -/
theorem Contains.bounds {v : Binary64} (h : s.Contains v) :
    ¬ s.IsEmpty ∧ (Scalar.isFinite s.start = true → Scalar.isFinite v = true) := by
  obtain ⟨hfrom, hto⟩ := h
  have hnear := (not_nan_of_le hfrom).1
  have hfar := (not_nan_of_le (Binary64.le_of_lt hto)).2
  refine ⟨?_, fun hstart => ?_⟩
  · unfold IsEmpty
    rw [hnear, hfar, not_or, not_or]
    exact ⟨Bool.false_ne_true, Bool.false_ne_true,
      not_le_of_lt (Binary64.lt_of_le_of_lt hfrom hto)⟩
  · rcases le_cases hfrom with hinf | rfl | ⟨_, hv⟩
    · rw [hinf] at hstart
      cases hstart
    · exact absurd (inf_bounds hfar).2 (not_le_of_lt hto)
    · exact hv

theorem IsFramed.zero_le_toScreen (h : s.IsFramed offset length) {v : Binary64}
    (hv : s.Contains v) : Scalar.zero ≤ s.toScreen v := by
  obtain ⟨hseen, hfinite⟩ := hv.bounds
  have hstart := h.start_finite hseen
  obtain ⟨⟨q, hq, hscale⟩, _⟩ := h.parts hstart
  have horigin := (h.origin_eq_neg hstart).1
  have hsum := not_nan_of_rank (add_rank (hfinite hstart) horigin)
  have hedge := h.toScreen_start hstart
  rw [← hedge]
  refine toScreen_mono hscale hstart (hfinite hstart) ?_ (mul_not_nan hsum hscale hq) hv.1
  rw [hedge, zero_eq]
  rfl

end Span

/-- Every view in range has its spans laid out like this. -/
theorem View.InRange.isFramed {view : View Binary64} {settings : ZoomSettings Binary64}
    (h : view.InRange settings) (hs : settings.Sound) (size : Size Binary64) (axis : Axis) :
    ((Projection.ofView view size).span axis).IsFramed (view.offset.along axis)
      (Projection.usableLength (size.along axis)) := by
  obtain ⟨q, hscale⟩ := h.scale_hasQuanta hs
  obtain ⟨i, hlength⟩ := Projection.usableLength_eq (size.along axis)
  rw [Projection.span_eq]
  refine ⟨?_, ⟨q, hscale⟩, ⟨_, i, hlength, rfl⟩, rfl, rfl, rfl⟩
  obtain ⟨hx, hy⟩ := Bool.and_eq_true_iff.mp h.offset_finite
  cases axis with
  | x => exact hx
  | y => exact hy

namespace Viewport

variable {η : Type}

/-- **The near edge is exact.** In every state that a viewport reaches, on every canvas: what is
added to a coordinate is the exact opposite of the near edge of a span that is not empty, so that
the edge is mapped to zero. Where pixels are numbers they are in the order of the coordinates, and
no coordinate that is visible is mapped below zero. -/
theorem near_edge_exact (changes : List (ZoomSettings.Change Binary64)) (id : Nat)
    (calls : List (Call Binary64 η)) (size : Size Binary64) (axis : Axis) :
    let view := ((create id (.ofChanges changes) : Viewport Binary64 η).run calls).view
    let span := (Projection.ofView view size).span axis
    (¬ span.IsEmpty → Scalar.isFinite span.start = true ∧ Scalar.isFinite span.origin = true ∧
        span.start.toRat = -span.origin.toRat ∧ span.toScreen span.start = Scalar.zero) ∧
      (∀ v w : Binary64, Scalar.isFinite v = true → Scalar.isFinite w = true →
        Scalar.isNaN (span.toScreen v) = false → Scalar.isNaN (span.toScreen w) = false →
        v ≤ w → span.toScreen v ≤ span.toScreen w) ∧
      ∀ v, span.Contains v → Scalar.zero ≤ span.toScreen v := by
  intro view span
  obtain ⟨hs, hrange⟩ := reached_inRange (η := η) changes id calls
  have hframed : span.IsFramed _ _ := hrange.isFramed hs size axis
  obtain ⟨q, hscale⟩ := hframed.scale_hasQuanta
  refine ⟨fun hseen => ?_, fun v w => Span.toScreen_mono hscale,
    fun v => hframed.zero_le_toScreen⟩
  have hstart := hframed.start_finite hseen
  obtain ⟨horigin, hopposite⟩ := hframed.origin_eq_neg hstart
  refine ⟨hstart, horigin, ?_, hframed.toScreen_start hstart⟩
  rw [toRat_eq, toRat_eq, hopposite]
  push_cast
  ring

/-- At a third of the default scale and after a drag by one pixel, the near edge of a canvas of 47
pixels is rounded, and is the opposite of the rounded place of the origin all the same. -/
theorem near_edge_after_drag :
    let calls : List (Call Binary64 Unit) :=
      [.setDistance (Scalar.ofNat 3), .beginPan ⟨Scalar.zero, Scalar.zero⟩,
        .updatePan ⟨Scalar.one, Scalar.zero⟩, .endPan]
    let view := ((create 0 (.ofChanges [])).run calls).view
    let size : Size Binary64 := ⟨Scalar.ofNat 47, Scalar.ofNat 29⟩
    let p := Projection.ofView view size
    let span := p.span .x
    ¬ span.IsEmpty ∧
      span.start.toRat ≠ -view.offset.x.toRat - (Projection.halve p.extent.width).toRat ∧
      span.start.toRat = -span.origin.toRat ∧ span.toScreen span.start = Scalar.zero ∧
      span.toScreen Scalar.zero ≤ span.toScreen Scalar.half ∧
      span.Contains Scalar.half ∧ Scalar.zero ≤ span.toScreen Scalar.half := by
  intro calls view size p span
  obtain ⟨hedge, hmono, hvisible⟩ := near_edge_exact [] 0 calls size .x
  have hseen : ¬ span.IsEmpty := by decide +kernel
  have hcontains : span.Contains Scalar.half := by decide +kernel
  obtain ⟨_, _, hopposite, hzero⟩ := hedge hseen
  refine ⟨hseen, by decide +kernel, hopposite, hzero, ?_, hcontains, hvisible _ hcontains⟩
  exact hmono Scalar.zero Scalar.half (by decide +kernel) (by decide +kernel) (by decide +kernel)
    (by decide +kernel) (by decide +kernel)

end Viewport

end PanZoom
