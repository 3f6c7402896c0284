import PanZoom.Proofs.Binary64.Exact
import PanZoom.Proofs.View.NumericSafety
import PanZoom.View.Projection

/-!
# The scale as a divisor

A projection divides the canvas by the scale. That is safe as long as the scale is above zero, and
precise as long as it is held to full precision.

Every accepted zoom checks this. A viewport that is created or reset goes to distance one without
a check, and the settings see to it only that the greatest scale is not infinite, not that the
scale at distance one is large enough. So the scale can be divided by in every state that a
viewport reaches if it can be at distance one (`divisible_iff_normal_at_one`), and for some
settings it is zero there (`scale_may_vanish`).
-/

namespace PanZoom

variable {η : Type}

/-! ## Extents -/

/-- A usable length is a number that is not negative. -/
theorem Projection.usableLength_eq (x : Binary64) :
    ∃ i, Projection.usableLength x = .finite false i := by
  unfold Projection.usableLength
  split
  · rename_i hpositive
    obtain ⟨i, _, rfl⟩ := Binary64.isPositive_iff.mp hpositive
    exact ⟨i, rfl⟩
  · exact ⟨_, Binary64.zero_eq⟩

namespace View

/-- The scale of a view can be divided by. -/
structure Divisible (v : View Binary64) : Prop where
  finite : Scalar.isFinite v.scale = true
  normal : Scalar.isNormal v.scale = true
  positive : Scalar.zero < v.scale
  /-- Every canvas has an extent. -/
  extent_not_nan : ∀ size axis,
    Scalar.isNaN ((Projection.ofView v size).extent.along axis) = false
  /-- A canvas without a usable length has no extent there. -/
  extent_zero : ∀ (size : Size Binary64) (axis : Axis), ¬ Scalar.IsPositive (size.along axis) →
    (Projection.ofView v size).extent.along axis = Scalar.zero

theorem extent_along (v : View Binary64) (size : Size Binary64) (axis : Axis) :
    (Projection.ofView v size).extent.along axis =
      Projection.usableLength (size.along axis) / v.scale := by
  cases axis <;> rfl

/-- A positive scale that is held to full precision is all that is needed. -/
theorem Divisible.of_normal {v : View Binary64} (hnormal : Scalar.isNormal v.scale = true)
    (hpositive : Scalar.zero < v.scale) : v.Divisible := by
  have hfinite : Scalar.isFinite v.scale = true := Binary64.isFinite_of_isNormal hnormal
  obtain ⟨k, hk, hscale⟩ := Binary64.isPositive_iff.mp ⟨hfinite, hpositive⟩
  refine ⟨hfinite, hnormal, hpositive, ?_, ?_⟩
  · intro size axis
    obtain ⟨i, hlength⟩ := Projection.usableLength_eq (size.along axis)
    rw [extent_along, hlength, hscale]
    exact Binary64.div_positive_not_nan i hk
  · intro size axis hunusable
    rw [extent_along, Projection.usableLength, if_neg hunusable, hscale]
    exact Binary64.zero_div_positive hk

/-- Within the range of sound settings the scale is a quotient of positive numbers, and so it is not
negative. -/
theorem InRange.scale_eq_ofIndex {v : View Binary64} {s : ZoomSettings Binary64} (h : v.InRange s)
    (hs : s.Sound) : ∃ k, v.scale = Binary64.ofIndex false k := by
  obtain ⟨factor, _, hfactor⟩ := Binary64.isPositive_iff.mp hs.scaleFactor_positive
  obtain ⟨least, hleast, hminDistance⟩ := Binary64.isPositive_iff.mp hs.minDistance_positive
  have hmin := h.minDistance_le
  rw [hminDistance] at hmin
  obtain ⟨k, hk, hdistance⟩ := Binary64.finite_of_positive_le h.distance_finite hleast hmin
  have hpos : 0 < k.val := Nat.lt_of_lt_of_le hleast hk
  have hscale := h.scale_eq
  rw [hfactor, hdistance, Binary64.div_positive factor hpos] at hscale
  exact ⟨_, hscale⟩

/-- Within the range of sound settings the scale is a finite number that is not negative. -/
theorem InRange.scale_hasQuanta {v : View Binary64} {s : ZoomSettings Binary64}
    (h : v.InRange s) (hs : s.Sound) : ∃ q, v.scale.HasQuanta q := by
  obtain ⟨k, hscale⟩ := h.scale_eq_ofIndex hs
  obtain ⟨sign, most, hmost⟩ := Binary64.isFinite_iff.mp hs.maxScale_finite
  have hle := h.scale_le
  by_cases hk : k < Binary64.infinityIndex
  · exact ⟨_, ⟨k, hk⟩, hscale.trans (dif_pos hk), rfl⟩
  · -- an infinite scale is above every finite one
    rw [hscale, hmost, Binary64.ofIndex, dif_neg hk] at hle
    exact absurd hle (Binary64.not_inf_le_finite sign most)

/-- It is zero only if it is too small to be held to full precision. -/
theorem InRange.divisible {v : View Binary64} {s : ZoomSettings Binary64} (h : v.InRange s)
    (hs : s.Sound) (hnormal : Scalar.isNormal v.scale = true) : v.Divisible := by
  refine .of_normal hnormal ?_
  obtain ⟨k, hscale⟩ := h.scale_eq_ofIndex hs
  rw [hscale] at hnormal ⊢
  exact Binary64.ofIndex_positive hnormal

end View

/-! ## Runs -/

namespace Viewport

/-- A call leads to a scale held to full precision if there is one before it, and one at distance
one. -/
theorem perform_normal {v : Viewport Binary64 η}
    (hone : Scalar.isNormal (v.settings.scaleAt Scalar.one) = true)
    (hv : Scalar.isNormal v.view.scale = true) (call : Call Binary64 η) :
    Scalar.isNormal (v.perform call).viewport.view.scale = true := by
  cases perform_effect v call with
  | none viewport =>
      rw [viewport]
      exact hv
  | zoomed distance _ normal viewport =>
      -- checked before the zoom was accepted
      rw [viewport]
      exact normal
  | panBegun _ _ viewport =>
      rw [viewport]
      exact hv
  | panned _ _ _ _ viewport =>
      rw [viewport]
      exact hv
  | panEnded viewport =>
      rw [viewport]
      exact hv
  | reset viewport =>
      -- not checked here
      rw [viewport]
      exact hone
  | subscribed topic handler _ viewport =>
      rw [viewport, subscribe_view]
      exact hv
  | unsubscribed id _ viewport =>
      rw [viewport, unsubscribe_view]
      exact hv

theorem run_normal {v : Viewport Binary64 η} (hs : v.settings.Sound)
    (hrange : v.view.InRange v.settings)
    (hone : Scalar.isNormal (v.settings.scaleAt Scalar.one) = true)
    (hv : Scalar.isNormal v.view.scale = true) (calls : List (Call Binary64 η)) :
    Scalar.isNormal (v.run calls).view.scale = true := by
  induction calls generalizing v with
  | nil => exact hv
  | cons call rest ih =>
      obtain ⟨hsettings, hview⟩ := perform_inRange hs hrange call
      have hnormal := perform_normal hone hv call
      rw [← hsettings] at hs hview hone
      exact ih hs hview hone hnormal

/-- **When the scale can be divided by.** It can be in every state that a viewport reaches just if
the settings give distance one, where viewports start and where a reset takes them, a scale that
is held to full precision. -/
theorem divisible_iff_normal_at_one (changes : List (ZoomSettings.Change Binary64)) (id : Nat) :
    let settings := ZoomSettings.ofChanges changes
    (∀ calls, ((create id settings : Viewport Binary64 η).run calls).view.Divisible) ↔
      Scalar.isNormal (settings.scaleAt Scalar.one) = true := by
  intro settings
  have hs : settings.Sound := ZoomSettings.ofChanges_sound changes
  have hstart : (View.initial settings).InRange settings := View.initial_inRange hs
  constructor
  · intro hdivisible
    exact (hdivisible []).normal
  · intro hone calls
    obtain ⟨_, hrange⟩ := run_inRange (v := create id settings) hs hstart calls
    exact hrange.divisible hs (run_normal (v := create id settings) hs hstart hone hone calls)

/-- Both changes are accepted, and the scale at distance one is below the least positive number. A
new viewport has the scale zero, and canvases have no extent or an infinite one. -/
theorem scale_may_vanish :
    let settings := ZoomSettings.ofChanges
      [.minDistance (.ofBits 0x7e70000000000000), .scaleFactor (.ofBits 1)]
    let v : Viewport Binary64 Unit := create 0 settings
    settings.minDistance = .ofBits 0x7e70000000000000 ∧ settings.scaleFactor = .ofBits 1 ∧
      v.view.scale = Scalar.zero ∧
      (Projection.ofView v.view ⟨Scalar.zero, Scalar.ofNat 100⟩).extent = ⟨.nan, .inf false⟩ ∧
      ¬ v.view.Divisible := by
  refine ⟨by decide +kernel, by decide +kernel, by decide +kernel, by decide +kernel, ?_⟩
  intro hdivisible
  exact absurd hdivisible.normal (by decide +kernel)

end Viewport

end PanZoom
