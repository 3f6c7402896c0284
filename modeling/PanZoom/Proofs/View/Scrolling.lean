import PanZoom.Proofs.Binary64.Signed
import PanZoom.Proofs.View.NumericSafety

/-!
# Scrolling goes one way

A wheel movement multiplies, subtracts, clamps and divides, and rounds three times. None of this can
turn it around: rounding keeps the sign of the product and the order of differences and quotients,
and the clamp does not take a view past where it is, since no view that is reached is nearer than
the least distance. A product or difference that overflows is refused, and the view stays. So while
the wheel is turned in one direction the scale goes in one direction too (`scrolling_is_monotone`).
-/

namespace PanZoom

namespace Viewport

/-- The outcomes of wheel movements that are made one after another. -/
def scrolls {α η : Type} [Scalar α] (v : Viewport α η) :
    List α → List (Outcome α η (Except Rejection α))
  | [] => []
  | delta :: rest => v.scroll delta :: (v.scroll delta).viewport.scrolls rest

/-- The scale before the movements, and after each of them. -/
def scales {α η : Type} [Scalar α] (v : Viewport α η) (deltas : List α) : List α :=
  v.view.scale :: (v.scrolls deltas).map fun o => o.viewport.view.scale

variable {η : Type} {v : Viewport Binary64 η}

/-! ## One movement -/

/-- A zoom to a distance that is not farther does not make the scale smaller. -/
theorem scale_le_zoomed (hv : v.InRange) {distance : Binary64}
    {o : Outcome Binary64 η (Except Rejection Binary64)} (zoomed : Zoomed v distance o)
    (h : distance ≤ v.view.distance) : v.view.scale ≤ o.viewport.view.scale := by
  obtain ⟨hfinite, hmin⟩ := hv.sound.clamp zoomed.finite
  have hclamp : v.settings.clamp distance ≤ v.view.distance :=
    Binary64.max_le h hv.view.minDistance_le
  rw [zoomed.viewport, hv.view.scale_eq]
  exact hv.sound.scale_antitone hfinite hv.view.distance_finite hmin hclamp

theorem zoomed_scale_le (hv : v.InRange) {distance : Binary64}
    {o : Outcome Binary64 η (Except Rejection Binary64)} (zoomed : Zoomed v distance o)
    (h : v.view.distance ≤ distance) : o.viewport.view.scale ≤ v.view.scale := by
  obtain ⟨hfinite, _⟩ := hv.sound.clamp zoomed.finite
  obtain ⟨_, hleast⟩ := Binary64.not_nan_of_le hv.sound.minDistance_le_self
  have hclamp : v.view.distance ≤ v.settings.clamp distance :=
    Binary64.le_max_of_le_left h hleast
  rw [zoomed.viewport, hv.view.scale_eq]
  exact hv.sound.scale_antitone hv.view.distance_finite hfinite hv.view.minDistance_le hclamp

/-- If the exact step is not away from the content, the rounded one does not make the scale
smaller. -/
theorem scale_le_scroll (hv : v.InRange) {delta : Binary64}
    (finite : Scalar.isFinite delta = true) (h : 0 ≤ delta.quanta * v.settings.sensitivity.quanta) :
    v.view.scale ≤ (v.scroll delta).viewport.view.scale := by
  rcases v.scroll_of_finite finite with refused | zoomed
  · rw [refused.viewport]
    exact Binary64.le_refl (Binary64.not_nan_of_le hv.view.scale_le).1
  · have hstep := Binary64.zero_le_mul finite hv.sound.sensitivity_finite h
    exact scale_le_zoomed hv zoomed (Binary64.sub_le_self hv.view.distance_finite hstep)

theorem scroll_scale_le (hv : v.InRange) {delta : Binary64}
    (finite : Scalar.isFinite delta = true) (h : delta.quanta * v.settings.sensitivity.quanta ≤ 0) :
    (v.scroll delta).viewport.view.scale ≤ v.view.scale := by
  rcases v.scroll_of_finite finite with refused | zoomed
  · rw [refused.viewport]
    exact Binary64.le_refl (Binary64.not_nan_of_le hv.view.scale_le).1
  · have hstep := Binary64.mul_le_zero finite hv.sound.sensitivity_finite h
    exact zoomed_scale_le hv zoomed (Binary64.le_sub_self hv.view.distance_finite hstep)

/-! ## Runs -/

/-- What holds of every outcome along the movements, if it holds of one in every viewport on the
way. -/
theorem forall_scrolls (hv : v.InRange) {deltas : List Binary64}
    {p : Outcome Binary64 η (Except Rejection Binary64) → Prop}
    (step : ∀ u : Viewport Binary64 η, u.InRange → u.settings = v.settings →
      ∀ delta ∈ deltas, p (u.scroll delta)) :
    ∀ o ∈ v.scrolls deltas, p o := by
  induction deltas generalizing v with
  | nil => exact fun o ho => absurd ho List.not_mem_nil
  | cons delta rest ih =>
      refine List.forall_mem_cons.mpr ⟨step v hv rfl delta (.head _), ?_⟩
      refine ih (hv.perform (.scroll delta)) fun u hu hsettings δ hδ => ?_
      exact step u hu (hsettings.trans (perform_settings v (.scroll delta))) δ (.tail _ hδ)

theorem scales_isChain (hv : v.InRange) {deltas : List Binary64} {r : Binary64 → Binary64 → Prop}
    (step : ∀ u : Viewport Binary64 η, u.InRange → u.settings = v.settings →
      ∀ delta ∈ deltas, r u.view.scale (u.scroll delta).viewport.view.scale) :
    (v.scales deltas).IsChain r := by
  induction deltas generalizing v with
  | nil => exact List.isChain_singleton _
  | cons delta rest ih =>
      refine List.isChain_cons_cons.mpr ⟨step v hv rfl delta (.head _), ?_⟩
      refine ih (hv.perform (.scroll delta)) fun u hu hsettings δ hδ => ?_
      exact step u hu (hsettings.trans (perform_settings v (.scroll delta))) δ (.tail _ hδ)

theorem scales_rise (hv : v.InRange) {deltas : List Binary64}
    (finite : ∀ delta ∈ deltas, Scalar.isFinite delta = true)
    (h : ∀ delta ∈ deltas, 0 ≤ delta.quanta * v.settings.sensitivity.quanta) :
    (v.scales deltas).IsChain (· ≤ ·) := by
  refine scales_isChain hv fun u hu hsettings delta hdelta => ?_
  rw [← hsettings] at h
  exact scale_le_scroll hu (finite delta hdelta) (h delta hdelta)

theorem scales_fall (hv : v.InRange) {deltas : List Binary64}
    (finite : ∀ delta ∈ deltas, Scalar.isFinite delta = true)
    (h : ∀ delta ∈ deltas, delta.quanta * v.settings.sensitivity.quanta ≤ 0) :
    (v.scales deltas).IsChain (· ≥ ·) := by
  refine scales_isChain hv fun u hu hsettings delta hdelta => ?_
  rw [← hsettings] at h
  exact scroll_scale_le hu (finite delta hdelta) (h delta hdelta)

/-- **Scrolling is monotone.** In every viewport that is reached, while the wheel is turned in one
direction the scale does not go back: forwards it rises and backwards it falls, or the other way
round if the sensitivity is negative. Every movement is granted, or refused because it would
overflow, and no scale is above the greatest one. -/
theorem scrolling_is_monotone (changes : List (ZoomSettings.Change Binary64)) (id : Nat)
    (calls : List (Call Binary64 η)) {deltas : List Binary64}
    (finite : ∀ delta ∈ deltas, Scalar.isFinite delta = true) :
    let v := (create id (.ofChanges changes) : Viewport Binary64 η).run calls
    let forwards := ∀ delta ∈ deltas, Scalar.zero ≤ delta
    let backwards := ∀ delta ∈ deltas, delta ≤ Scalar.zero
    let rises := (v.scales deltas).IsChain (· ≤ ·)
    let falls := (v.scales deltas).IsChain (· ≥ ·)
    (Scalar.zero ≤ v.settings.sensitivity → (forwards → rises) ∧ (backwards → falls)) ∧
      (v.settings.sensitivity < Scalar.zero → (forwards → falls) ∧ (backwards → rises)) ∧
      (∀ scale ∈ v.scales deltas, scale ≤ v.settings.maxScale) ∧
      ∀ o ∈ v.scrolls deltas,
        o.result = .ok o.viewport.view.scale ∨ o.result = .error .overflow := by
  intro v forwards backwards rises falls
  have hv : v.InRange := reached_inRange changes id calls
  -- the signs of the factors are those of their quanta
  have hforwards : forwards → ∀ delta ∈ deltas, 0 ≤ delta.quanta := fun h delta hdelta =>
    (Binary64.zero_le_iff (finite delta hdelta)).mp (h delta hdelta)
  have hbackwards : backwards → ∀ delta ∈ deltas, delta.quanta ≤ 0 := fun h delta hdelta =>
    (Binary64.le_zero_iff (finite delta hdelta)).mp (h delta hdelta)
  refine ⟨fun hsign => ?_, fun hsign => ?_, ?_, ?_⟩
  · have hsens := (Binary64.zero_le_iff hv.sound.sensitivity_finite).mp hsign
    constructor
    · intro h
      exact scales_rise hv finite fun δ hδ => mul_nonneg (hforwards h δ hδ) hsens
    · intro h
      exact scales_fall hv finite fun δ hδ =>
        mul_nonpos_of_nonpos_of_nonneg (hbackwards h δ hδ) hsens
  · have hsens := (Binary64.le_zero_iff hv.sound.sensitivity_finite).mp (Binary64.le_of_lt hsign)
    constructor
    · intro h
      exact scales_fall hv finite fun δ hδ =>
        mul_nonpos_of_nonneg_of_nonpos (hforwards h δ hδ) hsens
    · intro h
      exact scales_rise hv finite fun δ hδ =>
        mul_nonneg_of_nonpos_of_nonpos (hbackwards h δ hδ) hsens
  · refine List.forall_mem_cons.mpr ⟨hv.view.scale_le, List.forall_mem_map.mpr ?_⟩
    refine forall_scrolls hv fun u hu hsettings delta _ => ?_
    rw [← hsettings]
    exact (perform_inRange hu.sound hu.view (.scroll delta)).2.scale_le
  · refine forall_scrolls hv fun u _ _ delta hdelta => ?_
    rcases u.scroll_of_finite (finite delta hdelta) with refused | zoomed
    · exact .inr refused.result
    · exact .inl zoomed.result

/-- At a sensitivity of 2¹⁰⁰⁰ the first movement zooms in, the product of the second one overflows,
and the third one leads to the least distance. -/
theorem scrolling_past_overflow :
    let changes : List (ZoomSettings.Change Binary64) := [.sensitivity (.ofBits 0x7e70000000000000)]
    let v : Viewport Binary64 Unit := (create 0 (.ofChanges changes)).run []
    let deltas : List Binary64 :=
      [.ofBits 0x0150000000000000, .ofBits 0x4630000000000000, Scalar.one]
    (∀ delta ∈ deltas, Scalar.isFinite delta = true) ∧
      Scalar.zero ≤ v.settings.sensitivity ∧ (∀ delta ∈ deltas, Scalar.zero ≤ delta) ∧
      ((v.scrolls deltas).map fun o => (o.viewport.view.distance, o.result.toBool)) =
        [(Scalar.ofRatio 3 4, true), (Scalar.ofRatio 3 4, false),
          (Scalar.ofRatio 1 100000, true)] ∧
      (v.scales deltas).IsChain (· ≤ ·) ∧
      ∀ scale ∈ v.scales deltas, scale ≤ v.settings.maxScale := by
  intro changes v deltas
  have finite : ∀ delta ∈ deltas, Scalar.isFinite delta = true := by decide +kernel
  have hsensitivity : Scalar.zero ≤ v.settings.sensitivity := by decide +kernel
  have forwards : ∀ delta ∈ deltas, Scalar.zero ≤ delta := by decide +kernel
  obtain ⟨hpositive, _, hmax, _⟩ := scrolling_is_monotone (η := Unit) changes 0 [] finite
  exact ⟨finite, hsensitivity, forwards, by decide +kernel, (hpositive hsensitivity).1 forwards,
    hmax⟩

end Viewport

end PanZoom
