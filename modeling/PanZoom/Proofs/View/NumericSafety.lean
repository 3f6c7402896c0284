import PanZoom.Proofs.Binary64.Order
import PanZoom.Proofs.View.Handlers

/-!
# Numeric safety of views

Whatever changes the settings of a viewport went through, and whatever it is called with, its
numbers can be computed with: the distance stays finite and at or above the least distance, the
scale is the one derived from the distance and does not exceed the greatest scale, and the offset
is finite.

Two things carry this. The settings keep the greatest scale finite, so every scale at an allowed
distance is finite too, since quotients are antitone in the divisor also after rounding. And the
anchor of a drag holds finite numbers only, so that a drag started long before the present zoom
cannot bring anything else into the view.
-/

namespace PanZoom

variable {η : Type}

/-! ## Settings -/

/-- Settings under which every allowed distance has a finite scale. -/
structure ZoomSettings.Sound (s : ZoomSettings Binary64) : Prop where
  scaleFactor_positive : Scalar.IsPositive s.scaleFactor
  sensitivity_finite : Scalar.isFinite s.sensitivity = true
  minDistance_positive : Scalar.IsPositive s.minDistance
  maxScale_finite : Scalar.isFinite s.maxScale = true

namespace ZoomSettings

theorem default_sound : (default : ZoomSettings Binary64).Sound := by
  constructor <;> decide +kernel

/-- A change is carried out only if the settings stay sound. -/
theorem Sound.apply {s : ZoomSettings Binary64} (h : s.Sound) (change : Change Binary64) :
    (s.apply change).Sound := by
  cases change with
  | scaleFactor x =>
      simp only [ZoomSettings.apply]
      split
      · rename_i allowed
        exact { h with scaleFactor_positive := allowed.1, maxScale_finite := allowed.2 }
      · exact h
  | sensitivity x =>
      simp only [ZoomSettings.apply]
      split
      · rename_i allowed
        exact { h with sensitivity_finite := allowed }
      · exact h
  | minDistance x =>
      simp only [ZoomSettings.apply]
      split
      · rename_i allowed
        exact { h with minDistance_positive := allowed.1, maxScale_finite := allowed.2 }
      · exact h

theorem ofChanges_sound (changes : List (Change Binary64)) : (ofChanges changes).Sound :=
  List.foldlRecOn changes _ default_sound fun _ h change _ => h.apply change

/-- The clamped distance is finite and allowed. -/
theorem Sound.clamp {s : ZoomSettings Binary64} (h : s.Sound) {distance : Binary64}
    (hd : Scalar.isFinite distance = true) :
    Scalar.isFinite (s.clamp distance) = true ∧ s.minDistance ≤ s.clamp distance :=
  ⟨Binary64.max_finite hd h.minDistance_positive.1,
    Binary64.right_le_max hd h.minDistance_positive.1⟩

/-- Among allowed distances a larger one does not have a larger scale. -/
theorem Sound.scale_antitone {s : ZoomSettings Binary64} (h : s.Sound) {near far : Binary64}
    (hnear : Scalar.isFinite near = true) (hfar : Scalar.isFinite far = true)
    (hmin : s.minDistance ≤ near) (hle : near ≤ far) :
    s.scaleFactor / far ≤ s.scaleFactor / near := by
  obtain ⟨factor, _, hfactor⟩ := Binary64.isPositive_iff.mp h.scaleFactor_positive
  obtain ⟨least, hleast, hminDistance⟩ := Binary64.isPositive_iff.mp h.minDistance_positive
  rw [hminDistance] at hmin
  obtain ⟨j, hj, rfl⟩ := Binary64.finite_of_positive_le hnear hleast hmin
  have hpos : 0 < j.val := Nat.lt_of_lt_of_le hleast hj
  obtain ⟨k, hk, rfl⟩ := Binary64.finite_of_positive_le hfar hpos hle
  rw [hfactor]
  exact Binary64.div_antitone factor hpos hk

theorem Sound.minDistance_le_self {s : ZoomSettings Binary64} (h : s.Sound) :
    s.minDistance ≤ s.minDistance := by
  obtain ⟨least, _, hminDistance⟩ := Binary64.isPositive_iff.mp h.minDistance_positive
  rw [hminDistance]
  exact Binary64.le_refl rfl

/-- No allowed distance has a scale above the greatest one. -/
theorem Sound.scale_le_maxScale {s : ZoomSettings Binary64} (h : s.Sound) {distance : Binary64}
    (hd : Scalar.isFinite distance = true) (hmin : s.minDistance ≤ distance) :
    s.scaleFactor / distance ≤ s.maxScale :=
  h.scale_antitone h.minDistance_positive.1 hd h.minDistance_le_self hmin

end ZoomSettings

/-! ## Views -/

/-- Both parts of an anchor are finite. -/
def DragAnchor.IsFinite (a : DragAnchor Binary64) : Prop :=
  a.offset.isFinite = true ∧ a.position.isFinite = true

/-- The numbers of a view are in the range that its settings allow. -/
structure View.InRange (v : View Binary64) (s : ZoomSettings Binary64) : Prop where
  distance_finite : Scalar.isFinite v.distance = true
  minDistance_le : s.minDistance ≤ v.distance
  scale_eq : v.scale = s.scaleFactor / v.distance
  scale_le : v.scale ≤ s.maxScale
  offset_finite : v.offset.isFinite = true
  anchor_finite : ∀ a, v.drag.anchor? = some a → a.IsFinite

namespace View

variable {s : ZoomSettings Binary64} {v : View Binary64}

theorem zero_isFinite : (Vec2.zero : Vec2 Binary64).isFinite = true := by decide +kernel

theorem one_isFinite : Scalar.isFinite (Scalar.one : Binary64) = true := by decide +kernel

/-- Setting a finite distance brings distance and scale into range, whatever they were before. -/
theorem setDistance_inRange (hs : s.Sound) {distance : Binary64}
    (hd : Scalar.isFinite distance = true) (hoffset : v.offset.isFinite = true)
    (hanchor : ∀ a, v.drag.anchor? = some a → a.IsFinite) :
    (v.setDistance s distance).InRange s := by
  obtain ⟨hfinite, hmin⟩ := hs.clamp hd
  exact {
    distance_finite := hfinite
    minDistance_le := hmin
    scale_eq := rfl
    scale_le := hs.scale_le_maxScale hfinite hmin
    offset_finite := hoffset
    anchor_finite := hanchor }

theorem initial_inRange (hs : s.Sound) : (View.initial s).InRange s := by
  apply setDistance_inRange hs one_isFinite zero_isFinite
  intro a ha
  cases ha

/-- A change of the drag keeps a view in range if the new anchor, if there is one, is finite. -/
theorem InRange.withDrag (h : v.InRange s) {drag : Drag Binary64}
    (hanchor : ∀ a, drag.anchor? = some a → a.IsFinite) :
    View.InRange { v with drag } s :=
  { h with anchor_finite := hanchor }

end View

/-! ## Runs -/

namespace Viewport

/-- One call keeps the settings, and keeps the view in their range. -/
theorem perform_inRange {v : Viewport Binary64 η} (hs : v.settings.Sound)
    (hv : v.view.InRange v.settings) (call : Call Binary64 η) :
    (v.perform call).viewport.settings = v.settings ∧
      (v.perform call).viewport.view.InRange v.settings := by
  cases perform_effect v call with
  | none viewport =>
      rw [viewport]
      exact ⟨rfl, hv⟩
  | zoomed distance finite _ viewport =>
      rw [viewport]
      exact ⟨rfl, View.setDistance_inRange hs finite hv.offset_finite hv.anchor_finite⟩
  | panBegun position finite viewport =>
      rw [viewport]
      refine ⟨rfl, hv.withDrag ?_⟩
      -- the anchor is made of the offset, finite by now, and a position that was checked
      intro a ha
      cases ha
      exact ⟨hv.offset_finite, finite⟩
  | panned anchor position _ finite viewport =>
      rw [viewport]
      exact ⟨rfl, { hv with offset_finite := finite }⟩
  | panEnded viewport =>
      rw [viewport]
      refine ⟨rfl, hv.withDrag ?_⟩
      intro a ha
      cases ha
  | reset viewport =>
      rw [viewport]
      refine ⟨rfl, View.setDistance_inRange hs View.one_isFinite View.zero_isFinite ?_⟩
      intro a ha
      cases ha
  | subscribed topic handler _ viewport =>
      rw [viewport, subscribe_view, subscribe_settings]
      exact ⟨rfl, hv⟩
  | unsubscribed id _ viewport =>
      rw [viewport, unsubscribe_view, unsubscribe_settings]
      exact ⟨rfl, hv⟩

theorem run_inRange {v : Viewport Binary64 η} (hs : v.settings.Sound)
    (hv : v.view.InRange v.settings) (calls : List (Call Binary64 η)) :
    (v.run calls).settings = v.settings ∧ (v.run calls).view.InRange v.settings := by
  refine run_invariant (P := fun u => u.settings = v.settings ∧ u.view.InRange v.settings) ?_
    ⟨rfl, hv⟩ calls
  rintro u call ⟨hsettings, hview⟩
  rw [← hsettings] at hs hview ⊢
  exact perform_inRange hs hview call

/-- The settings of a viewport are sound, and its view is in their range. -/
structure InRange (v : Viewport Binary64 η) : Prop where
  sound : v.settings.Sound
  view : v.view.InRange v.settings

theorem InRange.perform {v : Viewport Binary64 η} (h : v.InRange) (call : Call Binary64 η) :
    (v.perform call).viewport.InRange := by
  obtain ⟨hsettings, hview⟩ := perform_inRange h.sound h.view call
  rw [← hsettings] at hview
  refine ⟨?_, hview⟩
  rw [hsettings]
  exact h.sound

theorem reached_inRange (changes : List (ZoomSettings.Change Binary64)) (id : Nat)
    (calls : List (Call Binary64 η)) :
    ((create id (.ofChanges changes) : Viewport Binary64 η).run calls).InRange := by
  have hs : (ZoomSettings.ofChanges changes).Sound := ZoomSettings.ofChanges_sound changes
  refine run_invariant (fun _ call h => h.perform call) ?_ calls
  exact ⟨hs, View.initial_inRange hs⟩

/-- **Numeric safety.** In every state that a viewport reaches, whatever its settings were built
from and whatever it was called with, the greatest scale is finite, the least distance is
positive, and the view is in the range of the settings. -/
theorem reached_view_inRange (changes : List (ZoomSettings.Change Binary64)) (id : Nat)
    (calls : List (Call Binary64 η)) :
    let settings := ZoomSettings.ofChanges changes
    let v := (create id settings : Viewport Binary64 η).run calls
    v.settings = settings ∧
      Scalar.isFinite v.view.distance = true ∧
      settings.minDistance ≤ v.view.distance ∧
      Scalar.zero < settings.minDistance ∧
      v.view.scale = settings.scaleFactor / v.view.distance ∧
      v.view.scale ≤ settings.maxScale ∧
      Scalar.isFinite settings.maxScale = true ∧
      v.view.offset.isFinite = true ∧
      ∀ a, v.view.drag.anchor? = some a →
        a.offset.isFinite = true ∧ a.position.isFinite = true := by
  intro settings v
  have hs : settings.Sound := ZoomSettings.ofChanges_sound changes
  have hstart : (create id settings : Viewport Binary64 η).view.InRange settings :=
    View.initial_inRange hs
  obtain ⟨hsettings, hview⟩ := run_inRange (v := create id settings) hs hstart calls
  exact ⟨hsettings, hview.distance_finite, hview.minDistance_le, hs.minDistance_positive.2,
    hview.scale_eq, hview.scale_le, hs.maxScale_finite, hview.offset_finite, hview.anchor_finite⟩

end Viewport

end PanZoom
