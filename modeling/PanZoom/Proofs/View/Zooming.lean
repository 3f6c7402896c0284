import PanZoom.Proofs.Scalar.Exact
import PanZoom.Proofs.View.Handlers

/-!
# Runs of zooms

A zoom sets the distance and the scale, and nothing else about a viewport depends on it, whether it
is granted or refused (`run_zooms`). What it sets them to is what the settings allow, so every
viewport that is reached is at the allowed distance nearest to some distance, and has the scale that
goes with it (`View.Settled`).

In exact arithmetic the settings keep the least distance above zero. Then the scale is above zero in
every viewport that is reached, and no zoom is refused (`zoom_exact`).
-/

namespace PanZoom

variable {α η : Type}

def Zoom.call : Zoom α → Viewport.Call α η
  | scroll delta => .scroll delta
  | setDistance distance => .setDistance distance

/-- The zoom of the view is the one that the settings give to some distance. -/
def View.Settled [Scalar α] (v : View α) (settings : ZoomSettings α) : Prop :=
  ∃ distance, v.distance = settings.clamp distance ∧ v.scale = settings.scaleAt distance

namespace Viewport

variable [Scalar α]

/-! ## What zooms leave alone -/

theorem perform_zoom (v : Viewport α η) (zoom : Zoom α) :
    v.perform zoom.call = (v.zoom zoom).map .scale := by
  cases zoom <;> rfl

theorem run_zoom (v : Viewport α η) (zoom : Zoom α) (rest : List (Call α η)) :
    v.run (zoom.call :: rest) = (v.zoom zoom).viewport.run rest := by
  have hrun : v.run (zoom.call :: rest) = (v.perform zoom.call).viewport.run rest := rfl
  rw [hrun, perform_zoom]
  rfl

theorem zoom_viewport (v : Viewport α η) (zoom : Zoom α) :
    ∃ distance scale,
      (v.zoom zoom).viewport = { v with view := { v.view with distance, scale } } := by
  cases v.zoom_answer zoom with
  | nonFinite _ refused => exact ⟨_, _, refused.viewport⟩
  | overflow _ _ refused => exact ⟨_, _, refused.viewport⟩
  | granted _ zoomed => exact ⟨_, _, zoomed.viewport⟩

/-- Any number of zooms, granted or refused, change nothing but the distance and the scale. -/
theorem run_zooms (v : Viewport α η) (zooms : List (Zoom α)) :
    ∃ distance scale,
      v.run (zooms.map Zoom.call) = { v with view := { v.view with distance, scale } } := by
  induction zooms generalizing v with
  | nil => exact ⟨_, _, rfl⟩
  | cons zoom rest ih =>
      obtain ⟨_, _, hfirst⟩ := v.zoom_viewport zoom
      obtain ⟨distance, scale, hrest⟩ := ih (v.zoom zoom).viewport
      refine ⟨distance, scale, ?_⟩
      rw [List.map_cons, run_zoom, hrest, hfirst]

/-! ## What calls do to the zoom -/

theorem create_settled (id : Nat) (settings : ZoomSettings α) :
    (create id settings : Viewport α η).view.Settled settings :=
  ⟨Scalar.one, rfl, rfl⟩

theorem perform_settled {v : Viewport α η} (h : v.view.Settled v.settings) (call : Call α η) :
    (v.perform call).viewport.view.Settled (v.perform call).viewport.settings := by
  rw [perform_settings]
  cases perform_effect v call with
  | none viewport =>
      rw [viewport]
      exact h
  | zoomed distance _ _ viewport =>
      rw [viewport]
      exact ⟨distance, rfl, rfl⟩
  | panBegun _ _ viewport =>
      rw [viewport]
      exact h
  | panned _ _ _ _ viewport =>
      rw [viewport]
      exact h
  | panEnded viewport =>
      rw [viewport]
      exact h
  | reset viewport =>
      rw [viewport]
      exact ⟨Scalar.one, rfl, rfl⟩
  | subscribed topic handler _ viewport =>
      rw [viewport, subscribe_view]
      exact h
  | unsubscribed id _ viewport =>
      rw [viewport, unsubscribe_view]
      exact h

theorem run_settled {v : Viewport α η} (h : v.view.Settled v.settings) (calls : List (Call α η)) :
    (v.run calls).view.Settled (v.run calls).settings :=
  run_invariant (P := fun u => u.view.Settled u.settings)
    (fun _ call hv => perform_settled hv call) h calls

end Viewport

/-! ## Exact arithmetic -/

namespace ZoomSettings

/-- Settings of which every allowed distance has a scale above zero. -/
structure Positive (s : ZoomSettings Rat) : Prop where
  scaleFactor : 0 < s.scaleFactor
  minDistance : 0 < s.minDistance

theorem default_positive : (default : ZoomSettings Rat).Positive := by
  constructor <;> decide +kernel

theorem Positive.apply {s : ZoomSettings Rat} (h : s.Positive) (change : Change Rat) :
    (s.apply change).Positive := by
  cases change with
  | scaleFactor x =>
      simp only [ZoomSettings.apply]
      split
      · rename_i allowed
        exact { h with scaleFactor := allowed.1.2 }
      · exact h
  | sensitivity x => exact ⟨h.scaleFactor, h.minDistance⟩
  | minDistance x =>
      simp only [ZoomSettings.apply]
      split
      · rename_i allowed
        exact { h with minDistance := allowed.1.2 }
      · exact h

theorem ofChanges_positive (changes : List (Change Rat)) : (ofChanges changes).Positive :=
  List.foldlRecOn changes _ default_positive fun _ h change _ => h.apply change

theorem clamp_exact (s : ZoomSettings Rat) (distance : Rat) :
    s.clamp distance = max distance s.minDistance := by
  rw [clamp, Exact.max_eq]

theorem scaleAt_exact (s : ZoomSettings Rat) (distance : Rat) :
    s.scaleAt distance = s.scaleFactor / max distance s.minDistance := by
  rw [scaleAt, clamp_exact]

theorem Positive.scaleAt_pos {s : ZoomSettings Rat} (h : s.Positive) (distance : Rat) :
    0 < s.scaleAt distance := by
  rw [scaleAt_exact]
  exact div_pos h.scaleFactor (lt_max_of_lt_right h.minDistance)

end ZoomSettings

namespace View

variable {v : View Rat} {s : ZoomSettings Rat}

theorem Settled.scale_pos (h : v.Settled s) (hs : s.Positive) : 0 < v.scale := by
  obtain ⟨distance, _, hscale⟩ := h
  rw [hscale]
  exact hs.scaleAt_pos distance

theorem Settled.minDistance_le (h : v.Settled s) : s.minDistance ≤ v.distance := by
  obtain ⟨distance, hdistance, _⟩ := h
  rw [hdistance, ZoomSettings.clamp_exact]
  exact le_max_right _ _

/-- A view that is at an allowed distance stays as it is when it is set to that distance. -/
theorem Settled.setDistance_self (h : v.Settled s) : v.setDistance s v.distance = v := by
  have hclamp : s.clamp v.distance = v.distance := by
    rw [ZoomSettings.clamp_exact, max_eq_left h.minDistance_le]
  obtain ⟨distance, hdistance, hscale⟩ := h
  obtain ⟨d, scale, offset, drag⟩ := v
  simp only at hdistance hscale hclamp
  rw [setDistance]
  simp only [hclamp]
  rw [hscale, ZoomSettings.scaleAt, hdistance]

end View

namespace Viewport

/-- In exact arithmetic no zoom is refused. -/
theorem zoom_exact {v : Viewport Rat η} (hs : v.settings.Positive) (zoom : Zoom Rat) :
    Zoomed v (zoom.target v) (v.zoom zoom) := by
  cases v.zoom_answer zoom with
  | nonFinite infinite => cases infinite
  | overflow _ outside =>
      have hnormal : Scalar.isNormal (v.settings.scaleAt (zoom.target v)) = true :=
        bne_iff_ne.mpr (Rat.num_ne_zero.mpr (hs.scaleAt_pos _).ne')
      exact absurd ⟨rfl, hnormal⟩ outside
  | granted _ zoomed => exact zoomed

theorem reached_exact (changes : List (ZoomSettings.Change Rat)) (id : Nat)
    (calls : List (Call Rat η)) :
    let v := (create id (.ofChanges changes) : Viewport Rat η).run calls
    v.settings.Positive ∧ v.view.Settled v.settings := by
  intro v
  have hsettings : v.settings = .ofChanges changes := run_settings _ calls
  refine ⟨?_, run_settled (create_settled id _) calls⟩
  rw [hsettings]
  exact ZoomSettings.ofChanges_positive changes

end Viewport

end PanZoom
