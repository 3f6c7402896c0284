import Mathlib.Algebra.Order.BigOperators.Group.List
import Mathlib.Algebra.Order.Group.MinMax
import Mathlib.Tactic.Linarith
import Mathlib.Tactic.Ring
import PanZoom.Proofs.View.Zooming

/-!
# Scrolling at once

Scrolling moves the distance by steps and stops it at the least distance. Steps that go the same way
can be made at once, in exact arithmetic: those away from the least distance are not stopped, and
for those towards it the stop comes to the same, early or late, since nothing is remembered of what
lay beyond it. All that has to be known of the view is that it is not below the least distance to
begin with. So a run of wheel movements in one direction is one movement by their sum
(`scrolls_coalesce`).
-/

namespace PanZoom

variable {η : Type}

/-- What matters about a distance is what it is clamped to. -/
theorem View.setDistance_congr {s : ZoomSettings Rat} (v : View Rat) {distance distance' : Rat}
    (h : s.clamp distance = s.clamp distance') :
    v.setDistance s distance = v.setDistance s distance' := by
  rw [setDistance, setDistance, h]

/-- Stopped before a step or after it, if the step goes towards the stop or starts short of it. -/
theorem ZoomSettings.clamp_sub (s : ZoomSettings Rat) {distance step : Rat}
    (h : 0 ≤ step ∨ s.minDistance ≤ distance) :
    s.clamp (s.clamp distance - step) = s.clamp (distance - step) := by
  rw [clamp_exact, clamp_exact, clamp_exact]
  rcases h with htowards | habove
  · have hpast : s.minDistance - step ≤ s.minDistance := by linarith
    rw [← max_sub_sub_right, max_assoc, max_eq_right hpast]
  · rw [max_eq_left habove]

namespace Viewport

variable {v : Viewport Rat η}

theorem scroll_viewport (hs : v.settings.Positive) (delta : Rat) :
    let distance := v.view.distance - delta * v.settings.sensitivity
    (v.scroll delta).viewport = { v with view := v.view.setDistance v.settings distance } :=
  (zoom_exact hs (.scroll delta)).viewport

theorem scroll_zero (hs : v.settings.Positive) (hv : v.view.Settled v.settings) :
    (v.scroll 0).viewport = v := by
  have hstay : v.view.distance - 0 * v.settings.sensitivity = v.view.distance := by ring
  rw [scroll_viewport hs, hstay, hv.setDistance_self]

/-- Two movements in the same direction are one by their sum. -/
theorem scroll_scroll (hs : v.settings.Positive) (hv : v.view.Settled v.settings) {δ ε : Rat}
    (h : 0 ≤ δ ∧ 0 ≤ ε ∨ δ ≤ 0 ∧ ε ≤ 0) :
    ((v.scroll δ).viewport.scroll ε).viewport = (v.scroll (δ + ε)).viewport := by
  have hmin := hv.minDistance_le
  -- with either sign of the sensitivity the second step goes towards the stop, or the first one
  -- goes away from it
  have hstop : 0 ≤ ε * v.settings.sensitivity ∨
      v.settings.minDistance ≤ v.view.distance - δ * v.settings.sensitivity := by
    rcases h with ⟨hδ, hε⟩ | ⟨hδ, hε⟩ <;> rcases le_total 0 v.settings.sensitivity with hk | hk
    · exact .inl (mul_nonneg hε hk)
    · have hfirst := mul_nonpos_of_nonneg_of_nonpos hδ hk
      exact .inr (by linarith)
    · have hfirst := mul_nonpos_of_nonpos_of_nonneg hδ hk
      exact .inr (by linarith)
    · exact .inl (mul_nonneg_of_nonpos_of_nonpos hε hk)
  have hsum : v.view.distance - (δ + ε) * v.settings.sensitivity =
      v.view.distance - δ * v.settings.sensitivity - ε * v.settings.sensitivity := by ring
  rw [scroll_viewport hs (δ + ε), hsum, ← View.setDistance_congr _ (v.settings.clamp_sub hstop)]
  have hsettings : (v.scroll δ).viewport.settings.Positive := by
    rw [scroll_viewport hs]
    exact hs
  rw [scroll_viewport hsettings, scroll_viewport hs]
  rfl

theorem run_scrolls (hs : v.settings.Positive) (hv : v.view.Settled v.settings) {deltas : List Rat}
    (oneWay : (∀ δ ∈ deltas, 0 ≤ δ) ∨ ∀ δ ∈ deltas, δ ≤ 0) :
    v.run (deltas.map .scroll) = (v.scroll deltas.sum).viewport := by
  induction deltas generalizing v with
  | nil => exact (scroll_zero hs hv).symm
  | cons δ rest ih =>
      have hrest : (∀ δ ∈ rest, 0 ≤ δ) ∨ ∀ δ ∈ rest, δ ≤ 0 :=
        oneWay.imp (fun h ε hε => h ε (.tail _ hε)) (fun h ε hε => h ε (.tail _ hε))
      have hsame : 0 ≤ δ ∧ 0 ≤ rest.sum ∨ δ ≤ 0 ∧ rest.sum ≤ 0 := by
        rcases oneWay with h | h
        · exact .inl ⟨h δ (.head _), List.sum_nonneg fun ε hε => h ε (.tail _ hε)⟩
        · have hsum : rest.sum ≤ 0 :=
            (List.sum_le_card_nsmul rest 0 fun ε hε => h ε (.tail _ hε)).trans_eq (nsmul_zero _)
          exact .inr ⟨h δ (.head _), hsum⟩
      have hsettings := perform_settings v (.scroll δ)
      rw [List.sum_cons, ← scroll_scroll hs hv hsame]
      rw [← hsettings] at hs
      exact ih hs (perform_settled hv (.scroll δ)) hrest

/-- **Wheel movements in one direction coalesce.** Made one by one in a viewport that is reached,
whatever its sensitivity, they leave the viewport as one movement by their sum does; and that one is
granted, and goes as far as the sum takes it or to the least distance. -/
theorem scrolls_coalesce (changes : List (ZoomSettings.Change Rat)) (id : Nat)
    (calls : List (Call Rat η)) {deltas : List Rat}
    (oneWay : (∀ δ ∈ deltas, 0 ≤ δ) ∨ ∀ δ ∈ deltas, δ ≤ 0) :
    let v := (create id (.ofChanges changes) : Viewport Rat η).run calls
    let w := v.run (deltas.map .scroll)
    (v.scroll deltas.sum).result = .ok w.view.scale ∧ (v.scroll deltas.sum).viewport = w ∧
      w.view.distance =
        max (v.view.distance - deltas.sum * v.settings.sensitivity) v.settings.minDistance ∧
      w.view.scale = v.settings.scaleFactor / w.view.distance := by
  intro v w
  obtain ⟨hs, hv⟩ := reached_exact (η := η) changes id calls
  have hrun : w = (v.scroll deltas.sum).viewport := run_scrolls hs hv oneWay
  have hresult : (v.scroll deltas.sum).result = .ok (v.scroll deltas.sum).viewport.view.scale :=
    (zoom_exact hs (.scroll deltas.sum)).result
  rw [hrun]
  refine ⟨hresult, rfl, ?_⟩
  rw [scroll_viewport hs]
  exact ⟨ZoomSettings.clamp_exact _ _, rfl⟩

/-- With the wheel turned around, the second of four movements reaches the least distance. -/
theorem coalesced_at_least_distance :
    let changes : List (ZoomSettings.Change Rat) := [.sensitivity (-1 / 100), .minDistance (1 / 2)]
    let v : Viewport Rat Unit := (create 0 (.ofChanges changes)).run [.setDistance 3]
    let deltas : List Rat := [-120, -200, -5, 0]
    let w := v.run (deltas.map .scroll)
    ((∀ δ ∈ deltas, 0 ≤ δ) ∨ ∀ δ ∈ deltas, δ ≤ 0) ∧
      (v.run [.scroll (-120)]).view.distance = 9 / 5 ∧
      (v.run [.scroll (-120), .scroll (-200)]).view.distance = 1 / 2 ∧
      (v.scroll (-325)).viewport = w ∧ w.view.distance = 1 / 2 ∧ w.view.scale = 140 := by
  intro changes v deltas w
  have oneWay : (∀ δ ∈ deltas, 0 ≤ δ) ∨ ∀ δ ∈ deltas, δ ≤ 0 := .inr (by decide +kernel)
  have hsum : deltas.sum = -325 := by decide +kernel
  obtain ⟨_, hviewport, _, _⟩ := scrolls_coalesce (η := Unit) changes 0 [.setDistance 3] oneWay
  rw [hsum] at hviewport
  exact ⟨oneWay, by decide +kernel, by decide +kernel, hviewport, by decide +kernel,
    by decide +kernel⟩

end Viewport

end PanZoom
