import PanZoom.Proofs.Scene.Rewiring

/-!
# Viewports over time

A viewport of a scene stays in its place, its view changes with calls to it only, and it numbers
its subscriptions upwards. Scenes that are made from nothing are orderly.
-/

namespace PanZoom

namespace Scene

variable {α : Type} [Scalar α]

/-- Where a viewport comes from that is in the scene after an action. -/
inductive Origin (s : Scene α) (j : Nat) (action : Action α) (v' : Viewport α Handler) : Prop
  /-- It was there. -/
  | same
      (was : s.viewports[j]? = some v')
  /-- It was there with other handlers. -/
  | rewired (v : Viewport α Handler)
      (was : s.viewports[j]? = some v)
      (id : v'.id = v.id)
      (orderly : v.Orderly → v'.Orderly)
      (view : v'.view = v.view)
  /-- It was called. -/
  | called (v : Viewport α Handler) (call : Viewport.Call α Nat)
      (was : s.viewports[j]? = some v)
      (asked : action = .call j call)
      (performed : v' = (v.perform (userCall call)).viewport)
  /-- It was made. -/
  | made (settings : ZoomSettings α)
      (number : j = s.viewports.length)
      (fresh : v' = Viewport.create j settings)

omit [Scalar α] in
theorem mem_setViewport {s : Scene α} {j k : Nat} {v v' : Viewport α Handler}
    (h : (s.setViewport k v).viewports[j]? = some v') :
    j = k ∧ v' = v ∨ s.viewports[j]? = some v' := by
  simp only [setViewport, List.getElem?_set] at h
  split at h
  · rename_i hk
    split at h
    · exact .inl ⟨hk.symm, (Option.some.inj h).symm⟩
    · cases h
  · exact .inr h

theorem rewire_origin {s : Scene α} {i j k : Nat} {action : Action α} {v v' : Viewport α Handler}
    (w : Grid.Wiring α) (hk : s.viewports[k]? = some v)
    (h : (s.rewire i k w).scene.viewports[j]? = some v')
    (hid : w.viewport.id = v.id) (horderly : v.Orderly → w.viewport.Orderly)
    (hview : w.viewport.view = v.view) : Origin s j action v' := by
  rcases mem_setViewport (s := s.setLayer i w.layer) h with ⟨rfl, rfl⟩ | hsame
  · exact .rewired v hk hid horderly hview
  · exact .same hsame

/-- **Viewports come from somewhere.** Only a call changes the view of a viewport. -/
theorem step_origin {s : Scene α} {action : Action α} {j : Nat} {v' : Viewport α Handler}
    (h : (s.step action).scene.viewports[j]? = some v') : Origin s j action v' := by
  cases action with
  | addViewport settings =>
      rcases getElem?_added s.viewports (Viewport.create s.viewports.length settings) j with
        hsame | ⟨hlength, _, hnew⟩
      · exact .same (hsame.symm.trans h)
      · refine .made settings hlength ?_
        rw [hlength]
        exact Option.some.inj (h.symm.trans hnew)
  | addLayer style => exact .same h
  | call k call =>
      cases hk : s.viewports[k]? with
      | none =>
          simp only [step, hk] at h
          exact .same h
      | some v =>
          rw [(step_call s hk call).1, deliverAll_viewports] at h
          rcases mem_setViewport h with ⟨rfl, hperformed⟩ | hsame
          · exact .called v call hk rfl hperformed
          · exact .same hsame
  | attach i k host =>
      rcases s.withBoth_cases i k (fun l v => s.rewire i k (l.attach i v host)) with
        habsent | ⟨l, v, _, hk, hboth⟩
      · rw [show s.step (.attach i k host) = _ from habsent] at h
        exact .same h
      · rw [show s.step (.attach i k host) = _ from hboth] at h
        refine rewire_origin _ hk h ?_ ?_ ?_
        · rw [l.attach_viewport]
          simp [l.clearedViewport_id]
        · exact fun hv => l.attach_orderly i hv host
        · rw [l.attach_viewport]
          simp [l.clearedViewport_view]
  | detach i k =>
      rcases s.withBoth_cases i k (fun l v => s.rewire i k (l.detach v)) with
        habsent | ⟨l, v, _, hk, hboth⟩
      · rw [show s.step (.detach i k) = _ from habsent] at h
        exact .same h
      · rw [show s.step (.detach i k) = _ from hboth] at h
        refine rewire_origin _ hk h ?_ ?_ ?_ <;> rw [l.detach_viewport]
        · exact l.clearedViewport_id v
        · exact l.clearedViewport_orderly
        · exact l.clearedViewport_view v
  | setStyle i style =>
      simp only [step] at h
      split at h <;> exact .same h
  | paint i k size =>
      simp only [step, withBoth] at h
      split at h <;> exact .same h

/-- No viewport is lost. -/
theorem step_viewport {s : Scene α} {j : Nat} {v : Viewport α Handler}
    (hj : s.viewports[j]? = some v) (action : Action α) :
    ∃ v', (s.step action).scene.viewports[j]? = some v' := by
  have hlt := (List.getElem?_eq_some_iff.mp hj).1
  -- viewports are replaced in place or added at the end
  have hlength : s.viewports.length ≤ (s.step action).scene.viewports.length := by
    cases action with
    | addViewport settings => simp [step, silent]
    | addLayer style => exact Nat.le_refl _
    | call k call =>
        cases hk : s.viewports[k]? with
        | none => simp [step, hk, silent]
        | some v => simp [(step_call s hk call).1, deliverAll_viewports, setViewport]
    | attach i k host =>
        simp only [step, withBoth]
        split <;> simp [rewire, setViewport, setLayer, silent]
    | detach i k =>
        simp only [step, withBoth]
        split <;> simp [rewire, setViewport, setLayer, silent]
    | setStyle i style =>
        simp only [step]
        split <;> exact Nat.le_refl _
    | paint i k size =>
        simp only [step, withBoth]
        split <;> exact Nat.le_refl _
  exact ⟨_, List.getElem?_eq_getElem (Nat.lt_of_lt_of_le hlt hlength)⟩

theorem step_orderly {s : Scene α} (h : s.Orderly) (action : Action α) :
    (s.step action).scene.Orderly := by
  intro j v' hj
  cases step_origin hj with
  | same was => exact h j v' was
  | rewired v was id orderly _ => exact ⟨id.trans (h j v was).1, orderly (h j v was).2⟩
  | called v call was _ performed =>
      rw [performed]
      refine ⟨?_, (h j v was).2.perform _⟩
      exact (Viewport.perform_id v _).trans (h j v was).1
  | made settings _ fresh =>
      rw [fresh]
      exact ⟨rfl, Viewport.create_orderly j settings⟩

theorem run_orderly {s : Scene α} (h : s.Orderly) (actions : List (Action α)) :
    (s.run actions).Orderly := by
  induction actions generalizing s with
  | nil => exact h
  | cons action rest ih => exact ih (step_orderly h action)

theorem run_nextIndex_le {s : Scene α} (h : s.Orderly) (actions : List (Action α)) (k : Nat) :
    s.switchboard.nextIndex k ≤ (s.run actions).switchboard.nextIndex k := by
  induction actions generalizing s with
  | nil => exact Nat.le_refl _
  | cons action rest ih =>
      exact Nat.le_trans (step_nextIndex_le h action k) (ih (step_orderly h action))

end Scene

end PanZoom
