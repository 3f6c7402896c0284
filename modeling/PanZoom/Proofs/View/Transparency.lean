import PanZoom.Proofs.View.Gestures

/-!
# Calls that leave no trace

A call that refuses its input, and an event that is rejected, ignored or left to the host as a
request for a menu, does nothing to the viewport. So a run can be cut down to its other calls
(`Viewport.heeded`), and nobody can tell by the viewport at the end, by the answers to the calls
that are left, or by what handlers are told (`heeded_run`).
-/

namespace PanZoom

variable {α η : Type}

namespace Viewport

/-- The answer tells that nothing was done to the viewport: input was refused, or an event was not
for the viewport to act on. -/
def Reply.passive : Reply α → Bool
  | .scale (.error _) | .begun (.error _) | .offset (.error _) => true
  | .responded response => response.passive
  | _ => false

/-- A call of a run, its answer, and the notices that go with it. -/
structure Exchange (α η : Type) where
  call : Call α η
  reply : Reply α
  notices : List (Notice α η)

variable [Scalar α]

/-- What passes between a viewport and its callers along a run. -/
def transcript (v : Viewport α η) : List (Call α η) → List (Exchange α η)
  | [] => []
  | call :: rest =>
    { call, reply := (v.perform call).result, notices := (v.perform call).notices } ::
      (v.perform call).viewport.transcript rest

/-- The part of a transcript in which something is done. -/
def active (exchanges : List (Exchange α η)) : List (Exchange α η) :=
  exchanges.filter fun e => !e.reply.passive

/-- The calls of a run by which something is done. -/
def heeded (v : Viewport α η) (calls : List (Call α η)) : List (Call α η) :=
  (active (v.transcript calls)).map Exchange.call

/-! ## One call -/

theorem perform_passive {v : Viewport α η} {call : Call α η}
    (h : (v.perform call).result.passive = true) :
    (v.perform call).viewport = v ∧ (v.perform call).notices = [] := by
  cases call with
  | scroll delta =>
      rcases v.scroll_cases delta with ⟨_, refused⟩ | ⟨_, zoomed⟩
      · exact ⟨refused.viewport, refused.notices⟩
      · have haccepted : (v.perform (.scroll delta)).result = .scale (.ok _) :=
          congrArg Reply.scale zoomed.result
        rw [haccepted] at h
        cases h
  | setDistance distance =>
      rcases v.setDistance_cases distance with ⟨_, refused⟩ | zoomed
      · exact ⟨refused.viewport, refused.notices⟩
      · have haccepted : (v.perform (.setDistance distance)).result = .scale (.ok _) :=
          congrArg Reply.scale zoomed.result
        rw [haccepted] at h
        cases h
  | beginPan position =>
      rcases v.beginPan_cases position with ⟨_, refused⟩ | ⟨_, begun⟩
      · exact ⟨refused.viewport, refused.notices⟩
      · have haccepted : (v.perform (.beginPan position)).result = .begun (.ok ()) :=
          congrArg Reply.begun begun.result
        rw [haccepted] at h
        cases h
  | updatePan position =>
      rcases v.updatePan_cases position with ⟨_, refused⟩ | ⟨_, panned⟩
      · exact ⟨refused.viewport, refused.notices⟩
      · have haccepted : (v.perform (.updatePan position)).result = .offset (.ok _) :=
          congrArg Reply.offset panned.result
        rw [haccepted] at h
        cases h
  | event gestures event => exact GestureMap.handle_passive h
  -- the other calls are always answered by what was done
  | endPan => cases h
  | reset => cases h
  | subscribe topic handler => cases h
  | unsubscribe id => cases h

/-! ## Runs -/

theorem heeded_cons (v : Viewport α η) (call : Call α η) (rest : List (Call α η)) :
    v.heeded (call :: rest) =
      if (v.perform call).result.passive then v.heeded rest
      else call :: (v.perform call).viewport.heeded rest := by
  unfold heeded active
  rw [transcript]
  cases hpassive : (v.perform call).result.passive with
  | true =>
      rw [List.filter_cons_of_neg (by simp [hpassive]), (perform_passive hpassive).1]
      rfl
  | false =>
      rw [List.filter_cons_of_pos (by simp [hpassive])]
      rfl

/-- **Passive calls leave no trace.** A run without them ends in the same viewport, the calls that
are left get the same answers and give rise to the same notices, and handlers are told the same in
the same order. -/
theorem heeded_run (v : Viewport α η) (calls : List (Call α η)) :
    v.run (v.heeded calls) = v.run calls ∧
      v.transcript (v.heeded calls) = active (v.transcript calls) ∧
      (v.transcript (v.heeded calls)).flatMap Exchange.notices =
        (v.transcript calls).flatMap Exchange.notices := by
  induction calls generalizing v with
  | nil => exact ⟨rfl, rfl, rfl⟩
  | cons call rest ih =>
      obtain ⟨hrun, htranscript, hnotices⟩ := ih (v.perform call).viewport
      have hnext : v.run (call :: rest) = (v.perform call).viewport.run rest := rfl
      rw [heeded_cons, hnext, transcript, active]
      cases hpassive : (v.perform call).result.passive with
      | true =>
          -- the rest of the run starts from the same viewport
          obtain ⟨hsame, hsilent⟩ := perform_passive hpassive
          rw [hsame] at hrun htranscript hnotices ⊢
          rw [if_pos rfl, List.filter_cons_of_neg (by simp [hpassive]), List.flatMap_cons, hsilent,
            List.nil_append]
          exact ⟨hrun, htranscript, hnotices⟩
      | false =>
          rw [if_neg (by simp), List.filter_cons_of_pos (by simp [hpassive]), transcript,
            htranscript, List.flatMap_cons, List.flatMap_cons]
          rw [htranscript] at hnotices
          exact ⟨hrun, rfl, congrArg _ hnotices⟩

end Viewport

end PanZoom
