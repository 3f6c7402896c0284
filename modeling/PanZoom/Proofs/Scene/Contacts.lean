import PanZoom.Proofs.Scene.Continuity
import PanZoom.Proofs.View.Transparency

/-!
# Who calls which viewport

The viewports of a scene are reached by calls only: those of the user, and those of a layer that
removes its handlers from a viewport and registers new ones. `Scene.contacts` lists the calls of a
run with their answers, and `run_contacted` says that nothing but making viewports and calling them
in this order has happened to the viewports of the scene.
-/

namespace PanZoom

variable {α : Type}

namespace Grid.Layer

/-- The calls by which a layer gives up its handlers on a viewport, if it is attached there. -/
def removals (l : Layer α) (v : Viewport α Handler) : List (Viewport.Call α Handler) :=
  match l.attachment? with
  | some a => if a.belongsTo v then [.unsubscribe a.scaleId, .unsubscribe a.offsetId] else []
  | none => []

/-- The calls by which a layer registers its next handlers. -/
def registrations (l : Layer α) (self : Nat) (host : String) : List (Viewport.Call α Handler) :=
  [.subscribe .scale (.marker self (l.generation + 1) host),
    .subscribe .offset (.marker self (l.generation + 1) host)]

variable [Scalar α]

theorem clearedViewport_eq_run (l : Layer α) (v : Viewport α Handler) :
    l.clearedViewport v = v.run (l.removals v) := by
  unfold clearedViewport removals
  cases l.attachment? with
  | none => rfl
  | some a =>
      dsimp only
      split
      · rfl
      · rfl

theorem attach_eq_run (l : Layer α) (self : Nat) (v : Viewport α Handler) (host : String) :
    (l.attach self v host).viewport = v.run (l.removals v ++ l.registrations self host) := by
  rw [l.attach_viewport, clearedViewport_eq_run, Viewport.run, Viewport.run, List.foldl_append]
  rfl

theorem detach_eq_run (l : Layer α) (v : Viewport α Handler) :
    (l.detach v).viewport = v.run (l.removals v) :=
  (l.detach_viewport v).trans (l.clearedViewport_eq_run v)

end Grid.Layer

/-- A call of a viewport, with the answer. -/
structure Contact (α : Type) where
  /-- The number of the viewport. -/
  viewport : Nat
  exchange : Viewport.Exchange α Handler

variable [Scalar α]

/-- Viewports that were made and called with these contacts, in this order. -/
inductive Contacted : List (Viewport α Handler) → List (Contact α) → Prop
  | none : Contacted [] []
  | made {viewports past} (settings : ZoomSettings α) (before : Contacted viewports past) :
      Contacted (viewports ++ [Viewport.create viewports.length settings]) past
  | called {viewports past} {j : Nat} {v : Viewport α Handler} (call : Viewport.Call α Handler)
      (before : Contacted viewports past) (there : viewports[j]? = some v) :
      Contacted (viewports.set j (v.perform call).viewport)
        (past ++ [{
          viewport := j
          exchange := {
            call
            reply := (v.perform call).result
            notices := (v.perform call).notices } }])

namespace Contacted

theorem run {viewports : List (Viewport α Handler)} {past : List (Contact α)}
    (h : Contacted viewports past) {j : Nat} {v : Viewport α Handler}
    (there : viewports[j]? = some v) (calls : List (Viewport.Call α Handler)) :
    Contacted (viewports.set j (v.run calls)) (past ++ (v.transcript calls).map (Contact.mk j)) := by
  induction calls generalizing viewports past v with
  | nil =>
      obtain ⟨hlt, rfl⟩ := List.getElem?_eq_some_iff.mp there
      have hself : viewports.set j (viewports[j].run []) = viewports := List.set_getElem_self hlt
      rw [hself, Viewport.transcript, List.map_nil, List.append_nil]
      exact h
  | cons call rest ih =>
      have hlt := (List.getElem?_eq_some_iff.mp there).1
      have hrest := ih (h.called call there) (List.getElem?_set_self hlt)
      rw [List.set_set, List.append_assoc] at hrest
      exact hrest

end Contacted

namespace Scene

/-- The viewport that an action calls. -/
def Action.called? : Action α → Option Nat
  | .call j _ | .attach _ j _ | .detach _ j => some j
  | _ => none

/-- The calls that an action makes to the viewport that it is about. -/
def calls (s : Scene α) (v : Viewport α Handler) : Action α → List (Viewport.Call α Handler)
  | .call _ call => [userCall call]
  | .attach i _ host =>
    match s.layers[i]? with
    | some l => l.removals v ++ l.registrations i host
    | none => []
  | .detach i _ =>
    match s.layers[i]? with
    | some l => l.removals v
    | none => []
  | _ => []

/-- The contacts of one action. Where there is no viewport of that number, there are none. -/
def contactsOf (s : Scene α) (action : Action α) : List (Contact α) :=
  match action.called? with
  | none => []
  | some j =>
    match s.viewports[j]? with
    | none => []
    | some v => (v.transcript (s.calls v action)).map (Contact.mk j)

/-- The contacts of a run, in order. -/
def contacts (s : Scene α) : List (Action α) → List (Contact α)
  | [] => []
  | action :: rest => s.contactsOf action ++ (s.step action).scene.contacts rest

/-- An action that calls a viewport puts another one in its place, which is what the calls make of
it. -/
theorem contactsOf_contacted {s : Scene α} {past : List (Contact α)}
    (h : Contacted s.viewports past) {action : Action α} {j : Nat} {v : Viewport α Handler}
    (about : action.called? = some j) (there : s.viewports[j]? = some v)
    (viewports : (s.step action).scene.viewports = s.viewports.set j (v.run (s.calls v action))) :
    Contacted (s.step action).scene.viewports (past ++ s.contactsOf action) := by
  have hcontacts : s.contactsOf action = (v.transcript (s.calls v action)).map (Contact.mk j) := by
    simp only [contactsOf, about, there]
  rw [viewports, hcontacts]
  exact h.run there _

/-- An action without contacts leaves the viewports alone. -/
theorem contactsOf_untouched {s : Scene α} {past : List (Contact α)}
    (h : Contacted s.viewports past) {action : Action α} (nobody : s.contactsOf action = [])
    (viewports : (s.step action).scene.viewports = s.viewports) :
    Contacted (s.step action).scene.viewports (past ++ s.contactsOf action) := by
  rw [viewports, nobody, List.append_nil]
  exact h

/-- What is rewired is called, if both the layer and the viewport are there. -/
theorem rewire_contacted {s : Scene α} {past : List (Contact α)} (h : Contacted s.viewports past)
    {action : Action α} {i j : Nat} (wire : Grid.Layer α → Viewport α Handler → Grid.Wiring α)
    (about : action.called? = some j)
    (does : s.step action = s.withBoth i j fun l v => s.rewire i j (wire l v))
    (wired : ∀ l v, s.layers[i]? = some l → (wire l v).viewport = v.run (s.calls v action))
    (unwired : s.layers[i]? = none → ∀ v, s.calls v action = []) :
    Contacted (s.step action).scene.viewports (past ++ s.contactsOf action) := by
  cases hj : s.viewports[j]? with
  | none =>
      refine contactsOf_untouched h ?_ ?_
      · simp only [contactsOf, about, hj]
      · rw [does, withBoth, hj]
        cases s.layers[i]? <;> rfl
  | some v =>
      refine contactsOf_contacted h about hj ?_
      rw [does, withBoth, hj]
      cases hi : s.layers[i]? with
      | none =>
          obtain ⟨hlt, rfl⟩ := List.getElem?_eq_some_iff.mp hj
          rw [unwired hi]
          exact (List.set_getElem_self hlt).symm
      | some l => exact congrArg (s.viewports.set j) (wired l v hi)

theorem step_contacted {s : Scene α} {past : List (Contact α)} (h : Contacted s.viewports past)
    (action : Action α) :
    Contacted (s.step action).scene.viewports (past ++ s.contactsOf action) := by
  cases action with
  | addViewport settings =>
      have hnone : s.contactsOf (.addViewport settings) = [] := rfl
      rw [hnone, List.append_nil]
      exact h.made settings
  | addLayer style => exact contactsOf_untouched h rfl rfl
  | call j call =>
      cases hj : s.viewports[j]? with
      | none =>
          refine contactsOf_untouched h ?_ ?_
          · simp only [contactsOf, Action.called?, hj]
          · simp only [step, hj, silent]
      | some v =>
          refine contactsOf_contacted h rfl hj ?_
          rw [(step_call s hj call).1, deliverAll_viewports]
          rfl
  | attach i j host =>
      refine rewire_contacted h (fun l v => l.attach i v host) rfl rfl ?_ ?_
      · intro l v hi
        simp only [calls, hi]
        exact l.attach_eq_run i v host
      · intro hi v
        simp only [calls, hi]
  | detach i j =>
      refine rewire_contacted h (fun l v => l.detach v) rfl rfl ?_ ?_
      · intro l v hi
        simp only [calls, hi]
        exact l.detach_eq_run v
      · intro hi v
        simp only [calls, hi]
  | setStyle i style =>
      refine contactsOf_untouched h rfl ?_
      simp only [step]
      split <;> rfl
  | paint i j size =>
      refine contactsOf_untouched h rfl ?_
      simp only [step, withBoth]
      split <;> rfl

theorem contacts_contacted {s : Scene α} {past : List (Contact α)} (h : Contacted s.viewports past)
    (actions : List (Action α)) :
    Contacted (s.run actions).viewports (past ++ s.contacts actions) := by
  induction actions generalizing s past with
  | nil =>
      rw [contacts, List.append_nil]
      exact h
  | cons action rest ih =>
      rw [contacts, ← List.append_assoc]
      exact ih (step_contacted h action)

/-- **All that happens to viewports is that they are made and called.** -/
theorem run_contacted (actions : List (Action α)) :
    Contacted (empty.run actions).viewports (empty.contacts actions) :=
  contacts_contacted (s := empty) .none actions

end Scene

end PanZoom
