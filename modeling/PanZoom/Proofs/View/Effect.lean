import PanZoom.Proofs.View.Operations
import PanZoom.View.Calls

/-!
# What calls do to a viewport

`Viewport.Effect` lists the ways in which a call can change a viewport, one constructor for each,
with the notices that go with it and with what the answer says. `perform_effect` says that nothing
else can happen. What a viewport keeps along a run is derived from these cases, and `perform` is
not opened again.
-/

namespace PanZoom

variable {α η : Type}

/-- The present value of what a topic is about. -/
def View.current (v : View α) : Topic → Change α
  | .scale => .scale v.scale
  | .offset => .offset v.offset

/-- The view with zoom and offset set back and without a drag. -/
def View.restored [Scalar α] (v : View α) (settings : ZoomSettings α) : View α :=
  View.setDistance { v with drag := Drag.idle, offset := Vec2.zero } settings Scalar.one

namespace Viewport

/-- The answer says that a change of the topic was accepted: a zoom or a pan, asked for directly
or through an event, or a reset, which is both. -/
def Reply.accepts : Reply α → Topic → Bool
  | .scale (.ok _), .scale | .responded (.zoomed _), .scale => true
  | .offset (.ok _), .offset | .responded (.panned _), .offset => true
  | .done, _ => true
  | _, _ => false

/-- The end of a pan changes neither zoom nor offset. -/
theorem panFinished_accepts (ended : Bool) (t : Topic) :
    (Reply.responded (GestureMap.panFinished ended : Response α)).accepts t = false := by
  cases ended <;> cases t <;> rfl

variable [Scalar α]

/-- What a call can do to a viewport. -/
inductive Effect (v : Viewport α η) (call : Call α η) (o : Outcome α η (Reply α)) : Prop
  /-- Nothing changes. -/
  | none
      (viewport : o.viewport = v)
      (notices : o.notices = [])
      (answer : ∀ t, o.result.accepts t = false)
  /-- The zoom changes. -/
  | zoomed (distance : α)
      (finite : Scalar.isFinite distance = true)
      (normal : Scalar.isNormal (v.settings.scaleAt distance) = true)
      (viewport : o.viewport = { v with view := v.view.setDistance v.settings distance })
      (notices : o.notices = v.onScale.notify (.scale o.viewport.view.scale))
      (answer : ∀ t, o.result.accepts t = decide (t = .scale))
  /-- A pan begins, or begins anew. -/
  | panBegun (position : Point α)
      (finite : position.isFinite = true)
      (viewport : o.viewport =
        { v with view := { v.view with drag := v.view.drag.start v.view.offset position } })
      (notices : o.notices = [])
      (answer : ∀ t, o.result.accepts t = false)
  /-- The pan in progress moves. -/
  | panned (anchor : DragAnchor α) (position : Point α)
      (anchored : v.view.drag.anchor? = some anchor)
      (finite : (v.panTarget anchor position).isFinite = true)
      (viewport : o.viewport =
        { v with view := { v.view with offset := v.panTarget anchor position } })
      (notices : o.notices = v.onOffset.notify (.offset o.viewport.view.offset))
      (answer : ∀ t, o.result.accepts t = decide (t = .offset))
  /-- No pan is in progress any more. -/
  | panEnded
      (viewport : o.viewport = { v with view := { v.view with drag := Drag.idle } })
      (notices : o.notices = [])
      (answer : ∀ t, o.result.accepts t = false)
  /-- Zoom and offset are set back. -/
  | reset
      (viewport : o.viewport = { v with view := v.view.restored v.settings })
      (notices : o.notices = v.onScale.notify (.scale o.viewport.view.scale) ++
        v.onOffset.notify (.offset o.viewport.view.offset))
      (answer : ∀ t, o.result.accepts t = true)
  /-- A handler is registered. -/
  | subscribed (topic : Topic) (handler : η)
      (asked : call = .subscribe topic handler)
      (viewport : o.viewport = (v.subscribe topic handler).1)
      (result : o.result = .subscribed (v.subscribe topic handler).2)
      (notices : o.notices = [])
      (answer : ∀ t, o.result.accepts t = false)
  /-- A handler is removed, if it was registered. -/
  | unsubscribed (id : SubscriptionId)
      (asked : call = .unsubscribe id)
      (viewport : o.viewport = (v.unsubscribe id).viewport)
      (notices : o.notices = [])
      (answer : ∀ t, o.result.accepts t = false)

namespace Effect

variable {v : Viewport α η} {call : Call α η}

/-- What is put on record has no part in the effect. -/
theorem congr {o o' : Outcome α η (Reply α)} (h : Effect v call o)
    (hviewport : o'.viewport = o.viewport) (hresult : o'.result = o.result)
    (hnotices : o'.notices = o.notices) : Effect v call o' := by
  cases o
  cases o'
  simp only at hviewport hresult hnotices
  subst hviewport hresult hnotices
  cases h with
  | none viewport notices answer => exact .none viewport notices answer
  | zoomed distance finite normal viewport notices answer =>
      exact .zoomed distance finite normal viewport notices answer
  | panBegun position finite viewport notices answer =>
      exact .panBegun position finite viewport notices answer
  | panned anchor position anchored finite viewport notices answer =>
      exact .panned anchor position anchored finite viewport notices answer
  | panEnded viewport notices answer => exact .panEnded viewport notices answer
  | reset viewport notices answer => exact .reset viewport notices answer
  | subscribed topic handler asked viewport result notices answer =>
      exact .subscribed topic handler asked viewport result notices answer
  | unsubscribed id asked viewport notices answer =>
      exact .unsubscribed id asked viewport notices answer

end Effect

/-! ## The operations

Each operation is taken with a function `answer` that turns its result into the answer to a call,
since an operation that is asked for by an event is answered in other words. -/

section Operations

variable {v : Viewport α η} {call : Call α η}

/-- Refused input has no effect. -/
theorem Effect.of_refused {β : Type} {o : Outcome α η (Except Rejection β)}
    {cause : Rejection} (refused : o.Refused v cause) (answer : Except Rejection β → Reply α)
    (herror : ∀ cause t, (answer (.error cause)).accepts t = false) :
    Effect v call (o.map answer) := by
  refine .none refused.viewport refused.notices fun t => ?_
  show (answer o.result).accepts t = false
  rw [refused.result, herror]

theorem Effect.of_zoomed {distance : α} {o : Outcome α η (Except Rejection α)}
    (zoomed : Zoomed v distance o) (answer : Except Rejection α → Reply α)
    (hok : ∀ scale t, (answer (.ok scale)).accepts t = decide (t = .scale)) :
    Effect v call (o.map answer) := by
  refine .zoomed distance zoomed.finite zoomed.normal zoomed.viewport zoomed.notices fun t => ?_
  show (answer o.result).accepts t = _
  rw [zoomed.result, hok]

theorem scroll_effect (answer : Except Rejection α → Reply α) (delta : α)
    (hok : ∀ scale t, (answer (.ok scale)).accepts t = decide (t = .scale))
    (herror : ∀ cause t, (answer (.error cause)).accepts t = false) :
    Effect v call ((v.scroll delta).map answer) := by
  rcases v.scroll_cases delta with ⟨_, refused⟩ | ⟨_, zoomed⟩
  · exact .of_refused refused answer herror
  · exact .of_zoomed zoomed answer hok

theorem setDistance_effect (answer : Except Rejection α → Reply α) (distance : α)
    (hok : ∀ scale t, (answer (.ok scale)).accepts t = decide (t = .scale))
    (herror : ∀ cause t, (answer (.error cause)).accepts t = false) :
    Effect v call ((v.setDistance distance).map answer) := by
  rcases v.setDistance_cases distance with ⟨_, refused⟩ | zoomed
  · exact .of_refused refused answer herror
  · exact .of_zoomed zoomed answer hok

theorem beginPan_effect (answer : Except Rejection Unit → Reply α) (position : Point α)
    (hanswer : ∀ result t, (answer result).accepts t = false) :
    Effect v call ((v.beginPan position).map answer) := by
  rcases v.beginPan_cases position with ⟨_, refused⟩ | ⟨finite, begun⟩
  · exact .of_refused refused answer fun cause => hanswer (.error cause)
  · exact .panBegun position finite begun.viewport begun.notices (fun t => hanswer _ t)

theorem updatePan_effect (answer : Except Rejection (Vec2 α) → Reply α) (position : Point α)
    (hok : ∀ offset t, (answer (.ok offset)).accepts t = decide (t = .offset))
    (herror : ∀ cause t, (answer (.error cause)).accepts t = false) :
    Effect v call ((v.updatePan position).map answer) := by
  rcases v.updatePan_cases position with ⟨_, refused⟩ | ⟨anchor, panned⟩
  · exact .of_refused refused answer herror
  · refine .panned anchor position panned.anchored panned.finite panned.viewport panned.notices
      fun t => ?_
    show (answer (v.updatePan position).result).accepts t = _
    rw [panned.result, hok]

theorem endPan_effect (answer : Bool → Reply α)
    (hanswer : ∀ ended t, (answer ended).accepts t = false) :
    Effect v call (v.endPan.map answer) := by
  obtain ⟨viewport, _, notices⟩ := endPan_eq v
  exact .panEnded viewport notices (fun t => hanswer _ t)

/-- Whether a released button goes on record or not, the pan is over. -/
theorem noted_endPan_effect (answer : Bool → Reply α) (record : ViewportRecord α)
    (hanswer : ∀ ended t, (answer ended).accepts t = false) :
    Effect v call ((if v.endPan.result then v.endPan.note record else v.endPan).map answer) := by
  have h : Effect v call (v.endPan.map answer) := endPan_effect answer hanswer
  split
  · exact h.congr rfl rfl rfl
  · exact h

omit [Scalar α] in
/-- Removing a handler tells nobody. -/
theorem unsubscribe_notices (v : Viewport α η) (id : SubscriptionId) :
    (v.unsubscribe id).notices = [] := by
  unfold unsubscribe
  split
  · split
    · rfl
    · split <;> rfl
  · rfl

end Operations

/-! ## Events -/

/-- Putting a refused event on record changes neither viewport nor answer. -/
theorem handle_eq_dispatch (g : GestureMap) (v : Viewport α η) (event : PointerEvent α) :
    (g.handle v event).viewport = (g.dispatch v event).viewport ∧
      (g.handle v event).result = (g.dispatch v event).result ∧
      (g.handle v event).notices = (g.dispatch v event).notices := by
  unfold GestureMap.handle
  dsimp only
  split <;> exact ⟨rfl, rfl, rfl⟩

theorem dispatch_effect (g : GestureMap) (v : Viewport α η) (call : Call α η)
    (event : PointerEvent α) : Effect v call ((g.dispatch v event).map .responded) := by
  cases event with
  | wheel delta =>
      -- an accepted zoom is answered as a zoom, so the answers of both routes accept alike
      exact scroll_effect (fun r => .responded (.ofResult .zoomed r)) delta
        (fun _ t => by cases t <;> rfl) (fun _ t => by cases t <;> rfl)
  | down button position =>
      simp only [GestureMap.dispatch]
      split
      · exact beginPan_effect (fun r => .responded (.ofResult (fun _ => .panStarted) r))
          position (fun r t => by cases r <;> cases t <;> rfl)
      · exact .none rfl rfl (fun t => by cases t <;> rfl)
  | move held position =>
      simp only [GestureMap.dispatch]
      split
      · exact updatePan_effect (fun r => .responded (.ofResult .panned r)) position
          (fun _ t => by cases t <;> rfl) (fun _ t => by cases t <;> rfl)
      · exact noted_endPan_effect (fun r => .responded (GestureMap.panFinished r))
          .panButtonReleased panFinished_accepts
  | up button position =>
      simp only [GestureMap.dispatch]
      split
      · exact endPan_effect (fun r => .responded (GestureMap.panFinished r))
          panFinished_accepts
      · split
        · split
          · exact .none rfl rfl (fun t => by cases t <;> rfl)
          · exact .none rfl rfl (fun t => by cases t <;> rfl)
        · exact .none rfl rfl (fun t => by cases t <;> rfl)

/-! ## Calls -/

/-- **Nothing else can happen.** A call has one of the listed effects. -/
theorem perform_effect (v : Viewport α η) (call : Call α η) :
    Effect v call (v.perform call) := by
  cases call with
  | scroll delta =>
      exact scroll_effect .scale delta (fun _ t => by cases t <;> rfl) (fun _ t => by cases t <;> rfl)
  | setDistance distance =>
      exact setDistance_effect .scale distance (fun _ t => by cases t <;> rfl)
        (fun _ t => by cases t <;> rfl)
  | beginPan position =>
      exact beginPan_effect .begun position (fun _ t => by cases t <;> rfl)
  | updatePan position =>
      exact updatePan_effect .offset position (fun _ t => by cases t <;> rfl)
        (fun _ t => by cases t <;> rfl)
  | endPan => exact endPan_effect .found (fun _ t => by cases t <;> rfl)
  | reset => exact .reset rfl rfl (fun t => by cases t <;> rfl)
  | subscribe topic handler =>
      exact .subscribed topic handler rfl rfl rfl rfl (fun t => by cases t <;> rfl)
  | unsubscribe id =>
      exact .unsubscribed id rfl rfl (unsubscribe_notices v id) (fun t => by cases t <;> rfl)
  | event gestures event =>
      obtain ⟨hviewport, hresult, hnotices⟩ := handle_eq_dispatch gestures v event
      exact (dispatch_effect gestures v _ event).congr hviewport
        (congrArg Reply.responded hresult) hnotices

/-- What every call keeps is kept by a run. -/
theorem run_invariant {P : Viewport α η → Prop}
    (step : ∀ v call, P v → P (v.perform call).viewport) {v : Viewport α η} (h : P v)
    (calls : List (Call α η)) : P (v.run calls) :=
  List.foldlRecOn calls _ h fun u hu call _ => step u call hu

end Viewport

end PanZoom
