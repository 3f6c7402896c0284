import Mathlib.Data.List.Basic
import Mathlib.Data.List.Induction
import PanZoom.Binary64.Arithmetic
import PanZoom.Proofs.View.Effect

/-!
# Gestures as an automaton

Whether a pan is in progress is an automaton with two states that reads nothing but the events:
pressing the pan button at a finite position takes it to one state, and releasing the button or
moving without it to the other (`GestureMap.panningAfter`). `GestureMap.Handling` lists what an
event can do to a viewport, with the response that goes with it, and `handle_handling` says that
nothing else can happen. From it follow the automaton and what each response tells of the change
(`refines_automaton`).
-/

namespace PanZoom

variable {α η : Type}

/-- The response tells that nothing was done to the viewport. -/
def Response.passive : Response α → Bool
  | .contextMenu _ | .ignored | .rejected _ => true
  | _ => false

namespace GestureMap

/-- The event presses the pan button where a pan can start. -/
def presses [Scalar α] (g : GestureMap) : PointerEvent α → Bool
  | .down button position => button = g.panButton ∧ position.isFinite
  | _ => false

/-- The event releases the pan button, or shows that the button was released before. -/
def releases (g : GestureMap) : PointerEvent α → Bool
  | .up button _ => button = g.panButton
  | .move held _ => !held.contains g.panButton
  | _ => false

/-- The event moves the pointer with the pan button held. -/
def drags (g : GestureMap) : PointerEvent α → Bool
  | .move held _ => held.contains g.panButton
  | _ => false

/-- Where the event asks for a menu. If one button is for both it pans. -/
def menuAt? [Scalar α] (g : GestureMap) : PointerEvent α → Option (Point α)
  | .up button position =>
    if some button = g.menuButton? ∧ button ≠ g.panButton ∧ position.isFinite then some position
    else none
  | _ => none

theorem drags_iff {g : GestureMap} {event : PointerEvent α} :
    g.drags event = true ↔
      ∃ held position, event = .move held position ∧ held.contains g.panButton = true := by
  cases event <;> simp [drags]

theorem releases_of_drags {g : GestureMap} {event : PointerEvent α} (h : g.drags event = true) :
    g.releases event = false := by
  obtain ⟨held, position, rfl, hheld⟩ := drags_iff.mp h
  simp [releases, hheld]

variable [Scalar α]

theorem presses_iff {g : GestureMap} {event : PointerEvent α} :
    g.presses event = true ↔
      ∃ position, event = .down g.panButton position ∧ position.isFinite = true := by
  cases event with
  | down button p =>
      simp only [presses, decide_eq_true_eq, PointerEvent.down.injEq]
      constructor
      · rintro ⟨hbutton, hfinite⟩
        exact ⟨p, ⟨hbutton, rfl⟩, hfinite⟩
      · rintro ⟨_, ⟨hbutton, rfl⟩, hfinite⟩
        exact ⟨hbutton, hfinite⟩
  | _ => simp [presses]

theorem presses_of_releases {g : GestureMap} {event : PointerEvent α}
    (h : g.releases event = true) : g.presses event = false := by
  cases event with
  | down => cases h
  | _ => rfl

theorem menuAt?_eq_some {g : GestureMap} {event : PointerEvent α} {position : Point α} :
    g.menuAt? event = some position ↔
      ∃ button, event = .up button position ∧ g.menuButton? = some button ∧
        button ≠ g.panButton ∧ position.isFinite = true := by
  cases event with
  | up button p =>
      simp only [menuAt?, Option.ite_none_right_eq_some, Option.some.injEq,
        PointerEvent.up.injEq]
      constructor
      · rintro ⟨⟨hmenu, hpan, hfinite⟩, rfl⟩
        exact ⟨button, ⟨rfl, rfl⟩, hmenu.symm, hpan, hfinite⟩
      · rintro ⟨_, ⟨rfl, rfl⟩, hmenu, hpan, hfinite⟩
        exact ⟨⟨hmenu.symm, hpan, hfinite⟩, rfl⟩
  | _ => simp [menuAt?]

/-- Whether a pan is in progress after an event. -/
def panningAfter (g : GestureMap) (panning : Bool) (event : PointerEvent α) : Bool :=
  g.presses event || panning && !g.releases event

/-- The viewport after a sequence of events. -/
def run (g : GestureMap) (v : Viewport α η) (events : List (PointerEvent α)) : Viewport α η :=
  v.run (events.map (.event g))

/-! ## One event -/

/-- What an event can do to a viewport. -/
inductive Handling (g : GestureMap) (v : Viewport α η) (event : PointerEvent α)
    (after : Viewport α η) (response : Response α) (notices : List (Notice α η)) : Prop
  /-- Nothing is done. -/
  | passive
      (unpressed : g.presses event = false)
      (unreleased : v.isPanning = true → g.releases event = false)
      (viewport : after = v)
      (silent : notices = [])
      (answer : response.passive = true)
      (menu : ∀ p, response = .contextMenu p ↔ g.menuAt? event = some p)
  /-- The wheel zooms. -/
  | zoomed (delta distance : α)
      (turned : event = .wheel delta)
      (viewport : after = { v with view := v.view.setDistance v.settings distance })
      (answer : response = .zoomed after.view.scale)
  /-- A pan starts, or starts anew. -/
  | panStarted (drag : Drag α)
      (pressed : g.presses event = true)
      (active : drag.isActive = true)
      (viewport : after = { v with view := { v.view with drag } })
      (answer : response = .panStarted)
  /-- The pan in progress moves. -/
  | panned (offset : Vec2 α)
      (dragged : g.drags event = true)
      (panning : v.isPanning = true)
      (viewport : after = { v with view := { v.view with offset } })
      (answer : response = .panned offset)
  /-- The pan in progress ends. -/
  | panEnded
      (released : g.releases event = true)
      (panning : v.isPanning = true)
      (viewport : after = { v with view := { v.view with drag := Drag.idle } })
      (answer : response = .panEnded)

namespace Handling

variable {g : GestureMap} {v : Viewport α η} {event : PointerEvent α}

/-- What an operation refuses is answered as rejected. -/
theorem of_refused {β : Type} {o : Outcome α η (Except Rejection β)} {cause : Rejection}
    (refused : o.Refused v cause) (accepted : β → Response α)
    (unpressed : g.presses event = false) (unreleased : g.releases event = false)
    (nomenu : g.menuAt? event = none) :
    Handling g v event o.viewport (.ofResult accepted o.result) o.notices := by
  rw [refused.viewport, refused.result, refused.notices]
  refine .passive unpressed (fun _ => unreleased) rfl rfl rfl ?_
  intro p
  simp [Response.ofResult, nomenu]

/-- Where a pan is released that is not in progress, the event is ignored. -/
theorem of_endPan (released : g.releases event = true) (unpressed : g.presses event = false)
    (nomenu : g.menuAt? event = none) :
    Handling g v event v.endPan.viewport (panFinished v.endPan.result) v.endPan.notices := by
  obtain ⟨hviewport, hresult, hnotices⟩ := Viewport.endPan_eq v
  rw [hresult]
  cases hpanning : v.isPanning with
  | true => exact .panEnded released hpanning hviewport rfl
  | false =>
      refine .passive unpressed ?_ (Viewport.endPan_viewport_of_idle hpanning) hnotices rfl ?_
      · intro h
        rw [hpanning] at h
        cases h
      · intro p
        simp [panFinished, nomenu]

/-- Nothing but asking for a menu is done where no button of the viewport is concerned. -/
theorem of_ignored (unpressed : g.presses event = false) (unreleased : g.releases event = false)
    (nomenu : g.menuAt? event = none) : Handling g v event v .ignored [] := by
  refine .passive unpressed (fun _ => unreleased) rfl rfl rfl ?_
  intro p
  simp [nomenu]

end Handling

theorem dispatch_up_handling (g : GestureMap) (v : Viewport α η) (button : Button)
    (position : Point α) :
    Handling g v (.up button position) (g.dispatch v (.up button position)).viewport
      (g.dispatch v (.up button position)).result (g.dispatch v (.up button position)).notices := by
  simp only [dispatch]
  by_cases hpan : button = g.panButton
  · rw [if_pos hpan]
    exact .of_endPan (by simp [releases, hpan]) rfl (by simp [menuAt?, hpan])
  · rw [if_neg hpan]
    have unreleased : g.releases (.up button position) = false := by simp [releases, hpan]
    by_cases hmenu : some button = g.menuButton?
    · rw [if_pos hmenu]
      cases hfinite : position.isFinite with
      | true =>
          refine .passive rfl (fun _ => unreleased) rfl rfl rfl ?_
          intro p
          simp [Outcome.silent, menuAt?, hmenu, hpan, hfinite]
      | false =>
          refine .passive rfl (fun _ => unreleased) rfl rfl rfl ?_
          intro p
          simp [Outcome.silent, menuAt?, hfinite]
    · rw [if_neg hmenu]
      exact .of_ignored rfl unreleased (by simp [menuAt?, hmenu])

/-- **Nothing else can happen.** An event does one of the listed things to a viewport. -/
theorem handle_handling (g : GestureMap) (v : Viewport α η) (event : PointerEvent α) :
    Handling g v event (g.handle v event).viewport (g.handle v event).result
      (g.handle v event).notices := by
  obtain ⟨hviewport, hresult, hnotices⟩ := Viewport.handle_eq_dispatch g v event
  rw [hviewport, hresult, hnotices]
  cases event with
  | wheel delta =>
      rcases v.scroll_cases delta with ⟨_, refused⟩ | ⟨distance, zoomed⟩
      · exact .of_refused refused .zoomed rfl rfl rfl
      · refine .zoomed delta distance rfl zoomed.viewport ?_
        show Response.ofResult _ (v.scroll delta).result = _
        rw [zoomed.result]
        rfl
  | down button position =>
      simp only [dispatch]
      by_cases hpan : button = g.panButton
      · rw [if_pos hpan]
        rcases v.beginPan_cases position with ⟨hinfinite, refused⟩ | ⟨hfinite, begun⟩
        · exact .of_refused refused (fun _ => .panStarted) (by simp [presses, hinfinite]) rfl rfl
        · refine .panStarted _ (by simp [presses, hpan, hfinite]) ?_ begun.viewport ?_
          · rfl
          · show Response.ofResult _ (v.beginPan position).result = _
            rw [begun.result]
            rfl
      · rw [if_neg hpan]
        exact .of_ignored (by simp [presses, hpan]) rfl rfl
  | move held position =>
      simp only [dispatch]
      cases hheld : held.contains g.panButton with
      | true =>
          rw [if_pos rfl]
          rcases v.updatePan_cases position with ⟨_, refused⟩ | ⟨anchor, panned⟩
          · exact .of_refused refused .panned rfl (by simp [releases, hheld]) rfl
          · refine .panned (v.panTarget anchor position) hheld ?_ panned.viewport ?_
            · simp [Viewport.isPanning, View.isPanning, Drag.isActive, panned.anchored]
            · show Response.ofResult _ (v.updatePan position).result = _
              rw [panned.result, panned.viewport]
              rfl
      | false =>
          rw [if_neg (by simp)]
          have h : Handling g v (.move held position) v.endPan.viewport
              (panFinished v.endPan.result) v.endPan.notices :=
            .of_endPan (by simp [releases, hheld]) rfl rfl
          split <;> exact h
  | up button position => exact dispatch_up_handling g v button position

/-- The pan in progress goes by the automaton. -/
theorem handle_isPanning (g : GestureMap) (v : Viewport α η) (event : PointerEvent α) :
    (g.handle v event).viewport.isPanning = g.panningAfter v.isPanning event := by
  cases handle_handling g v event with
  | passive unpressed unreleased viewport =>
      rw [viewport, panningAfter, unpressed, Bool.false_or]
      cases hpanning : v.isPanning with
      | false => rfl
      | true =>
          rw [unreleased hpanning]
          rfl
  | zoomed _ _ turned viewport =>
      rw [viewport, turned]
      simp [panningAfter, presses, releases, Viewport.isPanning, View.isPanning, View.setDistance]
  | panStarted drag pressed active viewport =>
      rw [viewport, panningAfter, pressed, Bool.true_or]
      exact active
  | panned offset dragged panning viewport =>
      rw [viewport, panningAfter, releases_of_drags dragged, panning, Bool.true_and, Bool.not_false,
        Bool.or_true]
      exact panning
  | panEnded released _ viewport =>
      rw [viewport, panningAfter, released, presses_of_releases released]
      simp [Viewport.isPanning, View.isPanning, Drag.idle, Drag.isActive]

/-! ## Responses -/

/-- The pan is answered as ended just where one was in progress and is no more. -/
theorem handle_panEnded (g : GestureMap) (v : Viewport α η) (event : PointerEvent α) :
    (g.handle v event).result = .panEnded ↔
      v.isPanning = true ∧ (g.handle v event).viewport.isPanning = false := by
  rw [handle_isPanning]
  cases handle_handling g v event with
  | passive unpressed unreleased _ _ answer =>
      constructor
      · intro hended
        rw [hended] at answer
        cases answer
      · rintro ⟨hpanning, hover⟩
        simp [panningAfter, hpanning, unreleased hpanning] at hover
  | zoomed _ _ turned _ answer =>
      rw [answer, turned]
      simp [panningAfter, presses, releases]
  | panStarted _ pressed _ _ answer => simp [answer, panningAfter, pressed]
  | panned _ dragged panning _ answer =>
      simp [answer, panningAfter, panning, releases_of_drags dragged]
  | panEnded released panning _ answer =>
      simp [answer, panning, panningAfter, released, presses_of_releases released]

/-- The offset changes only where it is answered. -/
theorem handle_offset (g : GestureMap) (v : Viewport α η) (event : PointerEvent α)
    (h : ∀ offset, (g.handle v event).result ≠ .panned offset) :
    (g.handle v event).viewport.view.offset = v.view.offset := by
  cases handle_handling g v event with
  | passive _ _ viewport => rw [viewport]
  | zoomed _ _ _ viewport => rw [viewport]; rfl
  | panStarted _ _ _ viewport => rw [viewport]
  | panned offset _ _ _ answer => exact absurd answer (h offset)
  | panEnded _ _ viewport => rw [viewport]

theorem handle_panned {g : GestureMap} {v : Viewport α η} {event : PointerEvent α} {offset : Vec2 α}
    (h : (g.handle v event).result = .panned offset) :
    g.drags event = true ∧ v.isPanning = true ∧
      (g.handle v event).viewport.view.offset = offset := by
  cases handle_handling g v event with
  | passive _ _ _ _ answer =>
      rw [h] at answer
      cases answer
  | panned offset' dragged panning viewport answer =>
      rw [h] at answer
      obtain rfl := Response.panned.inj answer
      exact ⟨dragged, panning, by rw [viewport]⟩
  | zoomed _ _ _ _ answer => cases h.symm.trans answer
  | panStarted _ _ _ _ answer => cases h.symm.trans answer
  | panEnded _ _ _ answer => cases h.symm.trans answer

/-- The zoom changes only where it is answered. -/
theorem handle_zoom (g : GestureMap) (v : Viewport α η) (event : PointerEvent α)
    (h : ∀ scale, (g.handle v event).result ≠ .zoomed scale) :
    (g.handle v event).viewport.view.distance = v.view.distance ∧
      (g.handle v event).viewport.view.scale = v.view.scale := by
  cases handle_handling g v event with
  | passive _ _ viewport => rw [viewport]; exact ⟨rfl, rfl⟩
  | zoomed _ _ _ _ answer => exact absurd answer (h _)
  | panStarted _ _ _ viewport => rw [viewport]; exact ⟨rfl, rfl⟩
  | panned _ _ _ viewport => rw [viewport]; exact ⟨rfl, rfl⟩
  | panEnded _ _ viewport => rw [viewport]; exact ⟨rfl, rfl⟩

theorem handle_zoomed {g : GestureMap} {v : Viewport α η} {event : PointerEvent α} {scale : α}
    (h : (g.handle v event).result = .zoomed scale) :
    (∃ delta, event = .wheel delta) ∧ (g.handle v event).viewport.view.scale = scale := by
  cases handle_handling g v event with
  | passive _ _ _ _ answer =>
      rw [h] at answer
      cases answer
  | zoomed delta _ turned _ answer =>
      exact ⟨⟨delta, turned⟩, (Response.zoomed.inj (h.symm.trans answer)).symm⟩
  | panStarted _ _ _ _ answer => cases h.symm.trans answer
  | panned _ _ _ _ answer => cases h.symm.trans answer
  | panEnded _ _ _ answer => cases h.symm.trans answer

/-- A menu is asked for just where its button is released. -/
theorem handle_contextMenu (g : GestureMap) (v : Viewport α η) (event : PointerEvent α)
    (position : Point α) :
    (g.handle v event).result = .contextMenu position ↔ g.menuAt? event = some position := by
  cases handle_handling g v event with
  | passive _ _ _ _ _ menu => exact menu position
  | zoomed _ _ turned _ answer =>
      rw [answer, turned]
      simp [menuAt?]
  | panStarted _ pressed _ _ answer =>
      cases event with
      | down => simp [answer, menuAt?]
      | _ => cases pressed
  | panned _ dragged _ _ answer =>
      cases event with
      | move => simp [answer, menuAt?]
      | _ => cases dragged
  | panEnded released _ _ answer =>
      cases event with
      | up button => simp_all [releases, menuAt?]
      | move => simp [answer, menuAt?]
      | _ => cases released

/-- Whatever is not answered as done to the viewport is not done. -/
theorem handle_passive {g : GestureMap} {v : Viewport α η} {event : PointerEvent α}
    (h : (g.handle v event).result.passive = true) :
    (g.handle v event).viewport = v ∧ (g.handle v event).notices = [] := by
  cases handle_handling g v event with
  | passive _ _ viewport silent => exact ⟨viewport, silent⟩
  | zoomed _ _ _ _ answer =>
      rw [answer] at h
      cases h
  | panStarted _ _ _ _ answer =>
      rw [answer] at h
      cases h
  | panned _ _ _ _ answer =>
      rw [answer] at h
      cases h
  | panEnded _ _ _ answer =>
      rw [answer] at h
      cases h

/-- What the response to an event tells of the change. -/
structure Telling (g : GestureMap) (v : Viewport α η) (event : PointerEvent α) : Prop where
  /-- The pan is answered as ended just where one was in progress and is no more. -/
  panEnded : (g.handle v event).result = .panEnded ↔
    v.isPanning = true ∧ (g.handle v event).viewport.isPanning = false
  /-- The offset changes only where it is answered, by a move that drags. -/
  offset_kept : (∀ offset, (g.handle v event).result ≠ .panned offset) →
    (g.handle v event).viewport.view.offset = v.view.offset
  panned : ∀ offset, (g.handle v event).result = .panned offset →
    (∃ held position, event = .move held position ∧ held.contains g.panButton = true) ∧
      v.isPanning = true ∧ (g.handle v event).viewport.view.offset = offset
  /-- The zoom changes only where it is answered, by the wheel. -/
  zoom_kept : (∀ scale, (g.handle v event).result ≠ .zoomed scale) →
    (g.handle v event).viewport.view.distance = v.view.distance ∧
      (g.handle v event).viewport.view.scale = v.view.scale
  zoomed : ∀ scale, (g.handle v event).result = .zoomed scale →
    (∃ delta, event = .wheel delta) ∧ (g.handle v event).viewport.view.scale = scale
  /-- A menu is asked for just where its button is released and is not the pan button. -/
  menu : ∀ position, (g.handle v event).result = .contextMenu position ↔
    ∃ button, event = .up button position ∧ g.menuButton? = some button ∧
      button ≠ g.panButton ∧ position.isFinite = true
  menu_kept : ∀ position, (g.handle v event).result = .contextMenu position →
    (g.handle v event).viewport = v

theorem handle_telling (g : GestureMap) (v : Viewport α η) (event : PointerEvent α) :
    Telling g v event where
  panEnded := handle_panEnded g v event
  offset_kept := handle_offset g v event
  panned := by
    intro offset h
    obtain ⟨hdrags, hpanning, hoffset⟩ := handle_panned h
    exact ⟨drags_iff.mp hdrags, hpanning, hoffset⟩
  zoom_kept := handle_zoom g v event
  zoomed := fun _ h => handle_zoomed h
  menu := fun position => (handle_contextMenu g v event position).trans menuAt?_eq_some
  menu_kept := by
    intro position h
    refine (handle_passive ?_).1
    rw [h]
    rfl

/-! ## Runs -/

theorem run_append (g : GestureMap) (v : Viewport α η) (events : List (PointerEvent α))
    (event : PointerEvent α) :
    g.run v (events ++ [event]) = (g.handle (g.run v events) event).viewport := by
  simp only [run, Viewport.run, List.map_append, List.foldl_append]
  rfl

/-- From the state without a pan, the automaton is in the other one just if the button was pressed
and not released since. -/
theorem run_isPanning (g : GestureMap) {v : Viewport α η} (hv : v.isPanning = false)
    (events : List (PointerEvent α)) :
    (g.run v events).isPanning = true ↔
      ∃ before press after, events = before ++ press :: after ∧ g.presses press = true ∧
        ∀ event ∈ after, g.releases event = false := by
  induction events using List.reverseRecOn with
  | nil =>
      have hrun : g.run v ([] : List (PointerEvent α)) = v := rfl
      rw [hrun, hv]
      simp
  | append_singleton events event ih =>
      rw [run_append, handle_isPanning, panningAfter, Bool.or_eq_true, Bool.and_eq_true, ih,
        Bool.not_eq_true']
      constructor
      · rintro (hpress | ⟨⟨before, press, after, rfl, hpress, hafter⟩, hkept⟩)
        · exact ⟨events, event, [], rfl, hpress, fun _ h => absurd h List.not_mem_nil⟩
        · refine ⟨before, press, after ++ [event], by simp, hpress, ?_⟩
          intro event' hmem
          rcases List.mem_append.mp hmem with hold | hlast
          · exact hafter event' hold
          · rw [List.mem_singleton.mp hlast]
            exact hkept
      · rintro ⟨before, press, after, hsplit, hpress, hafter⟩
        -- the press is the last event, or the last event comes after it
        rcases List.eq_nil_or_concat' after with rfl | ⟨earlier, last, rfl⟩
        · obtain ⟨_, hlast⟩ := List.append_inj' hsplit rfl
          obtain rfl := List.singleton_inj.mp hlast
          exact .inl hpress
        · rw [← List.cons_append, ← List.append_assoc] at hsplit
          obtain ⟨hevents, hlast⟩ := List.append_inj' hsplit rfl
          obtain rfl := List.singleton_inj.mp hlast
          refine .inr ⟨⟨before, press, earlier, hevents, hpress, ?_⟩, ?_⟩
          · exact fun e he => hafter e (List.mem_append_left _ he)
          · exact hafter event (List.mem_append_right _ List.mem_cons_self)

/-- **Events drive an automaton.** After any events that start without a pan, a pan is in progress
just if the pan button was pressed at a finite position and has not been released since, and the
responses on the way tell of all changes. -/
theorem run_refines_automaton (g : GestureMap) {v : Viewport α η} (hv : v.isPanning = false)
    (events : List (PointerEvent α)) :
    ((g.run v events).isPanning = true ↔
      ∃ before position after, events = before ++ .down g.panButton position :: after ∧
        position.isFinite = true ∧ ∀ event ∈ after, g.releases event = false) ∧
      ∀ before event after, events = before ++ event :: after →
        (g.run v (before ++ [event])) = (g.handle (g.run v before) event).viewport ∧
          Telling g (g.run v before) event := by
  refine ⟨?_, fun before event _ _ =>
    ⟨run_append g v before event, handle_telling g (g.run v before) event⟩⟩
  rw [run_isPanning g hv]
  constructor
  · rintro ⟨before, press, after, hsplit, hpress, hafter⟩
    obtain ⟨position, rfl, hfinite⟩ := presses_iff.mp hpress
    exact ⟨before, position, after, hsplit, hfinite, hafter⟩
  · rintro ⟨before, position, after, hsplit, hfinite, hafter⟩
    exact ⟨before, _, after, hsplit, presses_iff.mpr ⟨position, rfl, hfinite⟩, hafter⟩

/-- One button is for pans and menus, its release is missed, and it is pressed again in vain. -/
theorem automaton_after_missed_release :
    let g : GestureMap := { panButton := .secondary, menuButton? := some .secondary }
    let v : Viewport Binary64 Unit := .create 0 .default
    let origin : Point Binary64 := ⟨Scalar.zero, Scalar.zero⟩
    let events : List (PointerEvent Binary64) :=
      [.down .secondary origin, .wheel Scalar.one, .move .empty origin,
        .down .secondary ⟨.nan, Scalar.zero⟩, .up .secondary origin]
    v.isPanning = false ∧ (g.run v events).isPanning = false ∧
      ((g.run v events).isPanning = true ↔
        ∃ before position after, events = before ++ .down g.panButton position :: after ∧
          position.isFinite = true ∧ ∀ event ∈ after, g.releases event = false) ∧
      (g.handle (g.run v (events.take 2)) (.move .empty origin)).result = .panEnded := by
  intro g v origin events
  refine ⟨by decide, by decide +kernel, ?_, by decide +kernel⟩
  exact (run_refines_automaton g (by decide) events).1

end GestureMap

end PanZoom
