import PanZoom.Proofs.View.Gestures
import PanZoom.Proofs.View.Handlers

/-!
# Pans forget their way

While a pan is in progress its anchor stays where it was set, and an accepted move computes the
offset anew, from the anchor, the position and the scale of the moment. So how far the content has
been panned depends on the last accepted move and on nothing before it: not on the moves that led
there, nor on those that were refused, nor on the zooms in between (`pan_path_independent`). No
error adds up, however long the pan.
-/

namespace PanZoom

variable {α η : Type}

/-- The offset of a view whose pan started at the anchor, after a move to a position at a scale. -/
def DragAnchor.target [Scalar α] (a : DragAnchor α) (position : Point α) (scale : α) : Vec2 α where
  x := a.offset.x + (position.x - a.position.x) * (Scalar.one / scale)
  y := a.offset.y + (position.y - a.position.y) * (Scalar.one / scale)

namespace Viewport

/-- The call, answered like this, leaves the pan in progress: it neither begins one anew nor ends
it. -/
def Call.keepsPan : Call α η → Reply α → Bool
  | .beginPan _, .begun (.ok _) => false
  | .endPan, _ | .reset, _ => false
  | .event _ _, .responded .panStarted | .event _ _, .responded .panEnded => false
  | _, _ => true

variable [Scalar α]

/-- Throughout the calls one pan stays in progress. -/
def Uninterrupted (v : Viewport α η) : List (Call α η) → Prop
  | [] => True
  | call :: rest =>
    call.keepsPan (v.perform call).result = true ∧ (v.perform call).viewport.Uninterrupted rest

instance decidableUninterrupted : (v : Viewport α η) → (calls : List (Call α η)) →
    Decidable (v.Uninterrupted calls)
  | _, [] => isTrue trivial
  | v, call :: rest =>
    have := decidableUninterrupted (v.perform call).viewport rest
    inferInstanceAs (Decidable (_ = true ∧ (v.perform call).viewport.Uninterrupted rest))

/-- Where a call moves the pan to, if the move is accepted, and the scale it is made at. -/
def move? (v : Viewport α η) (call : Call α η) : Option (Point α × α) :=
  match call, (v.perform call).result with
  | .updatePan position, .offset (.ok _) => some (position, v.view.scale)
  | .event _ (.move _ position), .responded (.panned _) => some (position, v.view.scale)
  | _, _ => none

/-- The accepted moves of a run, in order. -/
def moves (v : Viewport α η) : List (Call α η) → List (Point α × α)
  | [] => []
  | call :: rest => (v.move? call).toList ++ (v.perform call).viewport.moves rest

/-! ## One call -/

/-- What is left of a pan when a move was made or was not. -/
structure Carries (a : DragAnchor α) (v v' : Viewport α η) (move? : Option (Point α × α)) :
    Prop where
  anchor : v'.view.drag.anchor? = some a
  offset : v'.view.offset = move?.elim v.view.offset fun m => a.target m.1 m.2

namespace Carries

variable {a : DragAnchor α} {v v' : Viewport α η}

/-- What changes neither the drag nor the offset carries the pan on. -/
theorem of_view (h : v.view.drag.anchor? = some a) (hdrag : v'.view.drag = v.view.drag)
    (hoffset : v'.view.offset = v.view.offset) : Carries a v v' none :=
  ⟨(congrArg Drag.anchor? hdrag).trans h, hoffset⟩

theorem of_refused (h : v.view.drag.anchor? = some a) {β : Type}
    {o : Outcome α η (Except Rejection β)} {cause : Rejection} (refused : o.Refused v cause) :
    Carries a v o.viewport none := by
  rw [refused.viewport]
  exact .of_view h rfl rfl

theorem of_zoomed (h : v.view.drag.anchor? = some a) {distance : α}
    {o : Outcome α η (Except Rejection α)} (zoomed : Zoomed v distance o) :
    Carries a v o.viewport none := by
  rw [zoomed.viewport]
  exact .of_view h rfl rfl

end Carries

theorem updatePan_carries {v : Viewport α η} {a : DragAnchor α}
    (h : v.view.drag.anchor? = some a) (position : Point α) :
    (∃ cause, (v.updatePan position).result = .error cause ∧
        Carries a v (v.updatePan position).viewport none) ∨
      ∃ offset, (v.updatePan position).result = .ok offset ∧
        Carries a v (v.updatePan position).viewport (some (position, v.view.scale)) := by
  rcases v.updatePan_cases position with ⟨cause, refused⟩ | ⟨anchor, panned⟩
  · exact .inl ⟨cause, refused.result, .of_refused h refused⟩
  · -- the pan moves from its own anchor
    obtain rfl := Option.some.inj (h.symm.trans panned.anchored)
    refine .inr ⟨_, panned.result, ?_⟩
    rw [panned.viewport]
    exact ⟨h, rfl⟩

/-- An event that drags is carried out as a move. -/
theorem drag_carries {v : Viewport α η} {a : DragAnchor α} (h : v.view.drag.anchor? = some a)
    {g : GestureMap} {held : ButtonSet} (hheld : held.contains g.panButton = true)
    {position : Point α} {offset : Vec2 α}
    (answer : (g.handle v (.move held position)).result = .panned offset) :
    Carries a v (g.handle v (.move held position)).viewport (some (position, v.view.scale)) := by
  obtain ⟨hviewport, hresult, _⟩ := handle_eq_dispatch g v (.move held position)
  have hdispatch : g.dispatch v (.move held position) =
      (v.updatePan position).map (.ofResult .panned) := if_pos hheld
  rw [hdispatch] at hviewport hresult
  rcases updatePan_carries h position with ⟨cause, herror, _⟩ | ⟨_, _, carries⟩
  · -- a refused move is not answered as a pan
    have hrejected : (g.handle v (.move held position)).result = .rejected cause := by
      rw [hresult]
      show Response.ofResult _ (v.updatePan position).result = _
      rw [herror]
      rfl
    cases hrejected.symm.trans answer
  · rw [hviewport]
    exact carries

theorem move?_event {v : Viewport α η} {g : GestureMap} {event : PointerEvent α}
    (h : ∀ offset, (g.handle v event).result ≠ .panned offset) :
    v.move? (.event g event) = none := by
  unfold move?
  split
  · rename_i hcall _
    cases hcall
  · rename_i hresult
    exact absurd (Reply.responded.inj hresult) (h _)
  · rfl

/-- An event that leaves the pan in progress is nothing to it, or moves it like a call does. -/
theorem event_carries {v : Viewport α η} {a : DragAnchor α} (h : v.view.drag.anchor? = some a)
    {g : GestureMap} {event : PointerEvent α}
    (kept : Call.keepsPan (.event g event : Call α η) (.responded (g.handle v event).result) = true) :
    Carries a v (g.handle v event).viewport (v.move? (.event g event)) := by
  cases GestureMap.handle_handling g v event with
  | passive _ _ viewport _ answer =>
      rw [viewport, move?_event (fun _ hpanned => by rw [hpanned] at answer; cases answer)]
      exact .of_view h rfl rfl
  | zoomed _ _ _ viewport answer =>
      rw [move?_event (fun _ hpanned => by cases hpanned.symm.trans answer), viewport]
      exact .of_view h rfl rfl
  | panStarted _ _ _ _ answer =>
      rw [answer] at kept
      cases kept
  | panEnded _ _ _ answer =>
      rw [answer] at kept
      cases kept
  | panned offset dragged _ _ answer =>
      obtain ⟨held, position, rfl, hheld⟩ := GestureMap.drags_iff.mp dragged
      have hperform : (v.perform (.event g (.move held position))).result =
          .responded (.panned offset) := congrArg Reply.responded answer
      have hmove : v.move? (.event g (.move held position)) = some (position, v.view.scale) := by
        simp only [move?, hperform]
      rw [hmove]
      exact drag_carries h hheld answer

theorem perform_carries {v : Viewport α η} {a : DragAnchor α} (h : v.view.drag.anchor? = some a)
    {call : Call α η} (kept : call.keepsPan (v.perform call).result = true) :
    Carries a v (v.perform call).viewport (v.move? call) := by
  cases call with
  | scroll delta =>
      rcases v.scroll_cases delta with ⟨_, refused⟩ | ⟨_, zoomed⟩
      · exact .of_refused h refused
      · exact .of_zoomed h zoomed
  | setDistance distance =>
      rcases v.setDistance_cases distance with ⟨_, refused⟩ | zoomed
      · exact .of_refused h refused
      · exact .of_zoomed h zoomed
  | beginPan position =>
      rcases v.beginPan_cases position with ⟨_, refused⟩ | ⟨_, begun⟩
      · exact .of_refused h refused
      · have hbegun : (v.perform (.beginPan position)).result = .begun (.ok ()) :=
          congrArg Reply.begun begun.result
        rw [hbegun] at kept
        cases kept
  | updatePan position =>
      have hperform : (v.perform (.updatePan position)).result =
          .offset (v.updatePan position).result := rfl
      rcases updatePan_carries h position with ⟨_, hresult, carries⟩ | ⟨_, hresult, carries⟩
      · rw [hresult] at hperform
        simp only [move?, hperform]
        exact carries
      · rw [hresult] at hperform
        simp only [move?, hperform]
        exact carries
  | event g event => exact event_carries h kept
  | endPan => cases kept
  | reset => cases kept
  | subscribe topic handler =>
      have hview : (v.perform (.subscribe topic handler)).viewport.view = v.view :=
        subscribe_view v topic handler
      exact .of_view h (congrArg View.drag hview) (congrArg View.offset hview)
  | unsubscribe id =>
      have hview : (v.perform (.unsubscribe id)).viewport.view = v.view := unsubscribe_view v id
      exact .of_view h (congrArg View.drag hview) (congrArg View.offset hview)

/-! ## Runs -/

theorem run_carries {v : Viewport α η} {a : DragAnchor α} (h : v.view.drag.anchor? = some a)
    {calls : List (Call α η)} (kept : v.Uninterrupted calls) :
    Carries a v (v.run calls) (v.moves calls).getLast? := by
  induction calls generalizing v with
  | nil => exact ⟨h, rfl⟩
  | cons call rest ih =>
      obtain ⟨hcall, hrest⟩ := kept
      obtain ⟨hanchor, hoffset⟩ := perform_carries h hcall
      obtain ⟨hanchor', hoffset'⟩ := ih hanchor hrest
      refine ⟨hanchor', ?_⟩
      have hrun : v.run (call :: rest) = (v.perform call).viewport.run rest := rfl
      rw [hrun, hoffset', moves, List.getLast?_append]
      cases ((v.perform call).viewport.moves rest).getLast? with
      | some m => rfl
      | none =>
          -- no move later on, so the offset is as the first call left it
          rw [Option.none_or, Option.elim_none, hoffset]
          cases v.move? call <;> rfl

/-- **Pans forget their way.** From the start of a pan at a finite position, for as long as it
stays in progress, its anchor is what it was at the start; and the offset is the one at the start
until a move is accepted, and from then on what the last accepted move makes of the anchor at the
scale of that moment. -/
theorem pan_path_independent (v : Viewport α η) {start : Point α} (finite : start.isFinite = true)
    {calls : List (Call α η)} (kept : (v.beginPan start).viewport.Uninterrupted calls) :
    let begun := (v.beginPan start).viewport
    (v.beginPan start).result = .ok () ∧
      (begun.run calls).view.drag.anchor? = some { offset := v.view.offset, position := start } ∧
      (begun.run calls).view.offset =
        match (begun.moves calls).getLast? with
        | none => v.view.offset
        | some (position, scale) =>
          ⟨v.view.offset.x + (position.x - start.x) * (Scalar.one / scale),
            v.view.offset.y + (position.y - start.y) * (Scalar.one / scale)⟩ := by
  intro begun
  rcases v.beginPan_cases start with ⟨infinite, _⟩ | ⟨_, pan⟩
  · cases infinite.symm.trans finite
  · have hview : begun.view = { v.view with drag := v.view.drag.start v.view.offset start } :=
      congrArg Viewport.view pan.viewport
    have hanchor : begun.view.drag.anchor? = some { offset := v.view.offset, position := start } :=
      congrArg (·.drag.anchor?) hview
    obtain ⟨hkept, hoffset⟩ := run_carries hanchor kept
    refine ⟨pan.result, hkept, ?_⟩
    rw [hoffset]
    cases (begun.moves calls).getLast? with
    | none => rw [Option.elim_none, hview]
    | some m => rfl

/-- A pan is zoomed amid its moves; one move is too far at that scale, and to begin nowhere is
refused. -/
theorem path_forgotten_amid_zoom :
    let v : Viewport Binary64 Unit := .create 0 .default
    let point (x : Binary64) : Point Binary64 := ⟨x, Scalar.zero⟩
    let calls : List (Call Binary64 Unit) :=
      [.updatePan (point (Scalar.ofNat 7)), .setDistance (Scalar.ofNat 70),
        .subscribe .offset (), .event {} (.move .full (point (Scalar.ofNat 5))),
        .beginPan (point .nan), .setDistance (Scalar.ofNat 7000),
        .updatePan (point (.ofIndex false (Binary64.infinityIndex - 1))), .scroll .nan]
    let begun := (v.beginPan (point Scalar.one)).viewport
    (point Scalar.one).isFinite = true ∧ begun.Uninterrupted calls ∧
      begun.moves calls =
        [(point (Scalar.ofNat 7), Scalar.ofNat 70), (point (Scalar.ofNat 5), Scalar.one)] ∧
      (begun.run calls).view.offset = ⟨Scalar.ofNat 4, Scalar.zero⟩ := by
  intro v point calls begun
  have finite : (point Scalar.one).isFinite = true := by decide +kernel
  have kept : begun.Uninterrupted calls := by decide +kernel
  have moves : begun.moves calls =
      [(point (Scalar.ofNat 7), Scalar.ofNat 70), (point (Scalar.ofNat 5), Scalar.one)] := by
    decide +kernel
  obtain ⟨_, _, hoffset⟩ := pan_path_independent v finite kept
  refine ⟨finite, kept, moves, ?_⟩
  rw [hoffset, moves]
  decide +kernel

end Viewport

end PanZoom
