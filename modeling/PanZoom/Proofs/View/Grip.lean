import PanZoom.Proofs.View.Panning
import PanZoom.Proofs.View.Projection

/-!
# Content follows the pointer

A pan holds the content at the point where it was pressed. What it holds is one displacement, the
offset less the position in logical units (`DragAnchor.grip`): at a given scale it says where every
move leads to, and nothing else about the anchor matters. So a pan that starts anew where the last
move left the pointer goes on as if nothing had happened; and after a move at the scale of the press,
whatever the moves and the zooms before it, the pointer is over the point that was pressed
(`content_follows_pointer`).
-/

namespace PanZoom

/-! ## Grips -/

/-- What a pan that started at the anchor holds at a scale: the offset that a move to the origin of
the canvas leads to. -/
def DragAnchor.grip (a : DragAnchor Rat) (scale : Rat) : Vec2 Rat :=
  a.offset - a.position.toVec.unscale scale

namespace DragAnchor

theorem target_eq_grip (a : DragAnchor Rat) (position : Point Rat) (scale : Rat) :
    a.target position scale = a.grip scale + position.toVec.unscale scale := by
  have hcoordinate : ∀ o p q r : Rat, o + (q - p) * r = o - p * r + q * r := by
    intro o p q r
    ring
  exact congrArg₂ Vec2.mk (hcoordinate ..) (hcoordinate ..)

/-- With its own grip, a pan that did not move leads to where it started. -/
theorem offset_eq_grip (a : DragAnchor Rat) (scale : Rat) :
    a.offset = a.grip scale + a.position.toVec.unscale scale := by
  have hcoordinate : ∀ o p r : Rat, o = o - p * r + p * r := by
    intro o p r
    ring
  exact congrArg₂ Vec2.mk (hcoordinate ..) (hcoordinate ..)

/-- A pan that starts where a grip has led to has the same grip. -/
theorem grip_restarted (grip : Vec2 Rat) (position : Point Rat) (scale : Rat) :
    DragAnchor.grip ⟨grip + position.toVec.unscale scale, position⟩ scale = grip := by
  have hcoordinate : ∀ g p r : Rat, g + p * r - p * r = g := by
    intro g p r
    ring
  exact congrArg₂ Vec2.mk (hcoordinate ..) (hcoordinate ..)

end DragAnchor

namespace Viewport

variable {η : Type}

/-- In exact arithmetic no move of a pan in progress is refused. -/
theorem updatePan_exact {v : Viewport Rat η} {a : DragAnchor Rat}
    (h : v.view.drag.anchor? = some a) (position : Point Rat) :
    Panned v a position (v.updatePan position) :=
  updatePan_panned rfl h rfl

/-- A pan in progress with a certain grip at the present scale. -/
structure Grips (v : Viewport Rat η) (s : Rat) (grip : Vec2 Rat) : Prop where
  scale : v.view.scale = s
  anchor : ∃ a, v.view.drag.anchor? = some a ∧ a.grip s = grip

section Grips

variable {v : Viewport Rat η} {s : Rat} {grip : Vec2 Rat}

theorem Grips.updatePan (h : v.Grips s grip) (position : Point Rat) :
    (v.updatePan position).viewport.Grips s grip ∧
      (v.updatePan position).viewport.view.offset = grip + position.toVec.unscale s := by
  obtain ⟨rfl, a, hanchor, rfl⟩ := h
  have hpanned := updatePan_exact hanchor position
  rw [hpanned.viewport]
  exact ⟨⟨rfl, a, hanchor, rfl⟩, a.target_eq_grip position _⟩

/-- Where the last move left the pointer, a pan may start anew. -/
theorem Grips.beginPan (h : v.Grips s grip) {position : Point Rat}
    (hoffset : v.view.offset = grip + position.toVec.unscale s) :
    (v.beginPan position).viewport.Grips s grip ∧
      (v.beginPan position).viewport.view.offset = grip + position.toVec.unscale s := by
  rcases v.beginPan_cases position with ⟨infinite, _⟩ | ⟨_, hbegun⟩
  · cases infinite
  · rw [hbegun.viewport]
    refine ⟨⟨h.scale, _, rfl, ?_⟩, hoffset⟩
    rw [hoffset]
    exact DragAnchor.grip_restarted grip position s

end Grips

/-! ## Gestures that start anew -/

/-- The offsets that the moves of a run lead to, in order. -/
def offsets {α : Type} [Scalar α] (v : Viewport α η) : List (Call α η) → List (Vec2 α)
  | [] => []
  | .updatePan position :: rest =>
    let moved := (v.perform (.updatePan position)).viewport
    moved.view.offset :: moved.offsets rest
  | call :: rest => (v.perform call).viewport.offsets rest

/-- A move, after which the pan is started anew a number of times where the pointer is. -/
def moveAnew {α : Type} (position : Point α) (times : Nat) : List (Call α η) :=
  .updatePan position :: List.replicate times (.beginPan position)

theorem Grips.offsets_restart {s : Rat} {grip : Vec2 Rat} {position : Point Rat} (times : Nat)
    {v : Viewport Rat η} (h : v.Grips s grip)
    (hoffset : v.view.offset = grip + position.toVec.unscale s) :
    ∃ w : Viewport Rat η, w.Grips s grip ∧ ∀ rest,
      v.offsets (List.replicate times (.beginPan position) ++ rest) = w.offsets rest := by
  induction times generalizing v with
  | zero => exact ⟨v, h, fun _ => rfl⟩
  | succ times ih =>
      obtain ⟨hgrips, hoffset'⟩ := h.beginPan hoffset
      exact ih hgrips hoffset'

/-- The offsets of a gesture follow from its grip, wherever it starts anew. -/
theorem Grips.offsets_eq {s : Rat} {grip : Vec2 Rat} {v : Viewport Rat η} (h : v.Grips s grip)
    (moves : List (Point Rat × Nat)) :
    v.offsets (moves.flatMap fun move => moveAnew move.1 move.2) =
      moves.map fun move => grip + move.1.toVec.unscale s := by
  induction moves generalizing v with
  | nil => rfl
  | cons move rest ih =>
      obtain ⟨hgrips, hoffset⟩ := h.updatePan move.1
      obtain ⟨w, hw, hrest⟩ := hgrips.offsets_restart move.2 hoffset
      rw [List.flatMap_cons, moveAnew, List.cons_append, offsets, List.map_cons]
      exact congrArg₂ List.cons hoffset ((hrest _).trans (ih hw))

/-- So do those of a gesture that never starts anew. -/
theorem Grips.offsets_plain {s : Rat} {grip : Vec2 Rat} {v : Viewport Rat η} (h : v.Grips s grip)
    (moves : List (Point Rat × Nat)) :
    v.offsets (moves.map fun move => .updatePan move.1) =
      moves.map fun move => grip + move.1.toVec.unscale s := by
  have hnever := h.offsets_eq (moves.map fun move => (move.1, 0))
  rw [List.flatMap_map, List.map_map] at hnever
  rw [List.map_eq_flatMap]
  exact hnever

/-! ## The point under the pointer -/

/-- With the offset that a grip leads to, the point under the pointer depends on the grip alone. -/
theorem toLogical_gripped {view : View Rat} {grip : Vec2 Rat} {position : Point Rat}
    (h : view.offset = grip + position.toVec.unscale view.scale) (size : Size Rat) (axis : Axis) :
    ((Projection.ofView view size).toLogical position).along axis =
      -grip.along axis - max (size.along axis) 0 / view.scale / 2 := by
  have hoffset : view.offset.along axis =
      grip.along axis + position.along axis * (1 / view.scale) := by
    rw [h, ← Exact.one_eq]
    cases axis <;> rfl
  have hscale : (Projection.ofView view size).scale = view.scale := rfl
  rw [Projection.toLogical_along_exact, Projection.origin_along_exact, hoffset, hscale]
  ring

/-- The call moves the pan or zooms. -/
def Call.pansOrZooms {α : Type} : Call α η → Bool
  | .updatePan _ | .scroll _ | .setDistance _ => true
  | _ => false

theorem uninterrupted_of_pansOrZooms {α : Type} [Scalar α] {calls : List (Call α η)}
    (h : ∀ call ∈ calls, call.pansOrZooms = true) (v : Viewport α η) : v.Uninterrupted calls := by
  induction calls generalizing v with
  | nil => trivial
  | cons call rest ih =>
      obtain ⟨hcall, hrest⟩ := List.forall_mem_cons.mp h
      refine ⟨?_, ih hrest _⟩
      cases call with
      | updatePan | scroll | setDistance => rfl
      | _ => cases hcall

/-- **Content follows the pointer.** Through whatever moves and zooms a pan has gone, after one more
move at the scale at which it was pressed the pointer is over the logical point that was pressed, on
any canvas. And where it starts anew at the position of a move, any number of times after each, every
move leads to the same offset as in the gesture that never does. -/
theorem content_follows_pointer (v : Viewport Rat η) (press : Point Rat) :
    let begun := (v.beginPan press).viewport
    (v.beginPan press).result = .ok () ∧
      (∀ calls : List (Call Rat η), (∀ call ∈ calls, call.pansOrZooms = true) →
        (begun.run calls).view.scale = v.view.scale → ∀ (position : Point Rat) (size : Size Rat),
          let moved := (begun.run calls).updatePan position
          moved.result = .ok moved.viewport.view.offset ∧
            (Projection.ofView moved.viewport.view size).toLogical position =
              (Projection.ofView v.view size).toLogical press) ∧
      ∀ moves : List (Point Rat × Nat),
        begun.offsets (moves.flatMap fun move => moveAnew move.1 move.2) =
          begun.offsets (moves.map fun move => .updatePan move.1) := by
  intro begun
  rcases v.beginPan_cases press with ⟨infinite, _⟩ | ⟨_, hbegun⟩
  · cases infinite
  have hview : begun.view = { v.view with drag := v.view.drag.start v.view.offset press } :=
    congrArg Viewport.view hbegun.viewport
  have hanchor : begun.view.drag.anchor? = some { offset := v.view.offset, position := press } :=
    congrArg (·.drag.anchor?) hview
  have hscale : begun.view.scale = v.view.scale := by rw [hview]
  refine ⟨hbegun.result, ?_, ?_⟩
  · intro calls hcalls hsame position size moved
    have hkept := (run_carries hanchor (uninterrupted_of_pansOrZooms hcalls begun)).anchor
    have hheld : (begun.run calls).Grips v.view.scale _ := ⟨hsame, _, hkept, rfl⟩
    obtain ⟨hmoved, hoffset⟩ := hheld.updatePan position
    rw [← hmoved.scale] at hoffset
    have hstart := DragAnchor.offset_eq_grip ⟨v.view.offset, press⟩ v.view.scale
    refine ⟨(updatePan_exact hkept position).result, Point.ext_along fun axis => ?_⟩
    rw [toLogical_gripped hoffset size axis, toLogical_gripped hstart size axis, hmoved.scale]
  · intro moves
    have hgrips : begun.Grips v.view.scale _ := ⟨hscale, _, hanchor, rfl⟩
    rw [hgrips.offsets_eq, hgrips.offsets_plain]

/-- A pan goes through two zooms and comes back to its scale; the same moves start anew twice after
the first one and once after the last. -/
theorem content_followed_amid_zoom :
    let v : Viewport Rat Unit := .create 0 .default
    let press : Point Rat := ⟨3, -5⟩
    let calls : List (Call Rat Unit) :=
      [.updatePan ⟨40, 8⟩, .setDistance 7, .updatePan ⟨0, 1 / 3⟩, .scroll 2500, .setDistance 1]
    let moves : List (Point Rat × Nat) := [(⟨40, 8⟩, 2), (⟨0, 1 / 3⟩, 0), (⟨73, 16⟩, 1)]
    let begun := (v.beginPan press).viewport
    let moved := ((begun.run calls).updatePan ⟨73, 16⟩).viewport
    (∀ call ∈ calls, call.pansOrZooms = true) ∧ (begun.run calls).view.scale = v.view.scale ∧
      (Projection.ofView moved.view ⟨47, 20⟩).toLogical ⟨73, 16⟩ =
        (Projection.ofView v.view ⟨47, 20⟩).toLogical press ∧
      begun.offsets (moves.flatMap fun move => moveAnew move.1 move.2) =
        [⟨37 / 70, 13 / 70⟩, ⟨-3 / 70, 8 / 105⟩, ⟨1, 3 / 10⟩] := by
  intro v press calls moves begun moved
  have hcalls : ∀ call ∈ calls, call.pansOrZooms = true := by decide
  have hscale : (begun.run calls).view.scale = v.view.scale := by decide +kernel
  obtain ⟨_, hfollows, hanew⟩ := content_follows_pointer v press
  refine ⟨hcalls, hscale, (hfollows calls hcalls hscale ⟨73, 16⟩ ⟨47, 20⟩).2, ?_⟩
  exact (hanew moves).trans (by decide +kernel)

end Viewport

end PanZoom
