import PanZoom.View.Viewport

/-!
# The operations of a viewport

What each operation on the view does, guards included. An operation that takes input either refuses
it, and then nothing changes and nobody is told (`Outcome.Refused`), or accepts it, and then the
change, the answer and the notices are given by one of the structures below. The operations are not
opened elsewhere.
-/

namespace PanZoom

variable {α η β : Type}

/-- The operation refuses its input: the viewport stays as it is, and nobody is told. -/
structure Outcome.Refused (o : Outcome α η (Except Rejection β)) (v : Viewport α η)
    (cause : Rejection) : Prop where
  viewport : o.viewport = v
  result : o.result = .error cause
  notices : o.notices = []

theorem Drag.eq_idle {d : Drag α} (h : d.isActive = false) : d = idle := by
  obtain ⟨anchor?⟩ := d
  cases anchor? with
  | none => rfl
  | some anchor => cases h

/-! ## Requests to zoom -/

/-- A request to zoom: by a movement of the wheel, or to a distance. -/
inductive Zoom (α : Type) where
  | scroll (delta : α)
  | setDistance (distance : α)

namespace Zoom

/-- The number that comes with the request. -/
def argument : Zoom α → α
  | scroll delta => delta
  | setDistance distance => distance

/-- The distance that is asked for. -/
def target [Scalar α] (v : Viewport α η) : Zoom α → α
  | scroll delta => v.view.distance - delta * v.settings.sensitivity
  | setDistance distance => distance

end Zoom

namespace Viewport

theorem reject_refused (v : Viewport α η) (cause : Rejection) (record : ViewportRecord α) :
    (v.reject cause record : Outcome α η (Except Rejection β)).Refused v cause :=
  ⟨rfl, rfl, rfl⟩

variable [Scalar α]

/-! ## Zoom -/

/-- The zoom goes to a distance, and the handlers for the scale are told. -/
structure Zoomed (v : Viewport α η) (distance : α) (o : Outcome α η (Except Rejection α)) :
    Prop where
  finite : Scalar.isFinite distance = true
  normal : Scalar.isNormal (v.settings.scaleAt distance) = true
  viewport : o.viewport = { v with view := v.view.setDistance v.settings distance }
  result : o.result = .ok o.viewport.view.scale
  notices : o.notices = v.onScale.notify (.scale o.viewport.view.scale)

/-- The view can go to the distance: it is finite, and the scale that goes with it is held to full
precision. -/
def Admits (v : Viewport α η) (distance : α) : Prop :=
  Scalar.isFinite distance = true ∧ Scalar.isNormal (v.settings.scaleAt distance) = true

theorem zoomTo_cases (v : Viewport α η) (distance : α) :
    ¬ v.Admits distance ∧ (v.zoomTo distance).Refused v .overflow ∨
      Zoomed v distance (v.zoomTo distance) := by
  unfold zoomTo
  by_cases h : v.Admits distance
  · rw [Admits] at h
    simp only [if_pos h]
    exact .inr ⟨h.1, h.2, rfl, rfl, rfl⟩
  · refine .inl ⟨h, ?_⟩
    rw [Admits] at h
    simp only [if_neg h]
    exact v.reject_refused _ _

/-- Carries out a request to zoom. -/
def zoom (v : Viewport α η) : Zoom α → Outcome α η (Except Rejection α)
  | .scroll delta => v.scroll delta
  | .setDistance distance => v.setDistance distance

/-- How a request to zoom is answered: it is refused where its number is not finite, or where it
asks for a distance to which the view cannot go, and else it is granted. -/
inductive ZoomAnswer (v : Viewport α η) (zoom : Zoom α) (o : Outcome α η (Except Rejection α)) :
    Prop
  | nonFinite
      (infinite : Scalar.isFinite zoom.argument = false)
      (refused : o.Refused v .nonFiniteDelta)
  | overflow
      (finite : Scalar.isFinite zoom.argument = true)
      (outside : ¬ v.Admits (zoom.target v))
      (refused : o.Refused v .overflow)
  | granted
      (finite : Scalar.isFinite zoom.argument = true)
      (zoomed : Zoomed v (zoom.target v) o)

theorem zoom_answer (v : Viewport α η) (zoom : Zoom α) : ZoomAnswer v zoom (v.zoom zoom) := by
  by_cases hfinite : Scalar.isFinite zoom.argument = true
  · have hzoomTo : v.zoom zoom = v.zoomTo (zoom.target v) := by
      cases zoom with
      | scroll delta => exact if_pos hfinite
      | setDistance distance => exact if_pos hfinite
    rw [hzoomTo]
    rcases v.zoomTo_cases (zoom.target v) with ⟨outside, refused⟩ | zoomed
    · exact .overflow hfinite outside refused
    · exact .granted hfinite zoomed
  · have hreject : ∃ record, v.zoom zoom = v.reject .nonFiniteDelta record := by
      cases zoom with
      | scroll delta => exact ⟨_, if_neg hfinite⟩
      | setDistance distance => exact ⟨_, if_neg hfinite⟩
    obtain ⟨record, hreject⟩ := hreject
    rw [hreject]
    exact .nonFinite (Bool.eq_false_iff.mpr hfinite) (v.reject_refused _ record)

theorem scroll_cases (v : Viewport α η) (delta : α) :
    (∃ cause, (v.scroll delta).Refused v cause) ∨ ∃ distance, Zoomed v distance (v.scroll delta) := by
  cases v.zoom_answer (.scroll delta) with
  | nonFinite _ refused => exact .inl ⟨_, refused⟩
  | overflow _ _ refused => exact .inl ⟨_, refused⟩
  | granted _ zoomed => exact .inr ⟨_, zoomed⟩

/-- A finite movement of the wheel is only refused if it leads too far. -/
theorem scroll_of_finite (v : Viewport α η) {delta : α} (finite : Scalar.isFinite delta = true) :
    (v.scroll delta).Refused v .overflow ∨
      Zoomed v (v.view.distance - delta * v.settings.sensitivity) (v.scroll delta) := by
  cases v.zoom_answer (.scroll delta) with
  | nonFinite infinite => cases infinite.symm.trans finite
  | overflow _ _ refused => exact .inl refused
  | granted _ zoomed => exact .inr zoomed

theorem setDistance_cases (v : Viewport α η) (distance : α) :
    (∃ cause, (v.setDistance distance).Refused v cause) ∨
      Zoomed v distance (v.setDistance distance) := by
  cases v.zoom_answer (.setDistance distance) with
  | nonFinite _ refused => exact .inl ⟨_, refused⟩
  | overflow _ _ refused => exact .inl ⟨_, refused⟩
  | granted _ zoomed => exact .inr zoomed

/-! ## Pan -/

/-- A pan starts at a position, from the present offset. -/
structure PanBegun (v : Viewport α η) (position : Point α)
    (o : Outcome α η (Except Rejection Unit)) : Prop where
  viewport : o.viewport =
    { v with view := { v.view with drag := v.view.drag.start v.view.offset position } }
  result : o.result = .ok ()
  notices : o.notices = []

/-- Just the positions that are not finite are refused. -/
theorem beginPan_cases (v : Viewport α η) (position : Point α) :
    position.isFinite = false ∧ (v.beginPan position).Refused v .nonFinitePosition ∨
      position.isFinite = true ∧ PanBegun v position (v.beginPan position) := by
  unfold beginPan
  cases h : position.isFinite with
  | false => exact .inl ⟨rfl, v.reject_refused _ _⟩
  | true => exact .inr ⟨rfl, rfl, rfl, rfl⟩

/-- The pan in progress moves, and the handlers for the offset are told. -/
structure Panned (v : Viewport α η) (anchor : DragAnchor α) (position : Point α)
    (o : Outcome α η (Except Rejection (Vec2 α))) : Prop where
  anchored : v.view.drag.anchor? = some anchor
  finite : (v.panTarget anchor position).isFinite = true
  viewport : o.viewport =
    { v with view := { v.view with offset := v.panTarget anchor position } }
  result : o.result = .ok o.viewport.view.offset
  notices : o.notices = v.onOffset.notify (.offset o.viewport.view.offset)

theorem updatePan_cases (v : Viewport α η) (position : Point α) :
    (∃ cause, (v.updatePan position).Refused v cause) ∨
      ∃ anchor, Panned v anchor position (v.updatePan position) := by
  unfold updatePan
  split
  · cases hanchor : v.view.drag.anchor? with
    | none => exact .inl ⟨_, v.reject_refused _ _⟩
    | some anchor =>
        by_cases h : (v.panTarget anchor position).isFinite = true
        · simp only [if_pos h]
          exact .inr ⟨anchor, hanchor, h, rfl, rfl, rfl⟩
        · simp only [if_neg h]
          exact .inl ⟨_, v.reject_refused _ _⟩
  · exact .inl ⟨_, v.reject_refused _ _⟩

/-- A pan in progress is moved to a finite position if the offset that it comes to is finite. -/
theorem updatePan_panned {v : Viewport α η} {anchor : DragAnchor α} {position : Point α}
    (hposition : position.isFinite = true) (hanchor : v.view.drag.anchor? = some anchor)
    (hoffset : (v.panTarget anchor position).isFinite = true) :
    Panned v anchor position (v.updatePan position) := by
  unfold updatePan
  simp only [if_pos hposition, hanchor, if_pos hoffset]
  exact ⟨hanchor, hoffset, rfl, rfl, rfl⟩

omit [Scalar α] in
/-- After it no pan is in progress, whether there was one or not. -/
theorem endPan_eq (v : Viewport α η) :
    v.endPan.viewport = { v with view := { v.view with drag := Drag.idle } } ∧
      v.endPan.result = v.isPanning ∧ v.endPan.notices = [] := by
  unfold endPan isPanning View.isPanning Drag.finish
  cases h : v.view.drag.isActive with
  | false => exact ⟨rfl, rfl, rfl⟩
  | true => exact ⟨rfl, rfl, rfl⟩

omit [Scalar α] in
/-- Ending a pan that is not in progress does nothing. -/
theorem endPan_viewport_of_idle {v : Viewport α η} (h : v.isPanning = false) :
    v.endPan.viewport = v := by
  rw [(endPan_eq v).1, ← Drag.eq_idle h]

end Viewport

end PanZoom
