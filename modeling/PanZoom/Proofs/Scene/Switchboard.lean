import Mathlib.Logic.Function.Basic
import PanZoom.Proofs.View.Handlers
import PanZoom.Scene

/-!
# The wiring of a scene

Which handlers hang where, and which of them a layer holds, is all that attaching and detaching
are about. `Scene.switchboard` reads this off a scene as four total functions, and
`step_rewiring` says what an action does to them: a subscription or removal by the user, an
attachment, a detachment, or nothing. Zooms, pans, paints and new styles are all of the last kind,
and so are new viewports and layers, since what does not exist yet has no handlers and no
attachment.
-/

namespace PanZoom

/-- The subscription of an attachment to a topic. -/
def Grid.Attachment.id (a : Grid.Attachment) : Topic → SubscriptionId
  | .scale => a.scaleId
  | .offset => a.offsetId

/-- The wiring of a scene, by the numbers of viewports and layers. -/
@[ext]
structure Switchboard where
  /-- The handlers registered on a viewport for a topic, in order. -/
  entries : Nat → Topic → List (SubscriptionId × Handler)
  /-- The number of subscriptions that a viewport has issued. -/
  nextIndex : Nat → Nat
  /-- The generation of a layer. -/
  generation : Nat → UInt64
  /-- The subscriptions that a layer holds. -/
  attachment? : Nat → Option Grid.Attachment

namespace Switchboard

/-- A handler is registered at the end of a list of a viewport. -/
def register (b : Switchboard) (j : Nat) (topic : Topic) (handler : Handler) : Switchboard :=
  { b with
    entries := Function.update b.entries j fun t =>
      b.entries j t ++ if t = topic then [(⟨j, b.nextIndex j⟩, handler)] else []
    nextIndex := Function.update b.nextIndex j (b.nextIndex j + 1) }

/-- The handlers of some ids are removed from both lists of a viewport. -/
def remove (b : Switchboard) (j : Nat) (ids : List SubscriptionId) : Switchboard :=
  { b with
    entries := Function.update b.entries j fun t => Viewport.without (b.entries j t) ids }

/-- The handlers that a layer gives up on a viewport when it is attached to it or detached from
it: those of its attachment, if that was made there. -/
def cleared (b : Switchboard) (i j : Nat) : List SubscriptionId :=
  match b.attachment? i with
  | some a => if a.scaleId.viewport = j ∧ a.offsetId.viewport = j then [a.scaleId, a.offsetId] else []
  | none => []

/-- A layer moves on to its next generation, with another attachment or none. -/
def advance (b : Switchboard) (i : Nat) (attachment? : Option Grid.Attachment) : Switchboard :=
  { b with
    generation := Function.update b.generation i (b.generation i + 1)
    attachment? := Function.update b.attachment? i attachment? }

/-- The subscriptions of an attachment that is made to a viewport. -/
def fresh (b : Switchboard) (j : Nat) : Grid.Attachment :=
  { scaleId := ⟨j, b.nextIndex j⟩, offsetId := ⟨j, b.nextIndex j + 1⟩ }

/-- A layer is attached to a viewport. -/
def attach (b : Switchboard) (i j : Nat) (host : String) : Switchboard :=
  let marker := Handler.marker i (b.generation i + 1) host
  (((b.remove j (b.cleared i j)).register j .scale marker).register j .offset marker).advance i
    (some (b.fresh j))

/-- A layer is detached from a viewport. -/
def detach (b : Switchboard) (i j : Nat) : Switchboard :=
  (b.remove j (b.cleared i j)).advance i none

/-- Every subscription was issued by the viewport that it hangs on, and hangs in one place. -/
structure Orderly (b : Switchboard) : Prop where
  issued : ∀ {j t e}, e ∈ b.entries j t → e.1.viewport = j ∧ e.1.index < b.nextIndex j
  unique : ∀ {j k t t' e e'}, e ∈ b.entries j t → e' ∈ b.entries k t' → e'.1 = e.1 →
    k = j ∧ t' = t ∧ e' = e

/-! What hangs where after each of these, and how many subscriptions were issued by then. -/

theorem mem_register {b : Switchboard} {j k : Nat} {topic t : Topic} {handler : Handler}
    {e : SubscriptionId × Handler} :
    e ∈ (b.register j topic handler).entries k t ↔
      e ∈ b.entries k t ∨ k = j ∧ t = topic ∧ e = (⟨j, b.nextIndex j⟩, handler) := by
  by_cases hk : k = j
  · subst hk
    by_cases ht : t = topic <;> simp [register, ht]
  · simp [register, hk]

theorem mem_remove {b : Switchboard} {j k : Nat} {ids : List SubscriptionId} {t : Topic}
    {e : SubscriptionId × Handler} :
    e ∈ (b.remove j ids).entries k t ↔ e ∈ b.entries k t ∧ ¬ (k = j ∧ e.1 ∈ ids) := by
  by_cases hk : k = j
  · subst hk
    simp [remove, Viewport.mem_without]
  · simp [remove, hk]

theorem mem_attach {b : Switchboard} {i j k : Nat} {host : String} {t : Topic}
    {e : SubscriptionId × Handler} :
    e ∈ (b.attach i j host).entries k t ↔
      (e ∈ b.entries k t ∧ ¬ (k = j ∧ e.1 ∈ b.cleared i j)) ∨
        k = j ∧ e = ((b.fresh j).id t, .marker i (b.generation i + 1) host) := by
  simp only [attach, advance]
  rw [mem_register, mem_register, mem_remove, or_assoc]
  refine or_congr_right ?_
  cases t <;> simp [register, remove, fresh, Grid.Attachment.id]

theorem mem_detach {b : Switchboard} {i j k : Nat} {t : Topic} {e : SubscriptionId × Handler} :
    e ∈ (b.detach i j).entries k t ↔
      e ∈ b.entries k t ∧ ¬ (k = j ∧ e.1 ∈ b.cleared i j) := by
  simp only [detach, advance]
  rw [mem_remove]

theorem le_nextIndex_register (b : Switchboard) (j k : Nat) (topic : Topic) (handler : Handler) :
    b.nextIndex k ≤ (b.register j topic handler).nextIndex k := by
  by_cases hk : k = j
  · subst hk
    simp [register]
  · simp [register, hk]

theorem nextIndex_attach (b : Switchboard) (i j k : Nat) (host : String) :
    (b.attach i j host).nextIndex k = if k = j then b.nextIndex j + 2 else b.nextIndex k := by
  by_cases hk : k = j
  · subst hk
    simp [attach, advance, register, remove]
  · simp [attach, advance, register, remove, hk]

theorem attachment_attach (b : Switchboard) (i j k : Nat) (host : String) :
    (b.attach i j host).attachment? k = if k = i then some (b.fresh j) else b.attachment? k := by
  simp only [attach, advance, register, remove, Function.update_apply]

theorem attachment_detach (b : Switchboard) (i j k : Nat) :
    (b.detach i j).attachment? k = if k = i then none else b.attachment? k := by
  simp only [detach, advance, remove, Function.update_apply]

theorem generation_attach (b : Switchboard) (i j k : Nat) (host : String) :
    (b.attach i j host).generation k =
      if k = i then b.generation i + 1 else b.generation k := by
  simp only [attach, advance, register, remove, Function.update_apply]

theorem generation_detach (b : Switchboard) (i j k : Nat) :
    (b.detach i j).generation k = if k = i then b.generation i + 1 else b.generation k := by
  simp only [detach, advance, remove, Function.update_apply]

/-- What a layer gives up on a viewport is what it holds. -/
theorem mem_cleared {b : Switchboard} {i j : Nat} {id : SubscriptionId}
    (h : id ∈ b.cleared i j) : ∃ a t, b.attachment? i = some a ∧ id = a.id t := by
  unfold cleared at h
  cases ha : b.attachment? i with
  | none =>
      rw [ha] at h
      cases h
  | some a =>
      simp only [ha] at h
      split at h
      · rcases List.mem_cons.mp h with hscale | hrest
        · exact ⟨a, .scale, rfl, hscale⟩
        · exact ⟨a, .offset, rfl, List.mem_singleton.mp hrest⟩
      · cases h

variable {α : Type}

/-- The wiring with another viewport in the place of one. -/
def withViewport (b : Switchboard) (j : Nat) (v : Viewport α Handler) : Switchboard :=
  { b with
    entries := Function.update b.entries j v.entries
    nextIndex := Function.update b.nextIndex j v.nextIndex }

/-- The wiring with another layer in the place of one. -/
def withLayer (b : Switchboard) (i : Nat) (l : Grid.Layer α) : Switchboard :=
  { b with
    generation := Function.update b.generation i l.generation
    attachment? := Function.update b.attachment? i l.attachment? }

theorem withViewport_subscribe (b : Switchboard) {j : Nat} {v : Viewport α Handler}
    (hid : v.id = j) (topic : Topic) (handler : Handler) :
    b.withViewport j (v.subscribe topic handler).1 =
      (b.withViewport j v).register j topic handler := by
  apply Switchboard.ext <;> simp only [withViewport, register, Function.update_self,
    Function.update_idem, Viewport.subscribe_nextIndex]
  congr 1
  funext t
  rw [Viewport.subscribe_entries, Viewport.nextId, hid]

theorem withViewport_unsubscribe (b : Switchboard) {j : Nat} {v : Viewport α Handler}
    (h : v.Orderly) (id : SubscriptionId) :
    b.withViewport j (v.unsubscribe id).viewport = (b.withViewport j v).remove j [id] := by
  apply Switchboard.ext <;> simp only [withViewport, remove, Function.update_self,
    Function.update_idem, Viewport.unsubscribe_nextIndex]
  congr 1
  funext t
  rw [h.unsubscribe_entries]

theorem withViewport_same (b : Switchboard) {j : Nat} {v v' : Viewport α Handler}
    (same : v.SameHandlers v') : b.withViewport j v' = b.withViewport j v := by
  simp only [withViewport, same.nextIndex, funext same.entries]

/-- Only the generation and the attachment of a layer are part of the wiring. -/
theorem withLayer_congr (b : Switchboard) (i : Nat) {l l' : Grid.Layer α}
    (hgeneration : l'.generation = l.generation) (hattachment : l'.attachment? = l.attachment?) :
    b.withLayer i l' = b.withLayer i l := by
  simp only [withLayer, hgeneration, hattachment]

theorem remove_remove (b : Switchboard) (j : Nat) (id id' : SubscriptionId) :
    (b.remove j [id]).remove j [id'] = b.remove j [id, id'] := by
  simp only [remove, Function.update_self, Function.update_idem, Viewport.without_without]

theorem remove_nil (b : Switchboard) (j : Nat) : b.remove j [] = b := by
  simp only [remove, Viewport.without_nil]
  rw [Function.update_eq_self]

end Switchboard

/-! ## Reading a scene -/

namespace Scene

variable {α : Type}

/-- The wiring of a scene. What does not exist is not wired. -/
def switchboard (s : Scene α) : Switchboard where
  entries j t := ((s.viewports[j]?.map fun v => v.entries t)).getD []
  nextIndex j := (s.viewports[j]?.map fun v => v.nextIndex).getD 0
  generation i := (s.layers[i]?.map fun l => l.generation).getD 0
  attachment? i := s.layers[i]?.bind fun l => l.attachment?

theorem switchboard_setViewport (s : Scene α) {j : Nat} {v : Viewport α Handler}
    (hj : s.viewports[j]? = some v) (v' : Viewport α Handler) :
    (s.setViewport j v').switchboard = s.switchboard.withViewport j v' := by
  have hlt : j < s.viewports.length := (List.getElem?_eq_some_iff.mp hj).1
  apply Switchboard.ext
  · funext k t
    by_cases hk : k = j
    · subst hk
      simp [switchboard, setViewport, Switchboard.withViewport, hlt]
    · simp [switchboard, setViewport, Switchboard.withViewport, List.getElem?_set_ne (Ne.symm hk),
        Function.update_of_ne hk]
  · funext k
    by_cases hk : k = j
    · subst hk
      simp [switchboard, setViewport, Switchboard.withViewport, hlt]
    · simp [switchboard, setViewport, Switchboard.withViewport, List.getElem?_set_ne (Ne.symm hk),
        Function.update_of_ne hk]
  · rfl
  · rfl

theorem switchboard_setLayer (s : Scene α) {i : Nat} {l : Grid.Layer α}
    (hi : s.layers[i]? = some l) (l' : Grid.Layer α) :
    (s.setLayer i l').switchboard = s.switchboard.withLayer i l' := by
  have hlt : i < s.layers.length := (List.getElem?_eq_some_iff.mp hi).1
  apply Switchboard.ext
  · rfl
  · rfl
  · funext k
    by_cases hk : k = i
    · subst hk
      simp [switchboard, setLayer, Switchboard.withLayer, hlt]
    · simp [switchboard, setLayer, Switchboard.withLayer, List.getElem?_set_ne (Ne.symm hk),
        Function.update_of_ne hk]
  · funext k
    by_cases hk : k = i
    · subst hk
      simp [switchboard, setLayer, Switchboard.withLayer, hlt]
    · simp [switchboard, setLayer, Switchboard.withLayer, List.getElem?_set_ne (Ne.symm hk),
        Function.update_of_ne hk]

theorem withViewport_self (s : Scene α) {j : Nat} {v : Viewport α Handler}
    (hj : s.viewports[j]? = some v) : s.switchboard.withViewport j v = s.switchboard := by
  have hentries : s.switchboard.entries j = v.entries := by
    funext t
    simp [switchboard, hj]
  have hnext : s.switchboard.nextIndex j = v.nextIndex := by simp [switchboard, hj]
  simp only [Switchboard.withViewport, ← hentries, ← hnext, Function.update_eq_self]

theorem withLayer_self (s : Scene α) {i : Nat} {l : Grid.Layer α} (hi : s.layers[i]? = some l) :
    s.switchboard.withLayer i l = s.switchboard := by
  have hgeneration : s.switchboard.generation i = l.generation := by simp [switchboard, hi]
  have hattachment : s.switchboard.attachment? i = l.attachment? := by simp [switchboard, hi]
  simp only [Switchboard.withLayer, ← hgeneration, ← hattachment, Function.update_eq_self]

end Scene

end PanZoom
