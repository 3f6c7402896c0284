import PanZoom.Proofs.Scene.Chronicle

/-!
# Attached layers and their handlers

However often layers were attached, and also if generations wrapped around: an attached layer has a
handler of its present generation on each list of the viewport of its last attachment, and nobody
else knows the subscriptions. This is `Tethered`; every action that takes handlers of nobody else
away keeps it.
-/

namespace PanZoom

variable {α : Type}

namespace Switchboard

/-- What the user was given is the user's, and of each attached layer the two handlers hang on the
viewport of its last attachment. -/
structure Tethered (b : Switchboard) (given : List SubscriptionId)
    (latest : Nat → Option (Nat × String)) : Prop where
  given : ∀ id ∈ given, b.OfUser id
  attached : ∀ i a, b.attachment? i = some a → ∃ j host, latest i = some (j, host) ∧
    ∀ t, (a.id t, .marker i (b.generation i) host) ∈ b.entries j t

variable {b : Switchboard} {given : List SubscriptionId} {latest : Nat → Option (Nat × String)}

/-- An attachment is held under subscriptions of the viewport that it was made to. -/
theorem Tethered.viewport (ho : b.Orderly) (h : b.Tethered given latest) {i : Nat}
    {a : Grid.Attachment} (ha : b.attachment? i = some a) {j : Nat} {host : String}
    (hlatest : latest i = some (j, host)) (t : Topic) : (a.id t).viewport = j := by
  obtain ⟨k, host', hk, hmem⟩ := h.attached i a ha
  obtain ⟨rfl, rfl⟩ := Prod.mk.inj (Option.some.inj (hk.symm.trans hlatest))
  exact (ho.issued (hmem t)).1

/-- A layer gives up something only where it was attached last. -/
theorem Tethered.cleared_eq (ho : b.Orderly) (h : b.Tethered given latest) {i : Nat}
    {a : Grid.Attachment} (ha : b.attachment? i = some a) {j : Nat} {host : String}
    (hlatest : latest i = some (j, host)) (k : Nat) :
    b.cleared i k = if k = j then [a.scaleId, a.offsetId] else [] := by
  have hscale : a.scaleId.viewport = j := h.viewport ho ha hlatest .scale
  have hoffset : a.offsetId.viewport = j := h.viewport ho ha hlatest .offset
  simp only [cleared, ha, hscale, hoffset, and_self, eq_comm]

/-- What hangs under a subscription of an attached layer is its handler. -/
theorem Tethered.unique (ho : b.Orderly) (h : b.Tethered given latest) {i : Nat}
    {a : Grid.Attachment} (ha : b.attachment? i = some a) {k : Nat} {t t' : Topic}
    {e : SubscriptionId × Handler} (he : e ∈ b.entries k t) (hid : e.1 = a.id t') :
    ∃ host, latest i = some (k, host) ∧ t = t' ∧
      e = (a.id t', .marker i (b.generation i) host) := by
  obtain ⟨j, host, hlatest, hmem⟩ := h.attached i a ha
  obtain ⟨rfl, rfl, rfl⟩ := ho.unique (hmem t') he hid
  exact ⟨host, hlatest, rfl, rfl⟩

/-- What an attached layer holds is not among what another layer gives up. -/
theorem Tethered.not_cleared (ho : b.Orderly) (h : b.Tethered given latest) {i i' : Nat}
    (hi : i' ≠ i) {a : Grid.Attachment} (ha : b.attachment? i' = some a) (j : Nat) (t : Topic) :
    a.id t ∉ b.cleared i j := by
  intro hcleared
  obtain ⟨a', t', ha', hid⟩ := mem_cleared hcleared
  obtain ⟨j', host, _, hmem⟩ := h.attached i' a ha
  obtain ⟨_, _, _, heq⟩ := h.unique ho ha' (hmem t) hid
  exact hi (Handler.marker.inj (Prod.mk.inj heq).2).1

theorem Tethered.register (ho : b.Orderly) (h : b.Tethered given latest) (j : Nat)
    (topic : Topic) (tag : Nat) :
    (b.register j topic (.user tag)).Tethered (⟨j, b.nextIndex j⟩ :: given) latest where
  given := by
    intro id hid
    rcases List.mem_cons.mp hid with rfl | hid
    · exact ho.ofUser_register j topic tag
    · exact (h.given id hid).register j topic tag
  attached := by
    intro i a ha
    obtain ⟨k, host, hlatest, hmem⟩ := h.attached i a ha
    exact ⟨k, host, hlatest, fun t => mem_register.mpr (.inl (hmem t))⟩

/-- The user removes what it was given, and so no handler of a layer. -/
theorem Tethered.remove (h : b.Tethered given latest) (j : Nat) {id : SubscriptionId}
    (hid : id ∈ given) : (b.remove j [id]).Tethered given latest where
  given := fun id' hid' => (h.given id' hid').remove j [id]
  attached := by
    intro i a ha
    obtain ⟨k, host, hlatest, hmem⟩ := h.attached i a ha
    refine ⟨k, host, hlatest, fun t => mem_remove.mpr ⟨hmem t, ?_⟩⟩
    rintro ⟨_, heq⟩
    have hheld := hmem t
    rw [show a.id t = id from List.mem_singleton.mp heq] at hheld
    obtain ⟨tag, huser⟩ := (h.given id hid).2 k t _ hheld
    cases huser

theorem Tethered.attach (ho : b.Orderly) (h : b.Tethered given latest) (i j : Nat)
    (host : String) :
    (b.attach i j host).Tethered given (Function.update latest i (some (j, host))) where
  given := fun id hid => (h.given id hid).attach i j host
  attached := by
    intro i' a ha
    rw [attachment_attach] at ha
    rw [generation_attach]
    by_cases hi : i' = i
    · subst hi
      rw [if_pos rfl] at ha ⊢
      obtain rfl := Option.some.inj ha
      exact ⟨j, host, Function.update_self .., fun t => mem_attach.mpr (.inr ⟨rfl, rfl⟩)⟩
    · rw [if_neg hi] at ha ⊢
      obtain ⟨k, host', hlatest, hmem⟩ := h.attached i' a ha
      refine ⟨k, host', ?_, fun t => mem_attach.mpr (.inl ⟨hmem t, ?_⟩)⟩
      · rw [Function.update_of_ne hi]
        exact hlatest
      · exact fun hboth => h.not_cleared ho hi ha j t hboth.2

theorem Tethered.detach (ho : b.Orderly) (h : b.Tethered given latest) (i j : Nat) :
    (b.detach i j).Tethered given latest where
  given := fun id hid => (h.given id hid).detach i j
  attached := by
    intro i' a ha
    rw [attachment_detach] at ha
    rw [generation_detach]
    by_cases hi : i' = i
    · rw [if_pos hi] at ha
      cases ha
    · rw [if_neg hi] at ha ⊢
      obtain ⟨k, host, hlatest, hmem⟩ := h.attached i' a ha
      refine ⟨k, host, hlatest, fun t => mem_detach.mpr ⟨hmem t, ?_⟩⟩
      exact fun hboth => h.not_cleared ho hi ha j t hboth.2

end Switchboard

/-! ## Chronicles -/

namespace Chronicle

/-- The scene is in order, and in it attached layers have their handlers. -/
def Tethered (c : Chronicle α) : Prop :=
  c.scene.Orderly ∧ c.scene.switchboard.Tethered c.given c.latest

theorem start_tethered : (start : Chronicle α).Tethered := by
  refine ⟨Scene.empty_orderly, ?_, ?_⟩
  · intro id hid
    cases hid
  · intro i a ha
    cases ha

variable [Scalar α]

theorem step_tethered {c : Chronicle α} (h : c.Tethered) {action : Scene.Action α}
    (permitted : c.Permits action) : (c.step action).Tethered := by
  obtain ⟨horderly, htethered⟩ := h
  refine ⟨Scene.step_orderly horderly action, ?_⟩
  show (c.scene.step action).scene.switchboard.Tethered _ _
  cases Scene.step_rewiring horderly action with
  | none unsubscribed unwired board =>
      rw [board, step_given unsubscribed, step_latest unwired]
      exact htethered
  | subscribed j topic tag _ reply board =>
      have hgiven : (c.step action).given =
          ⟨j, c.scene.switchboard.nextIndex j⟩ :: c.given := by
        simp only [step, reply]
      rw [board, hgiven, step_latest (by simp [reply])]
      exact htethered.register horderly.board j topic tag
  | removed j id asked unsubscribed unwired board =>
      rw [board, step_given unsubscribed, step_latest unwired]
      rw [asked] at permitted
      exact htethered.remove j (permitted id rfl)
  | attached i j host asked reply board =>
      rw [board, step_given (by simp [reply]), step_latest_attach asked reply]
      exact htethered.attach horderly.board i j host
  | detached i j a asked _ _ reply board =>
      rw [board, step_given (by simp [reply]), step_latest_detach asked]
      exact htethered.detach horderly.board i j

theorem run_tethered {c : Chronicle α} (h : c.Tethered) {actions : List (Scene.Action α)}
    (lawful : c.Lawful actions) : (c.run actions).Tethered := by
  induction actions generalizing c with
  | nil => exact h
  | cons action rest ih =>
      obtain ⟨permitted, lawful⟩ := lawful
      exact ih (step_tethered h permitted) lawful

end Chronicle

end PanZoom
