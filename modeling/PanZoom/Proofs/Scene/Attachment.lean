import PanZoom.Proofs.Scene.Chronicle
import PanZoom.Proofs.Scene.Notification

/-!
# Only the current attachment is live

A layer that moves from one viewport to another leaves its handlers there. They are dead: of the
handlers anywhere, only the two that an attached layer holds are of its present generation, and a
handler of another generation does nothing when it is notified, now or later
(`only_current_attachment_live`).
-/

namespace PanZoom

variable {α : Type}

/-- The handler marks a layer that is in a certain generation. -/
def Handler.marks (i : Nat) (generation : UInt64) : Handler → Bool
  | .user _ => false
  | .marker i' generation' _ => i' = i ∧ generation' = generation

theorem Handler.marks_iff {i : Nat} {generation : UInt64} {handler : Handler} :
    handler.marks i generation = true ↔ ∃ host, handler = .marker i generation host := by
  cases handler with
  | user tag => simp [marks]
  | marker i' generation' host => simp [marks]

namespace Scene

/-- The handlers on a list of a viewport that are of the present generation of a layer. -/
def carriers (s : Scene α) (i j : Nat) (t : Topic) : List (SubscriptionId × Handler) :=
  (s.switchboard.entries j t).filter fun e => e.2.marks i (s.switchboard.generation i)

theorem Orderly.ordered {s : Scene α} (h : s.Orderly) (j : Nat) (t : Topic) :
    Viewport.Ordered (s.switchboard.entries j t) := by
  simp only [switchboard]
  cases hj : s.viewports[j]? with
  | none => exact List.Pairwise.nil
  | some v => exact (h j v hj).2.ordered t

/-! ## Calls -/

variable [Scalar α]

/-- The scene amid a call, when some of the notices that follow from it are delivered. -/
def amid (s : Scene α) (j : Nat) (call : Viewport.Call α Nat)
    (delivered : List (Notice α Handler)) : Scene α :=
  match s.viewports[j]? with
  | none => s
  | some v => ((s.setViewport j (v.perform (userCall call)).viewport).deliverAll delivered).1

theorem amid_generation (s : Scene α) (j : Nat) (call : Viewport.Call α Nat)
    (delivered : List (Notice α Handler)) :
    (s.amid j call delivered).switchboard.generation = s.switchboard.generation := by
  unfold amid
  cases hj : s.viewports[j]? with
  | none => rfl
  | some v =>
      dsimp only
      rw [deliverAll_switchboard]
      rfl

/-- Notices go to handlers that are registered for what they are about. -/
theorem mem_notices {s : Scene α} {j : Nat} {call : Viewport.Call α Nat} {n : Notice α Handler}
    (hn : n ∈ s.notices (.call j call)) :
    (n.id, n.handler) ∈ s.switchboard.entries j n.change.topic := by
  cases hj : s.viewports[j]? with
  | none =>
      rw [notices_absent hj] at hn
      cases hn
  | some v =>
      rw [notices_call hj] at hn
      obtain ⟨t, _, hn⟩ := List.mem_flatMap.mp hn
      split at hn
      · obtain ⟨e, he, rfl⟩ := List.mem_map.mp hn
        rw [View.current_topic]
        simpa [switchboard, hj] using he
      · cases hn

theorem call_marks {s : Scene α} {j i : Nat} {call : Viewport.Call α Nat}
    (h : (s.step (.call j call)).scene.layers[i]? ≠ s.layers[i]?) :
    ∃ n ∈ s.notices (.call j call), ∃ host,
      n.handler = .marker i (s.switchboard.generation i) host := by
  cases hj : s.viewports[j]? with
  | none =>
      simp only [step, hj] at h
      exact absurd rfl h
  | some v =>
      rw [(step_call s hj call).1] at h
      simp only [notices, hj]
      exact deliverAll_marks (s := s.setViewport j _) h

theorem call_asks {s : Scene α} {j : Nat} {call : Viewport.Call α Nat} {host : String}
    (h : .repaint host ∈ (s.step (.call j call)).firings) :
    ∃ n ∈ s.notices (.call j call), ∃ i,
      n.handler = .marker i (s.switchboard.generation i) host := by
  cases hj : s.viewports[j]? with
  | none =>
      simp only [step, hj] at h
      cases h
  | some v =>
      rw [(step_call s hj call).2.2] at h
      simp only [notices, hj]
      exact deliverAll_asks (s := s.setViewport j _) h

end Scene

/-! ## Who is live -/

namespace Chronicle

/-- A handler of the present generation of a layer is one of the two that the layer holds. -/
theorem Sound.live {c : Chronicle α} (h : c.Sound) {i j : Nat} {t : Topic} {id : SubscriptionId}
    {host : String}
    (hmem : (id, Handler.marker i (c.scene.switchboard.generation i) host) ∈
      c.scene.switchboard.entries j t) :
    ∃ a, c.scene.switchboard.attachment? i = some a ∧ c.latest i = some (j, host) ∧
      id = a.id t := by
  cases ha : c.scene.switchboard.attachment? i with
  | none => exact absurd hmem (h.2.detached i ha j t id host)
  | some a =>
      obtain ⟨j', host', hlatest, hlive⟩ := h.2.attached i a ha
      obtain ⟨rfl, hid, rfl⟩ := (hlive j t id host).mp hmem
      exact ⟨a, rfl, hlatest, hid⟩

theorem Sound.carriers_attached {c : Chronicle α} (h : c.Sound) {i : Nat} {a : Grid.Attachment}
    (ha : c.scene.switchboard.attachment? i = some a) :
    ∃ j host, c.latest i = some (j, host) ∧ ∀ k t, c.scene.carriers i k t =
      if k = j then [(a.id t, .marker i (c.scene.switchboard.generation i) host)] else [] := by
  obtain ⟨j, host, hlatest, hlive⟩ := h.2.attached i a ha
  refine ⟨j, host, hlatest, ?_⟩
  intro k t
  unfold Scene.carriers
  split
  · rename_i hk
    refine (h.1.ordered k t).filter_eq ?_
    intro e
    rw [Handler.marks_iff]
    constructor
    · rintro ⟨he, host', hmarker⟩
      obtain ⟨id, handler⟩ := e
      obtain rfl : handler = _ := hmarker
      obtain ⟨_, rfl, rfl⟩ := (hlive k t id host').mp he
      rfl
    · rintro rfl
      exact ⟨(hlive k t _ host).mpr ⟨hk, rfl, rfl⟩, host, rfl⟩
  · rename_i hk
    refine List.filter_eq_nil_iff.mpr ?_
    intro e he hmarks
    obtain ⟨host', hmarker⟩ := Handler.marks_iff.mp hmarks
    obtain ⟨id, handler⟩ := e
    obtain rfl : handler = _ := hmarker
    exact hk ((hlive k t id host').mp he).1

theorem Sound.carriers_detached {c : Chronicle α} (h : c.Sound) {i : Nat}
    (ha : c.scene.switchboard.attachment? i = none) (k : Nat) (t : Topic) :
    c.scene.carriers i k t = [] := by
  refine List.filter_eq_nil_iff.mpr ?_
  intro e he hmarks
  obtain ⟨host, hmarker⟩ := Handler.marks_iff.mp hmarks
  obtain ⟨id, handler⟩ := e
  obtain rfl : handler = _ := hmarker
  exact h.2.detached i ha k t id host he

variable [Scalar α]

/-- A notice to a handler of the present generation of a layer comes from where the layer is
attached, under a subscription that it holds. -/
theorem Sound.live_notice {c : Chronicle α} (h : c.Sound) {i j : Nat}
    {call : Viewport.Call α Nat} {n : Notice α Handler} {host : String}
    (hn : n ∈ c.scene.notices (.call j call))
    (hmarker : n.handler = .marker i (c.scene.switchboard.generation i) host) :
    ∃ a, c.scene.switchboard.attachment? i = some a ∧ c.latest i = some (j, host) ∧
      n.id = a.id n.change.topic := by
  have hmem := Scene.mem_notices hn
  rw [hmarker] at hmem
  exact h.live hmem

/-- Of all the handlers of layers, just those of current attachments are live. -/
structure OnlyCurrentLive (c : Chronicle α) : Prop where
  /-- Of the generation of an attached layer there are two handlers anywhere, one on each list of
  the viewport of the last attachment, under the subscriptions that the layer holds. -/
  attached : ∀ i a, c.scene.switchboard.attachment? i = some a →
    ∃ j host, c.latest i = some (j, host) ∧ ∀ k t, c.scene.carriers i k t =
      if k = j then [(a.id t, .marker i (c.scene.switchboard.generation i) host)] else []
  /-- Of the generation of a layer that is not attached there is none. -/
  detached : ∀ i, c.scene.switchboard.attachment? i = none → ∀ k t, c.scene.carriers i k t = []
  /-- A call changes no layers but those that are attached to the called viewport. -/
  marks : ∀ j call i, (c.scene.step (.call j call)).scene.layers[i]? ≠ c.scene.layers[i]? →
    ∃ a host, c.scene.switchboard.attachment? i = some a ∧ c.latest i = some (j, host)
  /-- A call asks no hosts but those of layers that are attached to the called viewport. -/
  asks : ∀ j call host, .repaint host ∈ (c.scene.step (.call j call)).firings →
    ∃ i a, c.scene.switchboard.attachment? i = some a ∧ c.latest i = some (j, host)
  /-- A notice to a handler that its layer does not hold does nothing. -/
  silent : ∀ j call delivered n rest i generation host,
    c.scene.notices (.call j call) = delivered ++ n :: rest →
    n.handler = .marker i generation host →
    (∀ a, c.scene.switchboard.attachment? i = some a → n.id ≠ a.id n.change.topic) →
    (c.scene.amid j call delivered).deliver n = (c.scene.amid j call delivered, [])
  /-- And it never will do anything, whatever happens later. -/
  forever : ∀ k t id i generation host,
    (id, .marker i generation host) ∈ c.scene.switchboard.entries k t →
    (∀ a, c.scene.switchboard.attachment? i = some a → id ≠ a.id t) →
    ∀ later, c.Lawful later → c.wirings + later.countP Scene.Action.wires < UInt64.size →
    ∀ j call delivered n, n.handler = .marker i generation host →
      ((c.run later).scene.amid j call delivered).deliver n =
        ((c.run later).scene.amid j call delivered, [])

theorem Sound.onlyCurrentLive {c : Chronicle α} (h : c.Sound) : c.OnlyCurrentLive where
  attached := fun i a ha => h.carriers_attached ha
  detached := fun i ha k t => h.carriers_detached ha k t
  marks := by
    intro j call i hchanged
    obtain ⟨n, hn, host, hmarker⟩ := Scene.call_marks hchanged
    obtain ⟨a, ha, hlatest, _⟩ := h.live_notice hn hmarker
    exact ⟨a, host, ha, hlatest⟩
  asks := by
    intro j call host hasked
    obtain ⟨n, hn, i, hmarker⟩ := Scene.call_asks hasked
    obtain ⟨a, ha, hlatest, _⟩ := h.live_notice hn hmarker
    exact ⟨i, a, ha, hlatest⟩
  silent := by
    intro j call delivered n rest i generation host hnotices hmarker hnot
    refine Scene.deliver_dead _ hmarker ?_
    rw [Scene.amid_generation]
    -- a handler of the present generation would be held
    rintro rfl
    have hn : n ∈ c.scene.notices (.call j call) := by
      rw [hnotices]
      exact List.mem_append_right _ List.mem_cons_self
    obtain ⟨a, ha, _, hid⟩ := h.live_notice hn hmarker
    exact hnot a ha hid
  forever := by
    intro k t id i generation host hmem hnot later lawful hfew j call delivered n hmarker
    refine Scene.deliver_dead _ hmarker ?_
    rw [Scene.amid_generation]
    -- the layer was in a later generation already
    have hlt : generation < c.scene.switchboard.generation i := by
      refine UInt64.lt_of_le_of_ne (h.2.young k t id i generation host hmem) ?_
      rintro rfl
      obtain ⟨a, ha, _, hid⟩ := h.live hmem
      exact hnot a ha hid
    have hle := run_generation_le h lawful hfew i
    exact Ne.symm (UInt64.ne_of_lt (UInt64.lt_of_lt_of_le hlt hle))

/-- **Only the current attachment is live.** In every run in which the user removes no handlers but
its own, and with fewer attachments and detachments than there are generations. -/
theorem only_current_attachment_live (actions : List (Scene.Action α))
    (lawful : start.Lawful actions) (hfew : actions.countP Scene.Action.wires < UInt64.size) :
    (start.run actions).OnlyCurrentLive := by
  refine (run_sound start_sound lawful ?_).onlyCurrentLive
  show 0 + actions.countP Scene.Action.wires < UInt64.size
  rw [Nat.zero_add]
  exact hfew

/-- A layer goes back to where it was first, and finds two dead handlers of its own there. -/
theorem live_after_return :
    let actions : List (Scene.Action Binary64) :=
      [.addViewport .default, .addViewport .default, .addLayer .default, .attach 0 0 "first",
        .call 0 (.subscribe .scale 7), .attach 0 1 "second", .detach 0 0,
        .call 0 (.unsubscribe ⟨0, 2⟩), .attach 0 0 "third", .call 0 .reset]
    start.Lawful actions ∧ actions.countP Scene.Action.wires < UInt64.size ∧
      (start.run actions).OnlyCurrentLive ∧
      (start.run actions).scene.switchboard.entries 0 .scale =
        [(⟨0, 0⟩, .marker 0 1 "first"), (⟨0, 3⟩, .marker 0 3 "third")] ∧
      (start.run actions).scene.carriers 0 0 .scale = [(⟨0, 3⟩, .marker 0 3 "third")] := by
  intro actions
  refine ⟨by decide, by decide, ?_, by decide +kernel, by decide +kernel⟩
  exact only_current_attachment_live actions (by decide) (by decide)

end Chronicle

end PanZoom
