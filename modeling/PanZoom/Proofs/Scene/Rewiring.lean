import PanZoom.Proofs.Scene.Delivery

/-!
# What actions do to the wiring of a scene

Every viewport of a scene keeps its handlers in order and goes by its own number (`Orderly`). In
such a scene an action changes the wiring in one of four ways or not at all (`step_rewiring`).
-/

namespace PanZoom

variable {α : Type}

/-! ## Order -/

namespace Scene

/-- Every viewport goes by its own number and has its handlers in order. -/
def Orderly (s : Scene α) : Prop :=
  ∀ (j : Nat) (v : Viewport α Handler), s.viewports[j]? = some v → v.id = j ∧ v.Orderly

theorem empty_orderly : (empty : Scene α).Orderly := by
  intro j v hj
  cases hj

/-! In an orderly scene every subscription hangs in one place at most. -/

theorem Orderly.mem_entries {s : Scene α} (h : s.Orderly) {j : Nat} {t : Topic}
    {e : SubscriptionId × Handler} (he : e ∈ s.switchboard.entries j t) :
    ∃ v, s.viewports[j]? = some v ∧ v.id = j ∧ v.Orderly ∧ e ∈ v.entries t := by
  simp only [switchboard] at he
  cases hj : s.viewports[j]? with
  | none =>
      rw [hj] at he
      cases he
  | some v =>
      rw [hj] at he
      exact ⟨v, rfl, (h j v hj).1, (h j v hj).2, he⟩

theorem Orderly.board {s : Scene α} (h : s.Orderly) : s.switchboard.Orderly where
  issued := by
    intro j t e he
    obtain ⟨v, hj, hid, hv, he⟩ := h.mem_entries he
    have hnext : s.switchboard.nextIndex j = v.nextIndex := by simp [switchboard, hj]
    obtain ⟨hviewport, hindex⟩ := hv.issued t e he
    exact ⟨hviewport.trans hid, hnext ▸ hindex⟩
  unique := by
    intro j k t t' e e' he he' heq
    obtain ⟨v, hj, hid, hv, hmem⟩ := h.mem_entries he
    obtain ⟨v', hk, hid', hv', hmem'⟩ := h.mem_entries he'
    have hkj : k = j := by
      rw [← hid', ← (hv'.issued t' e' hmem').1, heq, (hv.issued t e hmem).1, hid]
    subst hkj
    obtain rfl := Option.some.inj (hj.symm.trans hk)
    exact ⟨rfl, hv.unique hmem hmem' heq⟩

end Scene

/-! ## Attaching and detaching -/

namespace Grid.Layer

/-- The viewport without the handlers that a layer gives up there. -/
def clearedViewport (l : Layer α) (v : Viewport α Handler) : Viewport α Handler :=
  match l.attachment? with
  | some a => if a.belongsTo v then (a.remove v).1 else v
  | none => v

theorem attach_viewport (l : Layer α) (self : Nat) (v : Viewport α Handler) (host : String) :
    (l.attach self v host).viewport =
      (((l.clearedViewport v).subscribe .scale (.marker self (l.generation + 1) host)).1.subscribe
        .offset (.marker self (l.generation + 1) host)).1 := by
  unfold attach clearedViewport
  cases l.attachment? with
  | none => rfl
  | some a => by_cases h : a.belongsTo v = true <;> simp [h]

theorem attach_layer (l : Layer α) (self : Nat) (v : Viewport α Handler) (host : String) :
    (l.attach self v host).layer.generation = l.generation + 1 ∧
      (l.attach self v host).layer.attachment? = some {
        scaleId := (l.clearedViewport v).nextId
        offsetId := { (l.clearedViewport v).nextId with
          index := (l.clearedViewport v).nextIndex + 1 } } := by
  unfold attach clearedViewport
  cases l.attachment? with
  | none => exact ⟨rfl, rfl⟩
  | some a => by_cases h : a.belongsTo v = true <;> simp [h, Viewport.nextId]

theorem clearedViewport_id (l : Layer α) (v : Viewport α Handler) :
    (l.clearedViewport v).id = v.id := by
  unfold clearedViewport
  cases l.attachment? with
  | none => rfl
  | some a => by_cases h : a.belongsTo v = true <;> simp [h, Attachment.remove]

theorem clearedViewport_view (l : Layer α) (v : Viewport α Handler) :
    (l.clearedViewport v).view = v.view := by
  unfold clearedViewport
  cases l.attachment? with
  | none => rfl
  | some a => by_cases h : a.belongsTo v = true <;> simp [h, Attachment.remove]

theorem clearedViewport_nextIndex (l : Layer α) (v : Viewport α Handler) :
    (l.clearedViewport v).nextIndex = v.nextIndex := by
  unfold clearedViewport
  cases l.attachment? with
  | none => rfl
  | some a => by_cases h : a.belongsTo v = true <;> simp [h, Attachment.remove]

theorem clearedViewport_orderly (l : Layer α) {v : Viewport α Handler} (h : v.Orderly) :
    (l.clearedViewport v).Orderly := by
  unfold clearedViewport
  cases l.attachment? with
  | none => exact h
  | some a =>
      dsimp only
      split
      · exact (h.unsubscribe _).unsubscribe _
      · exact h

theorem attach_orderly (l : Layer α) (self : Nat) {v : Viewport α Handler} (h : v.Orderly)
    (host : String) : (l.attach self v host).viewport.Orderly := by
  rw [l.attach_viewport]
  exact ((l.clearedViewport_orderly h).subscribe _ _).subscribe _ _

theorem detach_viewport (l : Layer α) (v : Viewport α Handler) :
    (l.detach v).viewport = l.clearedViewport v := by
  unfold detach clearedViewport
  cases l.attachment? with
  | none => rfl
  | some a => by_cases h : a.belongsTo v = true <;> simp [h]

theorem paint_generation [Scalar α] (l : Layer α) (view : View α) (size : Size α) :
    (l.paint view size).layer.generation = l.generation := by
  unfold paint
  dsimp only
  split <;> rfl

theorem paint_attachment [Scalar α] (l : Layer α) (view : View α) (size : Size α) :
    (l.paint view size).layer.attachment? = l.attachment? := by
  unfold paint
  dsimp only
  split <;> rfl

end Grid.Layer

namespace Scene

/-- Clearing a viewport is clearing it in the wiring. -/
theorem withViewport_cleared (s : Scene α) {i j : Nat} {l : Grid.Layer α} {v : Viewport α Handler}
    (hi : s.layers[i]? = some l) (hj : s.viewports[j]? = some v) (hid : v.id = j)
    (hv : v.Orderly) :
    s.switchboard.withViewport j (l.clearedViewport v) =
      s.switchboard.remove j (s.switchboard.cleared i j) := by
  have hattachment : s.switchboard.attachment? i = l.attachment? := by simp [switchboard, hi]
  have hself := withViewport_self s hj
  unfold Switchboard.cleared Grid.Layer.clearedViewport
  rw [hattachment]
  cases l.attachment? with
  | none => rw [hself, Switchboard.remove_nil]
  | some a =>
      have hbelongs : a.belongsTo v = true ↔ a.scaleId.viewport = j ∧ a.offsetId.viewport = j := by
        simp [Grid.Attachment.belongsTo, Viewport.issued, hid]
      dsimp only
      by_cases h : a.belongsTo v = true
      · rw [if_pos h, if_pos (hbelongs.mp h), Grid.Attachment.remove,
          Switchboard.withViewport_unsubscribe _ (hv.unsubscribe a.scaleId),
          Switchboard.withViewport_unsubscribe _ hv, hself, Switchboard.remove_remove]
      · rw [if_neg h, if_neg (fun hon => h (hbelongs.mpr hon)), hself, Switchboard.remove_nil]

theorem attach_board (s : Scene α) {i j : Nat} {l : Grid.Layer α} {v : Viewport α Handler}
    (host : String) (hi : s.layers[i]? = some l) (hj : s.viewports[j]? = some v) (hid : v.id = j)
    (hv : v.Orderly) :
    (s.switchboard.withLayer i (l.attach i v host).layer).withViewport j
      (l.attach i v host).viewport = s.switchboard.attach i j host := by
  have hgeneration : s.switchboard.generation i = l.generation := by simp [switchboard, hi]
  have hnext : s.switchboard.nextIndex j = v.nextIndex := by simp [switchboard, hj]
  obtain ⟨hlayer, hattachment⟩ := l.attach_layer i v host
  -- the viewport is cleared first, and then both handlers are registered with it
  have hcleared : (l.clearedViewport v).id = j := (l.clearedViewport_id v).trans hid
  have hboard : s.switchboard.withViewport j (l.attach i v host).viewport =
      ((s.switchboard.remove j (s.switchboard.cleared i j)).register j .scale
        (.marker i (l.generation + 1) host)).register j .offset
          (.marker i (l.generation + 1) host) := by
    rw [l.attach_viewport, Switchboard.withViewport_subscribe _ (by simpa using hcleared),
      Switchboard.withViewport_subscribe _ hcleared, withViewport_cleared s hi hj hid hv]
  simp only [Switchboard.attach, hgeneration]
  rw [← hboard]
  simp only [Switchboard.withViewport, Switchboard.withLayer, Switchboard.advance, hlayer,
    Switchboard.fresh, hattachment, Viewport.nextId, hcleared, l.clearedViewport_nextIndex, hnext,
    hgeneration]

theorem detach_board (s : Scene α) {i j : Nat} {l : Grid.Layer α} {v : Viewport α Handler}
    (hi : s.layers[i]? = some l) (hj : s.viewports[j]? = some v) (hid : v.id = j)
    (hv : v.Orderly) {a : Grid.Attachment} (ha : l.attachment? = some a)
    (hbelongs : a.belongsTo v = true) :
    (s.switchboard.withLayer i (l.detach v).layer).withViewport j (l.detach v).viewport =
      s.switchboard.detach i j := by
  have hgeneration : s.switchboard.generation i = l.generation := by simp [switchboard, hi]
  unfold Switchboard.detach
  rw [← withViewport_cleared s hi hj hid hv, ← l.detach_viewport]
  simp [Switchboard.withViewport, Switchboard.withLayer, Switchboard.advance,
    Grid.Layer.detach, ha, hbelongs, hgeneration]

end Scene

/-! ## Actions -/

namespace Scene

variable [Scalar α]

theorem step_call (s : Scene α) {j : Nat} {v : Viewport α Handler} (hj : s.viewports[j]? = some v)
    (call : Viewport.Call α Nat) :
    (s.step (.call j call)).scene = ((s.setViewport j (v.perform (userCall call)).viewport).deliverAll
        (v.perform (userCall call)).notices).1 ∧
      (s.step (.call j call)).reply = .called (v.perform (userCall call)).result ∧
      (s.step (.call j call)).firings = ((s.setViewport j
        (v.perform (userCall call)).viewport).deliverAll (v.perform (userCall call)).notices).2 := by
  dsimp only [step]
  rw [hj]
  exact ⟨rfl, rfl, rfl⟩

theorem step_call_board (s : Scene α) {j : Nat} {v : Viewport α Handler}
    (hj : s.viewports[j]? = some v) (call : Viewport.Call α Nat) :
    (s.step (.call j call)).scene.switchboard =
      s.switchboard.withViewport j (v.perform (userCall call)).viewport := by
  rw [(step_call s hj call).1, deliverAll_switchboard, switchboard_setViewport s hj]

/-- What an action does to the wiring of a scene, with what the answer says of it. -/
inductive Rewiring (s : Scene α) (action : Action α) : Prop
  /-- Nothing is wired anew. -/
  | none
      (unsubscribed : ∀ id, (s.step action).reply ≠ .called (.subscribed id))
      (unwired : (s.step action).reply ≠ .wired true)
      (board : (s.step action).scene.switchboard = s.switchboard)
  /-- The user registers a handler. -/
  | subscribed (j : Nat) (topic : Topic) (tag : Nat)
      (asked : action = .call j (.subscribe topic tag))
      (reply : (s.step action).reply =
        .called (.subscribed { viewport := j, index := s.switchboard.nextIndex j }))
      (board : (s.step action).scene.switchboard = s.switchboard.register j topic (.user tag))
  /-- The user removes a handler, if there is one. -/
  | removed (j : Nat) (id : SubscriptionId)
      (asked : action = .call j (.unsubscribe id))
      (unsubscribed : ∀ id, (s.step action).reply ≠ .called (.subscribed id))
      (unwired : (s.step action).reply ≠ .wired true)
      (board : (s.step action).scene.switchboard = s.switchboard.remove j [id])
  /-- A layer is attached. -/
  | attached (i j : Nat) (host : String)
      (asked : action = .attach i j host)
      (reply : (s.step action).reply = .wired true)
      (board : (s.step action).scene.switchboard = s.switchboard.attach i j host)
  /-- A layer is detached from the viewport that it was attached to. -/
  | detached (i j : Nat) (a : Grid.Attachment)
      (asked : action = .detach i j)
      (held : s.switchboard.attachment? i = some a)
      (there : a.scaleId.viewport = j ∧ a.offsetId.viewport = j)
      (reply : (s.step action).reply = .wired true)
      (board : (s.step action).scene.switchboard = s.switchboard.detach i j)

/-- Where something is missing that was named, nothing happens. -/
theorem Rewiring.of_absent {s : Scene α} {action : Action α}
    (h : s.step action = s.silent .absent) : Rewiring s action := by
  refine .none ?_ ?_ ?_ <;> rw [h]
  · intro id hreply
    cases hreply
  · intro hreply
    cases hreply
  · rfl

/-- A call that registers and removes nothing has an answer of its own kind. -/
theorem perform_result_ne {v : Viewport α Handler} {call : Viewport.Call α Handler}
    (h : call.registers = false) (id : SubscriptionId) :
    (v.perform call).result ≠ .subscribed id := by
  intro hresult
  cases call with
  | subscribe topic handler => cases h
  | _ => cases hresult

theorem step_subscribe {s : Scene α} (h : s.Orderly) {j : Nat} {v : Viewport α Handler}
    (hj : s.viewports[j]? = some v) (topic : Topic) (tag : Nat) :
    (s.step (.call j (.subscribe topic tag))).reply =
        .called (.subscribed { viewport := j, index := s.switchboard.nextIndex j }) ∧
      (s.step (.call j (.subscribe topic tag))).scene.switchboard =
        s.switchboard.register j topic (.user tag) := by
  obtain ⟨hid, _⟩ := h j v hj
  obtain ⟨_, hreply, _⟩ := step_call s hj (.subscribe topic tag)
  have hboard := Switchboard.withViewport_subscribe s.switchboard hid topic (.user tag)
  rw [withViewport_self s hj] at hboard
  refine ⟨?_, (step_call_board s hj _).trans hboard⟩
  rw [hreply]
  simp [userCall, Viewport.perform, Outcome.silent, Viewport.nextId, hid, switchboard, hj]

theorem step_unsubscribe {s : Scene α} (h : s.Orderly) {j : Nat} {v : Viewport α Handler}
    (hj : s.viewports[j]? = some v) (id : SubscriptionId) :
    (s.step (.call j (.unsubscribe id))).scene.switchboard = s.switchboard.remove j [id] := by
  have hboard := Switchboard.withViewport_unsubscribe (j := j) s.switchboard (h j v hj).2 id
  rw [withViewport_self s hj] at hboard
  exact (step_call_board s hj _).trans hboard

theorem call_rewiring {s : Scene α} (h : s.Orderly) (j : Nat) (call : Viewport.Call α Nat) :
    Rewiring s (.call j call) := by
  cases hj : s.viewports[j]? with
  | none =>
      have hsilent : s.step (.call j call) = s.silent .absent := by
        dsimp only [step]
        rw [hj]
      exact .of_absent hsilent
  | some v =>
      obtain ⟨_, hreply, _⟩ := step_call s hj call
      have hboard := step_call_board s hj call
      cases hcall : (userCall call).registers with
      | false =>
          -- zooms, pans and events leave the handlers alone
          have same := Viewport.perform_sameHandlers v hcall
          refine .none ?_ ?_ ?_
          · intro id
            rw [hreply]
            intro heq
            exact perform_result_ne hcall id (Reply.called.inj heq)
          · rw [hreply]
            simp
          · rw [hboard, Switchboard.withViewport_same _ same, withViewport_self s hj]
      | true =>
          cases call with
          | subscribe topic tag =>
              obtain ⟨hreply, hboard⟩ := step_subscribe h hj topic tag
              exact .subscribed j topic tag rfl hreply hboard
          | unsubscribe id =>
              refine .removed j id rfl ?_ ?_ (step_unsubscribe h hj id)
              · intro id'
                rw [hreply]
                intro heq
                cases heq
              · rw [hreply]
                simp
          | _ => cases hcall

omit [Scalar α] in
theorem rewire_board (s : Scene α) {i j : Nat} {l : Grid.Layer α} {v : Viewport α Handler}
    (w : Grid.Wiring α) (hi : s.layers[i]? = some l) (hj : s.viewports[j]? = some v) :
    (s.rewire i j w).scene.switchboard =
      (s.switchboard.withLayer i w.layer).withViewport j w.viewport := by
  have hj' : (s.setLayer i w.layer).viewports[j]? = some v := hj
  rw [← switchboard_setLayer s hi]
  exact switchboard_setViewport _ hj' _

omit [Scalar α] in
theorem withBoth_cases (s : Scene α) (i j : Nat)
    (body : Grid.Layer α → Viewport α Handler → Result α) :
    s.withBoth i j body = s.silent .absent ∨ ∃ l v, s.layers[i]? = some l ∧
      s.viewports[j]? = some v ∧ s.withBoth i j body = body l v := by
  unfold withBoth
  cases hi : s.layers[i]? with
  | none => exact .inl rfl
  | some l =>
      cases hj : s.viewports[j]? with
      | none => exact .inl rfl
      | some v => exact .inr ⟨l, v, rfl, rfl, rfl⟩

theorem attach_rewiring {s : Scene α} (h : s.Orderly) (i j : Nat) (host : String) :
    Rewiring s (.attach i j host) := by
  rcases s.withBoth_cases i j (fun l v => s.rewire i j (l.attach i v host)) with
    habsent | ⟨l, v, hi, hj, hboth⟩
  · exact .of_absent habsent
  · obtain ⟨hid, hv⟩ := h j v hj
    have hstep : s.step (.attach i j host) = s.rewire i j (l.attach i v host) := hboth
    refine .attached i j host rfl ?_ ?_
    · rw [hstep]
      rfl
    · rw [hstep, rewire_board s _ hi hj]
      exact attach_board s host hi hj hid hv

theorem detach_rewiring {s : Scene α} (h : s.Orderly) (i j : Nat) :
    Rewiring s (.detach i j) := by
  rcases s.withBoth_cases i j (fun l v => s.rewire i j (l.detach v)) with
    habsent | ⟨l, v, hi, hj, hboth⟩
  · exact .of_absent habsent
  · obtain ⟨hid, hv⟩ := h j v hj
    have hstep : s.step (.detach i j) = s.rewire i j (l.detach v) := hboth
    -- a refused detachment leaves layer and viewport as they are
    have hrefused : (l.detach v).layer = l ∧ (l.detach v).viewport = v ∧
        (l.detach v).done = false → Rewiring s (.detach i j) := by
      rintro ⟨hlayer, hviewport, hdone⟩
      refine .none ?_ ?_ ?_ <;> rw [hstep]
      · intro _ h
        cases h
      · simp [rewire, hdone]
      · rw [rewire_board s _ hi hj, hlayer, hviewport, withLayer_self s hi,
          withViewport_self s hj]
    cases ha : l.attachment? with
    | none =>
        apply hrefused
        simp [Grid.Layer.detach, ha]
    | some a =>
        by_cases hbelongs : a.belongsTo v = true
        · refine .detached i j a rfl ?_ ?_ ?_ ?_
          · simp [switchboard, hi, ha]
          · simpa [Grid.Attachment.belongsTo, Viewport.issued, hid] using hbelongs
          · rw [hstep]
            simp [rewire, Grid.Layer.detach, ha, hbelongs]
          · rw [hstep, rewire_board s _ hi hj]
            exact detach_board s hi hj hid hv ha hbelongs
        · apply hrefused
          simp [Grid.Layer.detach, ha, hbelongs]

omit [Scalar α] in
/-- A layer that only looks different is wired as before. -/
theorem restyled_board (s : Scene α) {i : Nat} {l l' : Grid.Layer α} (hi : s.layers[i]? = some l)
    (hgeneration : l'.generation = l.generation) (hattachment : l'.attachment? = l.attachment?) :
    (s.setLayer i l').switchboard = s.switchboard := by
  rw [switchboard_setLayer s hi, Switchboard.withLayer_congr _ _ hgeneration hattachment,
    withLayer_self s hi]

theorem setStyle_rewiring (s : Scene α) (i : Nat) (style : Grid.Style α) :
    Rewiring s (.setStyle i style) := by
  refine .none ?_ ?_ ?_
  · intro id
    simp only [step]
    split <;> exact fun h => by cases h
  · simp only [step]
    split <;> exact fun h => by cases h
  · cases hi : s.layers[i]? with
    | none => simp only [step, hi, silent]
    | some l =>
        simp only [step, hi, silent]
        exact restyled_board s hi rfl rfl

theorem paint_rewiring (s : Scene α) (i j : Nat) (size : Size α) :
    Rewiring s (.paint i j size) := by
  rcases s.withBoth_cases i j (fun l v =>
    { scene := s.setLayer i (l.paint v.view size).layer
      reply := .painted (l.paint v.view size).ops
      firings := []
      journal := (l.paint v.view size).records.map .grid }) with
    habsent | ⟨l, v, hi, _, hboth⟩
  · exact .of_absent habsent
  · refine .none ?_ ?_ ?_ <;> rw [show s.step (.paint i j size) = _ from hboth]
    · intro _ h
      cases h
    · intro h
      cases h
    · exact restyled_board s hi (l.paint_generation v.view size)
        (l.paint_attachment v.view size)

omit [Scalar α] in
/-- One more element at the end of a list is found where nothing was. -/
theorem getElem?_added {β : Type} (xs : List β) (x : β) (n : Nat) :
    (xs ++ [x])[n]? = xs[n]? ∨ n = xs.length ∧ xs[n]? = none ∧ (xs ++ [x])[n]? = some x := by
  by_cases h : n = xs.length
  · subst h
    exact .inr ⟨rfl, List.getElem?_eq_none (Nat.le_refl _), List.getElem?_concat_length⟩
  · refine .inl ?_
    rw [List.getElem?_append, List.getElem?_singleton]
    split
    · rfl
    · rw [if_neg (by omega), List.getElem?_eq_none (by omega)]

/-- What was just made is wired like what does not exist. -/
theorem addViewport_board (s : Scene α) (settings : ZoomSettings α) :
    (s.step (.addViewport settings)).scene.switchboard = s.switchboard := by
  have hfound := getElem?_added s.viewports (Viewport.create s.viewports.length settings)
  apply Switchboard.ext
  · funext j t
    simp only [step, silent, switchboard]
    rcases hfound j with hsame | ⟨_, hnone, hnew⟩
    · rw [hsame]
    · rw [hnone, hnew]
      cases t <;> rfl
  · funext j
    simp only [step, silent, switchboard]
    rcases hfound j with hsame | ⟨_, hnone, hnew⟩
    · rw [hsame]
    · rw [hnone, hnew]
      rfl
  · rfl
  · rfl

theorem addLayer_board (s : Scene α) (style : Grid.Style α) :
    (s.step (.addLayer style)).scene.switchboard = s.switchboard := by
  have hfound := getElem?_added s.layers (Grid.Layer.new style)
  apply Switchboard.ext
  · rfl
  · rfl
  · funext i
    simp only [step, silent, switchboard]
    rcases hfound i with hsame | ⟨_, hnone, hnew⟩
    · rw [hsame]
    · rw [hnone, hnew]
      rfl
  · funext i
    simp only [step, silent, switchboard]
    rcases hfound i with hsame | ⟨_, hnone, hnew⟩
    · rw [hsame]
    · rw [hnone, hnew]
      rfl

/-- **Every action wires in one of these ways.** In an orderly scene there is no other. -/
theorem step_rewiring {s : Scene α} (h : s.Orderly) (action : Action α) : Rewiring s action := by
  cases action with
  | addViewport settings =>
      exact .none (fun _ h => by cases h) (fun h => by cases h) (addViewport_board s settings)
  | addLayer style =>
      exact .none (fun _ h => by cases h) (fun h => by cases h) (addLayer_board s style)
  | call j call => exact call_rewiring h j call
  | attach i j host => exact attach_rewiring h i j host
  | detach i j => exact detach_rewiring h i j
  | setStyle i style => exact setStyle_rewiring s i style
  | paint i j size => exact paint_rewiring s i j size

/-- Subscriptions are numbered upwards. -/
theorem step_nextIndex_le {s : Scene α} (h : s.Orderly) (action : Action α) (k : Nat) :
    s.switchboard.nextIndex k ≤ (s.step action).scene.switchboard.nextIndex k := by
  cases step_rewiring h action with
  | none _ _ board => exact Nat.le_of_eq (congrArg (fun b => b.nextIndex k) board.symm)
  | subscribed j topic tag _ _ board =>
      rw [board]
      exact Switchboard.le_nextIndex_register ..
  | removed _ _ _ _ _ board =>
      exact Nat.le_of_eq (congrArg (fun b => b.nextIndex k) board.symm)
  | attached i j host _ _ board =>
      rw [board, Switchboard.nextIndex_attach]
      split
      · rename_i hkj
        rw [hkj]
        exact Nat.le_add_right _ _
      · exact Nat.le_refl _
  | detached _ _ _ _ _ _ _ board =>
      exact Nat.le_of_eq (congrArg (fun b => b.nextIndex k) board.symm)

end Scene

end PanZoom
