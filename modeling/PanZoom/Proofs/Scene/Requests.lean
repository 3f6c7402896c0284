import PanZoom.Proofs.Scene.Attachment

/-!
# Repaint requests

A layer is up to date from a paint on until something marks it, and only a delivery that finds it
up to date asks its host for a repaint, and marks it. So there is at most one request between two
paints, whichever handlers the notices go to (`requestCount_le`). Nothing is assumed of the
wiring here: this holds of every scene.
-/

namespace PanZoom

variable {α : Type}

/-- The host that a handler asks for repaints. -/
def Handler.host? : Handler → Option String
  | .user _ => none
  | .marker _ _ host => some host

namespace Grid.Layer

theorem mark_needsRepaint (l : Layer α) (generation : UInt64) :
    (l.mark generation).1.needsRepaint =
      (l.needsRepaint || decide (l.generation = generation)) := by
  unfold mark
  by_cases hgeneration : l.generation = generation <;> cases hneeds : l.needsRepaint <;>
    simp [hgeneration, hneeds]

theorem mark_asks (l : Layer α) (generation : UInt64) :
    (l.mark generation).2 = (!l.needsRepaint && decide (l.generation = generation)) := by
  unfold mark
  by_cases hgeneration : l.generation = generation <;> cases hneeds : l.needsRepaint <;>
    simp [hgeneration]

theorem attach_needsRepaint (l : Layer α) (self : Nat) (v : Viewport α Handler) (host : String) :
    (l.attach self v host).layer.needsRepaint = l.needsRepaint := rfl

theorem detach_needsRepaint (l : Layer α) (v : Viewport α Handler) :
    (l.detach v).layer.needsRepaint = l.needsRepaint := by
  unfold detach
  split
  · rfl
  · split <;> rfl

theorem paint_needsRepaint [Scalar α] (l : Layer α) (view : View α) (size : Size α) :
    (l.paint view size).layer.needsRepaint = false := by
  unfold paint
  dsimp only
  split <;> rfl

end Grid.Layer

namespace Scene

/-- The layer exists, and nothing has marked it since it was painted. -/
def upToDate (s : Scene α) (i : Nat) : Bool := s.layers[i]?.any fun l => !l.needsRepaint

theorem upToDate_setLayer {s : Scene α} {k : Nat} {l : Grid.Layer α} (hk : s.layers[k]? = some l)
    (l' : Grid.Layer α) (i : Nat) :
    (s.setLayer k l').upToDate i = if i = k then !l'.needsRepaint else s.upToDate i := by
  have hlt : k < s.layers.length := (List.getElem?_eq_some_iff.mp hk).1
  by_cases hi : i = k
  · subst hi
    simp [upToDate, setLayer, hlt]
  · simp [upToDate, setLayer, List.getElem?_set_ne (Ne.symm hi), hi]

/-- Putting back a layer with the same mark changes no mark. -/
theorem upToDate_setLayer_same {s : Scene α} {k : Nat} {l l' : Grid.Layer α}
    (hk : s.layers[k]? = some l) (hsame : l'.needsRepaint = l.needsRepaint) (i : Nat) :
    (s.setLayer k l').upToDate i = s.upToDate i := by
  rw [upToDate_setLayer hk]
  split
  · rename_i hi
    simp [upToDate, hi, hk, hsame]
  · rfl

/-! ## Deliveries -/

/-- A delivery to a handler of the present generation of a layer leaves the layer marked; any other
leaves the mark as it is. -/
theorem deliver_upToDate (s : Scene α) (n : Notice α Handler) (i : Nat) :
    (s.deliver n).1.upToDate i =
      (s.upToDate i && !n.handler.marks i (s.switchboard.generation i)) := by
  cases hn : n.handler with
  | user tag =>
      rw [deliver_user s hn]
      simp [Handler.marks]
  | marker k generation host =>
      rw [deliver_marker s hn]
      cases hk : s.layers[k]? with
      | none =>
          by_cases hi : k = i
          · subst hi
            simp [upToDate, hk]
          · simp [Handler.marks, hi]
      | some l =>
          dsimp only
          rw [upToDate_setLayer hk, Grid.Layer.mark_needsRepaint]
          by_cases hi : i = k
          · subst hi
            have hgeneration : s.switchboard.generation i = l.generation := by
              simp [switchboard, hk]
            simp [upToDate, hk, Handler.marks, hgeneration, eq_comm]
          · simp [Handler.marks, hi, Ne.symm hi]

theorem deliverAll_upToDate (s : Scene α) (notices : List (Notice α Handler)) (i : Nat) :
    (s.deliverAll notices).1.upToDate i =
      (s.upToDate i && !notices.any fun n => n.handler.marks i (s.switchboard.generation i)) := by
  induction notices generalizing s with
  | nil => simp [deliverAll]
  | cons n rest ih =>
      simp only [deliverAll, List.any_cons]
      rw [ih, deliver_upToDate, deliver_switchboard, Bool.not_or, Bool.and_assoc]

/-- The host that is asked for a repaint. -/
def Firing.host? : Firing α → Option String
  | .told _ _ => none
  | .repaint host => some host

/-- A host is asked only if the layer was up to date just before. -/
theorem deliver_hosts (s : Scene α) {n : Notice α Handler} {i : Nat} {generation : UInt64}
    {host : String} (hn : n.handler = .marker i generation host) :
    (s.deliver n).2 =
      if s.upToDate i ∧ s.switchboard.generation i = generation then [.repaint host] else [] := by
  rw [deliver_marker s hn]
  cases hi : s.layers[i]? with
  | none => simp [upToDate, hi]
  | some l => simp [upToDate, switchboard, hi, Grid.Layer.mark_asks]

/-! ## Who asks -/

/-- The requests that follow from a delivery: the layer that the handler belongs to, and the host
that is asked. -/
def requestsOf (s : Scene α) (n : Notice α Handler) : List (Nat × String) :=
  match n.handler with
  | .user _ => []
  | .marker i _ _ => ((s.deliver n).2.filterMap Firing.host?).map (Prod.mk i)

/-- The requests that follow from the delivery of notices, in order. -/
def requests (s : Scene α) : List (Notice α Handler) → List (Nat × String)
  | [] => []
  | n :: rest => s.requestsOf n ++ (s.deliver n).1.requests rest

theorem requestsOf_marker (s : Scene α) {n : Notice α Handler} {k : Nat} {generation : UInt64}
    {host : String} (hn : n.handler = .marker k generation host) :
    s.requestsOf n =
      if s.upToDate k ∧ s.switchboard.generation k = generation then [(k, host)] else [] := by
  simp only [requestsOf, hn, deliver_hosts s hn]
  split <;> rfl

theorem requestsOf_hosts (s : Scene α) (n : Notice α Handler) :
    (s.requestsOf n).map Prod.snd = (s.deliver n).2.filterMap Firing.host? := by
  cases hn : n.handler with
  | user tag =>
      rw [deliver_user s hn]
      simp [requestsOf, hn, Firing.host?]
  | marker k generation host =>
      rw [requestsOf_marker s hn, deliver_hosts s hn]
      split <;> rfl

/-- Every request that is seen from outside is the request of a layer. -/
theorem requests_hosts (s : Scene α) (notices : List (Notice α Handler)) :
    (s.requests notices).map Prod.snd = (s.deliverAll notices).2.filterMap Firing.host? := by
  induction notices generalizing s with
  | nil => rfl
  | cons n rest ih =>
      simp only [requests, deliverAll, List.map_append, List.filterMap_append, requestsOf_hosts, ih]

/-- A handler that does not mark a layer does not ask for it either. -/
theorem requestsOf_unmarked {s : Scene α} {n : Notice α Handler} {i : Nat}
    (h : n.handler.marks i (s.switchboard.generation i) = false) :
    ∀ request ∈ s.requestsOf n, request.1 ≠ i := by
  intro request hmem hi
  cases hn : n.handler with
  | user tag => simp [requestsOf, hn] at hmem
  | marker k generation host =>
      rw [requestsOf_marker s hn] at hmem
      split at hmem
      · rename_i hasked
        obtain rfl := List.mem_singleton.mp hmem
        obtain rfl : k = i := hi
        simp [hn, Handler.marks, hasked.2] at h
      · cases hmem

/-- The requests of one layer: the first notice to a handler of its present generation asks the
host of that handler, if the layer is up to date before all of them. -/
theorem requests_filter (s : Scene α) (notices : List (Notice α Handler)) (i : Nat) :
    (s.requests notices).filter (fun r => r.1 = i) =
      if s.upToDate i then
        (((notices.find? fun n => n.handler.marks i (s.switchboard.generation i)).bind
          fun n => n.handler.host?).map (Prod.mk i)).toList
      else [] := by
  induction notices generalizing s with
  | nil => simp [requests]
  | cons n rest ih =>
      simp only [requests, List.filter_append, List.find?_cons]
      rw [ih, deliver_upToDate, deliver_switchboard]
      cases hmarks : n.handler.marks i (s.switchboard.generation i) with
      | true =>
          -- the first one, and the layer is stale from here on
          obtain ⟨host, hn⟩ := Handler.marks_iff.mp hmarks
          rw [requestsOf_marker s hn]
          cases s.upToDate i <;> simp [hn, Handler.host?]
      | false =>
          have hnone : (s.requestsOf n).filter (fun r => r.1 = i) = [] :=
            List.filter_eq_nil_iff.mpr fun r hr => by simpa using requestsOf_unmarked hmarks r hr
          rw [hnone, Bool.not_false, Bool.and_true]
          rfl

/-- A request takes away that the layer is up to date. -/
theorem requestsOf_count (s : Scene α) (n : Notice α Handler) (i : Nat) :
    (s.requestsOf n).countP (fun r => r.1 = i) + ((s.deliver n).1.upToDate i).toNat ≤
      (s.upToDate i).toNat := by
  rw [deliver_upToDate]
  cases hn : n.handler with
  | user tag => simp [requestsOf, hn, Handler.marks]
  | marker k generation host =>
      rw [requestsOf_marker s hn]
      by_cases hi : k = i
      · subst hi
        cases s.upToDate k <;> by_cases hgeneration : s.switchboard.generation k = generation <;>
          simp [hgeneration, Handler.marks, Ne.symm]
      · -- a request of another layer
        have hother : ∀ p : Prop, [Decidable p] →
            (if p then [(k, host)] else []).countP (fun r => r.1 = i) = 0 := by
          intro p _
          split <;> simp [hi]
        simp [hother, hi, Handler.marks]

theorem requests_count (s : Scene α) (notices : List (Notice α Handler)) (i : Nat) :
    (s.requests notices).countP (fun r => r.1 = i) +
      ((s.deliverAll notices).1.upToDate i).toNat ≤ (s.upToDate i).toNat := by
  induction notices generalizing s with
  | nil => simp [requests, deliverAll]
  | cons n rest ih =>
      have hfirst := s.requestsOf_count n i
      have hrest := ih (s.deliver n).1
      simp only [requests, deliverAll, List.countP_append]
      omega

/-! ## Actions -/

variable [Scalar α]

/-- The action paints a layer. -/
def paints (s : Scene α) (i : Nat) (action : Action α) : Bool :=
  match action, (s.step action).reply with
  | .paint k _ _, .painted _ => k = i
  | _, _ => false

/-- The action gives a layer another style. -/
def restyles (s : Scene α) (i : Nat) (action : Action α) : Bool :=
  match action, (s.step action).reply with
  | .setStyle k _, .restyled => k = i
  | _, _ => false

/-- The requests that follow from an action. -/
def asking (s : Scene α) : Action α → List (Nat × String)
  | .call j call =>
    match s.viewports[j]? with
    | some v =>
      (s.setViewport j (v.perform (userCall call)).viewport).requests
        (v.perform (userCall call)).notices
    | none => []
  | _ => []

/-- Every host that is asked is asked by a layer. -/
theorem asking_hosts (s : Scene α) (action : Action α) :
    (s.asking action).map Prod.snd = (s.step action).firings.filterMap Firing.host? := by
  cases action with
  | call j call =>
      cases hj : s.viewports[j]? with
      | none => simp [asking, step, silent, hj]
      | some v =>
          rw [(step_call s hj call).2.2, ← requests_hosts]
          simp only [asking, hj]
  | _ =>
      rw [s.step_quiet (by simp)]
      rfl

theorem call_upToDate (s : Scene α) (j : Nat) (call : Viewport.Call α Nat) (i : Nat) :
    (s.step (.call j call)).scene.upToDate i =
      (s.upToDate i && !(s.notices (.call j call)).any fun n =>
        n.handler.marks i (s.switchboard.generation i)) := by
  cases hj : s.viewports[j]? with
  | none => simp [step, silent, notices, hj]
  | some v =>
      rw [(step_call s hj call).1, deliverAll_upToDate]
      simp only [notices, hj]
      rfl

omit [Scalar α] in
theorem rewire_upToDate (s : Scene α) {k j : Nat} {l : Grid.Layer α} {w : Grid.Wiring α}
    (hk : s.layers[k]? = some l) (hsame : w.layer.needsRepaint = l.needsRepaint) (i : Nat) :
    (s.rewire k j w).scene.upToDate i = s.upToDate i :=
  upToDate_setLayer_same hk hsame i

theorem addLayer_upToDate (s : Scene α) (style : Grid.Style α) (i : Nat) :
    (s.step (.addLayer style)).scene.upToDate i = s.upToDate i := by
  simp only [step, silent, upToDate]
  rcases getElem?_added s.layers (Grid.Layer.new style) i with hsame | ⟨_, hnone, hnew⟩
  · rw [hsame]
  · -- it was never painted
    rw [hnone, hnew]
    rfl

theorem attach_upToDate (s : Scene α) (k j : Nat) (host : String) (i : Nat) :
    (s.step (.attach k j host)).scene.upToDate i = s.upToDate i := by
  rcases s.withBoth_cases k j (fun l v => s.rewire k j (l.attach k v host)) with
    habsent | ⟨l, v, hk, _, hboth⟩
  · rw [show s.step (.attach k j host) = _ from habsent]
    rfl
  · rw [show s.step (.attach k j host) = _ from hboth]
    exact s.rewire_upToDate hk (l.attach_needsRepaint k v host) i

theorem detach_upToDate (s : Scene α) (k j i : Nat) :
    (s.step (.detach k j)).scene.upToDate i = s.upToDate i := by
  rcases s.withBoth_cases k j (fun l v => s.rewire k j (l.detach v)) with
    habsent | ⟨l, v, hk, _, hboth⟩
  · rw [show s.step (.detach k j) = _ from habsent]
    rfl
  · rw [show s.step (.detach k j) = _ from hboth]
    exact s.rewire_upToDate hk (l.detach_needsRepaint v) i

theorem setStyle_upToDate (s : Scene α) (k : Nat) (style : Grid.Style α) (i : Nat) :
    (s.step (.setStyle k style)).scene.upToDate i =
      (!s.restyles i (.setStyle k style) && s.upToDate i) := by
  cases hk : s.layers[k]? with
  | none => simp [restyles, step, silent, hk]
  | some l =>
      have hscene : (s.step (.setStyle k style)).scene = s.setLayer k (l.setStyle style) := by
        simp only [step, hk, silent]
      have hrestyles : s.restyles i (.setStyle k style) = decide (k = i) := by
        simp [restyles, step, hk, silent]
      rw [hscene, upToDate_setLayer hk, hrestyles]
      by_cases hi : k = i
      · simp [hi, Grid.Layer.setStyle]
      · simp [hi, Ne.symm hi]

theorem paint_upToDate (s : Scene α) (k j : Nat) (size : Size α) (i : Nat) :
    (s.step (.paint k j size)).scene.upToDate i =
      (s.paints i (.paint k j size) || s.upToDate i) := by
  rcases s.withBoth_cases k j (fun l v =>
    { scene := s.setLayer k (l.paint v.view size).layer
      reply := .painted (l.paint v.view size).ops
      firings := []
      journal := (l.paint v.view size).records.map .grid }) with
    habsent | ⟨l, v, hk, _, hboth⟩
  · have hstep : s.step (.paint k j size) = s.silent .absent := habsent
    simp [paints, hstep, silent]
  · have hpaints : s.paints i (.paint k j size) = decide (k = i) := by
      simp only [paints, show s.step (.paint k j size) = _ from hboth]
    rw [show s.step (.paint k j size) = _ from hboth, upToDate_setLayer hk, hpaints,
      Grid.Layer.paint_needsRepaint]
    by_cases hi : k = i
    · simp [hi]
    · simp [hi, Ne.symm hi]

/-- **What makes a layer stale.** A paint brings a layer up to date; another style, and a notice to
a handler of its present generation, make it stale; nothing else matters. -/
theorem step_upToDate (s : Scene α) (i : Nat) (action : Action α) :
    (s.step action).scene.upToDate i =
      (s.paints i action || !s.restyles i action && (s.upToDate i &&
        !(s.notices action).any fun n => n.handler.marks i (s.switchboard.generation i))) := by
  cases action with
  | call j call => simp [call_upToDate, paints, restyles]
  | addViewport settings => simp [upToDate, step, silent, paints, restyles, notices]
  | addLayer style => simp [addLayer_upToDate, paints, restyles, notices]
  | attach k j host => simp [attach_upToDate, paints, restyles, notices]
  | detach k j => simp [detach_upToDate, paints, restyles, notices]
  | setStyle k style => simp [setStyle_upToDate, paints, notices]
  | paint k j size => simp [paint_upToDate, restyles, notices]

/-! ## Runs -/

/-- None of the actions paints a layer. -/
def Unpainted (s : Scene α) (i : Nat) : List (Action α) → Prop
  | [] => True
  | action :: rest => s.paints i action = false ∧ (s.step action).scene.Unpainted i rest

instance decidableUnpainted : (s : Scene α) → (i : Nat) → (actions : List (Action α)) →
    Decidable (s.Unpainted i actions)
  | _, _, [] => isTrue trivial
  | s, i, action :: rest =>
    have := decidableUnpainted (s.step action).scene i rest
    inferInstanceAs (Decidable (s.paints i action = false ∧
      (s.step action).scene.Unpainted i rest))

/-- The number of requests of a layer along a run. -/
def requestCount (s : Scene α) (i : Nat) : List (Action α) → Nat
  | [] => 0
  | action :: rest =>
    (s.asking action).countP (fun r => r.1 = i) + (s.step action).scene.requestCount i rest

theorem step_count {s : Scene α} {i : Nat} {action : Action α}
    (h : s.paints i action = false) :
    (s.asking action).countP (fun r => r.1 = i) + ((s.step action).scene.upToDate i).toNat ≤
      (s.upToDate i).toNat := by
  have hquiet : s.asking action = [] →
      (s.asking action).countP (fun r => r.1 = i) + ((s.step action).scene.upToDate i).toNat ≤
        (s.upToDate i).toNat := by
    intro hnone
    rw [hnone, step_upToDate, h]
    cases s.restyles i action <;> cases s.upToDate i <;> simp [Bool.toNat_le]
  cases action with
  | call j call =>
      cases hj : s.viewports[j]? with
      | none => exact hquiet (by simp [asking, hj])
      | some v =>
          rw [(step_call s hj call).1]
          simp only [asking, hj]
          exact requests_count _ _ i
  | _ => exact hquiet rfl

/-- **Requests coalesce.** Until it is painted again, a layer asks for one repaint at most, and for
none if it is stale. -/
theorem requestCount_le {s : Scene α} {i : Nat} {actions : List (Action α)}
    (h : s.Unpainted i actions) :
    s.requestCount i actions + ((s.run actions).upToDate i).toNat ≤ (s.upToDate i).toNat := by
  induction actions generalizing s with
  | nil => exact Nat.le_of_eq (Nat.zero_add _)
  | cons action rest ih =>
      have hfirst := step_count h.1
      have hrest := ih h.2
      have hrun : s.run (action :: rest) = (s.step action).scene.run rest := rfl
      rw [requestCount, hrun]
      omega

end Scene

end PanZoom
