import PanZoom.Proofs.View.Effect

/-!
# The handlers of a viewport

Both handler lists of a viewport are fed from one counter, so the ids in a list grow in the order
of registration, and no id is in both lists (`Orderly`). In an orderly viewport a subscription adds
one entry at the end of one list, and a removal takes out the entries of one id from both, whether
there is one or not; these two equations and `perform_sameHandlers` are all that is needed of the
lists elsewhere.
-/

namespace PanZoom

/-- Ids compare by their viewports, and for one viewport by the order of registration. -/
theorem SubscriptionId.compare_eq {id id' : SubscriptionId}
    (h : id.viewport = id'.viewport → id.index < id'.index) :
    compare id id' = (compare id.viewport id'.viewport).then .lt := by
  have hfields : compare id id' =
      (compare id.viewport id'.viewport).then (compare id.index id'.index) := rfl
  rw [hfields]
  cases hviewport : compare id.viewport id'.viewport with
  | lt => rfl
  | gt => rfl
  | eq => exact Nat.compare_eq_lt.mpr (h (Nat.compare_eq_eq.mp hviewport))

namespace Viewport

variable {α η : Type}

/-- The handlers registered for a topic, in order, with their subscriptions. -/
def entries (v : Viewport α η) : Topic → List (SubscriptionId × η)
  | .scale => v.onScale.entries
  | .offset => v.onOffset.entries

theorem subscriberCount_eq (v : Viewport α η) :
    v.subscriberCount = (v.entries .scale).length + (v.entries .offset).length := rfl

/-- The subscription that is issued next. -/
def nextId (v : Viewport α η) : SubscriptionId := { viewport := v.id, index := v.nextIndex }

/-- Entries in the order of registration. -/
def Ordered (entries : List (SubscriptionId × η)) : Prop :=
  entries.Pairwise fun e e' => e.1.index < e'.1.index

theorem Ordered.eq_of_fst {entries : List (SubscriptionId × η)} (h : Ordered entries)
    {e e' : SubscriptionId × η} (he : e ∈ entries) (he' : e' ∈ entries) (heq : e.1 = e'.1) :
    e = e' := by
  have hlt := List.Pairwise.forall_of_forall_of_flip
    (R := fun e e' => e.1 = e'.1 → e = e')
    (l := entries) (fun _ _ _ => rfl)
    (h.imp fun hindex hfst => absurd (hfst ▸ hindex) (Nat.lt_irrefl _))
    (h.imp fun hindex hfst => absurd (hfst ▸ hindex) (Nat.lt_irrefl _))
  exact hlt he he' heq

/-- If a condition picks one entry out of an ordered list, then it picks it once. -/
theorem Ordered.filter_eq {entries : List (SubscriptionId × η)} (h : Ordered entries)
    {p : SubscriptionId × η → Bool} {x : SubscriptionId × η}
    (hx : ∀ e, e ∈ entries ∧ p e = true ↔ e = x) : entries.filter p = [x] := by
  have hnodup : (entries.filter p).Nodup := by
    refine (h.filter p).imp fun hindex heq => ?_
    rw [heq] at hindex
    exact Nat.lt_irrefl _ hindex
  have hmem : ∀ e, e ∈ entries.filter p ↔ e = x := by
    intro e
    rw [List.mem_filter]
    exact hx e
  generalize entries.filter p = found at hnodup hmem
  cases found with
  | nil => exact absurd ((hmem x).mpr rfl) List.not_mem_nil
  | cons e rest =>
      obtain rfl := (hmem e).mp List.mem_cons_self
      cases rest with
      | nil => rfl
      | cons e' rest =>
          -- a second entry would be the same one
          obtain rfl := (hmem e').mp (List.mem_cons_of_mem _ List.mem_cons_self)
          exact absurd List.mem_cons_self (List.nodup_cons.mp hnodup).1

/-- The handler lists of a viewport are in order. -/
structure Orderly (v : Viewport α η) : Prop where
  issued : ∀ t, ∀ e ∈ v.entries t, e.1.viewport = v.id ∧ e.1.index < v.nextIndex
  ordered : ∀ t, Ordered (v.entries t)
  disjoint : ∀ e ∈ v.entries .scale, ∀ e' ∈ v.entries .offset, e.1 ≠ e'.1

theorem Orderly.unique {v : Viewport α η} (h : v.Orderly) {t t' : Topic}
    {e e' : SubscriptionId × η} (he : e ∈ v.entries t) (he' : e' ∈ v.entries t')
    (heq : e'.1 = e.1) : t' = t ∧ e' = e := by
  cases t with
  | scale =>
      cases t' with
      | scale => exact ⟨rfl, (h.ordered .scale).eq_of_fst he' he heq⟩
      | offset => exact absurd heq.symm (h.disjoint e he e' he')
  | offset =>
      cases t' with
      | scale => exact absurd heq (h.disjoint e' he' e he)
      | offset => exact ⟨rfl, (h.ordered .offset).eq_of_fst he' he heq⟩

/-- The handlers on a list are in the order of their ids. -/
theorem Orderly.increasing {v : Viewport α η} (h : v.Orderly) (t : Topic) :
    (v.entries t).Pairwise fun e e' => compare e.1 e'.1 = .lt := by
  refine (h.ordered t).imp_of_mem ?_
  intro e e' he he' hindex
  have hviewport : e.1.viewport = e'.1.viewport :=
    (h.issued t e he).1.trans (h.issued t e' he').1.symm
  rw [SubscriptionId.compare_eq fun _ => hindex, hviewport, Nat.compare_eq_eq.mpr rfl]
  rfl

/-! ## Subscribing -/

theorem create_orderly [Scalar α] (id : Nat) (settings : ZoomSettings α) :
    (create id settings : Viewport α η).Orderly where
  issued t e he := by cases t <;> cases he
  ordered t := by cases t <;> exact List.Pairwise.nil
  disjoint e he := by cases he

@[simp] theorem subscribe_id (v : Viewport α η) (topic : Topic) (handler : η) :
    (v.subscribe topic handler).1.id = v.id := by
  cases topic <;> rfl

@[simp] theorem subscribe_nextIndex (v : Viewport α η) (topic : Topic) (handler : η) :
    (v.subscribe topic handler).1.nextIndex = v.nextIndex + 1 := by
  cases topic <;> rfl

@[simp] theorem subscribe_snd (v : Viewport α η) (topic : Topic) (handler : η) :
    (v.subscribe topic handler).2 = v.nextId := by
  cases topic <;> rfl

@[simp] theorem subscribe_view (v : Viewport α η) (topic : Topic) (handler : η) :
    (v.subscribe topic handler).1.view = v.view := by
  cases topic <;> rfl

@[simp] theorem subscribe_settings (v : Viewport α η) (topic : Topic) (handler : η) :
    (v.subscribe topic handler).1.settings = v.settings := by
  cases topic <;> rfl

theorem subscribe_entries (v : Viewport α η) (topic : Topic) (handler : η) (t : Topic) :
    (v.subscribe topic handler).1.entries t =
      v.entries t ++ if t = topic then [(v.nextId, handler)] else [] := by
  cases topic <;> cases t <;> simp [subscribe, entries, Observers.insert, nextId]

theorem mem_subscribe_entries {v : Viewport α η} {topic : Topic} {handler : η} {t : Topic}
    {e : SubscriptionId × η} (he : e ∈ (v.subscribe topic handler).1.entries t) :
    e ∈ v.entries t ∨ t = topic ∧ e = (v.nextId, handler) := by
  rw [subscribe_entries, List.mem_append] at he
  rcases he with hold | hnew
  · exact .inl hold
  · split at hnew
    · rename_i htopic
      exact .inr ⟨htopic, List.mem_singleton.mp hnew⟩
    · cases hnew

theorem Orderly.subscribe {v : Viewport α η} (h : v.Orderly) (topic : Topic) (handler : η) :
    (v.subscribe topic handler).1.Orderly where
  issued := by
    intro t e he
    rw [subscribe_id, subscribe_nextIndex]
    rcases mem_subscribe_entries he with hold | ⟨_, rfl⟩
    · obtain ⟨hid, hindex⟩ := h.issued t e hold
      exact ⟨hid, by omega⟩
    · exact ⟨rfl, Nat.lt_succ_self _⟩
  ordered := by
    intro t
    rw [subscribe_entries]
    refine List.pairwise_append.mpr ⟨h.ordered t, ?_, ?_⟩
    · split
      · exact List.pairwise_singleton _ _
      · exact List.Pairwise.nil
    · intro e he e' he'
      split at he'
      · rw [List.mem_singleton.mp he']
        exact (h.issued t e he).2
      · cases he'
  disjoint := by
    -- the id of the new entry was not issued when the others were registered
    intro e he e' he' heq
    rcases mem_subscribe_entries he with hold | ⟨hscale, rfl⟩
    · rcases mem_subscribe_entries he' with hold' | ⟨_, rfl⟩
      · exact h.disjoint e hold e' hold' heq
      · have hindex := (h.issued .scale e hold).2
        rw [heq] at hindex
        exact Nat.lt_irrefl _ hindex
    · rcases mem_subscribe_entries he' with hold' | ⟨hoffset, _⟩
      · have hindex := (h.issued .offset e' hold').2
        rw [← heq] at hindex
        exact Nat.lt_irrefl _ hindex
      · cases hscale.trans hoffset.symm

/-! ## Removing -/

/-- The entries left when those of some ids are taken out. -/
def without (entries : List (SubscriptionId × η)) (ids : List SubscriptionId) :
    List (SubscriptionId × η) :=
  entries.filter fun e => e.1 ∉ ids

theorem mem_without {entries : List (SubscriptionId × η)} {ids : List SubscriptionId}
    {e : SubscriptionId × η} : e ∈ without entries ids ↔ e ∈ entries ∧ e.1 ∉ ids := by
  rw [without, List.mem_filter, decide_eq_true_iff]

theorem without_eq_self {entries : List (SubscriptionId × η)} {ids : List SubscriptionId}
    (h : ∀ e ∈ entries, e.1 ∉ ids) : without entries ids = entries :=
  List.filter_eq_self.mpr fun e he => decide_eq_true (h e he)

@[simp] theorem without_nil (entries : List (SubscriptionId × η)) : without entries [] = entries :=
  without_eq_self fun _ _ => List.not_mem_nil

theorem without_without (entries : List (SubscriptionId × η)) (id id' : SubscriptionId) :
    without (without entries [id]) [id'] = without entries [id, id'] := by
  rw [without, without, List.filter_filter]
  congr 1
  funext e
  simp [Bool.and_comm]

/-- In an ordered list the first entry of an id is the only one. -/
theorem eraseP_eq_without {entries : List (SubscriptionId × η)} (h : Ordered entries)
    (id : SubscriptionId) : entries.eraseP (fun e => e.1 = id) = without entries [id] := by
  induction h with
  | nil => rfl
  | @cons e rest hlater hrest ih =>
      by_cases hid : e.1 = id
      · have hothers : ∀ e' ∈ rest, e'.1 ∉ [id] := by
          intro e' he' heq
          have hlt := hlater e' he'
          rw [hid, List.mem_singleton.mp heq] at hlt
          exact Nat.lt_irrefl _ hlt
        rw [List.eraseP_cons_of_pos (by simpa using hid), without,
          List.filter_cons_of_neg (by simpa using hid)]
        exact (without_eq_self hothers).symm
      · rw [List.eraseP_cons_of_neg (by simpa using hid), without,
          List.filter_cons_of_pos (by simpa using hid), ih, without]

theorem not_contains {o : Observers η} {id : SubscriptionId} (h : ¬ o.contains id = true) :
    ∀ e ∈ o.entries, e.1 ∉ [id] := by
  intro e he heq
  apply h
  exact List.any_eq_true.mpr ⟨e, he, by simpa using heq⟩

theorem exists_of_contains {o : Observers η} {id : SubscriptionId} (h : o.contains id = true) :
    ∃ e ∈ o.entries, e.1 = id := by
  obtain ⟨e, he, heq⟩ := List.any_eq_true.mp h
  exact ⟨e, he, by simpa using heq⟩

/-- Whatever a removal finds, only the lists can change. -/
theorem unsubscribe_viewport (v : Viewport α η) (id : SubscriptionId) :
    ∃ onScale onOffset, (v.unsubscribe id).viewport = { v with onScale, onOffset } := by
  unfold unsubscribe
  split
  · split
    · exact ⟨_, _, rfl⟩
    · split <;> exact ⟨_, _, rfl⟩
  · exact ⟨_, _, rfl⟩

@[simp] theorem unsubscribe_id (v : Viewport α η) (id : SubscriptionId) :
    (v.unsubscribe id).viewport.id = v.id := by
  obtain ⟨_, _, h⟩ := unsubscribe_viewport v id
  rw [h]

@[simp] theorem unsubscribe_nextIndex (v : Viewport α η) (id : SubscriptionId) :
    (v.unsubscribe id).viewport.nextIndex = v.nextIndex := by
  obtain ⟨_, _, h⟩ := unsubscribe_viewport v id
  rw [h]

@[simp] theorem unsubscribe_view (v : Viewport α η) (id : SubscriptionId) :
    (v.unsubscribe id).viewport.view = v.view := by
  obtain ⟨_, _, h⟩ := unsubscribe_viewport v id
  rw [h]

@[simp] theorem unsubscribe_settings (v : Viewport α η) (id : SubscriptionId) :
    (v.unsubscribe id).viewport.settings = v.settings := by
  obtain ⟨_, _, h⟩ := unsubscribe_viewport v id
  rw [h]

/-- A removal takes the entries of one id out of both lists; of an id that was issued elsewhere,
or whose handler was removed before, there are none. -/
theorem Orderly.unsubscribe_entries {v : Viewport α η} (h : v.Orderly) (id : SubscriptionId)
    (t : Topic) : (v.unsubscribe id).viewport.entries t = without (v.entries t) [id] := by
  unfold unsubscribe
  by_cases hissued : v.issued id = true
  · rw [if_pos hissued]
    by_cases hscale : v.onScale.contains id = true
    · -- found on the first list, and so not on the second
      rw [if_pos hscale]
      obtain ⟨e, he, heq⟩ := exists_of_contains hscale
      cases t with
      | scale => exact eraseP_eq_without (h.ordered .scale) id
      | offset =>
          refine (without_eq_self ?_).symm
          intro e' he' heq'
          exact h.disjoint e he e' he' (heq.trans (List.mem_singleton.mp heq').symm)
    · rw [if_neg hscale]
      by_cases hoffset : v.onOffset.contains id = true
      · rw [if_pos hoffset]
        cases t with
        | scale => exact (without_eq_self (not_contains hscale)).symm
        | offset => exact eraseP_eq_without (h.ordered .offset) id
      · rw [if_neg hoffset]
        cases t with
        | scale => exact (without_eq_self (not_contains hscale)).symm
        | offset => exact (without_eq_self (not_contains hoffset)).symm
  · -- issued by another viewport
    rw [if_neg hissued]
    refine (without_eq_self ?_).symm
    intro e he heq
    rw [List.mem_singleton] at heq
    exact hissued (beq_iff_eq.mpr (heq ▸ (h.issued t e he).1))

theorem Orderly.unsubscribe {v : Viewport α η} (h : v.Orderly) (id : SubscriptionId) :
    (v.unsubscribe id).viewport.Orderly where
  issued := by
    intro t e he
    rw [h.unsubscribe_entries, mem_without] at he
    rw [unsubscribe_id, unsubscribe_nextIndex]
    exact h.issued t e he.1
  ordered := by
    intro t
    rw [h.unsubscribe_entries]
    exact (h.ordered t).filter _
  disjoint := by
    intro e he e' he'
    rw [h.unsubscribe_entries, mem_without] at he he'
    exact h.disjoint e he.1 e' he'.1

/-! ## Calls -/

/-- Nothing about the handlers is different. -/
structure SameHandlers (v v' : Viewport α η) : Prop where
  id : v'.id = v.id
  nextIndex : v'.nextIndex = v.nextIndex
  entries : ∀ t, v'.entries t = v.entries t

theorem SameHandlers.orderly {v v' : Viewport α η} (same : SameHandlers v v') (h : v.Orderly) :
    v'.Orderly where
  issued := by
    intro t e he
    rw [same.entries] at he
    rw [same.id, same.nextIndex]
    exact h.issued t e he
  ordered := by
    intro t
    rw [same.entries]
    exact h.ordered t
  disjoint := by
    rw [same.entries, same.entries]
    exact h.disjoint

/-- The call registers or removes a handler. -/
def Call.registers : Call α η → Bool
  | .subscribe _ _ | .unsubscribe _ => true
  | _ => false

variable [Scalar α]

theorem perform_sameHandlers (v : Viewport α η) {call : Call α η} (h : call.registers = false) :
    SameHandlers v (v.perform call).viewport := by
  cases perform_effect v call with
  | none viewport =>
      rw [viewport]
      exact ⟨rfl, rfl, fun _ => rfl⟩
  | zoomed _ _ _ viewport =>
      rw [viewport]
      exact ⟨rfl, rfl, fun t => by cases t <;> rfl⟩
  | panBegun _ _ viewport =>
      rw [viewport]
      exact ⟨rfl, rfl, fun t => by cases t <;> rfl⟩
  | panned _ _ _ _ viewport =>
      rw [viewport]
      exact ⟨rfl, rfl, fun t => by cases t <;> rfl⟩
  | panEnded viewport =>
      rw [viewport]
      exact ⟨rfl, rfl, fun t => by cases t <;> rfl⟩
  | reset viewport =>
      rw [viewport]
      exact ⟨rfl, rfl, fun t => by cases t <;> rfl⟩
  | subscribed topic handler asked =>
      rw [asked] at h
      cases h
  | unsubscribed id asked =>
      rw [asked] at h
      cases h

theorem Orderly.perform {v : Viewport α η} (h : v.Orderly) (call : Call α η) :
    (v.perform call).viewport.Orderly := by
  cases hcall : call.registers with
  | false => exact (perform_sameHandlers v hcall).orderly h
  | true =>
      cases call with
      | subscribe topic handler => exact h.subscribe topic handler
      | unsubscribe id => exact h.unsubscribe id
      | _ => cases hcall

theorem Orderly.run {v : Viewport α η} (h : v.Orderly) (calls : List (Call α η)) :
    (v.run calls).Orderly :=
  run_invariant (fun _ call hv => hv.perform call) h calls

theorem perform_id (v : Viewport α η) (call : Call α η) : (v.perform call).viewport.id = v.id := by
  cases hcall : call.registers with
  | false => exact (perform_sameHandlers v hcall).id
  | true =>
      cases call with
      | subscribe topic handler => exact subscribe_id v topic handler
      | unsubscribe id => exact unsubscribe_id v id
      | _ => cases hcall

/-- No call changes the settings. -/
theorem perform_settings (v : Viewport α η) (call : Call α η) :
    (v.perform call).viewport.settings = v.settings := by
  cases perform_effect v call with
  | subscribed topic handler _ viewport => rw [viewport, subscribe_settings]
  | unsubscribed id _ viewport => rw [viewport, unsubscribe_settings]
  | none viewport => rw [viewport]
  | zoomed _ _ _ viewport => rw [viewport]
  | panBegun _ _ viewport => rw [viewport]
  | panned _ _ _ _ viewport => rw [viewport]
  | panEnded viewport => rw [viewport]
  | reset viewport => rw [viewport]

theorem run_settings (v : Viewport α η) (calls : List (Call α η)) :
    (v.run calls).settings = v.settings :=
  run_invariant (P := fun u => u.settings = v.settings)
    (fun u call h => (perform_settings u call).trans h) rfl calls

/-- The notices of one topic: all its handlers, in order, each with the same change. -/
def noticesOf (v : Viewport α η) (t : Topic) (change : Change α) : List (Notice α η) :=
  (v.entries t).map fun e => { id := e.1, handler := e.2, change }

omit [Scalar α] in
/-- No handler is told twice. -/
theorem Orderly.noticesOf_nodup {v : Viewport α η} (h : v.Orderly) (t : Topic)
    (change : Change α) : ((v.noticesOf t change).map Notice.id).Nodup := by
  rw [noticesOf, List.map_map]
  refine List.pairwise_map.mpr ((h.ordered t).imp fun hindex heq => ?_)
  exact Nat.ne_of_lt hindex (congrArg SubscriptionId.index heq)

/-- **Who is told of what.** A call is followed by the notices of the topics whose change it
accepted, the scale before the offset, with the values that hold after it. -/
theorem perform_notices (v : Viewport α η) (call : Call α η) :
    (v.perform call).notices =
      [Topic.scale, .offset].flatMap fun t =>
        if (v.perform call).result.accepts t then
          v.noticesOf t ((v.perform call).viewport.view.current t)
        else [] := by
  have hnone : (∀ t, (v.perform call).result.accepts t = false) →
      (v.perform call).notices = [] → (v.perform call).notices =
        [Topic.scale, .offset].flatMap fun t =>
          if (v.perform call).result.accepts t then
            v.noticesOf t ((v.perform call).viewport.view.current t)
          else [] := by
    intro answer notices
    simp [answer, notices]
  cases perform_effect v call with
  | none _ notices answer => exact hnone answer notices
  | zoomed _ _ _ _ notices answer =>
      rw [notices]
      simp [answer, noticesOf, entries, Observers.notify, View.current]
  | panBegun _ _ _ notices answer => exact hnone answer notices
  | panned _ _ _ _ _ notices answer =>
      rw [notices]
      simp [answer, noticesOf, entries, Observers.notify, View.current]
  | panEnded _ notices answer => exact hnone answer notices
  | reset _ notices answer =>
      rw [notices]
      simp [answer, noticesOf, entries, Observers.notify, View.current]
  | subscribed _ _ _ _ _ notices answer => exact hnone answer notices
  | unsubscribed _ _ _ notices answer => exact hnone answer notices

/-- What no accepted change is announced for stays as it is. -/
theorem perform_current (v : Viewport α η) (call : Call α η) {t : Topic}
    (h : (v.perform call).result.accepts t = false) :
    (v.perform call).viewport.view.current t = v.view.current t := by
  cases perform_effect v call with
  | none viewport => rw [viewport]
  | zoomed _ _ _ viewport _ answer =>
      rw [answer] at h
      rw [viewport]
      cases t with
      | scale => cases h
      | offset => rfl
  | panBegun _ _ viewport =>
      rw [viewport]
      cases t <;> rfl
  | panned _ _ _ _ viewport _ answer =>
      rw [answer] at h
      rw [viewport]
      cases t with
      | scale => rfl
      | offset => cases h
  | panEnded viewport =>
      rw [viewport]
      cases t <;> rfl
  | reset _ _ answer =>
      rw [answer] at h
      cases h
  | subscribed topic handler _ viewport =>
      rw [viewport]
      cases topic <;> rfl
  | unsubscribed id _ viewport =>
      rw [viewport, unsubscribe_view]

end Viewport

end PanZoom
