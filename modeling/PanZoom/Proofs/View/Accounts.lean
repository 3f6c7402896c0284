import PanZoom.Proofs.View.Handlers

/-!
# What calls do to the handlers, by their answers

A viewport keeps two lists of handlers. A call either leaves both as they are, or adds a handler
under a subscription that it is answered with, or takes out the handler of a subscription that it
names, and then the answer says that there was one (`Orderly.account`). So whoever knows the calls
and the answers knows the number of handlers.
-/

namespace PanZoom

variable {α η : Type}

/-- A registered handler is taken out where it stands. -/
theorem Observers.erase_eq {o : Observers η} {id : SubscriptionId} (h : o.contains id = true) :
    ∃ front handler back, o.entries = front ++ (id, handler) :: back ∧
      o.erase id = ⟨front ++ back⟩ := by
  obtain ⟨e, he, heq⟩ := Viewport.exists_of_contains h
  obtain ⟨⟨id', handler⟩, front, back, _, hid, hentries, herase⟩ :=
    List.exists_of_eraseP (p := fun e : SubscriptionId × η => e.1 = id) he (decide_eq_true heq)
  obtain rfl : id' = id := of_decide_eq_true hid
  exact ⟨front, handler, back, hentries, congrArg Observers.mk herase⟩

namespace Viewport

/-- The subscription that a call is answered with. -/
def Reply.granted? : Reply α → Option SubscriptionId
  | .subscribed id => some id
  | _ => none

/-- The subscription whose handler a call removed, as the answer says. -/
def Call.revoked? : Call α η → Reply α → Option SubscriptionId
  | .unsubscribe id, .found true => some id
  | _, _ => none

/-- The viewport with another list of handlers for a topic. -/
def withEntries (v : Viewport α η) (t : Topic) (entries : List (SubscriptionId × η)) :
    Viewport α η :=
  match t with
  | .scale => { v with onScale := ⟨entries⟩ }
  | .offset => { v with onOffset := ⟨entries⟩ }

theorem withEntries_nextIndex (v : Viewport α η) (t : Topic) (entries) :
    (v.withEntries t entries).nextIndex = v.nextIndex := by
  cases t <;> rfl

theorem withEntries_entries (v : Viewport α η) (t t' : Topic) (entries) :
    (v.withEntries t entries).entries t' = if t' = t then entries else v.entries t' := by
  cases t <;> cases t' <;> rfl

theorem mem_withEntries {v : Viewport α η} {t t' : Topic} {e removed : SubscriptionId × η}
    {front back : List (SubscriptionId × η)} (was : v.entries t = front ++ removed :: back)
    (he : e ∈ (v.withEntries t (front ++ back)).entries t') : e ∈ v.entries t' := by
  rw [withEntries_entries] at he
  split at he
  · rename_i ht
    rw [ht, was]
    rcases List.mem_append.mp he with hfront | hback
    · exact List.mem_append_left _ hfront
    · exact List.mem_append_right _ (List.mem_cons_of_mem _ hback)
  · exact he

/-! ## The number of handlers -/

theorem SameHandlers.subscriberCount {v v' : Viewport α η} (same : SameHandlers v v') :
    v'.subscriberCount = v.subscriberCount := by
  rw [subscriberCount_eq, subscriberCount_eq, same.entries, same.entries]

theorem subscribe_subscriberCount (v : Viewport α η) (topic : Topic) (handler : η) :
    (v.subscribe topic handler).1.subscriberCount = v.subscriberCount + 1 := by
  rw [subscriberCount_eq, subscriberCount_eq, subscribe_entries, subscribe_entries]
  cases topic <;> simp <;> omega

theorem withEntries_subscriberCount {v : Viewport α η} {t : Topic}
    {front back : List (SubscriptionId × η)} {removed : SubscriptionId × η}
    (was : v.entries t = front ++ removed :: back) :
    (v.withEntries t (front ++ back)).subscriberCount + 1 = v.subscriberCount := by
  rw [subscriberCount_eq, subscriberCount_eq, withEntries_entries, withEntries_entries]
  cases t <;> simp [was] <;> omega

/-! ## Removing -/

/-- Either there is no handler under the id and nothing happens, or there is one and it alone is
taken out. -/
theorem Orderly.unsubscribe_cases {v : Viewport α η} (h : v.Orderly) (id : SubscriptionId) :
    ((v.unsubscribe id).result = false ∧ (v.unsubscribe id).viewport = v ∧
        ∀ t handler, (id, handler) ∉ v.entries t) ∨
      ∃ t front handler back, v.entries t = front ++ (id, handler) :: back ∧
        (v.unsubscribe id).result = true ∧
        (v.unsubscribe id).viewport = v.withEntries t (front ++ back) := by
  unfold Viewport.unsubscribe
  by_cases hissued : v.issued id = true
  · rw [if_pos hissued]
    by_cases hscale : v.onScale.contains id = true
    · obtain ⟨front, handler, back, hentries, herase⟩ := Observers.erase_eq hscale
      rw [if_pos hscale, herase]
      exact .inr ⟨.scale, front, handler, back, hentries, rfl, rfl⟩
    · rw [if_neg hscale]
      by_cases hoffset : v.onOffset.contains id = true
      · obtain ⟨front, handler, back, hentries, herase⟩ := Observers.erase_eq hoffset
        rw [if_pos hoffset, herase]
        exact .inr ⟨.offset, front, handler, back, hentries, rfl, rfl⟩
      · rw [if_neg hoffset]
        refine .inl ⟨rfl, rfl, ?_⟩
        intro t handler hmem
        cases t with
        | scale => exact not_contains hscale _ hmem (List.mem_singleton_self id)
        | offset => exact not_contains hoffset _ hmem (List.mem_singleton_self id)
  · -- what hangs here was issued here
    rw [if_neg hissued]
    refine .inl ⟨rfl, rfl, ?_⟩
    intro t handler hmem
    exact hissued (beq_iff_eq.mpr (h.issued t _ hmem).1)

/-! ## Calls -/

/-- What a call does to the handlers, and what its answer says of it. -/
inductive Account (v : Viewport α η) (call : Call α η) (o : Outcome α η (Reply α)) : Prop
  /-- Nothing. -/
  | same
      (ungranted : o.result.granted? = none)
      (unrevoked : call.revoked? o.result = none)
      (handlers : SameHandlers v o.viewport)
  /-- A handler is added under the next subscription. -/
  | granted (topic : Topic) (handler : η)
      (granted : o.result.granted? = some v.nextId)
      (unrevoked : call.revoked? o.result = none)
      (viewport : o.viewport = (v.subscribe topic handler).1)
  /-- A handler is taken out. -/
  | revoked (id : SubscriptionId) (t : Topic) (front : List (SubscriptionId × η)) (handler : η)
      (back : List (SubscriptionId × η))
      (ungranted : o.result.granted? = none)
      (revoked : call.revoked? o.result = some id)
      (was : v.entries t = front ++ (id, handler) :: back)
      (viewport : o.viewport = v.withEntries t (front ++ back))

namespace Account

variable {v : Viewport α η} {call : Call α η} {o : Outcome α η (Reply α)}

/-- Ids are granted in turn. -/
theorem granted_eq (h : Account v call o) {id : SubscriptionId}
    (hid : o.result.granted? = some id) : id = v.nextId := by
  cases h with
  | same ungranted =>
      rw [ungranted] at hid
      cases hid
  | granted topic handler granted =>
      rw [granted] at hid
      exact (Option.some.inj hid).symm
  | revoked id' t front handler back ungranted =>
      rw [ungranted] at hid
      cases hid

/-- The counter counts them. -/
theorem nextIndex_eq (h : Account v call o) :
    o.viewport.nextIndex = v.nextIndex + o.result.granted?.toList.length := by
  cases h with
  | same ungranted _ handlers =>
      rw [ungranted]
      exact handlers.nextIndex
  | granted topic handler granted _ viewport =>
      rw [granted, viewport]
      exact subscribe_nextIndex v topic handler
  | revoked id t front handler back ungranted _ _ viewport =>
      rw [ungranted, viewport]
      exact withEntries_nextIndex v t _

/-- There is no handler but under an id that was granted. -/
theorem mem_entries (h : Account v call o) {t : Topic} {e : SubscriptionId × η}
    (he : e ∈ o.viewport.entries t) : e ∈ v.entries t ∨ o.result.granted? = some e.1 := by
  cases h with
  | same _ _ handlers =>
      rw [handlers.entries] at he
      exact .inl he
  | granted topic handler granted _ viewport =>
      rw [viewport] at he
      rcases mem_subscribe_entries he with hold | ⟨_, rfl⟩
      · exact .inl hold
      · exact .inr granted
  | revoked id t' front handler back _ _ was viewport =>
      rw [viewport] at he
      exact .inl (mem_withEntries was he)

/-- Ids granted and ids revoked make up the difference in the number of handlers. -/
theorem subscriberCount_eq (h : Account v call o) :
    o.viewport.subscriberCount + (call.revoked? o.result).toList.length =
      v.subscriberCount + o.result.granted?.toList.length := by
  cases h with
  | same ungranted unrevoked handlers =>
      rw [ungranted, unrevoked, handlers.subscriberCount]
  | granted topic handler granted unrevoked viewport =>
      rw [granted, unrevoked, viewport]
      exact subscribe_subscriberCount v topic handler
  | revoked id t front handler back ungranted revoked was viewport =>
      rw [ungranted, revoked, viewport]
      exact withEntries_subscriberCount was

end Account

variable [Scalar α]

/-- **Calls account for the handlers.** -/
theorem Orderly.account {v : Viewport α η} (h : v.Orderly) (call : Call α η) :
    Account v call (v.perform call) := by
  cases call with
  | subscribe topic handler =>
      exact .granted topic handler (congrArg some (subscribe_snd v topic handler)) rfl rfl
  | unsubscribe id =>
      have hrevoked : (Call.unsubscribe id : Call α η).revoked?
          (v.perform (.unsubscribe id)).result =
            if (v.unsubscribe id).result then some id else none := by
        show Call.revoked? _ (.found (v.unsubscribe id).result) = _
        cases (v.unsubscribe id).result <;> rfl
      rcases h.unsubscribe_cases id with
        ⟨hnone, hsame, _⟩ | ⟨t, front, handler, back, was, hfound, hviewport⟩
      · rw [hnone] at hrevoked
        refine .same rfl hrevoked ?_
        show SameHandlers v (v.unsubscribe id).viewport
        rw [hsame]
        exact ⟨rfl, rfl, fun _ => rfl⟩
      · rw [hfound] at hrevoked
        exact .revoked id t front handler back rfl hrevoked was hviewport
  -- the other calls have answers of other kinds
  | endPan => exact .same rfl rfl (perform_sameHandlers v rfl)
  | scroll delta => exact .same rfl rfl (perform_sameHandlers v rfl)
  | setDistance distance => exact .same rfl rfl (perform_sameHandlers v rfl)
  | beginPan position => exact .same rfl rfl (perform_sameHandlers v rfl)
  | updatePan position => exact .same rfl rfl (perform_sameHandlers v rfl)
  | reset => exact .same rfl rfl (perform_sameHandlers v rfl)
  | event gestures event => exact .same rfl rfl (perform_sameHandlers v rfl)

end Viewport

end PanZoom
