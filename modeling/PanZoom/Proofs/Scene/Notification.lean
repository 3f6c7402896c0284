import Mathlib.Data.List.TakeWhile
import PanZoom.Binary64.Arithmetic
import PanZoom.Proofs.Scene.Continuity

/-!
# What handlers are told

A handler of the user is told of every accepted change of its topic on its viewport while it is
registered, of nothing else, and always with the value that holds after the change. So whoever
starts from the value at subscription and overwrites it with whatever the handler is told has the
present value at any time (`handlers_mirror_viewports`).

The handlers of layers hang in the same lists. A layer gives up subscriptions of its own when it is
attached or detached; that these are never those of the user is the invariant `Held`.
-/

namespace PanZoom

variable {α : Type}

/-- The topic that a change is about. -/
def Change.topic : Change α → Topic
  | .scale _ => .scale
  | .offset _ => .offset

theorem View.current_topic (v : View α) (t : Topic) : (v.current t).topic = t := by
  cases t <;> rfl

namespace Scene

/-- What a notice says to the handler of the user under one subscription. -/
def heard? (id : SubscriptionId) (tag : Nat) (n : Notice α Handler) : Option (Change α) :=
  if n.id = id ∧ n.handler = .user tag then some n.change else none

/-- The action removes the handler of a subscription to viewport `j`. -/
def Action.removes (j : Nat) (id : SubscriptionId) : Action α → Bool
  | .call k (.unsubscribe id') => k = j ∧ id' = id
  | _ => false

/-- The actions up to the removal of a handler. -/
def whileRegistered (j : Nat) (id : SubscriptionId) (actions : List (Action α)) :
    List (Action α) :=
  actions.takeWhile fun action => !action.removes j id

/-- The present value of a topic on a viewport. -/
def current (s : Scene α) (j : Nat) (t : Topic) : Option (Change α) :=
  s.viewports[j]?.map fun v => v.view.current t

variable [Scalar α]

/-- The notices that an action leads to, in order. -/
def notices (s : Scene α) : Action α → List (Notice α Handler)
  | .call j call =>
    match s.viewports[j]? with
    | some v => (v.perform (userCall call)).notices
    | none => []
  | _ => []

/-- The action is a call to viewport `j` that is answered with an accepted change of the topic. -/
def accepts (s : Scene α) (j : Nat) (t : Topic) (action : Action α) : Bool :=
  match action, (s.step action).reply with
  | .call k _, .called reply => k == j && reply.accepts t
  | _, _ => false

/-- What a handler of the user is told along a run. -/
def received (s : Scene α) (id : SubscriptionId) (tag : Nat) : List (Action α) → List (Change α)
  | [] => []
  | action :: rest =>
    (s.notices action).filterMap (heard? id tag) ++ (s.step action).scene.received id tag rest

/-- The values of a topic on a viewport right after each accepted change of it along a run. -/
def changes (s : Scene α) (j : Nat) (t : Topic) : List (Action α) → List (Change α)
  | [] => []
  | action :: rest =>
    (if s.accepts j t action then ((s.step action).scene.current j t).toList else []) ++
      (s.step action).scene.changes j t rest

/-! ## One action -/

omit [Scalar α] in
/-- In an ordered list an entry is found once. -/
theorem filterMap_noticesOf {v : Viewport α Handler} (h : v.Orderly) (t : Topic)
    (change : Change α) (id : SubscriptionId) (tag : Nat) :
    (v.noticesOf t change).filterMap (heard? id tag) =
      if (id, Handler.user tag) ∈ v.entries t then [change] else [] := by
  have hordered := h.ordered t
  unfold Viewport.noticesOf
  generalize v.entries t = entries at hordered
  induction hordered with
  | nil => rfl
  | @cons e rest hlater hrest ih =>
      by_cases he : e = (id, .user tag)
      · have hrest : (id, Handler.user tag) ∉ rest := by
          intro hmem
          have hlt := hlater _ hmem
          rw [he] at hlt
          exact Nat.lt_irrefl _ hlt
        rw [if_neg hrest] at ih
        rw [he, List.map_cons, List.filterMap_cons_some (b := change) (by simp [heard?]), ih,
          if_pos List.mem_cons_self]
      · have hheard : heard? id tag { id := e.1, handler := e.2, change := change } = none := by
          refine if_neg ?_
          rintro ⟨hid, hhandler⟩
          exact he (Prod.ext hid hhandler)
        rw [List.map_cons, List.filterMap_cons_none hheard, ih]
        have hmem : (id, Handler.user tag) ∈ e :: rest ↔ (id, Handler.user tag) ∈ rest := by
          rw [List.mem_cons, or_iff_right (Ne.symm he)]
        simp only [hmem]

theorem notices_call {s : Scene α} {j : Nat} {v : Viewport α Handler}
    (hj : s.viewports[j]? = some v) (call : Viewport.Call α Nat) :
    s.notices (.call j call) = [Topic.scale, .offset].flatMap fun t =>
      if s.accepts j t (.call j call) then
        v.noticesOf t ((v.perform (userCall call)).viewport.view.current t)
      else [] := by
  obtain ⟨_, hreply, _⟩ := step_call s hj call
  have haccepts : ∀ t, s.accepts j t (.call j call) =
      (v.perform (userCall call)).result.accepts t := by
    intro t
    simp [accepts, hreply]
  simp only [notices, hj, haccepts]
  exact v.perform_notices (userCall call)

theorem current_call {s : Scene α} {j : Nat} {v : Viewport α Handler}
    (hj : s.viewports[j]? = some v) (call : Viewport.Call α Nat) (t : Topic) :
    (s.step (.call j call)).scene.current j t =
      some ((v.perform (userCall call)).viewport.view.current t) := by
  have hlt : j < s.viewports.length := (List.getElem?_eq_some_iff.mp hj).1
  simp only [current, (step_call s hj call).1, deliverAll_viewports, setViewport]
  rw [List.getElem?_set_self hlt]
  rfl

theorem notices_absent {s : Scene α} {j : Nat} (hj : s.viewports[j]? = none)
    (call : Viewport.Call α Nat) : s.notices (.call j call) = [] := by
  simp only [notices, hj]

theorem accepts_absent {s : Scene α} {j : Nat} (hj : s.viewports[j]? = none)
    (call : Viewport.Call α Nat) (k : Nat) (t : Topic) :
    s.accepts k t (.call j call) = false := by
  simp only [accepts, step, hj, silent]

theorem accepts_other {s : Scene α} {j k : Nat} (hkj : k ≠ j) (call : Viewport.Call α Nat)
    (t : Topic) : s.accepts j t (.call k call) = false := by
  unfold accepts
  split
  · rename_i hcall _
    cases hcall
    simp [hkj]
  · rfl

/-- What one call says to a handler depends on where the handler is registered. -/
theorem heard_call {s : Scene α} (h : s.Orderly) {j : Nat} {v : Viewport α Handler}
    (hj : s.viewports[j]? = some v) (call : Viewport.Call α Nat) (id : SubscriptionId)
    (tag : Nat) :
    (s.notices (.call j call)).filterMap (heard? id tag) =
      [Topic.scale, .offset].flatMap fun t =>
        if s.accepts j t (.call j call) ∧ (id, Handler.user tag) ∈ s.switchboard.entries j t then
          ((s.step (.call j call)).scene.current j t).toList
        else [] := by
  have hentries : ∀ t, s.switchboard.entries j t = v.entries t := by
    intro t
    simp [switchboard, hj]
  rw [notices_call hj, List.filterMap_flatMap]
  congr 1
  funext t
  rw [hentries, current_call hj]
  by_cases haccepts : s.accepts j t (.call j call) = true
  · rw [if_pos haccepts, filterMap_noticesOf (h j v hj).2]
    simp only [haccepts, true_and, Option.toList_some]
  · rw [if_neg haccepts, if_neg (fun hboth => haccepts hboth.1)]
    rfl

theorem heard_unregistered {s : Scene α} (h : s.Orderly) {id : SubscriptionId} {tag : Nat}
    (hnone : ∀ j t, (id, Handler.user tag) ∉ s.switchboard.entries j t) (action : Action α) :
    (s.notices action).filterMap (heard? id tag) = [] := by
  cases action with
  | call j call =>
      cases hj : s.viewports[j]? with
      | none => rw [notices_absent hj, List.filterMap_nil]
      | some v =>
          rw [heard_call h hj]
          simp [hnone]
  | _ => rfl

/-- **One action, one handler.** A registered handler is told of the change that the action makes
to its topic, if it is accepted, and of nothing else. -/
theorem heard_registered {s : Scene α} (h : s.Orderly) {j : Nat} {topic : Topic}
    {id : SubscriptionId} {tag : Nat}
    (hmem : (id, Handler.user tag) ∈ s.switchboard.entries j topic) (action : Action α) :
    (s.notices action).filterMap (heard? id tag) =
      if s.accepts j topic action then ((s.step action).scene.current j topic).toList else [] := by
  have honly : ∀ k t, (id, Handler.user tag) ∈ s.switchboard.entries k t → k = j ∧ t = topic := by
    intro k t hmem'
    obtain ⟨hk, ht, _⟩ := h.board.unique hmem hmem' rfl
    exact ⟨hk, ht⟩
  cases action with
  | call k call =>
      cases hk : s.viewports[k]? with
      | none =>
          rw [notices_absent hk, accepts_absent hk]
          rfl
      | some v =>
          rw [heard_call h hk]
          by_cases hkj : k = j
          · -- on its own viewport the handler is on one list only
            subst hkj
            have hmem_iff : ∀ t, (id, Handler.user tag) ∈ s.switchboard.entries k t ↔ t = topic :=
              fun t => ⟨fun hmem' => (honly k t hmem').2, fun ht => ht ▸ hmem⟩
            cases topic <;> simp [hmem_iff]
          · rw [accepts_other hkj]
            have hnot : ∀ t, (id, Handler.user tag) ∉ s.switchboard.entries k t :=
              fun t hmem' => hkj (honly k t hmem').1
            simp [hnot]
  | _ => rfl

/-! ## Who holds which subscription -/

/-- The subscription was issued, and the handler of the user is not registered under it. -/
def Retired (s : Scene α) (id : SubscriptionId) (tag : Nat) : Prop :=
  id.index < s.switchboard.nextIndex id.viewport ∧
    ∀ j t, (id, Handler.user tag) ∉ s.switchboard.entries j t

/-- What was issued is not issued again. -/
theorem step_retired {s : Scene α} (h : s.Orderly) {id : SubscriptionId} {tag : Nat}
    (hretired : s.Retired id tag) (action : Action α) :
    (s.step action).scene.Retired id tag := by
  obtain ⟨hissued, hnone⟩ := hretired
  refine ⟨Nat.lt_of_lt_of_le hissued (step_nextIndex_le h action _), ?_⟩
  intro j t hmem
  cases step_rewiring h action with
  | none _ _ board =>
      rw [board] at hmem
      exact hnone j t hmem
  | subscribed k topic tag' _ _ board =>
      rw [board] at hmem
      rcases Switchboard.mem_register.mp hmem with hold | ⟨_, _, hnew⟩
      · exact hnone j t hold
      · obtain ⟨hid, _⟩ := Prod.mk.inj hnew
        rw [hid] at hissued
        exact Nat.lt_irrefl _ hissued
  | removed k id' _ _ _ board =>
      rw [board] at hmem
      exact hnone j t (Switchboard.mem_remove.mp hmem).1
  | attached i k host _ _ board =>
      rw [board] at hmem
      rcases Switchboard.mem_attach.mp hmem with ⟨hold, _⟩ | ⟨_, hnew⟩
      · exact hnone j t hold
      · cases (Prod.mk.inj hnew).2
  | detached i k a _ _ _ _ board =>
      rw [board] at hmem
      exact hnone j t (Switchboard.mem_detach.mp hmem).1

/-- Layers hold subscriptions under which no handler of the user hangs. -/
def Held (s : Scene α) : Prop :=
  ∀ i a, s.switchboard.attachment? i = some a → ∀ t tag, s.Retired (a.id t) tag

omit [Scalar α] in
theorem empty_held : (empty : Scene α).Held := by
  intro i a ha
  cases ha

omit [Scalar α] in
theorem Held.not_cleared {s : Scene α} (held : s.Held) {i j k : Nat} {t : Topic}
    {id : SubscriptionId} {tag : Nat}
    (hmem : (id, Handler.user tag) ∈ s.switchboard.entries k t) :
    id ∉ s.switchboard.cleared i j := by
  intro hcleared
  obtain ⟨a, t', ha, rfl⟩ := Switchboard.mem_cleared hcleared
  exact (held i a ha t' tag).2 k t hmem

omit [Scalar α] in
/-- The subscriptions of a new attachment are the next two of the viewport. -/
theorem attached_retired {s s' : Scene α} (h : s.Orderly) {i j : Nat} {host : String}
    (board : s'.switchboard = s.switchboard.attach i j host) (t : Topic) (tag : Nat) :
    s'.Retired ((s.switchboard.fresh j).id t) tag := by
  unfold Retired
  rw [board]
  refine ⟨?_, ?_⟩
  · rw [Switchboard.nextIndex_attach]
    cases t <;> simp [Switchboard.fresh, Grid.Attachment.id]
  · intro k t' hmem
    rcases Switchboard.mem_attach.mp hmem with ⟨hold, _⟩ | ⟨_, hnew⟩
    · obtain ⟨hviewport, hindex⟩ := h.board.issued hold
      cases t with
      | scale =>
          obtain rfl : j = k := hviewport
          exact Nat.lt_irrefl _ hindex
      | offset =>
          obtain rfl : j = k := hviewport
          exact Nat.not_succ_lt_self hindex
    · cases (Prod.mk.inj hnew).2

theorem step_held {s : Scene α} (h : s.Orderly) (held : s.Held) (action : Action α) :
    (s.step action).scene.Held := by
  intro i a ha t tag
  have hkept : s.switchboard.attachment? i = some a → (s.step action).scene.Retired (a.id t) tag :=
    fun hold => step_retired h (held i a hold t tag) action
  cases step_rewiring h action with
  | none _ _ board =>
      rw [board] at ha
      exact hkept ha
  | subscribed j topic tag _ _ board =>
      rw [board] at ha
      exact hkept ha
  | removed j id _ _ _ board =>
      rw [board] at ha
      exact hkept ha
  | attached i' j host _ _ board =>
      rw [board, Switchboard.attachment_attach] at ha
      split at ha
      · obtain rfl := Option.some.inj ha
        exact attached_retired h board t tag
      · exact hkept ha
  | detached i' j a' _ _ _ _ board =>
      rw [board, Switchboard.attachment_detach] at ha
      split at ha
      · cases ha
      · exact hkept ha

theorem run_held {s : Scene α} (h : s.Orderly) (held : s.Held) (actions : List (Action α)) :
    (s.run actions).Held := by
  induction actions generalizing s with
  | nil => exact held
  | cons action rest ih => exact ih (step_orderly h action) (step_held h held action)

/-! ## Along a run -/

/-- Only its removal takes a handler of the user away. -/
theorem step_registered {s : Scene α} (h : s.Orderly) (held : s.Held) {j : Nat} {topic : Topic}
    {id : SubscriptionId} {tag : Nat}
    (hmem : (id, Handler.user tag) ∈ s.switchboard.entries j topic) {action : Action α}
    (hkept : action.removes j id = false) :
    (id, Handler.user tag) ∈ (s.step action).scene.switchboard.entries j topic := by
  cases step_rewiring h action with
  | none _ _ board =>
      rw [board]
      exact hmem
  | subscribed k topic' tag' _ _ board =>
      rw [board]
      exact Switchboard.mem_register.mpr (.inl hmem)
  | removed k id' asked _ _ board =>
      rw [board]
      refine Switchboard.mem_remove.mpr ⟨hmem, ?_⟩
      rintro ⟨hk, hid⟩
      obtain rfl : id = id' := List.mem_singleton.mp hid
      rw [asked, hk] at hkept
      simp [Action.removes] at hkept
  | attached i k host _ _ board =>
      rw [board]
      exact Switchboard.mem_attach.mpr (.inl ⟨hmem, fun hboth => held.not_cleared hmem hboth.2⟩)
  | detached i k a _ _ _ _ board =>
      rw [board]
      exact Switchboard.mem_detach.mpr ⟨hmem, fun hboth => held.not_cleared hmem hboth.2⟩

theorem received_of_retired {s : Scene α} (h : s.Orderly) {id : SubscriptionId} {tag : Nat}
    (hretired : s.Retired id tag) (actions : List (Action α)) :
    s.received id tag actions = [] := by
  induction actions generalizing s with
  | nil => rfl
  | cons action rest ih =>
      rw [received, heard_unregistered h hretired.2, List.nil_append]
      exact ih (step_orderly h action) (step_retired h hretired action)

/-- Nothing is heard under a subscription that is issued later. -/
theorem received_of_unissued {s : Scene α} (h : s.Orderly) {id : SubscriptionId} {tag : Nat}
    {actions : List (Action α)}
    (hlater : (s.run actions).switchboard.nextIndex id.viewport ≤ id.index) :
    s.received id tag actions = [] := by
  induction actions generalizing s with
  | nil => rfl
  | cons action rest ih =>
      have hnone : ∀ j t, (id, Handler.user tag) ∉ s.switchboard.entries j t := by
        intro j t hmem
        obtain ⟨hviewport, hindex⟩ := h.board.issued hmem
        have hle := run_nextIndex_le h (action :: rest) id.viewport
        rw [← hviewport] at hindex
        exact Nat.lt_irrefl _ (Nat.lt_of_lt_of_le hindex (Nat.le_trans hle hlater))
      rw [received, heard_unregistered h hnone, List.nil_append]
      exact ih (step_orderly h action) hlater

/-- A removal is no change of a topic. -/
theorem removes_accepts (s : Scene α) {j : Nat} {id : SubscriptionId} {action : Action α}
    (h : action.removes j id = true) (t : Topic) : s.accepts j t action = false := by
  cases action with
  | call k call =>
      cases call with
      | unsubscribe id' =>
          cases hk : s.viewports[k]? with
          | none => exact accepts_absent hk _ j t
          | some v =>
              obtain ⟨_, hreply, _⟩ := step_call s hk (.unsubscribe id')
              simp only [accepts, hreply]
              cases t <;> exact Bool.and_false _
      | _ => cases h
  | _ => cases h

theorem removes_retired {s : Scene α} (h : s.Orderly) {j : Nat} {topic : Topic}
    {id : SubscriptionId} {tag : Nat}
    (hmem : (id, Handler.user tag) ∈ s.switchboard.entries j topic) {action : Action α}
    (hremoves : action.removes j id = true) : (s.step action).scene.Retired id tag := by
  cases action with
  | call k call =>
      cases call with
      | unsubscribe id' =>
          obtain ⟨rfl, rfl⟩ : k = j ∧ id' = id := by simpa [Action.removes] using hremoves
          obtain ⟨v, hk, _⟩ := h.mem_entries hmem
          obtain ⟨hviewport, hindex⟩ := h.board.issued hmem
          have hissued : id'.index < s.switchboard.nextIndex id'.viewport := by
            rw [hviewport]
            exact hindex
          refine ⟨Nat.lt_of_lt_of_le hissued (step_nextIndex_le h _ _), ?_⟩
          intro j' t hmem'
          rw [step_unsubscribe h hk] at hmem'
          obtain ⟨hold, hnot⟩ := Switchboard.mem_remove.mp hmem'
          exact hnot ⟨(h.board.unique hmem hold rfl).1, List.mem_singleton_self _⟩
      | _ => cases hremoves
  | _ => cases hremoves

/-- From a registration on, a handler is told of all accepted changes until it is removed. -/
theorem received_of_registered {s : Scene α} (h : s.Orderly) (held : s.Held) {j : Nat}
    {topic : Topic} {id : SubscriptionId} {tag : Nat}
    (hmem : (id, Handler.user tag) ∈ s.switchboard.entries j topic) (actions : List (Action α)) :
    s.received id tag actions = s.changes j topic (whileRegistered j id actions) := by
  induction actions generalizing s with
  | nil => rfl
  | cons action rest ih =>
      have horderly := step_orderly h action
      rw [received, heard_registered h hmem, whileRegistered]
      cases hremoves : action.removes j id with
      | false =>
          -- still registered after the action
          rw [List.takeWhile_cons_of_pos (by simp [hremoves]), changes,
            ih horderly (step_held h held action) (step_registered h held hmem hremoves)]
          rfl
      | true =>
          rw [List.takeWhile_cons_of_neg (by simp [hremoves]), removes_accepts s hremoves,
            received_of_retired horderly (removes_retired h hmem hremoves)]
          rfl

/-! ## The present value -/

theorem step_current {s : Scene α} {j : Nat} {t : Topic} {c : Change α}
    (hc : s.current j t = some c) (action : Action α) :
    ∃ c', (s.step action).scene.current j t = some c' ∧
      (s.accepts j t action = false → c' = c) := by
  obtain ⟨v, hj, hvc⟩ := Option.map_eq_some_iff.mp hc
  obtain ⟨v', hj'⟩ := step_viewport hj action
  refine ⟨v'.view.current t, by simp [current, hj'], ?_⟩
  intro hrefused
  rw [← hvc]
  cases step_origin hj' with
  | same was =>
      obtain rfl := Option.some.inj (hj.symm.trans was)
      rfl
  | rewired w was _ _ view =>
      obtain rfl := Option.some.inj (hj.symm.trans was)
      rw [view]
  | called w call was asked performed =>
      obtain rfl := Option.some.inj (hj.symm.trans was)
      rw [performed]
      refine Viewport.perform_current v (userCall call) ?_
      obtain ⟨_, hreply, _⟩ := step_call s hj call
      rw [asked] at hrefused
      simpa [accepts, hreply] using hrefused
  | made settings number _ =>
      have hlt := (List.getElem?_eq_some_iff.mp hj).1
      exact absurd (number ▸ hlt) (Nat.lt_irrefl _)

/-- The value at the start, overwritten with each accepted change, is the present value. -/
theorem run_current {s : Scene α} {j : Nat} {t : Topic} {c : Change α}
    (hc : s.current j t = some c) (actions : List (Action α)) :
    (s.run actions).current j t =
      some ((s.changes j t actions).foldl (fun _ change => change) c) := by
  induction actions generalizing s c with
  | nil => exact hc
  | cons action rest ih =>
      obtain ⟨c', hc', hkept⟩ := step_current hc action
      have hrun : (s.run (action :: rest)).current j t =
          ((s.step action).scene.run rest).current j t := rfl
      rw [hrun, ih hc', changes, hc', List.foldl_append]
      cases haccepts : s.accepts j t action with
      | false =>
          -- nothing is announced, and nothing has changed
          rw [hkept haccepts]
          rfl
      | true => rfl

/-! ## Completeness -/

/-- How an action announces what it changes. -/
structure Announces (s : Scene α) (action : Action α) : Prop where
  /-- The user is told of the notices to its handlers, in their order. -/
  told : (s.step action).firings.filterMap Firing.told? = (s.notices action).filterMap noticed?
  /-- A notice goes to a handler on the viewport that accepted the change, and holds the value
  after the action. -/
  accepted : ∀ n ∈ s.notices action, s.accepts n.id.viewport n.change.topic action = true ∧
    (s.step action).scene.current n.id.viewport n.change.topic = some n.change
  /-- The scale comes before the offset, and within a topic the order is that of registration. -/
  ordered : (s.notices action).Pairwise fun n n' =>
    n.change.topic = .scale ∧ n'.change.topic = .offset ∨
      n.change.topic = n'.change.topic ∧ n.id.index < n'.id.index

omit [Scalar α] in
theorem mem_noticesOf {v : Viewport α Handler} (h : v.Orderly) {t : Topic} {change : Change α}
    {n : Notice α Handler} (hn : n ∈ v.noticesOf t change) :
    n.id.viewport = v.id ∧ n.change = change := by
  obtain ⟨e, he, rfl⟩ := List.mem_map.mp hn
  exact ⟨(h.issued t e he).1, rfl⟩

omit [Scalar α] in
theorem noticesOf_ordered {v : Viewport α Handler} (h : v.Orderly) (t : Topic)
    (change : Change α) :
    (v.noticesOf t change).Pairwise fun n n' =>
      n.change.topic = n'.change.topic ∧ n.id.index < n'.id.index := by
  refine List.pairwise_map.mpr ((h.ordered t).imp ?_)
  intro e e' hlt
  exact ⟨rfl, hlt⟩

theorem call_announces {s : Scene α} (h : s.Orderly) (j : Nat) (call : Viewport.Call α Nat) :
    s.Announces (.call j call) := by
  cases hj : s.viewports[j]? with
  | none =>
      refine ⟨?_, ?_, ?_⟩ <;> rw [notices_absent hj]
      · simp only [step, hj]
        rfl
      · intro n hn
        cases hn
      · exact List.Pairwise.nil
  | some v =>
      obtain ⟨hid, hv⟩ := h j v hj
      have hmem : ∀ n ∈ s.notices (.call j call), ∃ t, s.accepts j t (.call j call) = true ∧
          n ∈ v.noticesOf t ((v.perform (userCall call)).viewport.view.current t) := by
        intro n hn
        rw [notices_call hj] at hn
        obtain ⟨t, _, hn⟩ := List.mem_flatMap.mp hn
        split at hn
        · rename_i haccepts
          exact ⟨t, haccepts, hn⟩
        · cases hn
      refine ⟨?_, ?_, ?_⟩
      · rw [(step_call s hj call).2.2, deliverAll_told]
        simp only [notices, hj]
      · intro n hn
        obtain ⟨t, haccepts, hn⟩ := hmem n hn
        obtain ⟨hviewport, hchange⟩ := mem_noticesOf hv hn
        rw [hviewport, hid, hchange, View.current_topic]
        exact ⟨haccepts, current_call hj call t⟩
      · rw [notices_call hj]
        simp only [List.flatMap_cons, List.flatMap_nil, List.append_nil]
        refine List.pairwise_append.mpr ⟨?_, ?_, ?_⟩
        · split
          · exact (noticesOf_ordered hv _ _).imp Or.inr
          · exact List.Pairwise.nil
        · split
          · exact (noticesOf_ordered hv _ _).imp Or.inr
          · exact List.Pairwise.nil
        · intro n hn n' hn'
          split at hn
          · split at hn'
            · refine .inl ⟨?_, ?_⟩
              · rw [(mem_noticesOf hv hn).2, View.current_topic]
              · rw [(mem_noticesOf hv hn').2, View.current_topic]
            · cases hn'
          · cases hn

/-- Nobody is told anything, and no host is asked, unless a viewport is called. -/
theorem step_quiet (s : Scene α) {action : Action α} (h : ∀ j call, action ≠ .call j call) :
    (s.step action).firings = [] := by
  cases action with
  | call j call => exact absurd rfl (h j call)
  | addViewport settings => rfl
  | addLayer style => rfl
  | attach i j host =>
      simp only [step, withBoth]
      split <;> rfl
  | detach i j =>
      simp only [step, withBoth]
      split <;> rfl
  | setStyle i style =>
      simp only [step]
      split <;> rfl
  | paint i j size =>
      simp only [step, withBoth]
      split <;> rfl

theorem step_announces {s : Scene α} (h : s.Orderly) (action : Action α) :
    s.Announces action := by
  cases action with
  | call j call => exact call_announces h j call
  | _ =>
      refine ⟨?_, ?_, ?_⟩
      · rw [s.step_quiet (by simp)]
        rfl
      · intro n hn
        cases hn
      · exact List.Pairwise.nil

/-- What the handler `tag` hears that the user registers after `before`, when `rest` follows. -/
structure Mirrors (before : List (Action α)) (j : Nat) (topic : Topic) (tag : Nat)
    (rest : List (Action α)) (id : SubscriptionId) : Prop where
  /-- The registration succeeds. -/
  registered : ((empty.run before).step (.call j (.subscribe topic tag))).reply =
    .called (.subscribed id)
  /-- The handler is told of all accepted changes from its registration to its removal, and of
  nothing else. -/
  told : empty.received id tag (before ++ .call j (.subscribe topic tag) :: rest) =
    ((empty.run before).step (.call j (.subscribe topic tag))).scene.changes j topic
      (whileRegistered j id rest)
  /-- The value at registration, overwritten with what the handler was told so far, is the
  present value. -/
  mirrored : ∃ c, (empty.run before).current j topic = some c ∧
    ∀ soFar, soFar <+: whileRegistered j id rest →
      (empty.run (before ++ .call j (.subscribe topic tag) :: soFar)).current j topic =
        some ((empty.received id tag (before ++ .call j (.subscribe topic tag) :: soFar)).foldl
          (fun _ change => change) c)
  /-- Whatever is registered later on the viewport has a higher index. -/
  earlier : ∀ soFar later topic' tag' id', rest = soFar ++ .call j (.subscribe topic' tag') :: later →
    ((empty.run (before ++ .call j (.subscribe topic tag) :: soFar)).step
      (.call j (.subscribe topic' tag'))).reply = .called (.subscribed id') →
    id.index < id'.index

theorem run_append (s : Scene α) (actions : List (Action α)) (action : Action α)
    (rest : List (Action α)) :
    s.run (actions ++ action :: rest) = ((s.run actions).step action).scene.run rest := by
  simp only [run, List.foldl_append, List.foldl_cons]

theorem received_append (s : Scene α) (id : SubscriptionId) (tag : Nat)
    (actions rest : List (Action α)) :
    s.received id tag (actions ++ rest) =
      s.received id tag actions ++ (s.run actions).received id tag rest := by
  induction actions generalizing s with
  | nil => rfl
  | cons action actions ih =>
      rw [List.cons_append, received, received, ih, List.append_assoc]
      rfl

theorem subscribed_id {s : Scene α} (h : s.Orderly) {j : Nat} {topic : Topic} {tag : Nat}
    {id : SubscriptionId}
    (hreply : (s.step (.call j (.subscribe topic tag))).reply = .called (.subscribed id)) :
    id = ⟨j, s.switchboard.nextIndex j⟩ := by
  cases hj : s.viewports[j]? with
  | none =>
      simp only [step, hj] at hreply
      cases hreply
  | some v =>
      rw [(step_subscribe h hj topic tag).1] at hreply
      exact (Viewport.Reply.subscribed.inj (Reply.called.inj hreply)).symm

theorem received_from_registration {before : List (Action α)} {j : Nat} {v : Viewport α Handler}
    (hj : (empty.run before).viewports[j]? = some v) (topic : Topic) (tag : Nat)
    (rest : List (Action α)) :
    empty.received ⟨j, (empty.run before).switchboard.nextIndex j⟩ tag
        (before ++ .call j (.subscribe topic tag) :: rest) =
      ((empty.run before).step (.call j (.subscribe topic tag))).scene.changes j topic
        (whileRegistered j ⟨j, (empty.run before).switchboard.nextIndex j⟩ rest) := by
  have h : (empty.run before).Orderly := run_orderly empty_orderly before
  have held : (empty.run before).Held := run_held empty_orderly empty_held before
  generalize hid : (⟨j, (empty.run before).switchboard.nextIndex j⟩ : SubscriptionId) = id
  -- before its registration nothing was heard, since the subscription was not issued yet
  have hunissued : (empty.run before).switchboard.nextIndex id.viewport ≤ id.index := by
    rw [← hid]
  have hnone : ∀ k t, (id, Handler.user tag) ∉ (empty.run before).switchboard.entries k t := by
    intro k t hmem
    obtain ⟨hviewport, hindex⟩ := h.board.issued hmem
    rw [← hviewport] at hindex
    exact Nat.lt_irrefl _ (Nat.lt_of_lt_of_le hindex hunissued)
  have hmem : (id, Handler.user tag) ∈
      ((empty.run before).step (.call j (.subscribe topic tag))).scene.switchboard.entries
        j topic := by
    rw [(step_subscribe h hj topic tag).2, ← hid]
    exact Switchboard.mem_register.mpr (.inr ⟨rfl, rfl, rfl⟩)
  rw [received_append, received_of_unissued empty_orderly hunissued, List.nil_append, received,
    heard_unregistered h hnone, List.nil_append]
  exact received_of_registered (step_orderly h _) (step_held h held _) hmem rest

/-- **Handlers mirror their viewports.** At any time of any run, actions announce what they change,
and whatever the user registers next mirrors its viewport from then on until it is removed. -/
theorem handlers_mirror_viewports (before : List (Action α)) :
    (∀ action, (empty.run before).Announces action) ∧
      ∀ j topic tag rest, j < (empty.run before).viewports.length →
        ∃ id, Mirrors before j topic tag rest id := by
  have h : (empty.run before).Orderly := run_orderly empty_orderly before
  refine ⟨fun action => step_announces h action, ?_⟩
  intro j topic tag rest hlt
  obtain ⟨v, hj⟩ : ∃ v, (empty.run before).viewports[j]? = some v :=
    ⟨_, List.getElem?_eq_getElem hlt⟩
  obtain ⟨hreply, hboard⟩ := step_subscribe h hj topic tag
  refine ⟨⟨j, (empty.run before).switchboard.nextIndex j⟩, hreply,
    received_from_registration hj topic tag rest, ?_, ?_⟩
  · have hcurrent : (empty.run before).current j topic = some (v.view.current topic) := by
      simp [current, hj]
    refine ⟨v.view.current topic, hcurrent, ?_⟩
    intro soFar hstart
    obtain ⟨c, hc, hsame⟩ := step_current hcurrent (.call j (.subscribe topic tag))
    have hrefused : (empty.run before).accepts j topic (.call j (.subscribe topic tag)) = false := by
      simp only [accepts, hreply]
      cases topic <;> exact Bool.and_false _
    obtain rfl := hsame hrefused
    -- nothing is removed so far
    have hkept : whileRegistered j ⟨j, (empty.run before).switchboard.nextIndex j⟩ soFar =
        soFar := by
      refine List.takeWhile_eq_self_iff.mpr ?_
      intro action hmem
      exact List.mem_takeWhile_imp (p := fun action => !Action.removes j _ action)
        (hstart.subset hmem)
    rw [received_from_registration hj topic tag soFar, hkept, run_append]
    exact run_current hc soFar
  · intro soFar later topic' tag' id' _ hreply'
    have horderly := run_orderly (step_orderly h (.call j (.subscribe topic tag))) soFar
    have hle := run_nextIndex_le (step_orderly h (.call j (.subscribe topic tag))) soFar j
    rw [run_append] at hreply'
    obtain rfl := subscribed_id horderly hreply'
    rw [hboard] at hle
    exact Nat.lt_of_lt_of_le (by simp [Switchboard.register]) hle

/-- A layer comes and goes, another viewport is reset, and a zoom to nowhere is refused. -/
theorem mirrors_beside_layer :
    let before : List (Action Binary64) :=
      [.addViewport .default, .addViewport .default, .addLayer .default, .attach 0 1 "window"]
    let rest : List (Action Binary64) :=
      [.call 1 (.setDistance (Scalar.ofNat 2)), .attach 0 0 "window", .call 0 .reset,
        .call 1 (.setDistance .nan), .call 1 .reset, .call 1 (.unsubscribe ⟨1, 2⟩), .call 1 .reset]
    1 < (empty.run before).viewports.length ∧ (∃ id, Mirrors before 1 .scale 7 rest id) ∧
      empty.received ⟨1, 2⟩ 7 (before ++ .call 1 (.subscribe .scale 7) :: rest) =
        [.scale (Scalar.ofNat 35), .scale (Scalar.ofNat 70)] := by
  intro before rest
  refine ⟨by decide, ?_, by decide +kernel⟩
  exact (handlers_mirror_viewports before).2 1 .scale 7 rest (by decide)

end Scene

end PanZoom
