import PanZoom.Binary64.Arithmetic
import PanZoom.Proofs.Scene.Contacts
import PanZoom.Proofs.View.Accounts

/-!
# Subscriptions are unique, and owned by the viewport that granted them

Each viewport counts its subscriptions from zero, and its two lists of handlers share the counter.
So an id is not told from one of another viewport by its index, nor from one of the other list by
the list that it is in.

`Accounted` is the ledger of all this: which ids were granted and in which order, that handlers
hang under granted ids only, and how many there are. It is kept by one more contact whatever the
call was, because a call accounts for the handlers by its answer (`Viewport.Account`). From the
ledger follows what can be said of the ids of a scene at any time (`Scene.Owned`).
-/

namespace PanZoom

variable {α : Type}

/-! ## What was granted and revoked -/

/-- The id that a viewport answered with, and the viewport. -/
def Contact.granted? (c : Contact α) : Option (Nat × SubscriptionId) :=
  c.exchange.reply.granted?.map fun id => (c.viewport, id)

/-- The id whose handler was removed, and the viewport that removed it. -/
def Contact.revoked? (c : Contact α) : Option (Nat × SubscriptionId) :=
  (c.exchange.call.revoked? c.exchange.reply).map fun id => (c.viewport, id)

/-- The ids that were granted, in order, each with the viewport that granted it. -/
def grants (past : List (Contact α)) : List (Nat × SubscriptionId) := past.filterMap Contact.granted?

/-- The ids whose handlers were removed, in order. -/
def revocations (past : List (Contact α)) : List (Nat × SubscriptionId) :=
  past.filterMap Contact.revoked?

theorem grants_concat (past : List (Contact α)) (c : Contact α) :
    grants (past ++ [c]) = grants past ++ c.granted?.toList := by
  rw [grants, List.filterMap_append]
  cases hc : c.granted? <;> simp [grants, hc]

theorem revocations_concat (past : List (Contact α)) (c : Contact α) :
    revocations (past ++ [c]) = revocations past ++ c.revoked?.toList := by
  rw [revocations, List.filterMap_append]
  cases hc : c.revoked? <;> simp [revocations, hc]

/-- Of the ids that go with a viewport, all are that viewport's. -/
theorem countP_tagged (j k : Nat) (id? : Option SubscriptionId) :
    (id?.map fun id => (j, id)).toList.countP (fun entry => entry.1 = k) =
      if k = j then id?.toList.length else 0 := by
  cases id? with
  | none => simp
  | some id => by_cases hk : k = j <;> simp [hk, eq_comm]

/-! ## The ledger -/

/-- What was granted and revoked, told by the viewports. -/
structure Accounted (viewports : List (Viewport α Handler)) (past : List (Contact α)) : Prop where
  /-- An id names the viewport that granted it, and was counted there. -/
  granted : ∀ g ∈ grants past, g.2.viewport = g.1 ∧
    ∃ v, viewports[g.1]? = some v ∧ g.2.index < v.nextIndex
  /-- Nothing is revoked on a viewport that is not there. -/
  revoked : ∀ r ∈ revocations past, r.1 < viewports.length
  /-- A viewport grants ids in the order of their indices. -/
  ordered : (grants past).Pairwise fun g g' => g.1 = g'.1 → g.2.index < g'.2.index
  /-- Handlers hang under ids that were granted where they hang. -/
  registered : ∀ {k v}, viewports[k]? = some v → ∀ {t e}, e ∈ v.entries t →
    (k, e.1) ∈ grants past
  /-- There are as many handlers as ids were granted and not revoked. -/
  counted : ∀ {k v}, viewports[k]? = some v →
    v.subscriberCount + (revocations past).countP (fun r => r.1 = k) =
      (grants past).countP fun g => g.1 = k

namespace Accounted

theorem none : Accounted ([] : List (Viewport α Handler)) [] where
  granted _ hg := nomatch hg
  revoked _ hr := nomatch hr
  ordered := List.Pairwise.nil
  registered there := nomatch there
  counted there := nomatch there

/-- A viewport that is made has granted nothing. -/
theorem made [Scalar α] {viewports : List (Viewport α Handler)} {past : List (Contact α)}
    (h : Accounted viewports past) (settings : ZoomSettings α) :
    Accounted (viewports ++ [Viewport.create viewports.length settings]) past where
  granted := by
    intro g hg
    obtain ⟨hid, v, there, hindex⟩ := h.granted g hg
    have hlt := (List.getElem?_eq_some_iff.mp there).1
    exact ⟨hid, v, (List.getElem?_append_left hlt).trans there, hindex⟩
  revoked := by
    intro r hr
    rw [List.length_append]
    exact Nat.lt_add_right _ (h.revoked r hr)
  ordered := h.ordered
  registered := by
    intro k v there t e he
    rcases Scene.getElem?_added viewports (Viewport.create viewports.length settings) k with
      hsame | ⟨_, _, hnew⟩
    · exact h.registered (hsame.symm.trans there) he
    · obtain rfl := Option.some.inj (hnew.symm.trans there)
      cases t <;> cases he
  counted := by
    intro k v there
    rcases Scene.getElem?_added viewports (Viewport.create viewports.length settings) k with
      hsame | ⟨hk, habsent, hnew⟩
    · exact h.counted (hsame.symm.trans there)
    · obtain rfl := Option.some.inj (hnew.symm.trans there)
      have hgrants : (grants past).countP (fun g => g.1 = k) = 0 := by
        refine List.countP_eq_zero.mpr ?_
        intro g hg heq
        obtain ⟨_, v, there, _⟩ := h.granted g hg
        rw [of_decide_eq_true heq, habsent] at there
        cases there
      have hrevocations : (revocations past).countP (fun r => r.1 = k) = 0 := by
        refine List.countP_eq_zero.mpr ?_
        intro r hr heq
        have hlt := h.revoked r hr
        rw [of_decide_eq_true heq, hk] at hlt
        exact Nat.lt_irrefl _ hlt
      rw [hgrants, hrevocations]
      rfl

/-! ### A call -/

/-- An id that a viewport granted was counted there. -/
theorem lt_nextIndex {viewports : List (Viewport α Handler)} {past : List (Contact α)}
    (h : Accounted viewports past) {j : Nat} {v : Viewport α Handler}
    (there : viewports[j]? = some v) {g : Nat × SubscriptionId} (hg : g ∈ grants past)
    (hj : g.1 = j) : g.2.index < v.nextIndex := by
  obtain ⟨_, v', there', hindex⟩ := h.granted g hg
  rw [hj, there] at there'
  obtain rfl := Option.some.inj there'
  exact hindex

variable {viewports : List (Viewport α Handler)} {past : List (Contact α)} {c : Contact α}
  {v : Viewport α Handler} {o : Outcome α Handler (Viewport.Reply α)}

/-- What a call grants is the next id of the viewport. -/
theorem granted_now (account : Viewport.Account v c.exchange.call o)
    (reply : c.exchange.reply = o.result) {g : Nat × SubscriptionId}
    (hg : g ∈ c.granted?.toList) :
    g = (c.viewport, v.nextId) ∧ o.result.granted? = some v.nextId := by
  obtain ⟨id, hid, rfl⟩ := Option.map_eq_some_iff.mp (Option.mem_toList.mp hg)
  rw [reply] at hid
  obtain rfl := account.granted_eq hid
  exact ⟨rfl, hid⟩

/-- A call adds to the ledger what its answer says. -/
theorem called (h : Accounted viewports past) (there : viewports[c.viewport]? = some v)
    (number : v.id = c.viewport) (account : Viewport.Account v c.exchange.call o)
    (reply : c.exchange.reply = o.result) :
    Accounted (viewports.set c.viewport o.viewport) (past ++ [c]) := by
  have hlt := (List.getElem?_eq_some_iff.mp there).1
  have hcalled : (viewports.set c.viewport o.viewport)[c.viewport]? = some o.viewport :=
    List.getElem?_set_self hlt
  have hother : ∀ {k}, k ≠ c.viewport → (viewports.set c.viewport o.viewport)[k]? = viewports[k]? :=
    fun hk => List.getElem?_set_ne (Ne.symm hk)
  exact {
    granted := by
      intro g hg
      rw [grants_concat] at hg
      rcases List.mem_append.mp hg with hpast | hnow
      · obtain ⟨hid, v', there', hindex⟩ := h.granted g hpast
        refine ⟨hid, ?_⟩
        by_cases hviewport : g.1 = c.viewport
        · have hbefore := h.lt_nextIndex there hpast hviewport
          rw [hviewport]
          refine ⟨o.viewport, hcalled, ?_⟩
          rw [account.nextIndex_eq]
          exact Nat.lt_add_right _ hbefore
        · exact ⟨v', (hother hviewport).trans there', hindex⟩
      · obtain ⟨rfl, hgranted⟩ := granted_now account reply hnow
        refine ⟨number, o.viewport, hcalled, ?_⟩
        rw [account.nextIndex_eq, hgranted]
        exact Nat.lt_succ_self _
    revoked := by
      intro r hr
      rw [revocations_concat] at hr
      rw [List.length_set]
      rcases List.mem_append.mp hr with hpast | hnow
      · exact h.revoked r hpast
      · obtain ⟨id, _, rfl⟩ := Option.map_eq_some_iff.mp (Option.mem_toList.mp hnow)
        exact hlt
    ordered := by
      rw [grants_concat]
      refine List.pairwise_append.mpr ⟨h.ordered, ?_, ?_⟩
      · cases c.granted? with
        | none => exact List.Pairwise.nil
        | some g => exact List.pairwise_singleton _ _
      · -- the next id comes after all that were granted here
        intro g hg g' hg' heq
        obtain ⟨rfl, _⟩ := granted_now account reply hg'
        exact h.lt_nextIndex there hg heq
    registered := by
      intro k u hu t e he
      rw [grants_concat]
      by_cases hk : k = c.viewport
      · rw [hk, hcalled] at hu
        obtain rfl := Option.some.inj hu
        rw [hk]
        rcases account.mem_entries he with hbefore | hgranted
        · exact List.mem_append_left _ (h.registered there hbefore)
        · rw [← reply] at hgranted
          have hnow : c.granted? = some (c.viewport, e.1) :=
            Option.map_eq_some_iff.mpr ⟨e.1, hgranted, rfl⟩
          exact List.mem_append_right _ (Option.mem_toList.mpr hnow)
      · exact List.mem_append_left _ (h.registered ((hother hk).symm.trans hu) he)
    counted := by
      intro k u hu
      rw [grants_concat, revocations_concat, List.countP_append, List.countP_append,
        Contact.granted?, Contact.revoked?, countP_tagged, countP_tagged, reply]
      by_cases hk : k = c.viewport
      · rw [hk, hcalled] at hu
        obtain rfl := Option.some.inj hu
        have hbefore := h.counted there
        have hnow := account.subscriberCount_eq
        rw [hk, if_pos rfl, if_pos rfl]
        omega
      · have hbefore := h.counted ((hother hk).symm.trans hu)
        rw [if_neg hk, if_neg hk]
        exact hbefore }

/-! ### What follows -/

theorem unique (h : Accounted viewports past) : ((grants past).map Prod.snd).Nodup := by
  refine List.pairwise_map.mpr (h.ordered.imp_of_mem ?_)
  intro g g' hg hg' hindex heq
  have hsame : g.1 = g'.1 := by rw [← (h.granted g hg).1, ← (h.granted g' hg').1, heq]
  have hlt := hindex hsame
  rw [heq] at hlt
  exact Nat.lt_irrefl _ hlt

theorem compared (h : Accounted viewports past) : (grants past).Pairwise fun g g' =>
    compare g.2 g'.2 = (compare g.1 g'.1).then .lt := by
  refine h.ordered.imp_of_mem ?_
  intro g g' hg hg' hindex
  rw [← (h.granted g hg).1, ← (h.granted g' hg').1] at hindex ⊢
  exact SubscriptionId.compare_eq hindex

end Accounted

section Runs

variable [Scalar α]

/-- A viewport is known by the number of those made before it. -/
theorem Contacted.numbered {viewports : List (Viewport α Handler)} {past : List (Contact α)}
    (h : Contacted viewports past) {k : Nat} {v : Viewport α Handler}
    (there : viewports[k]? = some v) : v.id = k ∧ v.Orderly := by
  induction h generalizing k v with
  | none => cases there
  | @made viewports past settings before ih =>
      rcases Scene.getElem?_added viewports (Viewport.create viewports.length settings) k with
        hsame | ⟨hk, _, hnew⟩
      · exact ih (hsame.symm.trans there)
      · obtain rfl := Option.some.inj (hnew.symm.trans there)
        exact ⟨hk.symm, Viewport.create_orderly _ settings⟩
  | @called viewports past j was call before hj ih =>
      obtain ⟨hnumber, horderly⟩ := ih hj
      by_cases hk : k = j
      · rw [hk, List.getElem?_set_self (List.getElem?_eq_some_iff.mp hj).1] at there
        obtain rfl := Option.some.inj there
        rw [hk]
        exact ⟨(Viewport.perform_id was call).trans hnumber, horderly.perform call⟩
      · rw [List.getElem?_set_ne (Ne.symm hk)] at there
        exact ih there

theorem Contacted.accounted {viewports : List (Viewport α Handler)} {past : List (Contact α)}
    (h : Contacted viewports past) : Accounted viewports past := by
  induction h with
  | none => exact .none
  | made settings before ih => exact ih.made settings
  | @called viewports past j v call before there ih =>
      obtain ⟨hnumber, horderly⟩ := before.numbered there
      exact ih.called (c := ⟨j, _⟩) (o := v.perform call) there hnumber (horderly.account call) rfl

namespace Scene

/-- Removing a handler, as the user asks: there is one under the id and the answer is that it was
found, or nothing happens. -/
theorem step_unsubscribe_cases {s : Scene α} (h : s.Orderly) (j : Nat) (id : SubscriptionId) :
    ((s.step (.call j (.unsubscribe id))).reply ≠ .called (.found true) ∧
        (s.step (.call j (.unsubscribe id))).scene = s ∧
        ∀ v, s.viewports[j]? = some v → ∀ t handler, (id, handler) ∉ v.entries t) ∨
      ∃ v t front handler back, s.viewports[j]? = some v ∧
        v.entries t = front ++ (id, handler) :: back ∧
        (s.step (.call j (.unsubscribe id))).reply = .called (.found true) ∧
        (s.step (.call j (.unsubscribe id))).scene =
          s.setViewport j (v.withEntries t (front ++ back)) := by
  cases hj : s.viewports[j]? with
  | none =>
      have hsilent : s.step (.call j (.unsubscribe id)) = s.silent .absent := by
        dsimp only [step]
        rw [hj]
      rw [hsilent]
      exact .inl ⟨nofun, rfl, nofun⟩
  | some v =>
      -- nobody is notified, so the scene has the viewport as the call leaves it
      have hscene : (s.step (.call j (.unsubscribe id))).scene =
          s.setViewport j (v.unsubscribe id).viewport := by
        rw [(step_call s hj _).1]
        show ((s.setViewport j (v.unsubscribe id).viewport).deliverAll
          (v.unsubscribe id).notices).1 = _
        rw [Viewport.unsubscribe_notices]
        rfl
      have hreply : (s.step (.call j (.unsubscribe id))).reply =
          .called (.found (v.unsubscribe id).result) := (step_call s hj _).2.1
      rcases (h j v hj).2.unsubscribe_cases id with
        ⟨hnone, hsame, habsent⟩ | ⟨t, front, handler, back, was, hfound, hviewport⟩
      · rw [hscene, hreply, hnone, hsame, s.setViewport_self hj]
        refine .inl ⟨nofun, rfl, ?_⟩
        intro v' hv'
        obtain rfl := Option.some.inj hv'
        exact habsent
      · rw [hscene, hreply, hfound, hviewport]
        exact .inr ⟨v, t, front, handler, back, rfl, was, rfl, rfl⟩

/-- What holds of the ids of a scene after some contacts. -/
structure Owned (s : Scene α) (past : List (Contact α)) : Prop where
  /-- No id is granted twice, by whichever viewport and whatever was removed. -/
  unique : ((grants past).map Prod.snd).Nodup
  /-- Of all viewports, just the one that granted an id has issued it. -/
  issued : ∀ g ∈ grants past, g.1 < s.viewports.length ∧
    ∀ {k : Nat} {v : Viewport α Handler}, s.viewports[k]? = some v → (v.issued g.2 = true ↔ k = g.1)
  /-- Ids compare by the viewports, in the order in which these were made, and ids of one viewport
  in the order in which they were granted. -/
  compared : (grants past).Pairwise fun g g' => compare g.2 g'.2 = (compare g.1 g'.1).then .lt
  /-- The lists of handlers are strictly increasing. -/
  increasing : ∀ {k : Nat} {v : Viewport α Handler}, s.viewports[k]? = some v → ∀ t,
    (v.entries t).Pairwise fun e e' => compare e.1 e'.1 = .lt
  /-- No id is on both lists of a viewport. -/
  disjoint : ∀ {k : Nat} {v : Viewport α Handler}, s.viewports[k]? = some v →
    ∀ e ∈ v.entries .scale, ∀ e' ∈ v.entries .offset, e.1 ≠ e'.1
  /-- A removal succeeds just if the viewport granted the id and the handler is still there. -/
  found : ∀ j id, (s.step (.call j (.unsubscribe id))).reply = .called (.found true) ↔
    (j, id) ∈ grants past ∧
      ∃ v t handler, s.viewports[j]? = some v ∧ (id, handler) ∈ v.entries t
  /-- It takes out this handler. All others stay, in their order, and so does all else. -/
  removal : ∀ j id, (s.step (.call j (.unsubscribe id))).reply = .called (.found true) →
    ∃ v t front handler back, s.viewports[j]? = some v ∧
      v.entries t = front ++ (id, handler) :: back ∧
      (s.step (.call j (.unsubscribe id))).scene =
        s.setViewport j (v.withEntries t (front ++ back))
  /-- A removal that does not succeed changes nothing. -/
  refusal : ∀ j id, (s.step (.call j (.unsubscribe id))).reply ≠ .called (.found true) →
    (s.step (.call j (.unsubscribe id))).scene = s
  /-- There are as many handlers on a viewport as it granted ids, less the removals. -/
  counted : ∀ {k : Nat} {v : Viewport α Handler}, s.viewports[k]? = some v →
    v.subscriberCount + (revocations past).countP (fun r => r.1 = k) =
      (grants past).countP fun g => g.1 = k

/-- What the ledger says of the ids of a scene. -/
theorem Orderly.owned {s : Scene α} (h : s.Orderly) {past : List (Contact α)}
    (ledger : Accounted s.viewports past) : s.Owned past where
  unique := ledger.unique
  issued := by
    intro g hg
    obtain ⟨hid, v, there, _⟩ := ledger.granted g hg
    refine ⟨(List.getElem?_eq_some_iff.mp there).1, ?_⟩
    intro k v there
    rw [Viewport.issued, beq_iff_eq, (h k v there).1, hid]
    exact eq_comm
  compared := ledger.compared
  increasing there := (h _ _ there).2.increasing
  disjoint there := (h _ _ there).2.disjoint
  found := by
    intro j id
    rcases step_unsubscribe_cases h j id with
      ⟨hreply, _, habsent⟩ | ⟨v, t, front, handler, back, there, was, hreply, _⟩
    · refine iff_of_false hreply ?_
      rintro ⟨_, v, t, handler, there, hmem⟩
      exact habsent v there t handler hmem
    · have hmem : (id, handler) ∈ v.entries t := by
        rw [was]
        exact List.mem_append_right _ List.mem_cons_self
      exact iff_of_true hreply ⟨ledger.registered there hmem, v, t, handler, there, hmem⟩
  removal := by
    intro j id hfound
    rcases step_unsubscribe_cases h j id with
      ⟨hreply, _⟩ | ⟨v, t, front, handler, back, there, was, _, hscene⟩
    · exact absurd hfound hreply
    · exact ⟨v, t, front, handler, back, there, was, hscene⟩
  refusal := by
    intro j id hrefused
    rcases step_unsubscribe_cases h j id with ⟨_, hscene, _⟩ | ⟨_, _, _, _, _, _, _, hreply, _⟩
    · exact hscene
    · exact absurd hreply hrefused
  counted := ledger.counted

/-- **Subscriptions are unique and owned.** However viewports are made, called and attached to, at
any time. -/
theorem subscriptions_unique_and_owned (actions : List (Action α)) :
    (empty.run actions).Owned (empty.contacts actions) := by
  have hcontacted : Contacted (empty.run actions).viewports (empty.contacts actions) :=
    run_contacted actions
  have horderly : (empty.run actions).Orderly := fun _ _ there => hcontacted.numbered there
  exact horderly.owned hcontacted.accounted

/-- The ids of a layer are granted and removed like those of the user, and their indices are not
used again. An id of one viewport removes nothing on another. -/
example :
    let past := (empty : Scene Binary64).contacts
      [.addViewport .default, .addViewport .default, .addLayer .default,
        .call 1 (.subscribe .offset 7), .attach 0 1 "window", .call 0 (.subscribe .scale 8),
        .detach 0 1, .call 1 (.unsubscribe ⟨0, 0⟩), .call 1 (.subscribe .scale 9)]
    grants past = [(1, ⟨1, 0⟩), (1, ⟨1, 1⟩), (1, ⟨1, 2⟩), (0, ⟨0, 0⟩), (1, ⟨1, 3⟩)] ∧
      revocations past = [(1, ⟨1, 1⟩), (1, ⟨1, 2⟩)] := by
  decide

end Scene

end Runs

end PanZoom
