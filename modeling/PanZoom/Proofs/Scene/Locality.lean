import PanZoom.Proofs.Scene.Staleness
import PanZoom.Proofs.Scene.Tether

/-!
# Attaching touches nobody else

Subscriptions of all viewports are counted from zero, so those of one viewport look like those of
another but for the name of the viewport. A layer that gives up its subscriptions on the wrong
viewport would take handlers of strangers away.

It does not (`rewiring_is_local`): attaching and detaching take from a viewport the two handlers
that the layer has there, and no others. What carries this is the invariant `Tethered`: an attached
layer has a handler on each list of the viewport of its last attachment, and nobody else knows the
subscriptions. Generations have no part in it, so it holds however often a layer was attached.
-/

namespace PanZoom

variable {α : Type}

/-! ## Lists -/

namespace Viewport

/-- If the removed ids pick one entry of an ordered list, then the list falls into what was before
the entry and what was after it. -/
theorem Ordered.without_eq {η : Type} {entries : List (SubscriptionId × η)} (h : Ordered entries)
    {ids : List SubscriptionId} {e : SubscriptionId × η}
    (he : ∀ e', e' ∈ entries ∧ e'.1 ∈ ids ↔ e' = e) :
    ∃ front back, entries = front ++ [e] ++ back ∧ without entries ids = front ++ back := by
  obtain ⟨hmem, hid⟩ := (he e).mpr rfl
  obtain ⟨front, back, rfl⟩ := List.append_of_mem hmem
  refine ⟨front, back, by simp, ?_⟩
  obtain ⟨_, hback, hfront⟩ := List.pairwise_append.mp h
  have hother : ∀ e' ∈ front ++ back, e'.1 ∉ ids := by
    intro e' he' hids
    rcases List.mem_append.mp he' with hin | hin
    · obtain rfl := (he e').mp ⟨by simp [hin], hids⟩
      exact Nat.lt_irrefl _ (hfront e' hin e' List.mem_cons_self)
    · obtain rfl := (he e').mp ⟨by simp [hin], hids⟩
      exact Nat.lt_irrefl _ ((List.pairwise_cons.mp hback).1 e' hin)
  have hsplit : without (front ++ e :: back) ids = without (front ++ back) ids := by
    simp only [without, List.filter_append]
    rw [List.filter_cons_of_neg (by simpa using hid)]
  rw [hsplit, without_eq_self hother]

end Viewport

namespace Switchboard

theorem attach_entries (b : Switchboard) (i j : Nat) (host : String) (t : Topic) :
    (b.attach i j host).entries j t = Viewport.without (b.entries j t) (b.cleared i j) ++
      [((b.fresh j).id t, .marker i (b.generation i + 1) host)] := by
  cases t <;> simp [attach, advance, register, remove, fresh, Grid.Attachment.id]

theorem detach_entries (b : Switchboard) (i j : Nat) (t : Topic) :
    (b.detach i j).entries j t = Viewport.without (b.entries j t) (b.cleared i j) := by
  simp [detach, advance, remove]

end Switchboard

/-! ## Scenes -/

namespace Scene

section Frame

variable (s : Scene α) {i j : Nat} {l : Grid.Layer α} {v : Viewport α Handler}

theorem rewire_viewports (w : Grid.Wiring α) {k : Nat} (hk : k ≠ j) :
    (s.rewire i j w).scene.viewports[k]? = s.viewports[k]? := by
  simp [rewire, setViewport, setLayer, List.getElem?_set_ne (Ne.symm hk)]

theorem rewire_layers (w : Grid.Wiring α) {k : Nat} (hk : k ≠ i) :
    (s.rewire i j w).scene.layers[k]? = s.layers[k]? := by
  simp [rewire, setViewport, setLayer, List.getElem?_set_ne (Ne.symm hk)]

variable [Scalar α]

theorem step_attach (hi : s.layers[i]? = some l) (hj : s.viewports[j]? = some v)
    (host : String) : s.step (.attach i j host) = s.rewire i j (l.attach i v host) := by
  simp only [step, withBoth, hi, hj]

theorem step_detach (hi : s.layers[i]? = some l) (hj : s.viewports[j]? = some v) :
    s.step (.detach i j) = s.rewire i j (l.detach v) := by
  simp only [step, withBoth, hi, hj]

end Frame

/-! ### Effects of handlers -/

/-- The number of handlers on a viewport, on both topics together. -/
def subscribers (s : Scene α) (j : Nat) : Nat :=
  (s.viewports[j]?.map fun v => v.subscriberCount).getD 0

theorem subscribers_eq (s : Scene α) (j : Nat) :
    s.subscribers j =
      (s.switchboard.entries j .scale).length + (s.switchboard.entries j .offset).length := by
  cases hj : s.viewports[j]? with
  | none => simp [subscribers, switchboard, hj]
  | some v => simp [subscribers, switchboard, hj, Viewport.subscriberCount_eq]

/-- Notified of a change, a handler does the same in both scenes: the world outside notices the
same, and the same layers are up to date afterwards. -/
def SameEffect (s s' : Scene α) (id : SubscriptionId) (handler : Handler) : Prop :=
  ∀ change, (s'.deliver { id, handler, change }).2 = (s.deliver { id, handler, change }).2 ∧
    ∀ i, (s'.deliver { id, handler, change }).1.upToDate i =
      (s.deliver { id, handler, change }).1.upToDate i

/-- What a handler does depends on who is up to date, and on whether its generation is the present
one of its layer. -/
theorem SameEffect.of_marks {s s' : Scene α} {id : SubscriptionId} {handler : Handler}
    (hupToDate : ∀ i, s'.upToDate i = s.upToDate i)
    (hmarks : ∀ i, handler.marks i (s'.switchboard.generation i) =
      handler.marks i (s.switchboard.generation i)) : s.SameEffect s' id handler := by
  intro change
  refine ⟨?_, ?_⟩
  · cases handler with
    | user tag => rw [deliver_user s' rfl, deliver_user s rfl]
    | marker i generation host =>
        have hsame : s'.switchboard.generation i = generation ↔
            s.switchboard.generation i = generation := by
          have hi := hmarks i
          rw [Bool.eq_iff_iff] at hi
          simpa [Handler.marks, eq_comm] using hi
        rw [deliver_hosts s' rfl, deliver_hosts s rfl, hupToDate]
        simp only [hsame]
  · intro i
    rw [deliver_upToDate, deliver_upToDate, hupToDate, hmarks]

end Scene

/-! ## What a layer has on a viewport -/

namespace Chronicle

/-- The handler that a layer has on a list of a viewport: the one of its attachment, if that was
made there. -/
def own (c : Chronicle α) (i j : Nat) (t : Topic) : List (SubscriptionId × Handler) :=
  match c.scene.switchboard.attachment? i, c.latest i with
  | some a, some (k, host) =>
    if k = j then [(a.id t, .marker i (c.scene.switchboard.generation i) host)] else []
  | _, _ => []

/-- The layer is attached to the viewport. -/
def isAttached (c : Chronicle α) (i j : Nat) : Bool :=
  (c.attachedTo? i).any fun place => place.1 = j

theorem own_length (c : Chronicle α) (i j : Nat) (t : Topic) :
    (c.own i j t).length = if c.isAttached i j then 1 else 0 := by
  unfold own isAttached attachedTo?
  cases c.scene.switchboard.attachment? i with
  | none => rfl
  | some a =>
      cases c.latest i with
      | none => rfl
      | some place => by_cases hj : place.1 = j <;> simp [hj]

/-- A layer is attached where it has a handler. -/
theorem isAttached_eq (c : Chronicle α) (i j : Nat) (t : Topic) :
    c.isAttached i j = !(c.own i j t).isEmpty := by
  have hlength := c.own_length i j t
  cases hattached : c.isAttached i j with
  | true =>
      rw [hattached, if_pos rfl] at hlength
      cases hown : c.own i j t with
      | nil => simp [hown] at hlength
      | cons e rest => rfl
  | false =>
      rw [hattached] at hlength
      rw [List.length_eq_zero_iff.mp hlength]
      rfl

/-- An attached layer has its handlers where it was attached last. -/
theorem own_eq {c : Chronicle α} {i : Nat} {a : Grid.Attachment}
    (ha : c.scene.switchboard.attachment? i = some a) {j : Nat} {host : String}
    (hlatest : c.latest i = some (j, host)) (k : Nat) (t : Topic) :
    c.own i k t = if j = k then [(a.id t, .marker i (c.scene.switchboard.generation i) host)]
      else [] := by
  simp only [own, ha, hlatest]

theorem own_of_detached {c : Chronicle α} {i : Nat}
    (ha : c.scene.switchboard.attachment? i = none) (j : Nat) (t : Topic) :
    c.own i j t = [] := by
  simp only [own, ha]

/-- Clearing a list takes out what the layer has there. -/
theorem Tethered.cleared {c : Chronicle α} (h : c.Tethered) (i j : Nat) (t : Topic) :
    ∃ front back, c.scene.switchboard.entries j t = front ++ c.own i j t ++ back ∧
      Viewport.without (c.scene.switchboard.entries j t) (c.scene.switchboard.cleared i j) =
        front ++ back := by
  obtain ⟨horderly, htethered⟩ := h
  cases ha : c.scene.switchboard.attachment? i with
  | none =>
      have hcleared : c.scene.switchboard.cleared i j = [] := by
        simp only [Switchboard.cleared, ha]
      rw [own_of_detached ha, hcleared, Viewport.without_nil]
      exact ⟨[], _, rfl, rfl⟩
  | some a =>
      obtain ⟨k, host, hlatest, hmem⟩ := htethered.attached i a ha
      rw [own_eq ha hlatest, htethered.cleared_eq horderly.board ha hlatest]
      by_cases hk : k = j
      · subst hk
        rw [if_pos rfl, if_pos rfl]
        refine (horderly.ordered k t).without_eq ?_
        intro e
        constructor
        · rintro ⟨he, hid⟩
          obtain ⟨t', hid⟩ : ∃ t', e.1 = a.id t' := by
            rcases List.mem_cons.mp hid with hscale | hrest
            · exact ⟨.scale, hscale⟩
            · exact ⟨.offset, List.mem_singleton.mp hrest⟩
          obtain ⟨host', hlatest', rfl, heq⟩ := htethered.unique horderly.board ha he hid
          obtain ⟨_, rfl⟩ := Prod.mk.inj (Option.some.inj (hlatest.symm.trans hlatest'))
          exact heq
        · rintro rfl
          refine ⟨hmem t, ?_⟩
          cases t <;> simp [Grid.Attachment.id]
      · rw [if_neg hk, if_neg (Ne.symm hk), Viewport.without_nil]
        exact ⟨[], _, rfl, rfl⟩

variable [Scalar α]

/-- An action on a layer and a viewport that leaves everybody else alone. -/
structure Local (c : Chronicle α) (i j : Nat) (action : Scene.Action α) : Prop where
  /-- Every other viewport stays as it is, with all its handlers. -/
  viewports : ∀ k, k ≠ j → (c.step action).scene.viewports[k]? = c.scene.viewports[k]?
  /-- So does every other layer. -/
  layers : ∀ k, k ≠ i → (c.step action).scene.layers[k]? = c.scene.layers[k]?
  /-- No layer becomes stale, and none up to date. -/
  marks : ∀ k, (c.step action).scene.upToDate k = c.scene.upToDate k
  /-- What the layer has on the viewport afterwards takes the place of what it had there, at the
  end of the list. The other handlers keep their subscriptions and their order. -/
  lists : ∀ t, ∃ front back, c.scene.switchboard.entries j t = front ++ c.own i j t ++ back ∧
    (c.step action).scene.switchboard.entries j t =
      front ++ back ++ (c.step action).own i j t
  /-- Wherever they hang, the other handlers have the effect that they had before: those of other
  layers and of the user always, and those that the layer left behind earlier as long as generations
  do not wrap around. -/
  effect : ∀ k t id handler, (id, handler) ∈ c.scene.switchboard.entries k t →
    (id, handler) ∉ c.own i k t →
    (∀ generation host, handler ≠ .marker i generation host) ∨ c.wirings + 1 < UInt64.size →
    c.scene.SameEffect (c.step action).scene id handler
  /-- What the layer has on another viewport, and leaves behind there, has no effect any more. -/
  leftBehind : ∀ k t id handler, (id, handler) ∈ c.own i k t → ∀ change,
    (c.step action).scene.deliver { id, handler, change } = ((c.step action).scene, [])

omit [Scalar α] in
/-- Whoever is not a handler of the present attachment is not touched by a layer that moves on to
its next generation. -/
theorem marks_next {c : Chronicle α} (hsound : c.wirings + 1 < UInt64.size → c.Sound) {i k : Nat}
    {t : Topic} {id : SubscriptionId} {handler : Handler}
    (hmem : (id, handler) ∈ c.scene.switchboard.entries k t) (hown : (id, handler) ∉ c.own i k t)
    (hcase : (∀ generation host, handler ≠ .marker i generation host) ∨
      c.wirings + 1 < UInt64.size) :
    handler.marks i (c.scene.switchboard.generation i + 1) =
      handler.marks i (c.scene.switchboard.generation i) := by
  have hunmarked : ∀ generation, (∀ host, handler ≠ .marker i generation host) →
      handler.marks i generation = false := by
    intro generation hnot
    rw [Bool.eq_false_iff, ne_eq, Handler.marks_iff]
    rintro ⟨host, hmarker⟩
    exact hnot host hmarker
  rcases hcase with hother | hfew
  · rw [hunmarked _ (hother _), hunmarked _ (hother _)]
  · have h := hsound hfew
    rw [hunmarked, hunmarked]
    · -- of the present generation there are the layer's own handlers only
      rintro host rfl
      obtain ⟨a, ha, hlatest, rfl⟩ := h.live hmem
      apply hown
      rw [own_eq ha hlatest, if_pos rfl]
      exact List.mem_singleton_self _
    · -- and of the next one there are none yet
      rintro host rfl
      exact h.2.unborn (Switchboard.lt_next (h.2.counted i) hfew).1 hmem

omit [Scalar α] in
theorem own_marker {c : Chronicle α} {i k : Nat} {t : Topic} {id : SubscriptionId}
    {handler : Handler} (h : (id, handler) ∈ c.own i k t) :
    ∃ host, handler = .marker i (c.scene.switchboard.generation i) host := by
  unfold own at h
  split at h
  · split at h
    · exact ⟨_, (Prod.mk.inj (List.mem_singleton.mp h)).2⟩
    · cases h
  · cases h

theorem generation_succ_ne (generation : UInt64) : generation + 1 ≠ generation := by
  intro heq
  have hnat := congrArg UInt64.toNat heq
  rw [UInt64.toNat_add] at hnat
  have hlt := generation.toNat_lt
  have hone : (1 : UInt64).toNat = 1 := rfl
  omega

/-- An action that moves a layer on to its next generation, and takes only its own handlers off
the lists of a viewport, is local. -/
theorem Local.of_advance {c : Chronicle α} {i j : Nat} {action : Scene.Action α}
    (hsound : c.wirings + 1 < UInt64.size → c.Sound)
    (hviewports : ∀ k, k ≠ j → (c.step action).scene.viewports[k]? = c.scene.viewports[k]?)
    (hlayers : ∀ k, k ≠ i → (c.step action).scene.layers[k]? = c.scene.layers[k]?)
    (hmarks : ∀ k, (c.step action).scene.upToDate k = c.scene.upToDate k)
    (hlists : ∀ t, ∃ front back, c.scene.switchboard.entries j t = front ++ c.own i j t ++ back ∧
      (c.step action).scene.switchboard.entries j t =
        front ++ back ++ (c.step action).own i j t)
    (hgeneration : ∀ k, (c.step action).scene.switchboard.generation k =
      if k = i then c.scene.switchboard.generation i + 1 else c.scene.switchboard.generation k) :
    c.Local i j action where
  viewports := hviewports
  layers := hlayers
  marks := hmarks
  lists := hlists
  effect := by
    intro k t id handler hmem hown hcase
    refine Scene.SameEffect.of_marks hmarks ?_
    intro i'
    rw [hgeneration]
    split
    · rename_i hi
      rw [hi]
      exact marks_next hsound hmem hown hcase
    · rfl
  leftBehind := by
    intro k t id handler hown change
    obtain ⟨host, rfl⟩ := own_marker hown
    refine Scene.deliver_dead _ rfl ?_
    rw [hgeneration, if_pos rfl]
    exact generation_succ_ne _

/-- The handlers that come and go are those of the layer. -/
theorem Local.subscribers {c : Chronicle α} {i j : Nat} {action : Scene.Action α}
    (h : c.Local i j action) :
    (c.step action).scene.subscribers j + (if c.isAttached i j then 2 else 0) =
      c.scene.subscribers j + if (c.step action).isAttached i j then 2 else 0 := by
  obtain ⟨front, back, hscale, hscale'⟩ := h.lists .scale
  obtain ⟨front', back', hoffset, hoffset'⟩ := h.lists .offset
  rw [Scene.subscribers_eq, Scene.subscribers_eq, hscale, hscale', hoffset, hoffset']
  simp only [List.length_append, own_length]
  split <;> split <;> omega

/-! ## Attaching -/

section Wiring

variable {c : Chronicle α} {i j : Nat} {l : Grid.Layer α} {v : Viewport α Handler}

theorem Tethered.attach_board (h : c.Tethered) (hi : c.scene.layers[i]? = some l)
    (hj : c.scene.viewports[j]? = some v) (host : String) :
    (c.step (.attach i j host)).scene.switchboard = c.scene.switchboard.attach i j host := by
  obtain ⟨hid, hv⟩ := h.1 j v hj
  show (c.scene.step (.attach i j host)).scene.switchboard = _
  rw [c.scene.step_attach hi hj, Scene.rewire_board _ _ hi hj]
  exact Scene.attach_board c.scene host hi hj hid hv

/-- After it is attached, a layer has a new handler on each list of the viewport. -/
theorem Tethered.own_attach (h : c.Tethered) (hi : c.scene.layers[i]? = some l)
    (hj : c.scene.viewports[j]? = some v) (host : String) (t : Topic) :
    (c.step (.attach i j host)).own i j t = [((c.scene.switchboard.fresh j).id t,
      .marker i (c.scene.switchboard.generation i + 1) host)] := by
  have hboard := h.attach_board hi hj host
  have hlatest : (c.step (.attach i j host)).latest i = some (j, host) := by
    rw [step_latest_attach rfl (by rw [c.scene.step_attach hi hj]; rfl)]
    exact Function.update_self ..
  have hattachment : (c.step (.attach i j host)).scene.switchboard.attachment? i =
      some (c.scene.switchboard.fresh j) := by
    rw [hboard, Switchboard.attachment_attach, if_pos rfl]
  rw [own_eq hattachment hlatest, if_pos rfl, hboard, Switchboard.generation_attach, if_pos rfl]

theorem Tethered.attach_local (h : c.Tethered) (hsound : c.wirings + 1 < UInt64.size → c.Sound)
    (hi : c.scene.layers[i]? = some l) (hj : c.scene.viewports[j]? = some v) (host : String) :
    c.Local i j (.attach i j host) := by
  have hboard := h.attach_board hi hj host
  refine .of_advance hsound ?_ ?_ (c.scene.attach_upToDate i j host) ?_ ?_
  · intro k hk
    show (c.scene.step (.attach i j host)).scene.viewports[k]? = _
    rw [c.scene.step_attach hi hj, Scene.rewire_viewports _ _ hk]
  · intro k hk
    show (c.scene.step (.attach i j host)).scene.layers[k]? = _
    rw [c.scene.step_attach hi hj, Scene.rewire_layers _ _ hk]
  · intro t
    obtain ⟨front, back, hbefore, hafter⟩ := h.cleared i j t
    refine ⟨front, back, hbefore, ?_⟩
    rw [hboard, Switchboard.attach_entries, hafter, h.own_attach hi hj]
  · intro k
    rw [hboard, Switchboard.generation_attach]

/-- An attached layer trades its two handlers for new ones, any other gets two. -/
theorem Tethered.attach_subscribers (h : c.Tethered)
    (hsound : c.wirings + 1 < UInt64.size → c.Sound) (hi : c.scene.layers[i]? = some l)
    (hj : c.scene.viewports[j]? = some v) (host : String) :
    (c.step (.attach i j host)).scene.subscribers j =
      c.scene.subscribers j + if c.isAttached i j then 0 else 2 := by
  have hattached : (c.step (.attach i j host)).isAttached i j = true := by
    rw [isAttached_eq _ _ _ .scale, h.own_attach hi hj]
    rfl
  have hcount := (h.attach_local hsound hi hj host).subscribers
  rw [hattached, if_pos rfl] at hcount
  cases hbefore : c.isAttached i j with
  | true =>
      rw [hbefore, if_pos rfl] at hcount
      exact Nat.add_right_cancel hcount
  | false =>
      rw [hbefore] at hcount
      exact hcount

/-! ## Detaching -/

omit [Scalar α] in
/-- A layer is attached just where a removal of its subscriptions is accepted. -/
theorem Tethered.belongsTo (h : c.Tethered) (hi : c.scene.layers[i]? = some l)
    (hj : c.scene.viewports[j]? = some v) {a : Grid.Attachment} (ha : l.attachment? = some a) :
    a.belongsTo v = c.isAttached i j := by
  have hattachment : c.scene.switchboard.attachment? i = some a := by
    simp [Scene.switchboard, hi, ha]
  obtain ⟨k, host, hlatest, _⟩ := h.2.attached i a hattachment
  have hscale : a.scaleId.viewport = k := h.2.viewport h.1.board hattachment hlatest .scale
  have hoffset : a.offsetId.viewport = k := h.2.viewport h.1.board hattachment hlatest .offset
  rw [Bool.eq_iff_iff]
  simp [Grid.Attachment.belongsTo, Viewport.issued, isAttached, attachedTo?, hattachment, hlatest,
    hscale, hoffset, (h.1 j v hj).1]

omit [Scalar α] in
theorem isAttached_of_detached (hi : c.scene.layers[i]? = some l) (ha : l.attachment? = none) :
    c.isAttached i j = false := by
  simp [isAttached, attachedTo?, Scene.switchboard, hi, ha]

/-- Detaching a layer from where it is not attached changes nothing. -/
theorem Tethered.detach_refused (h : c.Tethered) (hi : c.scene.layers[i]? = some l)
    (hj : c.scene.viewports[j]? = some v) (hattached : c.isAttached i j = false) :
    (c.scene.step (.detach i j)).reply = .wired false ∧
      (c.step (.detach i j)).scene = c.scene := by
  have hdetach : (l.detach v).layer = l ∧ (l.detach v).viewport = v ∧
      (l.detach v).done = false := by
    unfold Grid.Layer.detach
    cases ha : l.attachment? with
    | none => exact ⟨rfl, rfl, rfl⟩
    | some a =>
        rw [← h.belongsTo hi hj ha] at hattached
        simp [hattached]
  obtain ⟨hlayer, hviewport, hdone⟩ := hdetach
  have hscene : (c.step (.detach i j)).scene = (c.scene.step (.detach i j)).scene := rfl
  rw [hscene, c.scene.step_detach hi hj]
  simp only [Scene.rewire, hlayer, hviewport, hdone, true_and]
  rw [Scene.setLayer_self _ hi, Scene.setViewport_self _ hj]

theorem Tethered.detach_accepted (h : c.Tethered) (hi : c.scene.layers[i]? = some l)
    (hj : c.scene.viewports[j]? = some v) (hattached : c.isAttached i j = true) :
    (c.scene.step (.detach i j)).reply = .wired true ∧
      (c.step (.detach i j)).scene.switchboard = c.scene.switchboard.detach i j := by
  cases ha : l.attachment? with
  | none =>
      rw [isAttached_of_detached hi ha] at hattached
      cases hattached
  | some a =>
      have hbelongs : a.belongsTo v = true := (h.belongsTo hi hj ha).trans hattached
      obtain ⟨hid, hv⟩ := h.1 j v hj
      have hscene : (c.step (.detach i j)).scene = (c.scene.step (.detach i j)).scene := rfl
      rw [hscene, c.scene.step_detach hi hj, Scene.rewire_board _ _ hi hj]
      refine ⟨?_, Scene.detach_board c.scene hi hj hid hv ha hbelongs⟩
      simp [Scene.rewire, Grid.Layer.detach, ha, hbelongs]

theorem Tethered.own_detach (h : c.Tethered) (hi : c.scene.layers[i]? = some l)
    (hj : c.scene.viewports[j]? = some v) (hattached : c.isAttached i j = true) (k : Nat)
    (t : Topic) : (c.step (.detach i j)).own i k t = [] := by
  refine own_of_detached ?_ k t
  rw [(h.detach_accepted hi hj hattached).2, Switchboard.attachment_detach, if_pos rfl]

theorem Tethered.detach_local (h : c.Tethered) (hsound : c.wirings + 1 < UInt64.size → c.Sound)
    (hi : c.scene.layers[i]? = some l) (hj : c.scene.viewports[j]? = some v)
    (hattached : c.isAttached i j = true) : c.Local i j (.detach i j) := by
  have hboard := (h.detach_accepted hi hj hattached).2
  refine .of_advance hsound ?_ ?_ (c.scene.detach_upToDate i j) ?_ ?_
  · intro k hk
    show (c.scene.step (.detach i j)).scene.viewports[k]? = _
    rw [c.scene.step_detach hi hj, Scene.rewire_viewports _ _ hk]
  · intro k hk
    show (c.scene.step (.detach i j)).scene.layers[k]? = _
    rw [c.scene.step_detach hi hj, Scene.rewire_layers _ _ hk]
  · intro t
    obtain ⟨front, back, hbefore, hafter⟩ := h.cleared i j t
    refine ⟨front, back, hbefore, ?_⟩
    rw [hboard, Switchboard.detach_entries, hafter, h.own_detach hi hj hattached, List.append_nil]
  · intro k
    rw [hboard, Switchboard.generation_detach]

theorem Tethered.detach_subscribers (h : c.Tethered)
    (hsound : c.wirings + 1 < UInt64.size → c.Sound) (hi : c.scene.layers[i]? = some l)
    (hj : c.scene.viewports[j]? = some v) (hattached : c.isAttached i j = true) :
    (c.step (.detach i j)).scene.subscribers j + 2 = c.scene.subscribers j := by
  have hdetached : (c.step (.detach i j)).isAttached i j = false := by
    rw [isAttached_eq _ _ _ .scale, h.own_detach hi hj hattached]
    rfl
  have hcount := (h.detach_local hsound hi hj hattached).subscribers
  rw [hattached, hdetached] at hcount
  exact hcount

end Wiring

/-- **Attaching and detaching touch nobody else.** In every run in which the user removes no handlers
but its own, and however long it is. Attaching is always done, and leaves the number of handlers on
the viewport as it is if the layer was attached there already. Detaching is done just if the layer
is attached to the viewport, and changes nothing at all otherwise. -/
theorem rewiring_is_local (actions : List (Scene.Action α)) (lawful : start.Lawful actions)
    {i j : Nat} (hi : i < (start.run actions).scene.layers.length)
    (hj : j < (start.run actions).scene.viewports.length) :
    let c := start.run actions
    (∀ host, (c.scene.step (.attach i j host)).reply = .wired true ∧
      c.Local i j (.attach i j host) ∧
      (∀ t, (c.step (.attach i j host)).own i j t = [((c.scene.switchboard.fresh j).id t,
        .marker i (c.scene.switchboard.generation i + 1) host)]) ∧
      (c.step (.attach i j host)).scene.subscribers j =
        c.scene.subscribers j + if c.isAttached i j then 0 else 2) ∧
    (c.isAttached i j = true → (c.scene.step (.detach i j)).reply = .wired true ∧
      c.Local i j (.detach i j) ∧
      (∀ k t, (c.step (.detach i j)).own i k t = []) ∧
      (c.step (.detach i j)).scene.subscribers j + 2 = c.scene.subscribers j) ∧
    (c.isAttached i j = false → (c.scene.step (.detach i j)).reply = .wired false ∧
      (c.step (.detach i j)).scene = c.scene) := by
  intro c
  have h : c.Tethered := run_tethered start_tethered lawful
  have hsound : c.wirings + 1 < UInt64.size → c.Sound := by
    intro hfew
    refine run_sound start_sound lawful ?_
    rw [← run_wirings]
    exact Nat.lt_of_succ_lt hfew
  have hlayer := List.getElem?_eq_getElem hi
  have hviewport := List.getElem?_eq_getElem hj
  refine ⟨?_, ?_, h.detach_refused hlayer hviewport⟩
  · intro host
    exact ⟨by rw [c.scene.step_attach hlayer hviewport]; rfl,
      h.attach_local hsound hlayer hviewport host, h.own_attach hlayer hviewport host,
      h.attach_subscribers hsound hlayer hviewport host⟩
  · intro hattached
    exact ⟨(h.detach_accepted hlayer hviewport hattached).1,
      h.detach_local hsound hlayer hviewport hattached, h.own_detach hlayer hviewport hattached,
      h.detach_subscribers hsound hlayer hviewport hattached⟩

/-- A layer that moved on to another viewport can not be detached from the first one. When it is
attached there again, the handler that it left there stays, and so do those of the user and of
another layer. -/
theorem strangers_stay_on_return :
    let actions : List (Scene.Action Binary64) :=
      [.addViewport .default, .addViewport .default, .addLayer .default, .addLayer .default,
        .attach 0 0 "first", .call 0 (.subscribe .scale 7), .attach 1 0 "other",
        .call 1 (.subscribe .scale 8), .attach 0 1 "second"]
    let c := start.run actions
    let strangers : List (SubscriptionId × Handler) :=
      [(⟨0, 0⟩, .marker 0 1 "first"), (⟨0, 2⟩, .user 7), (⟨0, 3⟩, .marker 1 1 "other")]
    start.Lawful actions ∧ 0 < c.scene.layers.length ∧ 0 < c.scene.viewports.length ∧
      c.isAttached 0 0 = false ∧ (c.scene.step (.detach 0 0)).reply = .wired false ∧
      c.Local 0 0 (.attach 0 0 "third") ∧
      c.scene.switchboard.entries 0 .scale = strangers ∧
      (c.step (.attach 0 0 "third")).scene.switchboard.entries 0 .scale =
        strangers ++ [(⟨0, 5⟩, .marker 0 3 "third")] := by
  intro actions c strangers
  have hlawful : start.Lawful actions := by decide
  have hlayer : 0 < c.scene.layers.length := by decide
  have hviewport : 0 < c.scene.viewports.length := by decide
  have hdetached : c.isAttached 0 0 = false := by decide +kernel
  obtain ⟨hattach, _, hdetach⟩ := rewiring_is_local actions hlawful hlayer hviewport
  exact ⟨hlawful, hlayer, hviewport, hdetached, (hdetach hdetached).1, (hattach "third").2.1,
    by decide +kernel, by decide +kernel⟩

end Chronicle

end PanZoom
