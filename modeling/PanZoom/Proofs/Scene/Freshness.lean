import PanZoom.Proofs.Grid.Painting
import PanZoom.Proofs.Scene.Staleness
import PanZoom.Proofs.Scene.Tether

/-!
# What an up-to-date layer shows

An up-to-date layer has the style that it was painted with, and as long as it stays attached its
viewport has the view that it was painted for. An attachment is where this ends: it does not mark
the layer, so a layer that was up to date before goes by the view that it finds, whatever it was
painted for (`upToDate_shows`, `returns_unmarked`).

The invariant is `Follows`: the viewport that an up-to-date layer is attached to has the view of
the last paint or of the last attachment, whichever came later. One action keeps it because a
change of the view is notified to the layer, which marks it. Handlers that the layer left behind
can do no harm here: all that a handler ever does to a layer is to mark it.
-/

namespace PanZoom

variable {α : Type}

namespace Scene

/-- The style of a layer. -/
def style? (s : Scene α) (i : Nat) : Option (Grid.Style α) := s.layers[i]?.map (·.style)

/-! ## Styles -/

theorem style_setLayer {s : Scene α} {k : Nat} {l l' : Grid.Layer α} (hk : s.layers[k]? = some l)
    (hsame : l'.style = l.style) (i : Nat) : (s.setLayer k l').style? i = s.style? i := by
  have hlt : k < s.layers.length := (List.getElem?_eq_some_iff.mp hk).1
  by_cases hi : i = k
  · subst hi
    rw [style?, style?, setLayer, List.getElem?_set_self hlt, hk]
    exact congrArg some hsame
  · simp [style?, setLayer, List.getElem?_set_ne (Ne.symm hi)]

theorem deliver_style (s : Scene α) (n : Notice α Handler) (i : Nat) :
    (s.deliver n).1.style? i = s.style? i := by
  rcases s.deliver_fst n with hsame | ⟨k, l, generation, hk, hmarked⟩
  · rw [hsame]
  · rw [hmarked]
    refine style_setLayer hk ?_ i
    unfold Grid.Layer.mark
    split <;> rfl

theorem deliverAll_style (s : Scene α) (notices : List (Notice α Handler)) (i : Nat) :
    (s.deliverAll notices).1.style? i = s.style? i := by
  induction notices generalizing s with
  | nil => rfl
  | cons n rest ih =>
      simp only [deliverAll]
      rw [ih, deliver_style]

variable [Scalar α]

/-- Only a new style changes the style of a layer that exists. -/
theorem step_style {s : Scene α} {i : Nat} {style : Grid.Style α} (hi : s.style? i = some style)
    {action : Action α} (kept : s.restyles i action = false) :
    (s.step action).scene.style? i = some style := by
  rw [← hi]
  cases action with
  | addViewport settings => rfl
  | addLayer new =>
      obtain ⟨l, hl, _⟩ := Option.map_eq_some_iff.mp hi
      rcases getElem?_added s.layers (Grid.Layer.new new) i with hsame | ⟨_, hnone, _⟩
      · simp only [step, silent, style?, hsame]
      · rw [hl] at hnone
        cases hnone
  | call j call =>
      cases hj : s.viewports[j]? with
      | none => simp only [step, hj, silent]
      | some v =>
          rw [(step_call s hj call).1, deliverAll_style]
          rfl
  | attach k j host =>
      rcases s.withBoth_cases k j (fun l v => s.rewire k j (l.attach k v host)) with
        habsent | ⟨l, v, hk, _, hboth⟩
      · rw [show s.step (.attach k j host) = _ from habsent]
        rfl
      · rw [show s.step (.attach k j host) = _ from hboth]
        have hsame : (l.attach k v host).layer.style = l.style := rfl
        exact style_setLayer hk hsame i
  | detach k j =>
      rcases s.withBoth_cases k j (fun l v => s.rewire k j (l.detach v)) with
        habsent | ⟨l, v, hk, _, hboth⟩
      · rw [show s.step (.detach k j) = _ from habsent]
        rfl
      · rw [show s.step (.detach k j) = _ from hboth]
        refine style_setLayer hk ?_ i
        unfold Grid.Layer.detach
        split
        · rfl
        · split <;> rfl
  | setStyle k new =>
      cases hk : s.layers[k]? with
      | none => simp only [step, hk, silent]
      | some l =>
          have hother : k ≠ i := by simpa [restyles, step, hk, silent] using kept
          simp [step, hk, silent, style?, setLayer, List.getElem?_set_ne hother]
  | paint k j size =>
      rcases s.withBoth_cases k j (fun l v =>
        { scene := s.setLayer k (l.paint v.view size).layer
          reply := .painted (l.paint v.view size).ops
          firings := []
          journal := (l.paint v.view size).records.map .grid }) with
        habsent | ⟨l, v, hk, _, hboth⟩
      · rw [show s.step (.paint k j size) = _ from habsent]
        rfl
      · rw [show s.step (.paint k j size) = _ from hboth]
        refine style_setLayer hk ?_ i
        unfold Grid.Layer.paint
        dsimp only
        split <;> rfl

/-- What is painted has a style. -/
theorem painted_style {s : Scene α} {i k : Nat} {size : Size α}
    (painted : s.paints i (.paint i k size) = true) : ∃ style, s.style? i = some style := by
  rcases s.withBoth_cases i k (fun l v =>
    { scene := s.setLayer i (l.paint v.view size).layer
      reply := .painted (l.paint v.view size).ops
      firings := []
      journal := (l.paint v.view size).records.map .grid }) with
    habsent | ⟨l, v, hi, _, _⟩
  · simp [paints, show s.step (.paint i k size) = _ from habsent, silent] at painted
  · exact ⟨l.style, by simp [style?, hi]⟩

/-- A painting is told by the style of the layer and the view of the viewport. -/
theorem paint_reply_congr {s s' : Scene α} {i j k : Nat} (hstyle : s.style? i = s'.style? i)
    (hview : ∀ t, s.current j t = s'.current k t) (size : Size α) :
    (s.step (.paint i j size)).reply = (s'.step (.paint i k size)).reply := by
  simp only [step, withBoth]
  cases hi : s.layers[i]? with
  | none =>
      have hi' : s'.layers[i]? = none := by simpa [style?, hi] using hstyle.symm
      simp only [hi', silent]
  | some l =>
      obtain ⟨l', hi', hl⟩ : ∃ l', s'.layers[i]? = some l' ∧ l'.style = l.style := by
        simpa [style?, hi] using hstyle.symm
      cases hj : s.viewports[j]? with
      | none =>
          have hk : s'.viewports[k]? = none := by simpa [current, hj] using (hview .scale).symm
          simp only [hi', hk, silent]
      | some v =>
          obtain ⟨v', hk, hscale⟩ : ∃ v', s'.viewports[k]? = some v' ∧
              v'.view.current .scale = v.view.current .scale := by
            simpa [current, hj] using (hview .scale).symm
          have hoffset : v'.view.current .offset = v.view.current .offset := by
            simpa [current, hj, hk] using (hview .offset).symm
          simp only [hi', hk, Grid.Layer.paint_ops, hl,
            Grid.referenceOps_congr (Change.scale.inj hscale) (Change.offset.inj hoffset)]

/-! ## Attachments and the views that they find -/

/-- The viewport that a layer is attached to by an action. -/
def joined? (s : Scene α) (i : Nat) (action : Action α) : Option Nat :=
  match action, (s.step action).reply with
  | .attach k j _, .wired true => if k = i then some j else none
  | _, _ => none

/-- The view that a layer goes by after an action: the one that it finds if it is attached by the
action, and `shown` otherwise. -/
def found (s : Scene α) (i : Nat) (shown : Topic → Option (Change α)) (action : Action α) :
    Topic → Option (Change α) :=
  match s.joined? i action with
  | some j => s.current j
  | none => shown

/-- The view that a layer goes by after a run, if it goes by `shown` before. -/
def basis (s : Scene α) (i : Nat) (shown : Topic → Option (Change α)) :
    List (Action α) → Topic → Option (Change α)
  | [] => shown
  | action :: rest => (s.step action).scene.basis i (s.found i shown action) rest

/-- The layer is attached by none of the actions. -/
def Unjoined (s : Scene α) (i : Nat) : List (Action α) → Prop
  | [] => True
  | action :: rest => s.joined? i action = none ∧ (s.step action).scene.Unjoined i rest

instance decidableUnjoined : (s : Scene α) → (i : Nat) → (actions : List (Action α)) →
    Decidable (s.Unjoined i actions)
  | _, _, [] => isTrue trivial
  | s, i, action :: rest =>
    have := decidableUnjoined (s.step action).scene i rest
    inferInstanceAs (Decidable (s.joined? i action = none ∧
      (s.step action).scene.Unjoined i rest))

theorem basis_unjoined {s : Scene α} {i : Nat} {actions : List (Action α)}
    (h : s.Unjoined i actions) (shown : Topic → Option (Change α)) :
    s.basis i shown actions = shown := by
  induction actions generalizing s with
  | nil => rfl
  | cons action rest ih =>
      rw [basis, found, h.1]
      exact ih h.2

/-- An action that makes no attachment is joined to nothing. -/
theorem joined_none {s : Scene α} {action : Action α}
    (h : (s.step action).reply ≠ .wired true ∨ ∀ i j host, action ≠ .attach i j host) (i : Nat) :
    s.joined? i action = none := by
  unfold joined?
  split
  · rename_i k j host hreply
    rcases h with hunwired | hnot
    · exact absurd hreply hunwired
    · exact absurd rfl (hnot k j host)
  · rfl

/-- What a viewport shows changes only if it accepts a change. -/
theorem current_of_refused {s : Scene α} {j : Nat} {v : Viewport α Handler}
    (hj : s.viewports[j]? = some v) {t : Topic} {action : Action α}
    (refused : s.accepts j t action = false) :
    (s.step action).scene.current j t = s.current j t := by
  have hc : s.current j t = some (v.view.current t) := by simp [current, hj]
  obtain ⟨c, hcurrent, hsame⟩ := step_current hc action
  rw [hcurrent, hc, hsame refused]

/-- Every handler on a list of a viewport is notified of a change that the viewport accepts. -/
theorem notifies {s : Scene α} {j : Nat} {v : Viewport α Handler} (hj : s.viewports[j]? = some v)
    {t : Topic} {id : SubscriptionId} {handler : Handler} (hmem : (id, handler) ∈ v.entries t)
    {action : Action α} (accepted : s.accepts j t action = true) :
    ∃ n ∈ s.notices action, n.handler = handler := by
  cases action with
  | call k call =>
      obtain rfl : k = j := by
        by_contra hother
        rw [accepts_other hother] at accepted
        cases accepted
      have htopic : t ∈ [Topic.scale, .offset] := by cases t <;> simp
      let change := (v.perform (userCall call)).viewport.view.current t
      refine ⟨{ id, handler, change }, ?_, rfl⟩
      rw [notices_call hj]
      refine List.mem_flatMap.mpr ⟨t, htopic, ?_⟩
      rw [if_pos accepted]
      exact List.mem_map.mpr ⟨_, hmem, rfl⟩
  | _ => cases accepted

end Scene

namespace Chronicle

variable [Scalar α]

/-! ## One action -/

/-- What becomes of an attachment by an action: it stays, or the layer is attached by it, or the
layer is detached by it. -/
theorem Tethered.step_attachedTo {c : Chronicle α} (h : c.Tethered) (i : Nat)
    (action : Scene.Action α) :
    (c.step action).attachedTo? i = c.attachedTo? i ∧ c.scene.joined? i action = none ∨
      (∃ j host, action = .attach i j host ∧ c.scene.joined? i action = some j ∧
        (c.step action).attachedTo? i = some (j, host)) ∨
      (c.step action).attachedTo? i = none ∧ c.scene.joined? i action = none := by
  have hstep : (c.step action).scene.switchboard = (c.scene.step action).scene.switchboard := rfl
  simp only [attachedTo?, hstep]
  cases Scene.step_rewiring h.1 action with
  | none _ unwired board =>
      exact .inl ⟨by rw [board, step_latest unwired], Scene.joined_none (.inl unwired) i⟩
  | subscribed j topic tag asked reply board =>
      have unwired : (c.scene.step action).reply ≠ .wired true := by simp [reply]
      refine .inl ⟨?_, Scene.joined_none (.inl unwired) i⟩
      rw [board, step_latest unwired]
      rfl
  | removed _ _ _ _ unwired board =>
      refine .inl ⟨?_, Scene.joined_none (.inl unwired) i⟩
      rw [board, step_latest unwired]
      rfl
  | attached k j host asked reply board =>
      have hjoined : c.scene.joined? i action = if k = i then some j else none := by
        subst asked
        simp only [Scene.joined?, reply]
      rw [board, step_latest_attach asked reply, Switchboard.attachment_attach, hjoined]
      by_cases hi : i = k
      · subst hi
        exact .inr (.inl ⟨j, host, asked, if_pos rfl, by simp⟩)
      · refine .inl ⟨?_, if_neg (Ne.symm hi)⟩
        rw [if_neg hi, Function.update_of_ne hi]
  | detached k j a asked held _ reply board =>
      have hjoined : c.scene.joined? i action = none :=
        Scene.joined_none (.inr fun _ _ _ hattach => by cases asked.symm.trans hattach) i
      rw [board, step_latest_detach asked, Switchboard.attachment_detach]
      by_cases hi : i = k
      · exact .inr (.inr ⟨by simp [hi], hjoined⟩)
      · exact .inl ⟨by rw [if_neg hi], hjoined⟩

omit [Scalar α] in
/-- An attached layer has a handler of its present generation on each list of the viewport that it
is attached to. -/
theorem Tethered.marker {c : Chronicle α} (h : c.Tethered) {i j : Nat} {host : String}
    (hattached : c.attachedTo? i = some (j, host)) (t : Topic) : ∃ v id,
      c.scene.viewports[j]? = some v ∧
        (id, .marker i (c.scene.switchboard.generation i) host) ∈ v.entries t := by
  obtain ⟨a, ha, hlatest⟩ := Option.bind_eq_some_iff.mp hattached
  obtain ⟨k, host', hk, hmem⟩ := h.2.attached i a ha
  obtain ⟨rfl, rfl⟩ := Prod.mk.inj (Option.some.inj (hk.symm.trans hlatest))
  obtain ⟨v, hv, _, _, hmem⟩ := h.1.mem_entries (hmem t)
  exact ⟨v, _, hv, hmem⟩

/-- A layer that is up to date after an action which did not paint it was so before, was not
restyled, and nothing was accepted by the viewport that it is attached to. -/
theorem Tethered.upToDate_before {c : Chronicle α} (h : c.Tethered) {i : Nat}
    {action : Scene.Action α} (unpainted : c.scene.paints i action = false)
    (hupToDate : (c.step action).scene.upToDate i = true) :
    c.scene.upToDate i = true ∧ c.scene.restyles i action = false ∧
      ∀ j host, c.attachedTo? i = some (j, host) → ∀ t, c.scene.accepts j t action = false := by
  have hstep : (c.step action).scene = (c.scene.step action).scene := rfl
  rw [hstep, Scene.step_upToDate, unpainted, Bool.false_or] at hupToDate
  simp only [Bool.and_eq_true, Bool.not_eq_true'] at hupToDate
  obtain ⟨hrestyles, hbefore, hquiet⟩ := hupToDate
  refine ⟨hbefore, hrestyles, ?_⟩
  intro j host hattached t
  rw [Bool.eq_false_iff]
  intro haccepts
  -- what is accepted is notified to the handler of the layer, and that marks it
  obtain ⟨v, id, hv, hmem⟩ := h.marker hattached t
  obtain ⟨n, hn, hmarker⟩ := Scene.notifies hv hmem haccepts
  rw [List.any_eq_false] at hquiet
  exact hquiet n hn (Handler.marks_iff.mpr ⟨host, hmarker⟩)

/-- While the layer is up to date, it has the style it was painted with, and the viewport it is
attached to has the view that it goes by. -/
def Follows (c : Chronicle α) (i : Nat) (style : Grid.Style α)
    (shown : Topic → Option (Change α)) : Prop :=
  c.scene.upToDate i = true → c.scene.style? i = some style ∧
    ∀ j host, c.attachedTo? i = some (j, host) → ∀ t, c.scene.current j t = shown t

/-- A layer that was painted for the view of its viewport follows it. -/
theorem paint_follows {c : Chronicle α} (h : c.Tethered) {i k : Nat} {size : Size α}
    {style : Grid.Style α} (hstyle : c.scene.style? i = some style)
    (there : ∀ j host, c.attachedTo? i = some (j, host) → k = j) :
    (c.step (.paint i k size)).Follows i style (c.scene.current k) := by
  intro _
  have hrestyles : c.scene.restyles i (.paint i k size) = false := rfl
  refine ⟨Scene.step_style hstyle hrestyles, ?_⟩
  intro j host hattached t
  rcases h.step_attachedTo i (.paint i k size) with ⟨hsame, _⟩ | ⟨_, _, hasked, _⟩ | ⟨hnone, _⟩
  · rw [hsame] at hattached
    obtain rfl := there j host hattached
    obtain ⟨v, _, hv, _⟩ := h.marker hattached t
    exact Scene.current_of_refused hv rfl
  · cases hasked
  · rw [hnone] at hattached
    cases hattached

/-- An action that does not paint the layer lets it follow the view that it finds. -/
theorem step_follows {c : Chronicle α} (h : c.Tethered) {i : Nat} {style : Grid.Style α}
    {shown : Topic → Option (Change α)} (hfollows : c.Follows i style shown)
    {action : Scene.Action α} (unpainted : c.scene.paints i action = false) :
    (c.step action).Follows i style (c.scene.found i shown action) := by
  intro hupToDate
  obtain ⟨hbefore, hkept, hrefused⟩ := h.upToDate_before unpainted hupToDate
  obtain ⟨hstyle, hview⟩ := hfollows hbefore
  have hstep : (c.step action).scene = (c.scene.step action).scene := rfl
  refine ⟨Scene.step_style hstyle hkept, ?_⟩
  intro j host hattached t
  rcases h.step_attachedTo i action with ⟨hsame, hjoined⟩ | ⟨k, host', rfl, hjoined, hnew⟩ |
    ⟨hnone, _⟩
  · -- it stays where it is, and nothing was accepted there
    rw [hsame] at hattached
    obtain ⟨v, _, hv, _⟩ := h.marker hattached t
    rw [hstep, Scene.current_of_refused hv (hrefused j host hattached t), Scene.found, hjoined]
    exact hview j host hattached t
  · rw [hnew] at hattached
    obtain ⟨rfl, rfl⟩ := Prod.mk.inj (Option.some.inj hattached)
    rw [Scene.found, hjoined]
    cases hk : c.scene.viewports[k]? with
    | some v => exact Scene.current_of_refused hk rfl
    | none =>
        -- there is nothing to attach to
        have habsent : (c.scene.step (.attach i k host')).reply ≠ .wired true := by
          simp [Scene.step, Scene.withBoth, hk, Scene.silent]
        rw [Scene.joined_none (.inl habsent)] at hjoined
        cases hjoined
  · rw [hnone] at hattached
    cases hattached

theorem run_follows {c : Chronicle α} (h : c.Tethered) {actions : List (Scene.Action α)}
    (lawful : c.Lawful actions) {i : Nat} {style : Grid.Style α}
    {shown : Topic → Option (Change α)} (hfollows : c.Follows i style shown)
    (unpainted : c.scene.Unpainted i actions) :
    (c.run actions).Follows i style (c.scene.basis i shown actions) := by
  induction actions generalizing c shown with
  | nil => exact hfollows
  | cons action rest ih =>
      obtain ⟨permitted, lawful⟩ := lawful
      exact ih (step_tethered h permitted) lawful (step_follows h hfollows unpainted.1)
        unpainted.2

/-! ## After a paint -/

/-- **What an up-to-date layer shows.** A layer was painted, for the view of the viewport that it
was attached to if it was attached. As long as it is up to date it has the style that it was painted
with, and the viewport that it is attached to has the view that it was painted for, or that it found
at its last attachment if it was attached since. So if a view or a style differs from what was
painted and the layer was not attached since, then it is stale. -/
theorem upToDate_shows {before after : List (Scene.Action α)} {i k : Nat} {size : Size α}
    (lawful : start.Lawful (before ++ .paint i k size :: after))
    (painted : (start.run before).scene.paints i (.paint i k size) = true)
    (there : ∀ j host, (start.run before).attachedTo? i = some (j, host) → k = j)
    (unpainted : ((start.run before).step (.paint i k size)).scene.Unpainted i after) :
    let p := (start.run before).scene
    let drawn := ((start.run before).step (.paint i k size)).scene
    let c := start.run (before ++ .paint i k size :: after)
    c.scene.upToDate i = true → c.scene.style? i = p.style? i ∧
      ∀ j host, c.attachedTo? i = some (j, host) →
        (∀ t, c.scene.current j t = drawn.basis i (p.current k) after t) ∧
        (drawn.Unjoined i after → (∀ t, c.scene.current j t = p.current k t) ∧
          (c.scene.step (.paint i j size)).reply = (p.step (.paint i k size)).reply) := by
  intro p drawn c hupToDate
  obtain ⟨hbefore, permitted, hafter⟩ := lawful_append.mp lawful
  have htethered : (start.run before).Tethered := run_tethered start_tethered hbefore
  obtain ⟨style, hstyle⟩ := Scene.painted_style painted
  have hfollows : c.Follows i style (drawn.basis i (p.current k) after) := by
    rw [show c = ((start.run before).step (.paint i k size)).run after from run_append ..]
    exact run_follows (step_tethered htethered permitted) hafter
      (paint_follows htethered hstyle there) unpainted
  obtain ⟨hkept, hview⟩ := hfollows hupToDate
  refine ⟨hkept.trans hstyle.symm, ?_⟩
  intro j host hattached
  refine ⟨hview j host hattached, ?_⟩
  intro unjoined
  have hsame : ∀ t, c.scene.current j t = p.current k t := by
    intro t
    rw [hview j host hattached t, Scene.basis_unjoined unjoined]
  exact ⟨hsame, Scene.paint_reply_congr (hkept.trans hstyle.symm) hsame size⟩

/-- A layer is painted and moves to another viewport, which is then painted for; the first one is
zoomed and the second is not. It is up to date, and shows what was painted. -/
theorem shows_after_move :
    let before : List (Scene.Action Binary64) :=
      [.addViewport .default, .addViewport .default, .addLayer .default, .attach 0 0 "first",
        .paint 0 0 ⟨Scalar.ofNat 10, Scalar.ofNat 10⟩, .attach 0 1 "second"]
    let paint : Scene.Action Binary64 := .paint 0 1 ⟨Scalar.ofNat 10, Scalar.ofNat 10⟩
    let after : List (Scene.Action Binary64) :=
      [.call 0 (.scroll (Scalar.ofNat 10)), .call 1 (.scroll .nan), .detach 0 0]
    let c := start.run (before ++ paint :: after)
    start.Lawful (before ++ paint :: after) ∧
      (start.run before).scene.paints 0 paint = true ∧
      (start.run before).attachedTo? 0 = some (1, "second") ∧
      ((start.run before).step paint).scene.Unpainted 0 after ∧
      ((start.run before).step paint).scene.Unjoined 0 after ∧
      c.scene.upToDate 0 = true ∧ c.attachedTo? 0 = some (1, "second") ∧
      c.scene.current 1 .scale = (start.run before).scene.current 1 .scale ∧
      c.scene.current 0 .scale ≠ (start.run before).scene.current 0 .scale := by
  intro before paint after c
  have hlawful : start.Lawful (before ++ paint :: after) := by decide
  have hpainted : (start.run before).scene.paints 0 paint = true := by decide +kernel
  have hthen : (start.run before).attachedTo? 0 = some (1, "second") := by decide +kernel
  have hthere : ∀ j host, (start.run before).attachedTo? 0 = some (j, host) → 1 = j := by
    intro j host hattached
    rw [hthen] at hattached
    cases hattached
    rfl
  have hunpainted : ((start.run before).step paint).scene.Unpainted 0 after := by decide +kernel
  have hunjoined : ((start.run before).step paint).scene.Unjoined 0 after := by decide +kernel
  have hupToDate : c.scene.upToDate 0 = true := by decide +kernel
  have hattached : c.attachedTo? 0 = some (1, "second") := by decide +kernel
  obtain ⟨_, hview⟩ := upToDate_shows hlawful hpainted hthere hunpainted hupToDate
  obtain ⟨hshown, _⟩ := (hview 1 "second" hattached).2 hunjoined
  exact ⟨hlawful, hpainted, hthen, hunpainted, hunjoined, hupToDate, hattached,
    hshown .scale, by decide +kernel⟩

/-- A layer is detached after it was painted, the viewport is zoomed, and the layer is attached to
it again: it is up to date, and what was painted is not what the viewport shows. -/
theorem returns_unmarked :
    let before : List (Scene.Action Binary64) :=
      [.addViewport .default, .addLayer .default, .attach 0 0 "host"]
    let paint : Scene.Action Binary64 := .paint 0 0 ⟨Scalar.ofNat 10, Scalar.ofNat 10⟩
    let c := start.run (before ++ [paint, .detach 0 0,
      .call 0 (.setDistance (Scalar.ofNat 2)), .attach 0 0 "host"])
    (start.run before).scene.paints 0 paint = true ∧
      (start.run before).attachedTo? 0 = some (0, "host") ∧
      c.attachedTo? 0 = some (0, "host") ∧
      c.scene.current 0 .scale ≠ (start.run before).scene.current 0 .scale ∧
      c.scene.upToDate 0 = true := by
  decide +kernel

end Chronicle

end PanZoom
