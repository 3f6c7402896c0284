import PanZoom.Proofs.Scene.Staleness

/-!
# The first notification after a paint

One mark says both that the grid of a layer is stale and that its host was asked. The two come
apart when the layer is given another style: that makes the grid stale, and asks nobody. So the
first notification after a paint asks the host of the present attachment, once, if the layer was
not restyled since the paint; and if it was, then no host is asked before the next paint
(`first_notification_asks`, `restyled_asks_nobody`).
-/

namespace PanZoom

variable {α : Type}

namespace Grid.Happening

/-- While nothing but new styles happens to a layer that was painted, it is up to date until the
first of them. -/
theorem settle_restyled {happenings : List Happening} (h : ∀ x ∈ happenings, x = .restyled) :
    settle true happenings = happenings.isEmpty := by
  cases happenings using List.reverseRecOn with
  | nil => rfl
  | append_singleton before last =>
      obtain rfl := h last (by simp)
      simp [settle]

end Grid.Happening

namespace Chronicle

variable [Scalar α]

/-! ## The requests of one layer -/

/-- What a layer asks for by an action: if it is up to date and is notified of something, then its
host is asked once. -/
theorem Sound.asking_eq {c : Chronicle α} (h : c.Sound) (i : Nat) (action : Scene.Action α) :
    (c.scene.asking action).filter (fun r => r.1 = i) =
      if c.scene.upToDate i ∧ c.notifications i action ≠ [] then
        ((c.attachedTo? i).map fun place => (i, place.2)).toList
      else [] := by
  have hmarks := h.notices_marks i action
  cases action with
  | call j call =>
      cases hj : c.scene.viewports[j]? with
      | none =>
          rw [Scene.notices_absent hj] at hmarks
          rw [← hmarks]
          simp [Scene.asking, hj]
      | some v =>
          have hasking : c.scene.asking (.call j call) =
              (c.scene.setViewport j (v.perform (Scene.userCall call)).viewport).requests
                (c.scene.notices (.call j call)) := by
            simp only [Scene.asking, Scene.notices, hj]
          -- the called viewport has no part in who is marked
          rw [hasking, Scene.requests_filter, ← List.head?_filter]
          show (if c.scene.upToDate i then
            (((List.filter (fun n => n.handler.marks i (c.scene.switchboard.generation i))
              (c.scene.notices (.call j call))).head?.bind _).map (Prod.mk i)).toList else []) = _
          cases hfilter : (c.scene.notices (.call j call)).filter fun n =>
              n.handler.marks i (c.scene.switchboard.generation i) with
          | nil =>
              rw [hfilter] at hmarks
              simp [← hmarks]
          | cons n rest =>
              rw [hfilter] at hmarks
              have hn : n ∈ (c.scene.notices (.call j call)).filter fun n =>
                  n.handler.marks i (c.scene.switchboard.generation i) := by
                rw [hfilter]
                exact List.mem_cons_self
              obtain ⟨hmem, hmarked⟩ := List.mem_filter.mp hn
              obtain ⟨host, hmarker⟩ := Handler.marks_iff.mp hmarked
              -- the handler is one of the present attachment
              obtain ⟨a, ha, hlatest, _⟩ := h.live_notice hmem hmarker
              have hattached : c.attachedTo? i = some (j, host) := by
                simp [attachedTo?, ha, hlatest]
              simp [← hmarks, hattached, hmarker, Handler.host?]
  | _ =>
      rw [← hmarks]
      simp [Scene.asking, Scene.notices]

/-! ## After a paint -/

theorem history_append (c : Chronicle α) (i : Nat) (before after : List (Scene.Action α)) :
    c.history i (before ++ after) = c.history i before ++ (c.run before).history i after := by
  induction before generalizing c with
  | nil => rfl
  | cons action rest ih =>
      have hrun : c.run (action :: rest) = (c.step action).run rest := rfl
      simp only [List.cons_append, history, hrun]
      rw [ih, List.append_assoc]

/-- After a paint and new styles only, a layer is up to date if there was none of them. -/
theorem upToDate_since_paint {before between : List (Scene.Action α)} {i k : Nat} {size : Size α}
    (lawful : start.Lawful (before ++ .paint i k size :: between))
    (hfew : (start : Chronicle α).wirings +
      (before ++ .paint i k size :: between).countP Scene.Action.wires < UInt64.size)
    (painted : (start.run before).scene.paints i (.paint i k size) = true)
    (quiet : ∀ x ∈ ((start.run before).step (.paint i k size)).history i between,
      x = .restyled) :
    (start.run (before ++ .paint i k size :: between)).scene.upToDate i =
      (((start.run before).step (.paint i k size)).history i between).isEmpty := by
  have hpaint : (start.run before).happenings i (.paint i k size) = [.painted] := by
    rw [happenings, if_pos painted]
  rw [run_upToDate start_sound lawful hfew, history_append, Grid.Happening.settle_append, history,
    hpaint, Grid.Happening.settle_append, ← Grid.Happening.settle_restyled quiet]
  rfl

/-- **Who is asked first after a paint.** A layer was painted, and since then it was neither painted
nor notified. The first notice of a call that notifies it asks the host of the present attachment
just if the layer was not restyled since the paint, and the rest of the call does not ask again. If
it was restyled, it asks nobody before it is painted again. -/
theorem first_notification_asks {before between : List (Scene.Action α)} {i k : Nat}
    {size : Size α} (lawful : start.Lawful (before ++ .paint i k size :: between))
    (hfew : (before ++ .paint i k size :: between).countP Scene.Action.wires < UInt64.size)
    (painted : (start.run before).scene.paints i (.paint i k size) = true)
    (quiet : ∀ x ∈ ((start.run before).step (.paint i k size)).history i between,
      x = .restyled) :
    let c := start.run (before ++ .paint i k size :: between)
    let since := ((start.run before).step (.paint i k size)).history i between
    (∀ j host call, c.attachedTo? i = some (j, host) → c.notifications i (.call j call) ≠ [] →
      (c.scene.asking (.call j call)).filter (fun r => r.1 = i) =
        (if since = [] then [(i, host)] else []) ∧
      ∀ delivered n rest, c.scene.notices (.call j call) = delivered ++ n :: rest →
        (∀ m ∈ delivered, c.concerns i m = false) → c.concerns i n = true →
        ((c.scene.amid j call delivered).deliver n).2 =
          if since = [] then [.repaint host] else []) ∧
    (since ≠ [] → ∀ later, c.scene.Unpainted i later → c.scene.requestCount i later = 0) := by
  intro c since
  have hfew := few_start hfew
  have hsound : c.Sound := run_sound start_sound lawful hfew
  have hupToDate : c.scene.upToDate i = since.isEmpty :=
    upToDate_since_paint lawful hfew painted quiet
  have hfresh : c.scene.upToDate i = true ↔ since = [] := by rw [hupToDate, List.isEmpty_iff]
  refine ⟨?_, ?_⟩
  · intro j host call hattached hnotified
    refine ⟨?_, ?_⟩
    · rw [hsound.asking_eq, hattached]
      simp [hfresh, hnotified]
    · intro delivered n rest hnotices hbefore hconcerns
      have hexact := hsound.exactlyStale (run_upToDate start_sound lawful hfew i)
      obtain ⟨host', hattached', htold, _⟩ := hexact.told j call delivered n rest hnotices hconcerns
      obtain ⟨_, rfl⟩ := Prod.mk.inj (Option.some.inj (hattached.symm.trans hattached'))
      have hprefix : delivered <+: c.scene.notices (.call j call) := ⟨n :: rest, hnotices.symm⟩
      have hamid : (c.scene.amid j call delivered).upToDate i = true ↔ since = [] := by
        rw [hexact.amid j call delivered hprefix, hfresh]
        exact and_iff_left hbefore
      rw [htold]
      simp only [hamid]
  · intro hrestyled later hunpainted
    have hcount := Scene.requestCount_le hunpainted
    have hstale : c.scene.upToDate i = false := by
      rw [Bool.eq_false_iff]
      exact fun h => hrestyled (hfresh.mp h)
    rw [hstale] at hcount
    exact Nat.le_zero.mp (Nat.le_trans (Nat.le_add_right _ _) hcount)

/-- Between a paint and the first notification the layer moves to another viewport, the first one is
zoomed and reset, a pan begins and ends, and input is refused. Its new host is asked, once for both
topics of the reset. -/
theorem asked_after_move :
    let before : List (Scene.Action Binary64) :=
      [.addViewport .default, .addViewport .default, .addLayer .default, .attach 0 0 "first",
        .call 0 .reset]
    let paint : Scene.Action Binary64 := .paint 0 0 ⟨Scalar.zero, Scalar.zero⟩
    let between : List (Scene.Action Binary64) :=
      [.call 0 (.beginPan ⟨Scalar.zero, Scalar.zero⟩), .detach 0 0, .call 0 .reset,
        .attach 0 1 "second", .call 0 (.scroll Scalar.one), .call 1 (.scroll .nan),
        .call 1 .endPan]
    let c := start.run (before ++ paint :: between)
    start.Lawful (before ++ paint :: between) ∧
      (before ++ paint :: between).countP Scene.Action.wires < UInt64.size ∧
      (start.run before).scene.paints 0 paint = true ∧
      ((start.run before).step paint).history 0 between = [] ∧
      c.attachedTo? 0 = some (1, "second") ∧
      c.notifications 0 (.call 1 .reset) = [.scale, .offset] ∧
      (c.scene.asking (.call 1 .reset)).filter (fun r => r.1 = 0) = [(0, "second")] := by
  intro before paint between c
  have hlawful : start.Lawful (before ++ paint :: between) := by decide
  have hfew : (before ++ paint :: between).countP Scene.Action.wires < UInt64.size := by decide
  have hpainted : (start.run before).scene.paints 0 paint = true := by decide +kernel
  have hsince : ((start.run before).step paint).history 0 between = [] := by decide +kernel
  have hquiet : ∀ x ∈ ((start.run before).step paint).history 0 between, x = .restyled := by
    rw [hsince]
    exact fun x hx => absurd hx List.not_mem_nil
  have hattached : c.attachedTo? 0 = some (1, "second") := by decide +kernel
  have hnotified : c.notifications 0 (.call 1 .reset) = [.scale, .offset] := by decide +kernel
  obtain ⟨hfirst, _⟩ := first_notification_asks hlawful hfew hpainted hquiet
  obtain ⟨hasked, _⟩ := hfirst 1 "second" .reset hattached (by rw [hnotified]; simp)
  rw [if_pos hsince] at hasked
  exact ⟨hlawful, hfew, hpainted, hsince, hattached, hnotified, hasked⟩

/-- A layer is painted and given another style, and then its viewport is zoomed: the layer is
notified, and its host is not asked. -/
theorem restyled_asks_nobody :
    let c : Chronicle Binary64 := start.run
      [.addViewport .default, .addLayer .default, .attach 0 0 "host",
        .paint 0 0 ⟨Scalar.ofNat 10, Scalar.ofNat 10⟩, .setStyle 0 .empty]
    let zoom : Scene.Action Binary64 := .call 0 (.scroll (Scalar.ofNat 10))
    c.attachedTo? 0 = some (0, "host") ∧ c.notifications 0 zoom = [.scale] ∧
      c.scene.asking zoom = [] := by
  decide +kernel

end Chronicle

end PanZoom
