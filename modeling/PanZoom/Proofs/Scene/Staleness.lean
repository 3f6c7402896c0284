import Mathlib.Data.List.Induction
import PanZoom.Proofs.Scene.Requests

/-!
# When a layer is stale

What bears on the mark of a layer are its paints, its new styles, and the changes that are accepted
by the viewport that it is attached to (`Grid.Happening`). A layer is up to date just if the last
of these was a paint, and it asks for a repaint just at the first notification after a paint
(`staleness_exact`). A layer that is dropped without being detached is one that no action names any
more: it is notified as before, and never painted again.
-/

namespace PanZoom

variable {α : Type}

/-- Something that bears on whether the painting of a layer is up to date. -/
inductive Grid.Happening where
  | painted
  | restyled
  /-- The viewport that the layer is attached to notifies it of a change. -/
  | notified
  deriving DecidableEq, Repr

namespace Grid.Happening

/-- Whether a layer is up to date after some happenings. -/
def settle (upToDate : Bool) (happenings : List Happening) : Bool :=
  happenings.foldl (fun _ happening => happening = .painted) upToDate

theorem settle_append (upToDate : Bool) (before after : List Happening) :
    settle upToDate (before ++ after) = settle (settle upToDate before) after :=
  List.foldl_append

/-- The last happening decides. -/
theorem settle_iff {happenings : List Happening} :
    settle false happenings = true ↔ happenings.getLast? = some .painted := by
  induction happenings using List.reverseRecOn with
  | nil => simp [settle]
  | append_singleton before last _ => simp [settle]

/-- A notification makes a layer stale, and more of them keep it so. -/
theorem settle_notified (upToDate : Bool) (topics : List Topic) :
    settle upToDate (topics.map fun _ => .notified) = (upToDate && topics.isEmpty) := by
  have hstale : ∀ rest : List Topic, settle false (rest.map fun _ => .notified) = false := by
    intro rest
    induction rest with
    | nil => rfl
    | cons t rest ih => exact ih
  cases topics with
  | nil => exact (Bool.and_true upToDate).symm
  | cons t rest => exact (hstale rest).trans (Bool.and_false upToDate).symm

end Grid.Happening

namespace Chronicle

/-- The viewport that a layer is attached to, and the host of the attachment. -/
def attachedTo? (c : Chronicle α) (i : Nat) : Option (Nat × String) :=
  (c.scene.switchboard.attachment? i).bind fun _ => c.latest i

/-- The notice comes under a subscription that the layer holds. -/
def concerns (c : Chronicle α) (i : Nat) (n : Notice α Handler) : Bool :=
  (c.scene.switchboard.attachment? i).any fun a => n.id = a.id n.change.topic

theorem Sound.attachedTo {c : Chronicle α} (h : c.Sound) {i : Nat} {a : Grid.Attachment}
    (ha : c.scene.switchboard.attachment? i = some a) :
    ∃ j host, c.attachedTo? i = some (j, host) ∧ ∀ k t, c.scene.carriers i k t =
      if k = j then [(a.id t, .marker i (c.scene.switchboard.generation i) host)] else [] := by
  obtain ⟨j, host, hlatest, hcarriers⟩ := h.carriers_attached ha
  exact ⟨j, host, by simp [attachedTo?, ha, hlatest], hcarriers⟩

variable [Scalar α]

/-- The topics of which a layer is notified by an action: those that the viewport it is attached to
accepts a change of. -/
def notifications (c : Chronicle α) (i : Nat) (action : Scene.Action α) : List Topic :=
  match c.attachedTo? i with
  | some (j, _) => [Topic.scale, .offset].filter fun t => c.scene.accepts j t action
  | none => []

/-- What happens to a layer by an action. -/
def happenings (c : Chronicle α) (i : Nat) (action : Scene.Action α) : List Grid.Happening :=
  if c.scene.paints i action then [.painted]
  else if c.scene.restyles i action then [.restyled]
  else (c.notifications i action).map fun _ => .notified

/-- What happens to a layer along a run. -/
def history (c : Chronicle α) (i : Nat) : List (Scene.Action α) → List Grid.Happening
  | [] => []
  | action :: rest => c.happenings i action ++ (c.step action).history i rest

/-! ## Notices to a layer -/

/-- The subscriptions that a layer holds are those of the handlers of its present generation. -/
theorem Sound.concerns_eq {c : Chronicle α} (h : c.Sound) {j : Nat} {call : Viewport.Call α Nat}
    {n : Notice α Handler} (hn : n ∈ c.scene.notices (.call j call)) (i : Nat) :
    c.concerns i n = n.handler.marks i (c.scene.switchboard.generation i) := by
  rw [Bool.eq_iff_iff]
  constructor
  · intro hconcerns
    cases ha : c.scene.switchboard.attachment? i with
    | none => simp [concerns, ha] at hconcerns
    | some a =>
        have hid : n.id = a.id n.change.topic := by simpa [concerns, ha] using hconcerns
        obtain ⟨k, host, _, hlive⟩ := h.2.attached i a ha
        have hheld := (hlive k n.change.topic n.id host).mpr ⟨rfl, hid, rfl⟩
        -- nothing else hangs under this subscription
        obtain ⟨_, _, heq⟩ := h.1.board.unique (Scene.mem_notices hn) hheld rfl
        exact Handler.marks_iff.mpr ⟨host, (Prod.mk.inj heq).2.symm⟩
  · intro hmarks
    obtain ⟨host, hmarker⟩ := Handler.marks_iff.mp hmarks
    obtain ⟨a, ha, _, hid⟩ := h.live_notice hn hmarker
    simp [concerns, ha, hid]

omit [Scalar α] in
theorem filter_noticesOf {s : Scene α} {j : Nat} {v : Viewport α Handler}
    (hj : s.viewports[j]? = some v) (i : Nat) (t : Topic) (change : Change α) :
    (v.noticesOf t change).filter (fun n => n.handler.marks i (s.switchboard.generation i)) =
      (s.carriers i j t).map fun e => { id := e.1, handler := e.2, change } := by
  have hentries : s.switchboard.entries j t = v.entries t := by simp [Scene.switchboard, hj]
  rw [Viewport.noticesOf, List.filter_map, Scene.carriers, hentries]
  rfl

/-- The topics of the notices of a call that go to handlers of the present generation of a layer. -/
theorem marked_topics {s : Scene α} {j : Nat} {v : Viewport α Handler}
    (hj : s.viewports[j]? = some v) (call : Viewport.Call α Nat) (i : Nat) :
    ((s.notices (.call j call)).filter fun n =>
      n.handler.marks i (s.switchboard.generation i)).map (fun n => n.change.topic) =
        [Topic.scale, .offset].flatMap fun t =>
          if s.accepts j t (.call j call) then (s.carriers i j t).map fun _ => t else [] := by
  rw [Scene.notices_call hj, List.filter_flatMap, List.map_flatMap]
  congr 1
  funext t
  split
  · rw [filter_noticesOf hj, List.map_map]
    simp only [Function.comp_def, View.current_topic]
  · rfl

/-- A layer gets one notice for each topic that it is to be notified of, and no other. -/
theorem Sound.notices_marks {c : Chronicle α} (h : c.Sound) (i : Nat) (action : Scene.Action α) :
    ((c.scene.notices action).filter fun n =>
      n.handler.marks i (c.scene.switchboard.generation i)).map (fun n => n.change.topic) =
        c.notifications i action := by
  cases action with
  | call j call =>
      cases hj : c.scene.viewports[j]? with
      | none =>
          rw [Scene.notices_absent hj]
          unfold notifications
          simp only [Scene.accepts_absent hj]
          cases c.attachedTo? i <;> simp
      | some v =>
          rw [marked_topics hj, notifications]
          cases ha : c.scene.switchboard.attachment? i with
          | none =>
              have hnone : c.attachedTo? i = none := by simp [attachedTo?, ha]
              simp [hnone, h.carriers_detached ha]
          | some a =>
              obtain ⟨k, host, hattached, hcarriers⟩ := h.attachedTo ha
              simp only [hattached, hcarriers]
              by_cases hk : j = k
              · subst hk
                cases hscale : c.scene.accepts j .scale (.call j call) <;>
                  cases hoffset : c.scene.accepts j .offset (.call j call) <;>
                    simp [hscale, hoffset]
              · -- called is another viewport than the one that the layer is attached to
                simp [hk, Scene.accepts_other hk]
  | _ =>
      unfold notifications
      cases c.attachedTo? i <;> simp [Scene.notices, Scene.accepts]

/-! ## Runs -/

/-- One action makes of a layer what its happenings say. -/
theorem Sound.step_upToDate {c : Chronicle α} (h : c.Sound) (i : Nat) (action : Scene.Action α) :
    (c.step action).scene.upToDate i =
      Grid.Happening.settle (c.scene.upToDate i) (c.happenings i action) := by
  have hnotified : (c.notifications i action).isEmpty = !(c.scene.notices action).any fun n =>
      n.handler.marks i (c.scene.switchboard.generation i) := by
    rw [← h.notices_marks, List.isEmpty_map, Bool.eq_iff_iff]
    simp [List.filter_eq_nil_iff]
  have hstep : (c.step action).scene = (c.scene.step action).scene := rfl
  rw [hstep, Scene.step_upToDate, ← hnotified, happenings]
  cases c.scene.paints i action with
  | true => rfl
  | false =>
      cases c.scene.restyles i action with
      | true => rfl
      | false => exact (Grid.Happening.settle_notified _ _).symm

theorem run_upToDate {c : Chronicle α} (h : c.Sound) {actions : List (Scene.Action α)}
    (lawful : c.Lawful actions)
    (hfew : c.wirings + actions.countP Scene.Action.wires < UInt64.size) (i : Nat) :
    (c.run actions).scene.upToDate i =
      Grid.Happening.settle (c.scene.upToDate i) (c.history i actions) := by
  induction actions generalizing c with
  | nil => rfl
  | cons action rest ih =>
      obtain ⟨permitted, lawful⟩ := lawful
      obtain ⟨hstep, hrest⟩ := few_rest hfew
      have hsound := step_sound h permitted hstep
      have hrun : c.run (action :: rest) = (c.step action).run rest := rfl
      rw [hrun, ih hsound lawful hrest, h.step_upToDate, history, Grid.Happening.settle_append]

/-! ## Amid a call -/

theorem Sound.amid_upToDate {c : Chronicle α} (h : c.Sound) {j : Nat}
    {call : Viewport.Call α Nat} {delivered : List (Notice α Handler)}
    (hdelivered : delivered <+: c.scene.notices (.call j call)) (i : Nat) :
    (c.scene.amid j call delivered).upToDate i =
      (c.scene.upToDate i && !delivered.any fun n => c.concerns i n) := by
  have hconcerns : delivered.any (fun n => c.concerns i n) = delivered.any fun n =>
      n.handler.marks i (c.scene.switchboard.generation i) := by
    rw [Bool.eq_iff_iff, List.any_eq_true, List.any_eq_true]
    refine exists_congr ?_
    intro n
    refine and_congr_right ?_
    intro hn
    rw [h.concerns_eq (hdelivered.subset hn)]
  rw [hconcerns]
  unfold Scene.amid
  cases hj : c.scene.viewports[j]? with
  | none =>
      rw [Scene.notices_absent hj] at hdelivered
      simp [List.prefix_nil.mp hdelivered]
  | some v =>
      dsimp only
      rw [Scene.deliverAll_upToDate]
      rfl

/-- Whether a layer is up to date, and who is asked for a repaint of it, along a run so far. -/
structure ExactlyStale (c : Chronicle α) (i : Nat) (past : List Grid.Happening) : Prop where
  /-- The layer is up to date just if the last that happened to it was a paint. -/
  atRest : c.scene.upToDate i = true ↔ past.getLast? = some .painted
  /-- Amid a call it is so until a notice of the call concerns it. -/
  amid : ∀ j call delivered, delivered <+: c.scene.notices (.call j call) →
    ((c.scene.amid j call delivered).upToDate i = true ↔
      c.scene.upToDate i = true ∧ ∀ n ∈ delivered, c.concerns i n = false)
  /-- The notices that concern it are one for each topic that the viewport it is attached to
  accepts a change of. -/
  notified : ∀ action, ((c.scene.notices action).filter fun n => c.concerns i n).map
    (fun n => n.change.topic) = c.notifications i action
  /-- A notice that concerns it asks the host of the present attachment, once, if the layer is up
  to date just before, and nobody otherwise. -/
  told : ∀ j call delivered n rest, c.scene.notices (.call j call) = delivered ++ n :: rest →
    c.concerns i n = true → ∃ host, c.attachedTo? i = some (j, host) ∧
      ((c.scene.amid j call delivered).deliver n).2 =
        (if (c.scene.amid j call delivered).upToDate i then [.repaint host] else []) ∧
      ((c.scene.amid j call delivered).deliver n).1.upToDate i = false
  /-- Any other notice leaves it as it is, and asks nobody for it. -/
  untold : ∀ j call delivered n rest, c.scene.notices (.call j call) = delivered ++ n :: rest →
    c.concerns i n = false →
      ((c.scene.amid j call delivered).deliver n).1.upToDate i =
        (c.scene.amid j call delivered).upToDate i ∧
      ∀ request ∈ (c.scene.amid j call delivered).requestsOf n, request.1 ≠ i

theorem Sound.exactlyStale {c : Chronicle α} (h : c.Sound) {i : Nat}
    {past : List Grid.Happening}
    (hpast : c.scene.upToDate i = Grid.Happening.settle false past) : c.ExactlyStale i past where
  atRest := by
    rw [hpast]
    exact Grid.Happening.settle_iff
  amid := by
    intro j call delivered hdelivered
    simp [h.amid_upToDate hdelivered]
  notified := by
    intro action
    rw [← h.notices_marks]
    congr 1
    refine List.filter_congr ?_
    intro n hn
    cases action with
    | call j call => exact h.concerns_eq hn i
    | _ => cases hn
  told := by
    intro j call delivered n rest hnotices hconcerns
    have hn : n ∈ c.scene.notices (.call j call) := by
      rw [hnotices]
      exact List.mem_append_right _ List.mem_cons_self
    have hmarks := (h.concerns_eq hn i).symm.trans hconcerns
    obtain ⟨host, hmarker⟩ := Handler.marks_iff.mp hmarks
    obtain ⟨a, ha, hlatest, _⟩ := h.live_notice hn hmarker
    have hgeneration := congrFun (c.scene.amid_generation j call delivered) i
    refine ⟨host, by simp [attachedTo?, ha, hlatest], ?_, ?_⟩
    · rw [Scene.deliver_hosts _ hmarker, hgeneration]
      simp only [and_true]
    · rw [Scene.deliver_upToDate, hgeneration, hmarks]
      exact Bool.and_false _
  untold := by
    intro j call delivered n rest hnotices hconcerns
    have hn : n ∈ c.scene.notices (.call j call) := by
      rw [hnotices]
      exact List.mem_append_right _ List.mem_cons_self
    have hmarks : n.handler.marks i
        ((c.scene.amid j call delivered).switchboard.generation i) = false := by
      rw [c.scene.amid_generation]
      exact (h.concerns_eq hn i).symm.trans hconcerns
    refine ⟨?_, Scene.requestsOf_unmarked hmarks⟩
    rw [Scene.deliver_upToDate, hmarks]
    exact Bool.and_true _

/-- **When a layer is stale, and who is told.** Every request that is seen outside is the request
of a layer, and until it is painted again a layer asks once at most, whoever its hosts were. In
every run in which the user removes no handlers but its own, and with fewer attachments and
detachments than there are generations, what happens to a layer decides whether it is up to date
and who is asked for a repaint of it. -/
theorem staleness_exact :
    (∀ (s : Scene α) action,
      (s.asking action).map Prod.snd = (s.step action).firings.filterMap Scene.Firing.host?) ∧
    (∀ (s : Scene α) i actions, s.Unpainted i actions →
      s.requestCount i actions ≤ (s.upToDate i).toNat) ∧
    ∀ actions : List (Scene.Action α), start.Lawful actions →
      actions.countP Scene.Action.wires < UInt64.size →
      ∀ i, (start.run actions).ExactlyStale i (start.history i actions) := by
  refine ⟨Scene.asking_hosts, ?_, ?_⟩
  · intro s i actions hunpainted
    exact Nat.le_trans (Nat.le_add_right _ _) (Scene.requestCount_le hunpainted)
  · intro actions lawful hfew i
    have hfew : (start : Chronicle α).wirings + actions.countP Scene.Action.wires <
        UInt64.size := by
      show 0 + _ < _
      rw [Nat.zero_add]
      exact hfew
    exact (run_sound start_sound lawful hfew).exactlyStale
      (run_upToDate start_sound lawful hfew i)

/-- A layer moves on, and hears of its first viewport no more. Later it moves back, and asks one
host for a repaint, for two resets of two viewports and a new style. -/
theorem stale_after_move :
    let paint (viewport : Nat) : Scene.Action Binary64 :=
      .paint 0 viewport ⟨Scalar.zero, Scalar.zero⟩
    let before : List (Scene.Action Binary64) :=
      [.addViewport .default, .addViewport .default, .addLayer .default, .attach 0 0 "first",
        .call 0 .reset, paint 0, .call 0 .reset, .attach 0 1 "second", paint 1, .call 0 .reset]
    let after : List (Scene.Action Binary64) :=
      [.call 1 .reset, .attach 0 0 "third", .call 0 .reset, .setStyle 0 .empty]
    start.Lawful before ∧ before.countP Scene.Action.wires < UInt64.size ∧
      (start.run before).ExactlyStale 0 (start.history 0 before) ∧
      start.history 0 before =
        [.notified, .notified, .painted, .notified, .notified, .painted] ∧
      (start.run before).scene.Unpainted 0 after ∧
      (start.run before).scene.requestCount 0 after ≤
        ((start.run before).scene.upToDate 0).toNat ∧
      (start.run before).scene.requestCount 0 after = 1 := by
  intro paint before after
  have hlawful : start.Lawful before := by decide
  have hfew : before.countP Scene.Action.wires < UInt64.size := by decide
  have hunpainted : (start.run before).scene.Unpainted 0 after := by decide
  obtain ⟨_, hcoalesce, hexact⟩ := staleness_exact (α := Binary64)
  refine ⟨hlawful, hfew, hexact before hlawful hfew 0, by decide +kernel, hunpainted,
    hcoalesce _ 0 after hunpainted, by decide +kernel⟩

end Chronicle

end PanZoom
