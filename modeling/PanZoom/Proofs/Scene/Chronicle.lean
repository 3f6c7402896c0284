import PanZoom.Proofs.Scene.Continuity

/-!
# The history behind a wiring

A chronicle is a scene together with what its past says about the wiring: which subscriptions the
user was given, where each layer was attached last, and how many attachments and detachments were
asked for. `Wired` relates the two. As long as the user removes only handlers of its own and
generations do not wrap around, every action keeps it (`step_wired`, `run_wired`).
-/

namespace PanZoom

/-! ## Wirings and their past -/

namespace Switchboard

/-- The subscription was issued, and nothing hangs under it but handlers of the user. -/
def OfUser (b : Switchboard) (id : SubscriptionId) : Prop :=
  id.index < b.nextIndex id.viewport ∧
    ∀ j t handler, (id, handler) ∈ b.entries j t → ∃ tag, handler = .user tag

/-- The wiring is what its past says: `given` are the subscriptions that the user was given,
`latest` has the viewport and the host of the last attachment of each layer, and `wirings` counts
attachments and detachments. -/
structure Wired (b : Switchboard) (given : List SubscriptionId)
    (latest : Nat → Option (Nat × String)) (wirings : Nat) : Prop where
  /-- Only handlers of the user hang under what the user was given. -/
  given : ∀ id ∈ given, id.index < b.nextIndex id.viewport ∧
    ∀ j t handler, (id, handler) ∈ b.entries j t → ∃ tag, handler = .user tag
  /-- No handler of a layer is of a later generation than the layer. -/
  young : ∀ j t id i generation host,
    (id, Handler.marker i generation host) ∈ b.entries j t → generation ≤ b.generation i
  counted : ∀ i, (b.generation i).toNat ≤ wirings
  /-- Of the generation of an attached layer, just the two handlers are there that it holds. -/
  attached : ∀ i a, b.attachment? i = some a → ∃ j host, latest i = some (j, host) ∧
    ∀ k t id host', (id, Handler.marker i (b.generation i) host') ∈ b.entries k t ↔
      k = j ∧ id = a.id t ∧ host' = host
  /-- Of the generation of a detached layer there are none. -/
  detached : ∀ i, b.attachment? i = none →
    ∀ k t id host, (id, Handler.marker i (b.generation i) host) ∉ b.entries k t

/-- Below the greatest generation the next one is greater. -/
theorem lt_next {generation : UInt64} {n : Nat} (hle : generation.toNat ≤ n)
    (hfew : n + 1 < UInt64.size) :
    generation < generation + 1 ∧ (generation + 1).toNat ≤ n + 1 := by
  have hsucc : (generation + 1).toNat = generation.toNat + 1 := by
    rw [UInt64.toNat_add]
    exact Nat.mod_eq_of_lt (Nat.lt_of_le_of_lt (Nat.succ_le_succ hle) hfew)
  refine ⟨?_, ?_⟩
  · rw [UInt64.lt_iff_toNat_lt, hsucc]
    exact Nat.lt_succ_self _
  · rw [hsucc]
    exact Nat.succ_le_succ hle

variable {b : Switchboard} {given : List SubscriptionId} {latest : Nat → Option (Nat × String)}
  {wirings : Nat}

/-! ## What the user was given -/

/-- Whatever the user registers hangs under subscriptions of the user. -/
theorem OfUser.register {id : SubscriptionId} (h : b.OfUser id) (j : Nat) (topic : Topic)
    (tag : Nat) : (b.register j topic (.user tag)).OfUser id := by
  obtain ⟨hissued, huser⟩ := h
  refine ⟨Nat.lt_of_lt_of_le hissued (le_nextIndex_register ..), ?_⟩
  intro k t handler hmem
  rcases mem_register.mp hmem with hold | ⟨_, _, hnew⟩
  · exact huser k t handler hold
  · exact ⟨tag, (Prod.mk.inj hnew).2⟩

/-- Nothing hung under a new subscription before. -/
theorem Orderly.ofUser_register (ho : b.Orderly) (j : Nat) (topic : Topic) (tag : Nat) :
    (b.register j topic (.user tag)).OfUser ⟨j, b.nextIndex j⟩ := by
  refine ⟨by simp [Switchboard.register], ?_⟩
  intro k t handler hmem
  rcases mem_register.mp hmem with hold | ⟨_, _, hnew⟩
  · obtain ⟨hviewport, hindex⟩ := ho.issued hold
    obtain rfl : j = k := hviewport
    exact absurd hindex (Nat.lt_irrefl _)
  · exact ⟨tag, (Prod.mk.inj hnew).2⟩

theorem OfUser.remove {id : SubscriptionId} (h : b.OfUser id) (j : Nat)
    (ids : List SubscriptionId) : (b.remove j ids).OfUser id :=
  ⟨h.1, fun k t handler hmem => h.2 k t handler (mem_remove.mp hmem).1⟩

/-- The subscriptions of an attachment are not the user's. -/
theorem OfUser.attach {id : SubscriptionId} (h : b.OfUser id) (i j : Nat) (host : String) :
    (b.attach i j host).OfUser id := by
  obtain ⟨hissued, huser⟩ := h
  refine ⟨?_, ?_⟩
  · rw [nextIndex_attach]
    split
    · rename_i hviewport
      rw [hviewport] at hissued
      omega
    · exact hissued
  · intro k t handler hmem
    rcases mem_attach.mp hmem with ⟨hold, _⟩ | ⟨_, hnew⟩
    · exact huser k t handler hold
    · -- they were not issued before
      obtain ⟨hfresh, _⟩ := Prod.mk.inj hnew
      rw [hfresh] at hissued
      cases t with
      | scale => exact absurd hissued (Nat.lt_irrefl _)
      | offset => exact absurd hissued Nat.not_succ_lt_self

theorem OfUser.detach {id : SubscriptionId} (h : b.OfUser id) (i j : Nat) :
    (b.detach i j).OfUser id :=
  ⟨h.1, fun k t handler hmem => h.2 k t handler (mem_detach.mp hmem).1⟩

/-! ## The wiring goes on -/

theorem Wired.mono (h : b.Wired given latest wirings) {n : Nat} (hle : wirings ≤ n) :
    b.Wired given latest n where
  given := h.given
  young := h.young
  counted := fun i => Nat.le_trans (h.counted i) hle
  attached := h.attached
  detached := h.detached

/-- What leaves the handlers of layers in place, and the subscriptions that the user was given in
the hands of the user, keeps the wiring to its past. -/
theorem Wired.of_markers (h : b.Wired given latest wirings) {b' : Switchboard}
    {given' : List SubscriptionId}
    (hgiven : ∀ id ∈ given', id.index < b'.nextIndex id.viewport ∧
      ∀ j t handler, (id, handler) ∈ b'.entries j t → ∃ tag, handler = .user tag)
    (hmarkers : ∀ j t id i generation host,
      (id, Handler.marker i generation host) ∈ b'.entries j t ↔
        (id, Handler.marker i generation host) ∈ b.entries j t)
    (hgeneration : b'.generation = b.generation) (hattachment : b'.attachment? = b.attachment?) :
    b'.Wired given' latest wirings where
  given := hgiven
  young := by
    intro j t id i generation host hmem
    rw [hgeneration]
    exact h.young j t id i generation host ((hmarkers ..).mp hmem)
  counted := by
    rw [hgeneration]
    exact h.counted
  attached := by
    intro i a ha
    rw [hattachment] at ha
    obtain ⟨j, host, hlatest, hlive⟩ := h.attached i a ha
    refine ⟨j, host, hlatest, ?_⟩
    intro k t id host'
    rw [hmarkers, hgeneration]
    exact hlive k t id host'
  detached := by
    intro i ha k t id host
    rw [hattachment] at ha
    rw [hmarkers, hgeneration]
    exact h.detached i ha k t id host

theorem Wired.register (ho : b.Orderly) (h : b.Wired given latest wirings) (j : Nat)
    (topic : Topic) (tag : Nat) :
    (b.register j topic (.user tag)).Wired (⟨j, b.nextIndex j⟩ :: given) latest wirings := by
  refine h.of_markers ?_ ?_ rfl rfl
  · intro id hid
    rcases List.mem_cons.mp hid with rfl | hid
    · exact ho.ofUser_register j topic tag
    · exact OfUser.register (h.given id hid) j topic tag
  · intro k t id i generation host
    rw [mem_register, or_iff_left]
    rintro ⟨_, _, hnew⟩
    cases (Prod.mk.inj hnew).2

/-- The user removes what it was given. -/
theorem Wired.remove (h : b.Wired given latest wirings) (j : Nat) {id : SubscriptionId}
    (hid : id ∈ given) : (b.remove j [id]).Wired given latest wirings := by
  refine h.of_markers ?_ ?_ rfl rfl
  · exact fun id' hid' => OfUser.remove (h.given id' hid') j [id]
  · intro k t id' i generation host
    rw [mem_remove, and_iff_left_of_imp]
    rintro hmem ⟨_, heq⟩
    obtain rfl : id' = id := List.mem_singleton.mp heq
    obtain ⟨tag, huser⟩ := (h.given id' hid).2 k t _ hmem
    cases huser

/-- What a layer gives up are handlers of its own, of its present generation. -/
theorem Wired.cleared (ho : b.Orderly) (h : b.Wired given latest wirings) {i j k : Nat}
    {t : Topic} {e : SubscriptionId × Handler} (he : e ∈ b.entries k t)
    (hcleared : e.1 ∈ b.cleared i j) : ∃ host, e.2 = .marker i (b.generation i) host := by
  obtain ⟨a, t', ha, hid⟩ := mem_cleared hcleared
  obtain ⟨j', host, _, hlive⟩ := h.attached i a ha
  have hmem := (hlive j' t' (a.id t') host).mpr ⟨rfl, rfl, rfl⟩
  obtain ⟨_, _, heq⟩ := ho.unique hmem he hid
  exact ⟨host, congrArg Prod.snd heq⟩

/-- Attaching or detaching a layer leaves the handlers of the user and of other layers in place. -/
theorem Wired.others (ho : b.Orderly) (h : b.Wired given latest wirings) {i j k : Nat} {t : Topic}
    {e : SubscriptionId × Handler} (hother : ∀ generation host, e.2 ≠ .marker i generation host) :
    (e ∈ b.entries k t ∧ ¬ (k = j ∧ e.1 ∈ b.cleared i j)) ↔ e ∈ b.entries k t := by
  refine and_iff_left_of_imp ?_
  rintro he ⟨_, hcleared⟩
  obtain ⟨host, hmarker⟩ := h.cleared ho he hcleared
  exact hother _ host hmarker

theorem Wired.mem_attach_other (ho : b.Orderly) (h : b.Wired given latest wirings) {i i' : Nat}
    (hi : i' ≠ i) (j : Nat) (host : String) {k : Nat} {t : Topic} {id : SubscriptionId}
    {generation : UInt64} {host' : String} :
    (id, Handler.marker i' generation host') ∈ (b.attach i j host).entries k t ↔
      (id, Handler.marker i' generation host') ∈ b.entries k t := by
  rw [mem_attach, h.others ho, or_iff_left]
  · rintro ⟨_, hnew⟩
    obtain ⟨_, hmarker⟩ := Prod.mk.inj hnew
    exact hi (Handler.marker.inj hmarker).1
  · intro generation' host'' hmarker
    exact hi (Handler.marker.inj hmarker).1

theorem Wired.mem_detach_other (ho : b.Orderly) (h : b.Wired given latest wirings) {i i' : Nat}
    (hi : i' ≠ i) (j : Nat) {k : Nat} {t : Topic} {id : SubscriptionId} {generation : UInt64}
    {host : String} :
    (id, Handler.marker i' generation host) ∈ (b.detach i j).entries k t ↔
      (id, Handler.marker i' generation host) ∈ b.entries k t := by
  rw [mem_detach, h.others ho]
  intro generation' host' hmarker
  exact hi (Handler.marker.inj hmarker).1

/-- Markers of a generation after the present one hang nowhere. -/
theorem Wired.unborn (h : b.Wired given latest wirings) {i k : Nat} {t : Topic}
    {id : SubscriptionId} {generation : UInt64} {host : String}
    (hlater : b.generation i < generation) :
    (id, Handler.marker i generation host) ∉ b.entries k t := by
  intro hmem
  exact absurd (h.young k t id i generation host hmem) (UInt64.not_le.mpr hlater)

theorem Wired.attach (ho : b.Orderly) (h : b.Wired given latest wirings) (i j : Nat)
    (host : String) (hfew : wirings + 1 < UInt64.size) :
    (b.attach i j host).Wired given (Function.update latest i (some (j, host)))
      (wirings + 1) := by
  obtain ⟨hlt, hcount⟩ := lt_next (h.counted i) hfew
  refine ⟨?_, ?_, ?_, ?_, ?_⟩
  · exact fun id hid => OfUser.attach (h.given id hid) i j host
  · intro k t id i' generation host' hmem
    rw [generation_attach]
    by_cases hi : i' = i
    · subst hi
      rw [if_pos rfl]
      rcases mem_attach.mp hmem with ⟨hold, _⟩ | ⟨_, hnew⟩
      · exact UInt64.le_trans (h.young k t id i' generation host' hold) (UInt64.le_of_lt hlt)
      · obtain ⟨_, hmarker⟩ := Prod.mk.inj hnew
        rw [(Handler.marker.inj hmarker).2.1]
        exact UInt64.le_refl _
    · rw [if_neg hi]
      exact h.young k t id i' generation host' ((h.mem_attach_other ho hi j host).mp hmem)
  · intro i'
    rw [generation_attach]
    split
    · exact hcount
    · exact Nat.le_succ_of_le (h.counted i')
  · intro i' a ha
    rw [attachment_attach] at ha
    rw [generation_attach]
    by_cases hi : i' = i
    · -- nothing of the new generation was there before
      subst hi
      rw [if_pos rfl] at ha
      obtain rfl := Option.some.inj ha
      refine ⟨j, host, Function.update_self .., ?_⟩
      intro k t id host'
      rw [if_pos rfl, mem_attach, or_iff_right (fun hold => h.unborn hlt hold.1)]
      simp
    · rw [if_neg hi] at ha ⊢
      obtain ⟨j', host₀, hlatest, hlive⟩ := h.attached i' a ha
      refine ⟨j', host₀, ?_, ?_⟩
      · rw [Function.update_of_ne hi]
        exact hlatest
      · intro k t id host'
        rw [h.mem_attach_other ho hi]
        exact hlive k t id host'
  · intro i' ha k t id host'
    rw [attachment_attach] at ha
    split at ha
    · cases ha
    · rename_i hi
      rw [generation_attach, if_neg hi, h.mem_attach_other ho hi]
      exact h.detached i' ha k t id host'

theorem Wired.detach (ho : b.Orderly) (h : b.Wired given latest wirings) (i j : Nat)
    (hfew : wirings + 1 < UInt64.size) : (b.detach i j).Wired given latest (wirings + 1) := by
  obtain ⟨hlt, hcount⟩ := lt_next (h.counted i) hfew
  refine ⟨?_, ?_, ?_, ?_, ?_⟩
  · exact fun id hid => OfUser.detach (h.given id hid) i j
  · intro k t id i' generation host hmem
    have hle := h.young k t id i' generation host (mem_detach.mp hmem).1
    rw [generation_detach]
    split
    · rename_i hi
      rw [hi] at hle
      exact UInt64.le_trans hle (UInt64.le_of_lt hlt)
    · exact hle
  · intro i'
    rw [generation_detach]
    split
    · exact hcount
    · exact Nat.le_succ_of_le (h.counted i')
  · intro i' a ha
    rw [attachment_detach] at ha
    split at ha
    · cases ha
    · rename_i hi
      obtain ⟨j', host, hlatest, hlive⟩ := h.attached i' a ha
      refine ⟨j', host, hlatest, ?_⟩
      intro k t id host'
      rw [generation_detach, if_neg hi, h.mem_detach_other ho hi]
      exact hlive k t id host'
  · intro i' ha k t id host hmem
    rw [generation_detach] at hmem
    by_cases hi : i' = i
    · -- the layer moved on to a generation that nothing was registered in
      rw [if_pos hi, hi] at hmem
      exact h.unborn hlt (mem_detach.mp hmem).1
    · rw [attachment_detach, if_neg hi] at ha
      rw [if_neg hi, h.mem_detach_other ho hi] at hmem
      exact h.detached i' ha k t id host hmem

end Switchboard

/-! ## Chronicles -/

/-- A scene and its past. -/
structure Chronicle (α : Type) where
  scene : Scene α
  /-- The subscriptions that the user was given. -/
  given : List SubscriptionId
  /-- The viewport and the host of the last attachment of each layer. -/
  latest : Nat → Option (Nat × String)
  /-- The number of attachments and detachments asked for. -/
  wirings : Nat

/-- The action attaches or detaches a layer. -/
def Scene.Action.wires {α : Type} : Scene.Action α → Bool
  | .attach _ _ _ | .detach _ _ => true
  | _ => false

/-- The subscription whose handler the user removes by the action. -/
def Scene.Action.removed? {α : Type} : Scene.Action α → Option SubscriptionId
  | .call _ (.unsubscribe id) => some id
  | _ => none

namespace Chronicle

variable {α : Type}

/-- Nothing has happened. -/
def start : Chronicle α := { scene := .empty, given := [], latest := fun _ => none, wirings := 0 }

/-- The user removes no handler but its own. -/
def Permits (c : Chronicle α) (action : Scene.Action α) : Prop :=
  ∀ id ∈ action.removed?, id ∈ c.given

instance (c : Chronicle α) (action : Scene.Action α) : Decidable (c.Permits action) :=
  inferInstanceAs (Decidable (∀ id ∈ action.removed?, id ∈ c.given))

/-- The scene is wired the way its past says. -/
def Sound (c : Chronicle α) : Prop :=
  c.scene.Orderly ∧ c.scene.switchboard.Wired c.given c.latest c.wirings

variable [Scalar α]

/-- The history goes on. -/
def step (c : Chronicle α) (action : Scene.Action α) : Chronicle α where
  scene := (c.scene.step action).scene
  given :=
    match (c.scene.step action).reply with
    | .called (.subscribed id) => id :: c.given
    | _ => c.given
  latest :=
    match action, (c.scene.step action).reply with
    | .attach i j host, .wired true => Function.update c.latest i (some (j, host))
    | _, _ => c.latest
  wirings := if action.wires then c.wirings + 1 else c.wirings

/-- The history after a list of actions. -/
def run (c : Chronicle α) (actions : List (Scene.Action α)) : Chronicle α := actions.foldl step c

/-- In none of the actions the user removes a handler of somebody else. -/
def Lawful (c : Chronicle α) : List (Scene.Action α) → Prop
  | [] => True
  | action :: rest => c.Permits action ∧ (c.step action).Lawful rest

instance decidableLawful : (c : Chronicle α) → (actions : List (Scene.Action α)) →
    Decidable (c.Lawful actions)
  | _, [] => isTrue trivial
  | c, action :: rest =>
    have := decidableLawful (c.step action) rest
    inferInstanceAs (Decidable (c.Permits action ∧ (c.step action).Lawful rest))

theorem step_given {c : Chronicle α} {action : Scene.Action α}
    (h : ∀ id, (c.scene.step action).reply ≠ .called (.subscribed id)) :
    (c.step action).given = c.given := by
  unfold step
  dsimp only
  split
  · rename_i id hreply
    exact absurd hreply (h id)
  · rfl

theorem step_latest {c : Chronicle α} {action : Scene.Action α}
    (h : (c.scene.step action).reply ≠ .wired true) : (c.step action).latest = c.latest := by
  simp only [step]
  split
  · rename_i hreply
    exact absurd hreply h
  · rfl

theorem step_latest_attach {c : Chronicle α} {action : Scene.Action α} {i j : Nat} {host : String}
    (asked : action = .attach i j host) (hreply : (c.scene.step action).reply = .wired true) :
    (c.step action).latest = Function.update c.latest i (some (j, host)) := by
  subst asked
  simp only [step, hreply]

theorem step_latest_detach {c : Chronicle α} {action : Scene.Action α} {i j : Nat}
    (asked : action = .detach i j) : (c.step action).latest = c.latest := by
  subst asked
  rfl

theorem step_wirings (c : Chronicle α) (action : Scene.Action α) :
    (c.step action).wirings = c.wirings + if action.wires then 1 else 0 := by
  simp only [step]
  split <;> rfl

/-- What is left of a run has as few attachments and detachments to come. -/
theorem few_rest {c : Chronicle α} {action : Scene.Action α} {rest : List (Scene.Action α)}
    (hfew : c.wirings + (action :: rest).countP Scene.Action.wires < UInt64.size) :
    (c.step action).wirings < UInt64.size ∧
      (c.step action).wirings + rest.countP Scene.Action.wires < UInt64.size := by
  rw [List.countP_cons] at hfew
  rw [step_wirings]
  omega

theorem run_wirings (c : Chronicle α) (actions : List (Scene.Action α)) :
    (c.run actions).wirings = c.wirings + actions.countP Scene.Action.wires := by
  induction actions generalizing c with
  | nil => rfl
  | cons action rest ih =>
      have hrun : c.run (action :: rest) = (c.step action).run rest := rfl
      rw [hrun, ih, step_wirings, List.countP_cons]
      omega

omit [Scalar α] in
/-- What a run from the start attaches and detaches is all that was ever asked for. -/
theorem few_start {actions : List (Scene.Action α)}
    (hfew : actions.countP Scene.Action.wires < UInt64.size) :
    (start : Chronicle α).wirings + actions.countP Scene.Action.wires < UInt64.size := by
  show 0 + _ < _
  rw [Nat.zero_add]
  exact hfew

theorem run_append (c : Chronicle α) (before after : List (Scene.Action α)) :
    c.run (before ++ after) = (c.run before).run after := List.foldl_append

theorem lawful_append {c : Chronicle α} {before after : List (Scene.Action α)} :
    c.Lawful (before ++ after) ↔ c.Lawful before ∧ (c.run before).Lawful after := by
  induction before generalizing c with
  | nil => exact (and_iff_right trivial).symm
  | cons action rest ih =>
      have hrun : c.run (action :: rest) = (c.step action).run rest := rfl
      rw [List.cons_append, Lawful, Lawful, ih, hrun, and_assoc]

omit [Scalar α] in
theorem start_sound : (start : Chronicle α).Sound := by
  refine ⟨Scene.empty_orderly, ?_, ?_, ?_, ?_, ?_⟩
  · intro id hid
    cases hid
  · intro j t id i generation host hmem
    cases hmem
  · exact fun i => Nat.le_refl 0
  · intro i a ha
    cases ha
  · intro i _ k t id host hmem
    cases hmem

/-- An action that the user may ask for keeps the wiring to its past. -/
theorem step_sound {c : Chronicle α} (h : c.Sound) {action : Scene.Action α}
    (permitted : c.Permits action) (hfew : (c.step action).wirings < UInt64.size) :
    (c.step action).Sound := by
  obtain ⟨horderly, hwired⟩ := h
  refine ⟨Scene.step_orderly horderly action, ?_⟩
  have hle : c.wirings ≤ (c.step action).wirings := by
    rw [step_wirings]
    exact Nat.le_add_right _ _
  show (c.scene.step action).scene.switchboard.Wired _ _ _
  cases Scene.step_rewiring horderly action with
  | none unsubscribed unwired board =>
      rw [board, step_given unsubscribed, step_latest unwired]
      exact hwired.mono hle
  | subscribed j topic tag _ reply board =>
      have hgiven : (c.step action).given =
          ⟨j, c.scene.switchboard.nextIndex j⟩ :: c.given := by
        simp only [step, reply]
      rw [board, hgiven, step_latest (by simp [reply])]
      exact (hwired.register horderly.board j topic tag).mono hle
  | removed j id asked unsubscribed unwired board =>
      -- this is the one place where the user has to keep to its own handlers
      rw [board, step_given unsubscribed, step_latest unwired]
      rw [asked] at permitted
      exact (hwired.remove j (permitted id rfl)).mono hle
  | attached i j host asked reply board =>
      have hlatest := step_latest_attach asked reply
      have hone : (c.step action).wirings = c.wirings + 1 := by
        rw [step_wirings, asked]
        rfl
      rw [board, step_given (by simp [reply]), hlatest, hone]
      exact hwired.attach horderly.board i j host (hone ▸ hfew)
  | detached i j a asked _ _ reply board =>
      have hlatest := step_latest_detach (c := c) asked
      have hone : (c.step action).wirings = c.wirings + 1 := by
        rw [step_wirings, asked]
        rfl
      rw [board, step_given (by simp [reply]), hlatest, hone]
      exact hwired.detach horderly.board i j (hone ▸ hfew)

theorem run_sound {c : Chronicle α} (h : c.Sound) {actions : List (Scene.Action α)}
    (lawful : c.Lawful actions)
    (hfew : c.wirings + actions.countP Scene.Action.wires < UInt64.size) :
    (c.run actions).Sound := by
  induction actions generalizing c with
  | nil => exact h
  | cons action rest ih =>
      obtain ⟨permitted, lawful⟩ := lawful
      obtain ⟨hstep, hrest⟩ := few_rest hfew
      exact ih (step_sound h permitted hstep) lawful hrest

/-- Generations only grow. -/
theorem step_generation_le {c : Chronicle α} (h : c.Sound) (action : Scene.Action α)
    (hfew : (c.step action).wirings < UInt64.size) (i : Nat) :
    c.scene.switchboard.generation i ≤ (c.step action).scene.switchboard.generation i := by
  obtain ⟨horderly, hwired⟩ := h
  show _ ≤ (c.scene.step action).scene.switchboard.generation i
  have hnext : ∀ i', action.wires = true →
      c.scene.switchboard.generation i' ≤ c.scene.switchboard.generation i' + 1 := by
    intro i' hwires
    rw [step_wirings, hwires] at hfew
    exact UInt64.le_of_lt (Switchboard.lt_next (hwired.counted i') hfew).1
  cases Scene.step_rewiring horderly action with
  | none _ _ board =>
      rw [board]
      exact UInt64.le_refl _
  | subscribed _ _ _ _ _ board =>
      rw [board]
      exact UInt64.le_refl _
  | removed _ _ _ _ _ board =>
      rw [board]
      exact UInt64.le_refl _
  | attached i' j host asked _ board =>
      rw [board, Switchboard.generation_attach]
      split
      · rename_i hi
        rw [hi]
        exact hnext i' (by rw [asked]; rfl)
      · exact UInt64.le_refl _
  | detached i' j _ asked _ _ _ board =>
      rw [board, Switchboard.generation_detach]
      split
      · rename_i hi
        rw [hi]
        exact hnext i' (by rw [asked]; rfl)
      · exact UInt64.le_refl _

theorem run_generation_le {c : Chronicle α} (h : c.Sound) {actions : List (Scene.Action α)}
    (lawful : c.Lawful actions)
    (hfew : c.wirings + actions.countP Scene.Action.wires < UInt64.size) (i : Nat) :
    c.scene.switchboard.generation i ≤ (c.run actions).scene.switchboard.generation i := by
  induction actions generalizing c with
  | nil => exact UInt64.le_refl _
  | cons action rest ih =>
      obtain ⟨permitted, lawful⟩ := lawful
      obtain ⟨hstep, hrest⟩ := few_rest hfew
      exact UInt64.le_trans (step_generation_le h action hstep i)
        (ih (step_sound h permitted hstep) lawful hrest)

end Chronicle

end PanZoom
