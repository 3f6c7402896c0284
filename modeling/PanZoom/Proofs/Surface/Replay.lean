import Mathlib.Data.List.DropRight
import PanZoom.Scalar.Exact
import PanZoom.Surface.Recording

/-!
# Recordings replay

What a recording holds can be told from the operations alone. `DrawContext` says what operations
mean, without a surface: they set the paint and the stroke of later draws and keep the stack of
clips. The events and the strokes that belong to a list of operations follow from the context that
they start in, and a recording holds just these, for the operations since it was last cleared
(`recording_replays`).

The stack of clips is no part of a snapshot, so the context a recording goes on from after it was
cleared is more than its last snapshot shows.
-/

namespace PanZoom

variable {α : Type}

/-- What draws on a surface are meant with. -/
structure DrawContext (α : Type) where
  paint? : Option Brush
  stroke? : Option (StrokeStyle α)
  /-- The clips, the earliest first. -/
  clips : List (Rect α)

namespace DrawContext

/-- Nothing is set, and there is no clip. -/
def initial : DrawContext α := { paint? := none, stroke? := none, clips := [] }

/-- The context after an operation; a draw leaves it as it is. -/
def after (c : DrawContext α) : SurfaceOp α → DrawContext α
  | .state (.setPaint brush) => { c with paint? := some brush }
  | .state (.setStroke style) => { c with stroke? := some style }
  | .state (.pushClip rect) => { c with clips := c.clips ++ [rect] }
  | .state .popClip => { c with clips := c.clips.dropLast }
  | .draw _ => c

def afterAll (c : DrawContext α) (ops : List (SurfaceOp α)) : DrawContext α := ops.foldl after c

theorem afterAll_concat (c : DrawContext α) (ops : List (SurfaceOp α)) (op : SurfaceOp α) :
    c.afterAll (ops ++ [op]) = (c.afterAll ops).after op :=
  List.foldl_concat ..

variable [Scalar α]

/-- What can be seen of a context: of the clips only their number and their common part. -/
def snapshot (c : DrawContext α) : Snapshot α where
  paint? := c.paint?
  stroke? := c.stroke?
  clipDepth := min c.clips.length (UInt32.size - 1)
  clip? := Snapshot.clipOf c.clips

/-- A path stroked in a context. -/
def stroke (c : DrawContext α) (path : Path α) : RecordedStroke α where
  path := path
  paint? := c.paint?
  style? := c.stroke?
  clip? := Snapshot.clipOf c.clips

/-- Operations that start in a context, each with what can be seen after it. -/
def events (c : DrawContext α) : List (SurfaceOp α) → List (SurfaceEvent α)
  | [] => []
  | op :: rest => { op, state := (c.after op).snapshot } :: (c.after op).events rest

/-- The strokes among operations that start in a context. -/
def strokes (c : DrawContext α) : List (SurfaceOp α) → List (RecordedStroke α)
  | [] => []
  | .draw (.strokePath path) :: rest => c.stroke path :: c.strokes rest
  | op :: rest => (c.after op).strokes rest

theorem events_concat (c : DrawContext α) (ops : List (SurfaceOp α)) (op : SurfaceOp α) :
    c.events (ops ++ [op]) =
      c.events ops ++ [{ op, state := ((c.afterAll ops).after op).snapshot }] := by
  induction ops generalizing c with
  | nil => rfl
  | cons first rest ih =>
      rw [List.cons_append, events, ih, events, List.cons_append]
      rfl

theorem events_getElem? (c : DrawContext α) (ops : List (SurfaceOp α)) (i : Nat) :
    (c.events ops)[i]? =
      ops[i]?.map fun op => { op, state := (c.afterAll (ops.take (i + 1))).snapshot } := by
  induction ops generalizing c i with
  | nil => rfl
  | cons first rest ih =>
      cases i with
      | zero => rfl
      | succ i => exact ih (c.after first) i

theorem events_length (c : DrawContext α) (ops : List (SurfaceOp α)) :
    (c.events ops).length = ops.length := by
  induction ops generalizing c with
  | nil => rfl
  | cons first rest ih => exact congrArg Nat.succ (ih (c.after first))

end DrawContext

namespace SurfaceEvent

/-- The stroke that an event draws, if it draws one. -/
def stroke? (e : SurfaceEvent α) : Option (RecordedStroke α) :=
  match e.op with
  | .draw (.strokePath path) =>
    some { path, paint? := e.state.paint?, style? := e.state.stroke?, clip? := e.state.clip? }
  | _ => none

/-- Drawing changes no context, so what can be seen after a stroke is what it was drawn with. -/
theorem filterMap_stroke_events [Scalar α] (c : DrawContext α) (ops : List (SurfaceOp α)) :
    (c.events ops).filterMap stroke? = c.strokes ops := by
  induction ops generalizing c with
  | nil => rfl
  | cons op rest ih =>
      cases op with
      | state op => exact ih (c.after (.state op))
      | draw op =>
          cases op with
          | clear rect => exact ih c
          | strokePath path => exact congrArg (c.stroke path :: ·) (ih c)

end SurfaceEvent

namespace Recording

/-- What can be asked of a recording. -/
inductive Call (α : Type) where
  | state (op : StateOp α)
  | draw (op : DrawOp α)
  | pushClip (rect : Rect α)
  | popClip
  | setSize (size : Size α)
  | clearEvents

namespace Call

/-- The operation that is asked for. Changing the size and clearing are none. -/
def op? : Call α → Option (SurfaceOp α)
  | state op => some (.state op)
  | draw op => some (.draw op)
  | pushClip rect => some (.state (.pushClip rect))
  | popClip => some (.state .popClip)
  | setSize _ | clearEvents => none

def clears : Call α → Bool
  | clearEvents => true
  | _ => false

/-- The calls up to the last one that clears, or none if nothing was cleared. -/
def upToClear (calls : List (Call α)) : List (Call α) := calls.rdropWhile fun call => !call.clears

/-- The calls after the last one that clears, or all if nothing was cleared. -/
def sinceClear (calls : List (Call α)) : List (Call α) := calls.rtakeWhile fun call => !call.clears

end Call

/-- What the next draw is meant with. -/
def context (r : Recording α) : DrawContext α where
  paint? := r.state.paint?
  stroke? := r.state.stroke?
  clips := r.clips

variable [Scalar α]

def perform (r : Recording α) : Call α → Recording α
  | .state op => r.apply (.state op)
  | .draw op => r.apply (.draw op)
  | .pushClip rect => r.apply (.state (.pushClip rect))
  | .popClip => r.apply (.state .popClip)
  | .setSize size => r.setSize size
  | .clearEvents => r.clearEvents

def run (r : Recording α) (calls : List (Call α)) : Recording α := calls.foldl perform r

theorem run_concat (r : Recording α) (calls : List (Call α)) (call : Call α) :
    r.run (calls ++ [call]) = (r.run calls).perform call :=
  List.foldl_concat ..

/-- A call that clears nothing either applies an operation or changes the size. -/
theorem perform_cases (r : Recording α) {call : Call α} (h : call.clears = false) :
    (∃ op, call.op? = some op ∧ r.perform call = r.apply op) ∨
      (∃ size, call.op? = none ∧ r.perform call = r.setSize size) := by
  cases call with
  | state op => exact .inl ⟨.state op, rfl, rfl⟩
  | draw op => exact .inl ⟨.draw op, rfl, rfl⟩
  | pushClip rect => exact .inl ⟨.state (.pushClip rect), rfl, rfl⟩
  | popClip => exact .inl ⟨.state .popClip, rfl, rfl⟩
  | setSize size => exact .inr ⟨size, rfl, rfl⟩
  | clearEvents => cases h

/-! ## The logs of a recording -/

/-- A recording holds what belongs to some operations that start in a context. -/
structure Logged (r : Recording α) (base : DrawContext α) (ops : List (SurfaceOp α)) : Prop where
  log : r.ops.toList = ops
  events : r.events.toList = base.events ops
  context : r.context = base.afterAll ops
  /-- The snapshot that is kept shows the context. -/
  state : r.state = r.context.snapshot

theorem new_logged (size : Size α) : (new size).Logged DrawContext.initial [] :=
  ⟨rfl, rfl, rfl, rfl⟩

theorem applyAll_size (r : Recording α) (ops : List (SurfaceOp α)) :
    (r.applyAll ops).size = r.size := by
  induction ops generalizing r with
  | nil => rfl
  | cons op rest ih =>
      have hsize : (r.apply op).size = r.size := by
        cases op with
        | draw op => rfl
        | state op => cases op <;> rfl
      exact (ih (r.apply op)).trans hsize

/-- An operation changes the context as it should, and the snapshot follows. -/
theorem apply_context {r : Recording α} (h : r.state = r.context.snapshot) (op : SurfaceOp α) :
    (r.apply op).context = r.context.after op ∧
      (r.apply op).state = (r.context.after op).snapshot := by
  cases op with
  | draw op => exact ⟨rfl, h⟩
  | state op =>
      cases op with
      | setPaint brush =>
          refine ⟨rfl, ?_⟩
          show { r.state with paint? := some brush } = _
          rw [h]
          rfl
      | setStroke style =>
          refine ⟨rfl, ?_⟩
          show { r.state with stroke? := some style } = _
          rw [h]
          rfl
      -- these two compute the number and the common part of the clips anew
      | pushClip rect => exact ⟨rfl, rfl⟩
      | popClip => exact ⟨rfl, rfl⟩

/-- Whatever the operation, it is recorded with the snapshot that it leads to. -/
theorem apply_logs (r : Recording α) (op : SurfaceOp α) :
    (r.apply op).ops = r.ops.push op ∧
      (r.apply op).events = r.events.push { op, state := (r.apply op).state } := by
  cases op with
  | draw op => exact ⟨rfl, rfl⟩
  | state op => cases op <;> exact ⟨rfl, rfl⟩

theorem Logged.apply {r : Recording α} {base : DrawContext α} {ops : List (SurfaceOp α)}
    (h : r.Logged base ops) (op : SurfaceOp α) : (r.apply op).Logged base (ops ++ [op]) := by
  obtain ⟨hcontext, hstate⟩ := apply_context h.state op
  obtain ⟨hops, hevents⟩ := apply_logs r op
  constructor
  · rw [hops, Array.toList_push, h.log]
  · rw [hevents, Array.toList_push, h.events, DrawContext.events_concat, hstate, h.context]
  · rw [hcontext, h.context, DrawContext.afterAll_concat]
  · rw [hstate, hcontext]

theorem Logged.applyAll {r : Recording α} {base : DrawContext α} {ops : List (SurfaceOp α)}
    (h : r.Logged base ops) (more : List (SurfaceOp α)) :
    (r.applyAll more).Logged base (ops ++ more) := by
  induction more generalizing r ops with
  | nil => rwa [List.append_nil]
  | cons op rest ih =>
      rw [List.append_cons]
      exact ih (h.apply op)

theorem Logged.setSize {r : Recording α} {base : DrawContext α} {ops : List (SurfaceOp α)}
    (h : r.Logged base ops) (size : Size α) : (r.setSize size).Logged base ops :=
  ⟨h.log, h.events, h.context, h.state⟩

/-- After clearing, the context that the recording has come to is the one that counts. -/
theorem Logged.clearEvents {r : Recording α} {base : DrawContext α} {ops : List (SurfaceOp α)}
    (h : r.Logged base ops) : r.clearEvents.Logged r.clearEvents.context [] :=
  ⟨rfl, rfl, rfl, h.state⟩

/-- A recording holds what belongs to the operations since it was last cleared. -/
theorem run_logged (size : Size α) (calls : List (Call α)) :
    ((new size).run calls).Logged ((new size).run (Call.upToClear calls)).context
      ((Call.sinceClear calls).filterMap Call.op?) := by
  unfold Call.upToClear Call.sinceClear
  induction calls using List.reverseRecOn with
  | nil => exact new_logged size
  | append_singleton calls call ih =>
      cases hclears : call.clears with
      | false =>
          rw [List.rdropWhile_concat_pos _ _ _ (by simp [hclears]),
            List.rtakeWhile_concat_pos _ _ _ (by simp [hclears]), List.filterMap_append, run_concat]
          rcases perform_cases ((new size).run calls) hclears with
            ⟨op, hop, happly⟩ | ⟨size', hop, hset⟩
          · rw [happly, List.filterMap_cons_some hop]
            exact ih.apply op
          · rw [hset, List.filterMap_cons_none hop, List.filterMap_nil, List.append_nil]
            exact ih.setSize size'
      | true =>
          rw [List.rdropWhile_concat_neg _ _ _ (by simp [hclears]),
            List.rtakeWhile_concat_neg _ _ _ (by simp [hclears]), run_concat]
          cases call with
          | clearEvents => exact ih.clearEvents
          | _ => cases hclears

/-- Two recordings of the same operations in the same context differ in their size at most. -/
theorem Logged.unique {r r' : Recording α} {base : DrawContext α} {ops : List (SurfaceOp α)}
    (h : r.Logged base ops) (h' : r'.Logged base ops) (hsize : r.size = r'.size) : r = r' := by
  have hops : r.ops = r'.ops := Array.toList_inj.mp (h.log.trans h'.log.symm)
  have hevents : r.events = r'.events := Array.toList_inj.mp (h.events.trans h'.events.symm)
  have hcontext : r.context = r'.context := h.context.trans h'.context.symm
  have hstate : r.state = r'.state := by rw [h.state, h'.state, hcontext]
  have hclips : r.clips = r'.clips := congrArg DrawContext.clips hcontext
  cases r
  cases r'
  simp only at hops hevents hstate hclips hsize
  subst hops hevents hstate hclips hsize
  rfl

/-! ## Replaying -/

/-- The logs of a recording agree with each other, and with what its operations lead to from a
context. -/
structure Replays (r : Recording α) (base : DrawContext α) : Prop where
  length : r.events.size = r.ops.size
  sameOps : ∀ i : Nat, r.events[i]?.map SurfaceEvent.op = r.ops[i]?
  /-- The snapshot of an event is that of the context after all operations up to it. -/
  snapshots : ∀ (i : Nat) e, r.events[i]? = some e →
    e.state = (base.afterAll (r.ops.toList.take (i + 1))).snapshot
  state : r.state = (base.afterAll r.ops.toList).snapshot
  context : r.context = base.afterAll r.ops.toList
  strokes : r.strokes = base.strokes r.ops.toList

theorem Logged.replays {r : Recording α} {base : DrawContext α} {ops : List (SurfaceOp α)}
    (h : r.Logged base ops) : r.Replays base := by
  obtain rfl := h.log
  have hevent : ∀ i : Nat, r.events[i]? =
      r.ops[i]?.map fun op => { op, state := (base.afterAll (r.ops.toList.take (i + 1))).snapshot } := by
    intro i
    rw [← Array.getElem?_toList, h.events, DrawContext.events_getElem?, Array.getElem?_toList]
  constructor
  · rw [← Array.length_toList, h.events, DrawContext.events_length, Array.length_toList]
  · intro i
    rw [hevent]
    cases r.ops[i]? <;> rfl
  · intro i e he
    rw [hevent] at he
    obtain ⟨op, _, rfl⟩ := Option.map_eq_some_iff.mp he
    rfl
  · rw [h.state, h.context]
  · exact h.context
  · rw [← SurfaceEvent.filterMap_stroke_events, ← h.events]
    rfl

/-- **Recordings replay.** After any calls, a recording holds the operations since it was last
cleared, and its logs are what these lead to from the context it had then. If it was never cleared
that context is the initial one, and a new surface that is given the operations comes to hold the
same recording. -/
theorem recording_replays (size : Size α) (calls : List (Call α)) :
    let r := (new size).run calls
    let base := ((new size).run (Call.upToClear calls)).context
    r.ops.toList = (Call.sinceClear calls).filterMap Call.op? ∧ r.Replays base ∧
      ((∀ call ∈ calls, call.clears = false) → base = DrawContext.initial ∧
        ∀ size', (new size').applyAll r.ops.toList = r.setSize size') := by
  intro r base
  have hlogged : r.Logged base ((Call.sinceClear calls).filterMap Call.op?) :=
    run_logged size calls
  refine ⟨hlogged.log, hlogged.replays, ?_⟩
  intro huncleared
  have hnone : Call.upToClear calls = [] := by
    refine List.rdropWhile_eq_nil_iff.mpr ?_
    intro call hcall
    rw [huncleared call hcall]
    rfl
  have hbase : base = DrawContext.initial := by
    show ((new size).run (Call.upToClear calls)).context = _
    rw [hnone]
    rfl
  refine ⟨hbase, ?_⟩
  intro size'
  rw [hbase, ← hlogged.log] at hlogged
  exact ((new_logged size').applyAll r.ops.toList).unique (hlogged.setSize size')
    (applyAll_size _ _)

/-- A clip too many is popped, a stroke is drawn in two clips, and the canvas is resized amid it. -/
theorem replays_amid_clips :
    let square (n : Nat) : Rect Rat := (Size.mk (Scalar.ofNat n) (Scalar.ofNat n)).toRect
    let size : Size Rat := ⟨Scalar.ofNat 9, Scalar.ofNat 9⟩
    let calls : List (Call Rat) :=
      [.popClip, .pushClip (square 9), .state (.setPaint .gradient), .pushClip (square 5),
        .setSize ⟨Scalar.ofNat 2, Scalar.ofNat 2⟩, .draw (.strokePath []), .popClip,
        .draw (.strokePath [.close])]
    let r := (new size).run calls
    (∀ call ∈ calls, call.clears = false) ∧ (new size).applyAll r.ops.toList = r.setSize size ∧
      r.strokes = [⟨[], some .gradient, none, some (square 5)⟩,
        ⟨[.close], some .gradient, none, some (square 9)⟩] := by
  intro square size calls r
  have huncleared : ∀ call ∈ calls, call.clears = false := by decide
  refine ⟨huncleared, ?_, by decide +kernel⟩
  exact ((recording_replays size calls).2.2 huncleared).2 size

end Recording

end PanZoom
