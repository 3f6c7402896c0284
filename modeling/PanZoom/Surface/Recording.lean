import PanZoom.Surface.Op

/-!
# Recordings

A drawing surface that makes no pixels but keeps what it is asked for: every operation, and with
it the state of the surface at that moment. For a state operation that is the state it leads to,
for a draw operation the state it draws with.
-/

namespace PanZoom

structure Snapshot (α : Type) where
  paint? : Option Brush
  stroke? : Option (StrokeStyle α)
  /-- The number of clips; it stops at the greatest 32-bit number. -/
  clipDepth : Nat
  /-- The common part of all clips. Without clips everything is drawn. -/
  clip? : Option (Rect α)
  deriving DecidableEq

/-- An operation with the state of the surface after it. -/
structure SurfaceEvent (α : Type) where
  op : SurfaceOp α
  state : Snapshot α
  deriving DecidableEq

/-- A stroke as it would have been drawn. -/
structure RecordedStroke (α : Type) where
  path : Path α
  paint? : Option Brush
  style? : Option (StrokeStyle α)
  clip? : Option (Rect α)
  deriving DecidableEq

/-- A surface that keeps what it is asked for. -/
structure Recording (α : Type) where
  size : Size α
  events : Array (SurfaceEvent α)
  ops : Array (SurfaceOp α)
  state : Snapshot α
  /-- The clips, the earliest first. -/
  clips : List (Rect α)

namespace Snapshot

variable {α : Type}

def initial : Snapshot α := { paint? := none, stroke? := none, clipDepth := 0, clip? := none }

def clipOf [Scalar α] : List (Rect α) → Option (Rect α)
  | [] => none
  | r :: rs => some (rs.foldl Rect.intersect r)

def withClips [Scalar α] (s : Snapshot α) (clips : List (Rect α)) : Snapshot α :=
  { s with clipDepth := min clips.length (UInt32.size - 1), clip? := clipOf clips }

end Snapshot

namespace RecordedStroke

variable {α : Type}

/-- The color of the paint, if it has one color only. -/
def color? (s : RecordedStroke α) : Option Color :=
  match s.paint? with
  | some (.solid color) => some color
  | _ => none

end RecordedStroke

namespace Recording

variable {α : Type}

/-- A surface of a given size on which nothing has been drawn. -/
def new (size : Size α) : Recording α :=
  { size, events := #[], ops := #[], state := Snapshot.initial, clips := [] }

def setSize (r : Recording α) (size : Size α) : Recording α := { r with size }

/-- Forgets what was recorded and keeps the state. -/
def clearEvents (r : Recording α) : Recording α := { r with events := #[], ops := #[] }

/-- Records an operation with the current state. -/
def push (r : Recording α) (op : SurfaceOp α) : Recording α :=
  { r with ops := r.ops.push op, events := r.events.push { op, state := r.state } }

variable [Scalar α]

def setClips (r : Recording α) (clips : List (Rect α)) : Recording α :=
  { r with clips, state := r.state.withClips clips }

/-- The surface after a state operation, before anything is recorded. -/
def update (r : Recording α) : StateOp α → Recording α
  | .setPaint brush => { r with state := { r.state with paint? := some brush } }
  | .setStroke style => { r with state := { r.state with stroke? := some style } }
  | .pushClip rect => r.setClips (r.clips ++ [rect])
  | .popClip => r.setClips r.clips.dropLast

/-- Carries out an operation and records it. -/
def apply (r : Recording α) : SurfaceOp α → Recording α
  | .state op => (r.update op).push (.state op)
  | .draw op => r.push (.draw op)

def applyAll (r : Recording α) (ops : List (SurfaceOp α)) : Recording α := ops.foldl apply r

/-- Strokes a path in one color with a given stroke. -/
def strokePath (r : Recording α) (path : Path α) (style : StrokeStyle α) (color : Color) :
    Recording α :=
  r.applyAll (SurfaceOp.strokePath path style color)

/-- Runs `body` inside a clip, which is taken away again afterwards. -/
def withClip {β : Type} (r : Recording α) (rect : Rect α)
    (body : Recording α → Recording α × β) : Recording α × β :=
  let (inside, result) := body (r.apply (.state (.pushClip rect)))
  (inside.apply (.state .popClip), result)

def strokes (r : Recording α) : List (RecordedStroke α) :=
  r.events.toList.filterMap fun e =>
    match e.op with
    | .draw (.strokePath path) =>
      some { path, paint? := e.state.paint?, style? := e.state.stroke?, clip? := e.state.clip? }
    | _ => none

end Recording

end PanZoom
