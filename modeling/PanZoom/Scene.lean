import PanZoom.Grid.Layer
import PanZoom.View.Calls

/-!
# Scenes

Viewports and the grid layers that follow them. A scene carries out one action at a time: it calls
a viewport, attaches, restyles or paints a layer, and delivers the notices that follow from it.
Viewports and layers are known by the number of those made before them, and stay for good.

Delivering a notice to a handler of the user tells the user. Delivering one to the handler of a
layer marks the layer, and asks its host for a repaint if the layer was up to date.
-/

namespace PanZoom

/-- Viewports and grid layers, each in the order in which they were made. -/
structure Scene (α : Type) where
  viewports : List (Viewport α Handler)
  layers : List (Grid.Layer α)

namespace Scene

/-- Something that the world outside notices. -/
inductive Firing (α : Type) where
  | told (tag : Nat) (change : Change α)
  | repaint (host : String)
  deriving DecidableEq

/-- What can be asked of a scene. Handlers that are registered by a call are the user's. -/
inductive Action (α : Type) where
  | addViewport (settings : ZoomSettings α)
  | addLayer (style : Grid.Style α)
  | call (viewport : Nat) (call : Viewport.Call α Nat)
  | attach (layer viewport : Nat) (host : String)
  | detach (layer viewport : Nat)
  | setStyle (layer : Nat) (style : Grid.Style α)
  /-- Paints a layer for the present view of a viewport, on a surface of a given size. -/
  | paint (layer viewport : Nat) (size : Size α)

inductive Reply (α : Type) where
  /-- A viewport or layer was made and has this number. -/
  | added (number : Nat)
  | called (reply : Viewport.Reply α)
  /-- To attaching and detaching: whether it was done. -/
  | wired (done : Bool)
  | restyled
  | painted (ops : List (SurfaceOp α))
  /-- There is no viewport or layer of a number that was named. -/
  | absent

structure Result (α : Type) where
  scene : Scene α
  reply : Reply α
  /-- What the world outside notices, in order. -/
  firings : List (Firing α)
  journal : List (Journal.Entry α)

variable {α : Type}

def empty : Scene α := { viewports := [], layers := [] }

def setViewport (s : Scene α) (i : Nat) (v : Viewport α Handler) : Scene α :=
  { s with viewports := s.viewports.set i v }

def setLayer (s : Scene α) (i : Nat) (l : Grid.Layer α) : Scene α :=
  { s with layers := s.layers.set i l }

/-- An answer only: nothing changes and nothing is noticed. -/
def silent (s : Scene α) (reply : Reply α) : Result α :=
  { scene := s, reply, firings := [], journal := [] }

variable [Scalar α]

/-! ## Notices -/

/-- Delivers a notice to its handler. -/
def deliver (s : Scene α) (n : Notice α Handler) : Scene α × List (Firing α) :=
  match n.handler with
  | .user tag => (s, [.told tag n.change])
  | .marker i generation host =>
    match s.layers[i]? with
    | none => (s, [])
    | some l =>
      let (l, asks) := l.mark generation
      (s.setLayer i l, if asks then [.repaint host] else [])

def deliverAll (s : Scene α) : List (Notice α Handler) → Scene α × List (Firing α)
  | [] => (s, [])
  | n :: rest =>
    let (s, first) := s.deliver n
    let (s, others) := s.deliverAll rest
    (s, first ++ others)

/-! ## Actions -/

/-- A call with the handler that it registers made a handler of the user. -/
def userCall : Viewport.Call α Nat → Viewport.Call α Handler
  | .subscribe topic tag => .subscribe topic (.user tag)
  | .scroll delta => .scroll delta
  | .setDistance distance => .setDistance distance
  | .beginPan position => .beginPan position
  | .updatePan position => .updatePan position
  | .endPan => .endPan
  | .reset => .reset
  | .unsubscribe id => .unsubscribe id
  | .event gestures event => .event gestures event

/-- Carries out an action on a layer and a viewport, if both exist. -/
def withBoth (s : Scene α) (layer viewport : Nat)
    (body : Grid.Layer α → Viewport α Handler → Result α) : Result α :=
  match s.layers[layer]?, s.viewports[viewport]? with
  | some l, some v => body l v
  | _, _ => s.silent .absent

/-- The scene after a layer was attached or detached. -/
def rewire (s : Scene α) (layer viewport : Nat) (w : Grid.Wiring α) : Result α :=
  { scene := (s.setLayer layer w.layer).setViewport viewport w.viewport
    reply := .wired w.done
    firings := []
    journal := w.journal }

def step (s : Scene α) : Action α → Result α
  | .addViewport settings =>
    let number := s.viewports.length
    { s with viewports := s.viewports ++ [Viewport.create number settings] }.silent (.added number)
  | .addLayer style =>
    let number := s.layers.length
    { s with layers := s.layers ++ [Grid.Layer.new style] }.silent (.added number)
  | .call i call =>
    match s.viewports[i]? with
    | none => s.silent .absent
    | some v =>
      let o := v.perform (userCall call)
      -- handlers find the viewport as the call leaves it
      let (scene, firings) := (s.setViewport i o.viewport).deliverAll o.notices
      { scene, reply := .called o.result, firings, journal := o.records.map .viewport }
  | .attach layer viewport host =>
    s.withBoth layer viewport fun l v => s.rewire layer viewport (l.attach layer v host)
  | .detach layer viewport =>
    s.withBoth layer viewport fun l v => s.rewire layer viewport (l.detach v)
  | .setStyle layer style =>
    match s.layers[layer]? with
    | none => s.silent .absent
    | some l => (s.setLayer layer (l.setStyle style)).silent .restyled
  | .paint layer viewport size =>
    s.withBoth layer viewport fun l v =>
      let painting := l.paint v.view size
      { scene := s.setLayer layer painting.layer
        reply := .painted painting.ops
        firings := []
        journal := painting.records.map .grid }

def run (s : Scene α) (actions : List (Action α)) : Scene α :=
  actions.foldl (fun s action => (s.step action).scene) s

end Scene

end PanZoom
