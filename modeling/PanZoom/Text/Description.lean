import PanZoom.Grid.Layer
import PanZoom.Text.Number

/-!
# Descriptions

The structure of values in text: a name with named parts in braces, elements in brackets,
arguments in parentheses.
-/

namespace PanZoom

namespace Text

/-! ## Shapes -/

def commas (parts : List String) : String := ", ".intercalate parts

def part (name value : String) : String := name ++ ": " ++ value

/-- A structure: its name, and its parts in braces. -/
def structured (name : String) (parts : List String) : String :=
  name ++ " \x7b " ++ commas parts ++ " \x7d"

def elements (values : List String) : String := "[" ++ commas values ++ "]"

def applied (name argument : String) : String := name ++ "(" ++ argument ++ ")"

def optional : Option String → String
  | none => "None"
  | some value => applied "Some" value

def truth (b : Bool) : String := if b then "true" else "false"

/-! ## Values -/

def point (p : Point Binary64) : String :=
  "(" ++ commas [p.x.detailed, p.y.detailed] ++ ")"

def vec (v : Vec2 Binary64) : String :=
  structured "Vec2" [part "x" v.x.detailed, part "y" v.y.detailed]

/-- A subscription, by the viewport that issued it and its place there. -/
def subscription (id : SubscriptionId) : String :=
  structured "SubscriptionId"
    [part "transform" (toString id.viewport), part "index" (toString id.index)]

/-- A button, as the end of a gesture shows it. -/
def button : Button → String
  | .primary => "Primary"
  | .secondary => "Secondary"
  | .middle => "Middle"
  | .back => "Back"
  | .forward => "Forward"

/-- A button, as a member of a set. -/
def memberButton : Button → String
  | .primary => "PRIMARY"
  | .secondary => "SECONDARY"
  | .middle => "MIDDLE"
  | .back => "BACK"
  | .forward => "FORWARD"

def buttonSet (s : ButtonSet) : String :=
  applied "PointerButtons"
    (if s.isEmpty then "0x0" else " | ".intercalate (s.toList.map memberButton))

def event : PointerEvent Binary64 → String
  | .wheel delta => structured "Wheel" [part "delta_y" delta.detailed]
  | .down b p => structured "PointerDown" [part "button" (button b), part "position" (point p)]
  | .up b p => structured "PointerUp" [part "button" (button b), part "position" (point p)]
  | .move held p =>
    structured "PointerMove" [part "buttons" (buttonSet held), part "position" (point p)]

def tierKind : Grid.TierKind Binary64 → String
  | .lines frequency => structured "Lines" [part "frequency" frequency.detailed]
  | .axis => "Axis"

/-- A tier, without its color. -/
def tier (t : Grid.Tier Binary64) : String :=
  structured "GridTier" [part "kind" (tierKind t.kind), part "min_scale" t.minScale.detailed]

def axis : Axis → String
  | .x => "X"
  | .y => "Y"

/-! ## Viewports and layers -/

def settings (s : ZoomSettings Binary64) : String :=
  structured "ViewportConfig"
    [part "scale_factor" s.scaleFactor.detailed, part "zoom_sensitivity" s.sensitivity.detailed,
      part "min_distance" s.minDistance.detailed]

def anchor (a : DragAnchor Binary64) : String :=
  structured "DragAnchor"
    [part "start_translation" (vec a.offset), part "start_position" (point a.position)]

def drag (d : Drag Binary64) : String :=
  structured "DragState" [part "anchor" (optional (d.anchor?.map anchor))]

def view (v : View Binary64) : String :=
  structured "ViewportState"
    [part "distance" v.distance.detailed, part "scale" v.scale.detailed,
      part "translation" (vec v.offset), part "drag" (drag v.drag)]

def observers {η : Type} (o : Observers η) : String := elements (o.ids.map subscription)

def viewport {η : Type} (v : Viewport Binary64 η) : String :=
  structured "ViewportTransform"
    [part "config" (settings v.settings), part "state" (view v.view),
      part "scale_changed" (observers v.onScale),
      part "translation_changed" (observers v.onOffset),
      part "id" (toString v.id), part "next_subscription" (toString v.nextIndex)]

def style (s : Grid.Style Binary64) : String :=
  structured "GridStyle"
    [part "tiers" (elements (s.tiers.map tier)), part "line_width" s.lineWidth.detailed]

/-- A grid layer; parts that are of no interest outside are left out at the end. -/
def layer (l : Grid.Layer Binary64) : String :=
  structured "GridRenderer"
    [part "style" (style l.style), part "needs_repaint" (truth l.needsRepaint),
      part "attached" (truth l.isAttached), ".."]

end Text

end PanZoom
