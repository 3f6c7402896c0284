import PanZoom.Plane

/-!
# Drag gestures

A drag remembers where it started: the offset of the view and the position of the pointer at that
moment. Displacements are measured from the start and never from the move before, so moves that
go missing and rounding do not add up over a gesture.
-/

namespace PanZoom

/-- What is remembered when a drag starts. -/
structure DragAnchor (α : Type) where
  offset : Vec2 α
  position : Point α
  deriving DecidableEq

/-- How far a position is from where the drag started. -/
def DragAnchor.displacement {α : Type} [Scalar α] (a : DragAnchor α) (position : Point α) :
    Vec2 α :=
  position - a.position

/-- A drag gesture: its anchor while it lasts. -/
structure Drag (α : Type) where
  anchor? : Option (DragAnchor α)
  deriving DecidableEq

namespace Drag

variable {α : Type}

def idle : Drag α := ⟨none⟩

/-- A gesture that starts here; one that is still active is given up. -/
def start (_ : Drag α) (offset : Vec2 α) (position : Point α) : Drag α :=
  ⟨some { offset, position }⟩

def isActive (d : Drag α) : Bool := d.anchor?.isSome

/-- The displacement of a position from the start of the gesture, if one is active. -/
def displacement? [Scalar α] (d : Drag α) (position : Point α) : Option (Vec2 α) :=
  d.anchor?.map fun anchor => anchor.displacement position

/-- The drag after the gesture has ended, and whether one was active. -/
def finish (d : Drag α) : Drag α × Bool := (idle, d.isActive)

end Drag

end PanZoom
