import PanZoom.Plane

/-!
# Pointer input

The buttons of a pointing device, sets of them, and the events that a host reports: the wheel
turned, a button pressed or released, the pointer moved. Positions are in canvas pixels.
-/

namespace PanZoom

inductive Button where
  | primary
  | secondary
  | middle
  | back
  | forward
  deriving DecidableEq, Repr

namespace Button

def all : List Button := [primary, secondary, middle, back, forward]

/-- The bit of a set that stands for the button. -/
def mask : Button → UInt8
  | primary => 1
  | secondary => 2
  | middle => 4
  | back => 8
  | forward => 16

end Button

/-- A set of buttons, one bit for each. -/
structure ButtonSet where
  /-- The masks of the members, added up. -/
  bits : UInt8
  deriving DecidableEq, Repr

namespace ButtonSet

def empty : ButtonSet := ⟨0⟩

def full : ButtonSet := ⟨31⟩

def contains (s : ButtonSet) (b : Button) : Bool := s.bits &&& b.mask == b.mask

def insert (s : ButtonSet) (b : Button) : ButtonSet := ⟨s.bits ||| b.mask⟩

def erase (s : ButtonSet) (b : Button) : ButtonSet := ⟨s.bits &&& (full.bits ^^^ b.mask)⟩

def ofList (bs : List Button) : ButtonSet := bs.foldl insert empty

def toList (s : ButtonSet) : List Button := Button.all.filter s.contains

def isEmpty (s : ButtonSet) : Bool := s.bits == 0

def isFull (s : ButtonSet) : Bool := s.bits &&& full.bits == full.bits

end ButtonSet

/-- What a host reports to a viewport. -/
inductive PointerEvent (α : Type) where
  /-- The wheel was turned; a positive delta is away from the user. -/
  | wheel (delta : α)
  | down (button : Button) (position : Point α)
  | up (button : Button) (position : Point α)
  /-- The pointer moved while the buttons of `held` were down. -/
  | move (held : ButtonSet) (position : Point α)
  deriving DecidableEq

/-- Where the event happened. Turning the wheel has no place. -/
def PointerEvent.position? {α : Type} : PointerEvent α → Option (Point α)
  | .wheel _ => none
  | .down _ p | .up _ p | .move _ p => some p

end PanZoom
