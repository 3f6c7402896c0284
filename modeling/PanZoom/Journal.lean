import PanZoom.Grid.Record
import PanZoom.View.Record

/-!
# Journals

What viewports and grid layers put on record, in the order in which it happened.
-/

namespace PanZoom

namespace Journal

inductive Level where
  /-- Normal operation. -/
  | trace
  /-- Input that was refused or had to be made sense of. -/
  | debug
  /-- A likely mistake of the host. -/
  | warn
  deriving DecidableEq, Repr

inductive Entry (α : Type) where
  | viewport (record : ViewportRecord α)
  | grid (record : Grid.Record α)

/-- Accepted changes are routine; whatever else a viewport records is worth a look. -/
def viewportLevel {α : Type} : ViewportRecord α → Level
  | .zoomed _ _ | .panStarted _ | .panned _ | .panEnded _ | .viewReset => .trace
  | .scrollRejected _ | .distanceRejected _ | .distanceOverflow _ _ | .panStartRejected _
  | .panUpdateRejected _ | .panUpdateIdle _ | .panOverflow _ _ | .foreignUnsubscribe _
  | .panButtonReleased | .eventRejected _ _ => .debug

/-- Painting is routine; attachments gone wrong and tiers left out are mistakes. -/
def gridLevel {α : Type} : Grid.Record α → Level
  | .emptyCanvas | .painted _ _ => .trace
  | .reattached | .moved | .foreignDetach | .invalidTier _ | .denseTier _ _ _ => .warn

def Entry.level {α : Type} : Entry α → Level
  | .viewport record => viewportLevel record
  | .grid record => gridLevel record

end Journal

end PanZoom
