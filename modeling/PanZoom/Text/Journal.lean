import PanZoom.Text.Description

/-!
# Wording of journals

The text of each record: what happened, with the values that matter.
-/

namespace PanZoom

namespace Text

def viewportRecord : ViewportRecord Binary64 → String
  | .scrollRejected delta => "rejected scroll delta " ++ delta.plain
  | .distanceRejected distance => "rejected zoom distance " ++ distance.plain
  | .distanceOverflow distance scale =>
    "zoom distance " ++ distance.plain ++ " overflows (scale " ++ scale.plain ++ ")"
  | .zoomed distance scale => "distance " ++ distance.plain ++ " scale " ++ scale.plain
  | .panStartRejected p => "rejected pan start at " ++ point p
  | .panStarted p => "pan started at " ++ point p
  | .panUpdateRejected p => "rejected pan update at " ++ point p
  | .panUpdateIdle p => "pan update at " ++ point p ++ " without an active pan"
  | .panOverflow p scale => "pan to " ++ point p ++ " overflows at scale " ++ scale.plain
  | .panned offset => "translation changed to " ++ vec offset
  | .panEnded offset => "pan ended at " ++ vec offset
  | .viewReset => "viewport reset"
  | .foreignUnsubscribe id =>
    "ignored unsubscribe of " ++ subscription id ++ " issued by another transform"
  | .panButtonReleased => "pan button no longer held; ending pan"
  | .eventRejected e cause => "viewport rejected " ++ event e ++ ": " ++ cause.message

def gridRecord : Grid.Record Binary64 → String
  | .reattached => "grid renderer attached twice; replacing subscriptions"
  | .moved => "grid renderer moved to another transform without detaching"
  | .foreignDetach => "grid renderer detached from a transform it is not attached to"
  | .emptyCanvas => "grid paint skipped: empty canvas"
  | .invalidTier t => "grid tier " ++ tier t ++ " has an invalid frequency; skipped"
  | .denseTier t a needed =>
    "grid tier " ++ tier t ++ " skipped on " ++ axis a ++ ": " ++ needed.plain ++
      " lines would be visible"
  | .painted scale canvas =>
    "grid painted at scale " ++ scale.plain ++ " over " ++ canvas.width.plain ++ "x" ++
      canvas.height.plain ++ " px"

def entry : Journal.Entry Binary64 → String
  | .viewport record => viewportRecord record
  | .grid record => gridRecord record

end Text

end PanZoom
