import PanZoom.Scalar.Exact
import PanZoom.Binary64.Arithmetic
import PanZoom.Surface.Recording
import PanZoom.Scene
import PanZoom.Text.Journal
import PanZoom.Proofs.View.NumericSafety
import PanZoom.Proofs.Grid.Painting
import PanZoom.Proofs.Scene.Attachment
import PanZoom.Proofs.View.Divisor
import PanZoom.Proofs.View.Gestures
import PanZoom.Proofs.View.Transparency
import PanZoom.Proofs.Scene.Requests
import PanZoom.Proofs.Scene.Staleness
import PanZoom.Proofs.Scene.Locality
import PanZoom.Proofs.Scene.FirstNotice
import PanZoom.Proofs.Scene.Freshness
import PanZoom.Proofs.Binary64.Exact
import PanZoom.Proofs.Grid.Alignment
import PanZoom.Proofs.Grid.Centering
import PanZoom.Proofs.Surface.Replay
import PanZoom.Proofs.View.Accounts
import PanZoom.Proofs.View.Panning
import PanZoom.Proofs.View.Projection
import PanZoom.Proofs.Scene.Contacts
import PanZoom.Proofs.Scene.Ownership
import PanZoom.Proofs.Surface.Clipping
import PanZoom.Proofs.Surface.Scoping
import PanZoom.Proofs.Grid.Placement
import PanZoom.Proofs.View.Grip
import PanZoom.Proofs.Binary64.Signed
import PanZoom.Proofs.Grid.Lines
import PanZoom.Proofs.Grid.Cap
import PanZoom.Proofs.Grid.Nesting
import PanZoom.Proofs.Grid.Spacing
import PanZoom.Proofs.Grid.Snapping
import PanZoom.Proofs.View.Zooming
import PanZoom.Proofs.View.Centre
import PanZoom.Proofs.View.Coalescing
import PanZoom.Proofs.View.Scrolling
import PanZoom.Proofs.View.Acceptance
import PanZoom.Proofs.Binary64.Nearest
import PanZoom.Proofs.Binary64.Whole
import PanZoom.Proofs.View.NearEdge
import PanZoom.Proofs.Grid.Distinct
