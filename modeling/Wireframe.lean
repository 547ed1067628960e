import Wireframe.Json.Lenient
import Wireframe.Log.Context
import Wireframe.Log.Level
import Wireframe.Markup.Reader
import Wireframe.Metrics.Basic
import Wireframe.Proofs.Double.Characters
import Wireframe.Proofs.Double.Exact
import Wireframe.Proofs.Double.Nearest
import Wireframe.Proofs.Double.ReadBack
import Wireframe.Proofs.Double.Significant
import Wireframe.Proofs.Flow.Arrows
import Wireframe.Proofs.Flow.Clearance
import Wireframe.Proofs.Flow.Coordinates
import Wireframe.Proofs.Flow.Exact
import Wireframe.Proofs.Flow.Placed
import Wireframe.Proofs.Flow.Ranges
import Wireframe.Proofs.Flow.Reversal
import Wireframe.Proofs.Flow.Rounded
import Wireframe.Proofs.Flow.Routable
import Wireframe.Proofs.Flow.Routed
import Wireframe.Proofs.Flow.Spelled
import Wireframe.Proofs.Flow.Tiled
import Wireframe.Proofs.Json.Candidate
import Wireframe.Proofs.Json.Decoded
import Wireframe.Proofs.Json.Dialect
import Wireframe.Proofs.Json.Extent
import Wireframe.Proofs.Json.Fenced
import Wireframe.Proofs.Json.Lenient
import Wireframe.Proofs.Json.Numeral
import Wireframe.Proofs.Json.Prose
import Wireframe.Proofs.Json.RoundTrip
import Wireframe.Proofs.Json.Span
import Wireframe.Proofs.Log.Restored
import Wireframe.Proofs.Markup.Exact
import Wireframe.Proofs.Markup.Inert
import Wireframe.Proofs.Markup.Page
import Wireframe.Proofs.Markup.ReadBack
import Wireframe.Proofs.Metrics.Counts
import Wireframe.Proofs.Metrics.Drawn
import Wireframe.Proofs.Metrics.Passes
import Wireframe.Proofs.Outcome
import Wireframe.Proofs.Plan.Alike
import Wireframe.Proofs.Plan.Built
import Wireframe.Proofs.Plan.Drawable
import Wireframe.Proofs.Plan.Each
import Wireframe.Proofs.Plan.Expansion
import Wireframe.Proofs.Plan.Height
import Wireframe.Proofs.Plan.Indexed
import Wireframe.Proofs.Plan.Materialized
import Wireframe.Proofs.Plan.Mirror
import Wireframe.Proofs.Plan.Normal
import Wireframe.Proofs.Plan.Places
import Wireframe.Proofs.Plan.Resolvable
import Wireframe.Proofs.Plan.Resolved
import Wireframe.Proofs.Plan.Roots
import Wireframe.Proofs.Preview.Active
import Wireframe.Proofs.Preview.Canvas
import Wireframe.Proofs.Preview.Marks
import Wireframe.Proofs.Preview.Place
import Wireframe.Proofs.Preview.Selected
import Wireframe.Proofs.Preview.Sketch
import Wireframe.Proofs.Preview.Trusted
import Wireframe.Proofs.Preview.Wording
import Wireframe.Proofs.Preview.Words
import Wireframe.Proofs.Registry.Audited
import Wireframe.Proofs.Registry.Judged
import Wireframe.Proofs.Registry.Parsed
import Wireframe.Proofs.Registry.Presence
import Wireframe.Proofs.Scene.Acquired
import Wireframe.Proofs.Scene.Fontless
import Wireframe.Proofs.Scene.Fonts
import Wireframe.Proofs.Scene.Texts
import Wireframe.Proofs.Spec.Accepted
import Wireframe.Proofs.Spec.Agreement
import Wireframe.Proofs.Spec.Apart
import Wireframe.Proofs.Spec.Blank
import Wireframe.Proofs.Spec.Complete
import Wireframe.Proofs.Spec.Depth
import Wireframe.Proofs.Spec.Edits
import Wireframe.Proofs.Spec.Identity
import Wireframe.Proofs.Spec.Inverse
import Wireframe.Proofs.Spec.Loaded
import Wireframe.Proofs.Spec.Refusal
import Wireframe.Proofs.Spec.Regular
import Wireframe.Proofs.Spec.Repeated
import Wireframe.Proofs.Spec.Saved
import Wireframe.Proofs.Spec.Shape
import Wireframe.Proofs.Spec.Vacant
import Wireframe.Proofs.Spec.Written
import Wireframe.Registry.Table
import Wireframe.Renderer
import Wireframe.Settings.Basic
import Wireframe.Spec.Load
import Wireframe.Spec.Write
