import Templating.Settings.Engine
import Templating.Template.Outline
import Templating.Proofs.Render.Unbounded
import Templating.Proofs.Render.Replay
import Templating.Proofs.Render.Simulation
import Templating.Proofs.Render.Refinement
import Templating.Proofs.Expr.Completeness
import Templating.Proofs.Expr.Parsing
import Templating.Proofs.Render.Emission
import Templating.Proofs.Render.Markup
import Templating.Proofs.Template.Assembling
import Templating.Proofs.Template.Parsing
import Templating.Proofs.Render.Congruence
import Templating.Proofs.Value.Failing
import Templating.Proofs.Render.Recording
import Templating.Proofs.Number.Written
import Templating.Proofs.Engine.Calls
import Templating.Proofs.Engine.Errors
import Templating.Proofs.Engine.Limits
import Templating.Proofs.Render.Alike
import Templating.Proofs.Render.History
import Templating.Proofs.Number.Whole
import Templating.Proofs.Printing.Expr
import Templating.Proofs.Printing.Tags
import Templating.Proofs.Printing.Tokens
import Templating.Proofs.Printing.Derivations
import Templating.Proofs.Printing.Template
import Templating.Proofs.Printing.Segments
import Templating.Proofs.Printing.RoundTrip
import Templating.Proofs.Text.Strings
import Templating.Proofs.Tag.Closing
import Templating.Proofs.Token.Strings
import Templating.Proofs.Template.Literals
import Templating.Proofs.Template.Nesting
import Templating.Proofs.Render.Watching
import Templating.Proofs.Render.Traversal
import Templating.Proofs.Render.Nesting
import Templating.Proofs.Engine.Nesting
import Templating.Proofs.Token.Order
import Templating.Proofs.Expr.Functions
import Templating.Proofs.Expr.Rereading
import Templating.Proofs.Template.Rereading
import Templating.Proofs.Render.Functions
import Templating.Proofs.Engine.Functions
import Templating.Proofs.Segment.Joining
import Templating.Proofs.Template.Joining
import Templating.Proofs.Render.Stateless
import Templating.Proofs.Render.Joining
import Templating.Proofs.Engine.Joining
import Templating.Proofs.Template.Names
import Templating.Proofs.Render.Coincidence
import Templating.Proofs.Template.Renaming
import Templating.Proofs.Render.Renaming
import Templating.Proofs.Expr.Places
import Templating.Proofs.Engine.Places
import Templating.Proofs.Engine.Untagged
import Templating.Proofs.Tag.Quoting
import Templating.Proofs.Tag.Classification
import Templating.Proofs.Segment.Tiling
import Templating.Proofs.Segment.Padding
import Templating.Proofs.Template.Unclosed
import Templating.Proofs.Value.Oversized
import Templating.Proofs.Template.Order
import Templating.Proofs.Registry.History
import Templating.Proofs.Engine.Calling
import Templating.Proofs.Expr.Names
import Templating.Proofs.Template.Looping
import Templating.Proofs.Render.Looping
import Templating.Proofs.Engine.Looping
import Templating.Proofs.Number.Nearest
import Templating.Proofs.Number.Rounding
import Templating.Proofs.Number.Spelling
import Templating.Proofs.Number.Reading
import Templating.Proofs.Number.Exact
import Templating.Proofs.Number.Shortest
import Templating.Proofs.Value.Display
import Templating.Proofs.Value.Order
import Templating.Proofs.Value.Agreement
import Templating.Proofs.Render.Truth
import Templating.Proofs.Render.Comparing
import Templating.Proofs.Text.Offsets
import Templating.Proofs.Render.Scopes
import Templating.Proofs.Template.Constructs
import Templating.Proofs.Engine.Constructs
import Templating.Proofs.Settings.Limits
import Templating.Proofs.Settings.Spellings
import Templating.Proofs.Expr.Nesting
import Templating.Proofs.Render.Calling
import Templating.Proofs.Expr.Bounds
