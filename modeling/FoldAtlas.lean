import FoldAtlas.Main
import FoldAtlas.Rehearsal.Scenery
import FoldAtlas.Rehearsal.Script
import FoldAtlas.ServerLog
import FoldAtlas.Proofs.Session.Registration
import FoldAtlas.Proofs.Session.Settlement
import FoldAtlas.Proofs.Frame.Stream
import FoldAtlas.Proofs.Client.Handshake
import FoldAtlas.Proofs.Client.Finality
import FoldAtlas.Proofs.Client.Publication
import FoldAtlas.Proofs.Session.Reception
import FoldAtlas.Proofs.Session.Answering
import FoldAtlas.Proofs.Session.Resilience
import FoldAtlas.Proofs.Envelope.Transit
import FoldAtlas.Proofs.Pairing.FirstMatch
import FoldAtlas.Proofs.Analysis.Verdict
import FoldAtlas.Proofs.Frame.Truncation
import FoldAtlas.Proofs.Json.Arrangement
import FoldAtlas.Proofs.Json.Rereading
import FoldAtlas.Proofs.Payload.Trees
import FoldAtlas.Proofs.Payload.Rereading
import FoldAtlas.Proofs.Client.Overtaking
import FoldAtlas.Proofs.Toml.Order
import FoldAtlas.Proofs.Toml.Overlay
import FoldAtlas.Proofs.Settings.Layers
import FoldAtlas.Proofs.Settings.Sections
import FoldAtlas.Proofs.Settings.Precedence
import FoldAtlas.Proofs.Frame.Block
import FoldAtlas.Proofs.Json.Numbers
import FoldAtlas.Proofs.Json.Reading
import FoldAtlas.Proofs.Json.Depth
import FoldAtlas.Proofs.Envelope.Grammar
import FoldAtlas.Proofs.Session.Attendance
import FoldAtlas.Proofs.Symbol.Preorder
import FoldAtlas.Proofs.Pairing.Rearrangement
import FoldAtlas.Proofs.Toml.Paths
import FoldAtlas.Proofs.Settings.Launch
import FoldAtlas.Proofs.Client.Admission
import FoldAtlas.Proofs.Client.Closure
import FoldAtlas.Proofs.Client.Retrial
import FoldAtlas.Proofs.Uri.Distinction
import FoldAtlas.Proofs.Frame.Exhaustion
import FoldAtlas.Proofs.Settings.Countability
import FoldAtlas.Proofs.Pairing.Overflow
import FoldAtlas.Proofs.Report.Legibility
import FoldAtlas.Proofs.Decimal.Shortest
