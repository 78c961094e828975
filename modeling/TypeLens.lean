import TypeLens.AggregateKind
import TypeLens.Architecture
import TypeLens.Builtin
import TypeLens.CommandLine.Argument
import TypeLens.CommandLine.Invocation
import TypeLens.CommandLine.Run
import TypeLens.Declaration
import TypeLens.FileStore
import TypeLens.Hover
import TypeLens.Layout
import TypeLens.Locate
import TypeLens.Main
import TypeLens.Proofs.BuiltinHover
import TypeLens.Proofs.HoverAgreement
import TypeLens.Proofs.Locate.Composite
import TypeLens.Proofs.Locate.Locality
import TypeLens.Proofs.Locate.Occurrences
import TypeLens.Proofs.Locate.Soundness
import TypeLens.Proofs.Locate.Standalone
import TypeLens.Proofs.ScanBound
import TypeLens.Proofs.ScanMemory
import TypeLens.Proofs.ScanQueue
import TypeLens.Proofs.ScanTransparency
import TypeLens.Proofs.Session.Answers
import TypeLens.Proofs.Session.Coherence
import TypeLens.Proofs.Session.Frame
import TypeLens.Proofs.Session.Stateless
import TypeLens.Proofs.Text.Spacing
import TypeLens.Proofs.WidthIndependence
import TypeLens.ScanCache
import TypeLens.Session
import TypeLens.Settings
import TypeLens.Source.Identifier
import TypeLens.Source.Typedef
import TypeLens.Target
import TypeLens.Proofs.Session.Announcement
import TypeLens.Proofs.Session.Configuration
import TypeLens.Proofs.CommandLine.Overrides
import TypeLens.Proofs.Locate.Groups
import TypeLens.Proofs.Locate.Absorption
import TypeLens.Proofs.Locate.WordAtCursor
import TypeLens.Proofs.MentionHover
import TypeLens.Proofs.LayoutSpacing
import TypeLens.Proofs.Text.Order
import TypeLens.Proofs.Session.FileRequests
import TypeLens.Proofs.PointerLayout
import TypeLens.Proofs.UnsizedName
import TypeLens.Proofs.Source.Places
import TypeLens.Proofs.Declaration.Collecting
import TypeLens.Proofs.Declaration.KnownNames
import TypeLens.Proofs.Declaration.SeenOrder
import TypeLens.Proofs.Declaration.SharedSizes
import TypeLens.Proofs.Locate.Words
import TypeLens.Proofs.Locate.TouchingWord
import TypeLens.Proofs.Text.Lowering
import TypeLens.Proofs.BuiltinNames
import TypeLens.Proofs.Declaration.NamesOfType
import TypeLens.Proofs.Text.Pieces
import TypeLens.Proofs.TargetWidth
import TypeLens.Proofs.Text.Printing
import TypeLens.Proofs.Session.FileFailures
