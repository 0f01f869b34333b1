import RegexComposition.Capture
import RegexComposition.Proofs.Pattern.Reading
import RegexComposition.Proofs.Pattern.Lookahead
import RegexComposition.Proofs.Regex.GroupNames
import RegexComposition.Proofs.Pattern.Context
import RegexComposition.Proofs.Pattern.Embedding
import RegexComposition.Proofs.Fragment.Acceptance
import RegexComposition.Proofs.Fragment.Denotation
import RegexComposition.Proofs.Capture.Cursor
import RegexComposition.Proofs.Capture.Segments
import RegexComposition.Proofs.Pattern.Passage
import RegexComposition.Proofs.Capture.Tiling
import RegexComposition.Proofs.Regex.Sticky
import RegexComposition.Proofs.Session.History
import RegexComposition.Proofs.Session.ForwardReference
import RegexComposition.Proofs.Fragment.Concatenation
import RegexComposition.Proofs.Session.Failure
import RegexComposition.Proofs.Session.Use
import RegexComposition.Proofs.Session.Attachment
import RegexComposition.Proofs.Session.SkipMark
import RegexComposition.Proofs.Session.NegatedName
import RegexComposition.Proofs.Session.Lookaround
import RegexComposition.Proofs.Session.Insertion
import RegexComposition.Proofs.Pattern.NamedGroup
import RegexComposition.Proofs.Capture.Anchors
import RegexComposition.Proofs.Session.NativeArgument
import RegexComposition.Proofs.Session.NegatedChain
import RegexComposition.Proofs.Registry.SuffixReading
import RegexComposition.Proofs.Capture.Acceptance
import RegexComposition.Proofs.Session.LiteralArgument
import RegexComposition.Proofs.Session.CaptureGroups
import RegexComposition.Proofs.Fragment.Endings
import RegexComposition.Proofs.Session.Graphs
import RegexComposition.Proofs.Fragment.Descent
import RegexComposition.Proofs.Fragment.EndMarks
import RegexComposition.Proofs.Fragment.LeafFlags
import RegexComposition.Proofs.Session.Slots
import RegexComposition.Proofs.Session.FlagAggregation
import RegexComposition.Proofs.Fragment.Escaping
import RegexComposition.Proofs.Capture.SkippedGroups
import RegexComposition.Proofs.Pattern.EnclosingGroup
import RegexComposition.Proofs.Session.Order
import RegexComposition.Proofs.Fragment.Association
import RegexComposition.Proofs.Fragment.Adoption
import RegexComposition.Proofs.Flags.RoundTrip
import RegexComposition.Proofs.Session.EmptyAlternative
import RegexComposition.Proofs.Capture.Boundaries
