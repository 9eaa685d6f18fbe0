import Pinpoint.Binary64.Text
import Pinpoint.Marked
import Pinpoint.Proofs.Absorption
import Pinpoint.Proofs.Alternatives
import Pinpoint.Proofs.Caret
import Pinpoint.Proofs.Deferral
import Pinpoint.Proofs.Expansion
import Pinpoint.Proofs.Filling
import Pinpoint.Proofs.FirstDifference
import Pinpoint.Proofs.Landing
import Pinpoint.Proofs.Layout
import Pinpoint.Proofs.Ledger
import Pinpoint.Proofs.Lines
import Pinpoint.Proofs.MergeAll
import Pinpoint.Proofs.MergeAssoc
import Pinpoint.Proofs.MergeEquality
import Pinpoint.Proofs.MergeOrder
import Pinpoint.Proofs.OnePass
import Pinpoint.Proofs.OrderedSet
import Pinpoint.Proofs.Overflow
import Pinpoint.Proofs.Passage
import Pinpoint.Proofs.ReadingOrder
import Pinpoint.Proofs.Relocation
import Pinpoint.Proofs.Repetition
import Pinpoint.Proofs.Replay
import Pinpoint.Proofs.Run
import Pinpoint.Proofs.SetEquality
import Pinpoint.Proofs.ShortReads
import Pinpoint.Proofs.TabStops
import Pinpoint.Proofs.Utf8Order
import Pinpoint.Proofs.Windows
import Pinpoint.Proofs.Wording
import Pinpoint.State.Report
import Pinpoint.Stream.Chunks
import Pinpoint.Stream.Lists
