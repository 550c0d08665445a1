import Tariff.Settings.Environment
import Tariff.Store
import Tariff.Proofs.Timeline.WriteLog
import Tariff.Proofs.Week.DayPieces
import Tariff.Proofs.Journal.RoundTrip
import Tariff.Proofs.Store.Failure
import Tariff.Proofs.Store.Refresh
import Tariff.Proofs.Journal.Tail
import Tariff.Proofs.Catalogue.WellFormed
import Tariff.Proofs.Catalogue.LogBook
import Tariff.Proofs.Rearranged
import Tariff.Proofs.Week.Slots
import Tariff.Proofs.Loading.Cells
import Tariff.Proofs.Loading.Order
import Tariff.Proofs.Store.Order
import Tariff.Proofs.Journal.Canonical
import Tariff.Proofs.Journal.Oversize
import Tariff.Proofs.Rule.Evaluation
import Tariff.Proofs.Tables.WellFormed
import Tariff.Proofs.Store.Transition
import Tariff.Proofs.Store.Published
import Tariff.Proofs.Catalogue.Sizes
import Tariff.Proofs.Store.Gauges
import Tariff.Proofs.Week.Moved
import Tariff.Proofs.Week.Bill
import Tariff.Proofs.Catalogue.Conflict
import Tariff.Proofs.Journal.Ledger
import Tariff.Proofs.Journal.Damage
import Tariff.Proofs.Journal.Compaction
import Tariff.Proofs.Week.Rounds
import Tariff.Proofs.Loading.Accounts
import Tariff.Proofs.Store.Accounts
import Tariff.Proofs.Week.Coverage
import Tariff.Proofs.Week.ClockText
import Tariff.Proofs.Pattern.Spans
import Tariff.Proofs.Pattern.Local
import Tariff.Proofs.Pattern.Readers
import Tariff.Proofs.Pattern.Brackets
import Tariff.Proofs.Pattern.Tokens
import Tariff.Proofs.Pattern.Frame
import Tariff.Proofs.Rule.WholeMatch
import Tariff.Proofs.Timeline.Representation
import Tariff.Proofs.Store.Entries
