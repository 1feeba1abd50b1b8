import QuorumRate.Main
import QuorumRate.Proofs.Decimal.Rounding
import QuorumRate.Proofs.Quorum.Ballot
import QuorumRate.Registry
import QuorumRate.Text.LowerCase
import QuorumRate.Url.Basic
import QuorumRate.Url.Escape
import QuorumRate.Url.Fault
import QuorumRate.Url.Host
import QuorumRate.Url.Reader
import QuorumRate.Url.Reference
import QuorumRate.Proofs.Quorum.Seating
import QuorumRate.Proofs.Quorum.Accounting
import QuorumRate.Proofs.Quorum.Median
import QuorumRate.Proofs.Attempt
import QuorumRate.Proofs.Quote.Accepted
import QuorumRate.Proofs.Transport.Chain
import QuorumRate.Proofs.Session.Isolation
import QuorumRate.Proofs.Quorum.Reordering
import QuorumRate.Proofs.Venue.Envelope
import QuorumRate.Proofs.Session.TotalFailure
import QuorumRate.Proofs.Decimal.Sum
import QuorumRate.Proofs.Panel.Interleaving
import QuorumRate.Proofs.Session.Lifecycle
import QuorumRate.Proofs.Transport.Route
import QuorumRate.Proofs.Session.Footprint
import QuorumRate.Proofs.Encoding.Written
import QuorumRate.Proofs.Decimal.Printed
import QuorumRate.Proofs.Json.Spelling
import QuorumRate.Proofs.Json.Token
import QuorumRate.Proofs.Json.Reading
import QuorumRate.Proofs.Transport.Body
import QuorumRate.Proofs.Quorum.Coupling
import QuorumRate.Proofs.Quorum.Influence
import QuorumRate.Proofs.Quorum.Signals
import QuorumRate.Proofs.Quote.Spread
import QuorumRate.Proofs.Decimal.Overflow
import QuorumRate.Proofs.Decimal.Special
import QuorumRate.Proofs.Quote.Signals
import QuorumRate.Proofs.Json.Sheet
import QuorumRate.Proofs.Quote.Numeral
import QuorumRate.Proofs.Venue.RoundTrip
import QuorumRate.Proofs.Venue.Form
import QuorumRate.Proofs.Venue.Quoting
import QuorumRate.Proofs.Quote.Range
import QuorumRate.Proofs.Session.Alarms
import QuorumRate.Proofs.CommandLine.Timeouts
import QuorumRate.Proofs.CommandLine.Unset
import QuorumRate.Proofs.CommandLine.Precedence
import QuorumRate.Proofs.CommandLine.Status
import QuorumRate.Proofs.Registry
import QuorumRate.Proofs.Pair.Code
