import TcpSessions.Json.Reading
import TcpSessions.Log.Loggers
import TcpSessions.Rehearsal.Scenario
import TcpSessions.Signals
import TcpSessions.Version
import TcpSessions.Proofs.Session.Table
import TcpSessions.Proofs.Session.Registry
import TcpSessions.Proofs.Work.History
import TcpSessions.Proofs.Work.Step
import TcpSessions.Proofs.Work.Since
import TcpSessions.Proofs.Work.Ends
import TcpSessions.Proofs.Work.Calls
import TcpSessions.Proofs.Manager.Closing
import TcpSessions.Proofs.Manager.Opening
import TcpSessions.Proofs.Manager.Inventory
import TcpSessions.Proofs.Work.Perform
import TcpSessions.Proofs.Session.Lifecycle
import TcpSessions.Proofs.Session.Retention
import TcpSessions.Proofs.Session.Handles
import TcpSessions.Proofs.Manager.Cancellation
import TcpSessions.Proofs.Work.Quiet
import TcpSessions.Proofs.Work.SocketCalls
import TcpSessions.Proofs.Work.Keeps
import TcpSessions.Proofs.Session.Validity
import TcpSessions.Proofs.Manager.Settling
import TcpSessions.Proofs.Manager.QuietClosing
import TcpSessions.Proofs.Manager.QuietLookup
import TcpSessions.Proofs.Manager.QuietOpening
import TcpSessions.Proofs.Session.Discipline
import TcpSessions.Proofs.Manager.QuietTeardown
import TcpSessions.Proofs.Manager.Scope
import TcpSessions.Proofs.Manager.Listing
import TcpSessions.Proofs.Manager.Failures
import TcpSessions.Proofs.Session.Tracking
import TcpSessions.Proofs.Manager.ClosingOrder
import TcpSessions.Proofs.Text.Fields
import TcpSessions.Proofs.Text.Numeral
import TcpSessions.Proofs.Address.Inet
import TcpSessions.Proofs.Address.Inet6
import TcpSessions.Proofs.Address.Packed
import TcpSessions.Proofs.Manager.Patience
import TcpSessions.Proofs.Manager.SystemLookup
import TcpSessions.Proofs.Lookup
import TcpSessions.Proofs.Manager.SystemOpening
import TcpSessions.Proofs.Peer
import TcpSessions.Proofs.Manager.Primitives
import TcpSessions.Proofs.Session.Peers
import TcpSessions.Proofs.Manager.OwnCalls
import TcpSessions.Proofs.Manager.Reopening
import TcpSessions.Proofs.Work.Alike
import TcpSessions.Proofs.Settings.Fields
import TcpSessions.Proofs.Manager.Defaults
import TcpSessions.Proofs.Json.Strings
import TcpSessions.Proofs.Json.RoundTrip
import TcpSessions.Proofs.Log.Sanitised
import TcpSessions.Proofs.Log.JsonLine
import TcpSessions.Proofs.Log.Changes
import TcpSessions.Proofs.Log.Stability
import TcpSessions.Proofs.Log.Canonical
import TcpSessions.Proofs.Log.Agreement
import TcpSessions.Proofs.Manager.InlineAsked
import TcpSessions.Proofs.Manager.InlineOption
import TcpSessions.Proofs.Session.Attainable
import TcpSessions.Proofs.Manager.Exchanges
import TcpSessions.Proofs.Manager.ClosingOne
import TcpSessions.Proofs.Manager.Draining
import TcpSessions.Proofs.Manager.Teardowns
import TcpSessions.Proofs.Manager.Course
import TcpSessions.Proofs.Manager.Registering
import TcpSessions.Proofs.Manager.Candidates
import TcpSessions.Proofs.Manager.Handover
import TcpSessions.Proofs.Manager.ListingTurns
import TcpSessions.Proofs.Manager.Retrying
