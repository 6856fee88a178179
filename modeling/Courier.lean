import Courier.Bulkhead
import Courier.CircuitBreaker
import Courier.Clock
import Courier.Config.Basic
import Courier.Config.Resilience
import Courier.Crash
import Courier.DeadLetter.Entry
import Courier.DeadLetter.Replay
import Courier.DeadLetter.Store
import Courier.Decimal.Bits
import Courier.Decimal.Shortest
import Courier.Decode.Basic
import Courier.Decode.Record
import Courier.Delivery.Dispatch
import Courier.Delivery.Failure
import Courier.Delivery.Run
import Courier.Delivery.SendResult
import Courier.Delivery.Target
import Courier.Depot
import Courier.Duration
import Courier.EntryId
import Courier.Feedback
import Courier.Format.Basic
import Courier.Format.Registry
import Courier.Gate.Basic
import Courier.Gate.Call
import Courier.Gate.Registry
import Courier.Gate.Settings
import Courier.Gate.SettingsJson
import Courier.Gateway.Basic
import Courier.Gateway.Batch
import Courier.Gateway.Task
import Courier.Health
import Courier.Invalid
import Courier.Json.Access
import Courier.Json.Basic
import Courier.Json.Draft
import Courier.Json.Writer
import Courier.Metrics
import Courier.Moment
import Courier.Notification.Basic
import Courier.Notification.Codec
import Courier.Notification.TypeDefinition
import Courier.Outline
import Courier.Pool.Basic
import Courier.Pool.Settings
import Courier.Pool.Shutdown
import Courier.Pool.Submission
import Courier.RateLimiter
import Courier.Rehearsal.Admissions
import Courier.Rehearsal.Jobs
import Courier.Rehearsal.Permits
import Courier.Rehearsal.Service
import Courier.Rehearsal.Slots
import Courier.Retry
import Courier.Routing
import Courier.Schedule
import Courier.Sender
import Courier.Slack.Message
import Courier.Text.Blank
import Courier.Text.Hidden
import Courier.Text.Quoted
import Courier.Timestamp.Basic
import Courier.Timestamp.Text
import Courier.TokenBucket
import Courier.Toml.Document
import Courier.Toml.Scalar
import Courier.Turn
import Courier.Proofs.CircuitBreaker.Custody
import Courier.Proofs.CircuitBreaker.Chronicle
import Courier.Proofs.DeadLetter.Store
import Courier.Proofs.Gateway.Session
import Courier.Proofs.Depot
import Courier.Proofs.DeadLetter.Replay
import Courier.Proofs.DeadLetter.Lifecycle
import Courier.Proofs.Delivery.Account
import Courier.Proofs.Delivery.Ledger
import Courier.Proofs.Pool.Staffing
import Courier.Proofs.Gateway.Clients
import Courier.Proofs.Gateway.Conservation
import Courier.Proofs.Gateway.Drain
import Courier.Proofs.Gateway.Turns
import Courier.Proofs.Gateway.Runs
import Courier.Proofs.Gate.Advance
import Courier.Proofs.Gate.Slots
import Courier.Proofs.Gate.Visits
import Courier.Proofs.Gate.Traffic
import Courier.Proofs.Pool.Bounded
import Courier.Proofs.Pool.Parties
import Courier.Proofs.Pool.Workshop
import Courier.Proofs.Gate.Ending
import Courier.Proofs.Delivery.Exits
import Courier.Proofs.Delivery.Return
import Courier.Proofs.Delivery.Round
import Courier.Proofs.Delivery.Law
import Courier.Proofs.DeadLetter.Conduct
import Courier.Proofs.Gateway.Books
import Courier.Proofs.CircuitBreaker.Calls
import Courier.Proofs.CircuitBreaker.Trials
import Courier.Proofs.DeadLetter.Unsettled
import Courier.Proofs.Gate.Isolation
import Courier.Proofs.Gateway.Errands
import Courier.Proofs.Gateway.Isolation
import Courier.Proofs.Rounding
import Courier.Proofs.CircuitBreaker.Windows
import Courier.Proofs.RateLimiter
import Courier.Proofs.DeadLetter.Dropped
import Courier.Proofs.Magnitude
import Courier.Proofs.FloatOrder
import Courier.Proofs.Retry
import Courier.Proofs.Gate.Answers
import Courier.Proofs.Json.RoundTrip
import Courier.Proofs.DeadLetter.Snapshot
import Courier.Proofs.Backpressure
import Courier.Proofs.Json.Members
import Courier.Proofs.Json.Shape
import Courier.Proofs.Numerals
import Courier.Proofs.Timestamp.Calendar
import Courier.Proofs.Timestamp.Text
import Courier.Proofs.Decode.Basic
import Courier.Proofs.Decode.Record
import Courier.Proofs.Notification.Codec
import Courier.Proofs.EntryId
import Courier.Proofs.Delivery.Codec
import Courier.Proofs.DeadLetter.Codec
import Courier.Proofs.DeadLetter.Durable
import Courier.Proofs.CircuitBreaker.Recovery
import Courier.Proofs.Gate.Settings
import Courier.Proofs.Gateway.Settings
import Courier.Proofs.Delivery.Sends
import Courier.Proofs.Gate.Journey
import Courier.Proofs.Gate.Attempts
import Courier.Proofs.Gate.Naps
import Courier.Proofs.Routing
import Courier.Proofs.Backoff
import Courier.Proofs.Passage
import Courier.Proofs.Admission
import Courier.Proofs.DeadLetter.Settling
import Courier.Proofs.DeadLetter.Return
import Courier.Proofs.DeadLetter.Reports
import Courier.Proofs.DeadLetter.Pending
import Courier.Proofs.Gateway.Batch
import Courier.Proofs.Addresses
import Courier.Proofs.FirstCome
import Courier.Proofs.Notification.TypeDefinition
import Courier.Proofs.Gateway.Building
import Courier.Proofs.CircuitBreaker.Share
import Courier.Proofs.DeadLetter.Queries
import Courier.Proofs.Slack.Escaping
import Courier.Proofs.Slack.Message
import Courier.Proofs.Gateway.Sturdiness
