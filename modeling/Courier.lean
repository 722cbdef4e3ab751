import Courier.Broker.Operations
import Courier.Broker.State
import Courier.Bus.Calls
import Courier.Bus.Delivery
import Courier.Bus.Error
import Courier.Bus.Gate
import Courier.Bus.Handler
import Courier.Bus.Lifecycle
import Courier.Bus.Publish
import Courier.Bus.Registry
import Courier.Bus.Resolve
import Courier.Bus.World
import Courier.Config
import Courier.Console.Configuration
import Courier.Console.Envelope
import Courier.Console.Logged
import Courier.Console.Redact
import Courier.Console.Request
import Courier.Console.Respond
import Courier.Console.Scenario
import Courier.Decimal.Binary64
import Courier.Decimal.Layout
import Courier.Decimal.Shortest
import Courier.Envelope.Basic
import Courier.Envelope.Catalog
import Courier.Envelope.Codec
import Courier.Json.Reader
import Courier.Json.Shape
import Courier.Json.Value
import Courier.Json.Writer
import Courier.Scenario.Op
import Courier.Scenario.Run
import Courier.Scenario.Snapshot
import Courier.Settings
import Courier.Tasks.Future
import Courier.Tasks.Scheduler
import Courier.Telemetry.Config
import Courier.Telemetry.Filter
import Courier.Telemetry.Metrics
import Courier.Telemetry.Pattern
import Courier.Telemetry.Setup
import Courier.Text.Alphanumeric
import Courier.Text.Blank
import Courier.Text.Extending
import Courier.Text.Uuid
import Courier.Text.Visible
import Courier.Time.Duration
import Courier.Time.Instant
import Courier.Time.Rfc3339
import Courier.Proofs.Broker.Interleaving
import Courier.Proofs.Broker.Lookup
import Courier.Proofs.Broker.Leasing
import Courier.Proofs.Broker.Moves
import Courier.Proofs.Broker.Shifts
import Courier.Proofs.Broker.Calls
import Courier.Proofs.Broker.Steps
import Courier.Proofs.Broker.Conservation
import Courier.Proofs.Broker.Ordering
import Courier.Proofs.Broker.Retry
import Courier.Proofs.Broker.Redelivery
import Courier.Proofs.Broker.Channels
import Courier.Proofs.Broker.Flow
import Courier.Proofs.Broker.WorkConserving
import Courier.Proofs.Broker.Publishing
import Courier.Proofs.Broker.Registry
import Courier.Proofs.Json.Cursor
import Courier.Proofs.Json.Strings
import Courier.Proofs.Json.Numbers
import Courier.Proofs.Json.NumberText
import Courier.Proofs.Json.Normal
import Courier.Proofs.Json.RoundTrip
import Courier.Proofs.Json.Reading
import Courier.Proofs.Time.Calendar
import Courier.Proofs.Time.RoundTrip
import Courier.Proofs.Envelope.RoundTrip
import Courier.Proofs.Envelope.Decode
import Courier.Proofs.Envelope.Materialize
import Courier.Proofs.Settings.Backoff
import Courier.Proofs.Tasks.Atomic
import Courier.Proofs.Bus.Steps
import Courier.Proofs.Bus.Dispatch
import Courier.Proofs.Tasks.Protocol
import Courier.Proofs.Tasks.Pool
import Courier.Proofs.Bus.Changes
import Courier.Proofs.Bus.Specs
import Courier.Proofs.Bus.Resolving
import Courier.Proofs.Bus.Publishers
import Courier.Proofs.Bus.Jobs
import Courier.Proofs.Bus.Subscribing
import Courier.Proofs.Bus.Provisioning
import Courier.Proofs.Bus.Shutdown
import Courier.Proofs.Bus.Draining
import Courier.Proofs.Bus.Caching
import Courier.Proofs.Bus.Racing
import Courier.Proofs.Bus.Reservations
import Courier.Proofs.Bus.Owning
import Courier.Proofs.Bus.Admission
import Courier.Proofs.Bus.Passing
import Courier.Proofs.Bus.Closing
import Courier.Proofs.Bus.Outbound
import Courier.Proofs.Bus.Sending
