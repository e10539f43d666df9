import TelemetryExport.Main
import TelemetryExport.Frame.FaultySink
import TelemetryExport.Proofs.Binary.Exact
import TelemetryExport.Proofs.Payload.RoundTrip
import TelemetryExport.Proofs.Frame.Obliging
import TelemetryExport.Proofs.Frame.Stream
import TelemetryExport.Proofs.Server.Exchange
import TelemetryExport.Proofs.Server.Slots
import TelemetryExport.Proofs.Server.Worker
import TelemetryExport.Proofs.Store.Cell
import TelemetryExport.Proofs.Store.Newest
import TelemetryExport.Proofs.Store.Filling
import TelemetryExport.Proofs.Delivery
import TelemetryExport.Proofs.Binary.Values
import TelemetryExport.Proofs.Payload.Accepted
import TelemetryExport.Proofs.Store.Numbering
import TelemetryExport.Proofs.Store.Selection
import TelemetryExport.Proofs.Store.Range
import TelemetryExport.Proofs.Server.Isolation
import TelemetryExport.Proofs.Decimal.Digits
import TelemetryExport.Proofs.Calendar.Moment
import TelemetryExport.Proofs.Store.Instant
import TelemetryExport.Proofs.Store.Observations
import TelemetryExport.Proofs.Store.Growth
import TelemetryExport.Proofs.Store.RoundTrip
import TelemetryExport.Proofs.Settings.Survival
import TelemetryExport.Proofs.Store.Faults
import TelemetryExport.Proofs.Store.Repetition
import TelemetryExport.Proofs.Frame.Damage
import TelemetryExport.Proofs.Frame.Wire
import TelemetryExport.Proofs.Frame.Pieces
import TelemetryExport.Proofs.Payload.Refusal
import TelemetryExport.Proofs.Server.Logging
import TelemetryExport.Proofs.Instant.Moved
import TelemetryExport.Proofs.Seed.Start
import TelemetryExport.Proofs.Seed.Steps
import TelemetryExport.Proofs.Seed.Readings
import TelemetryExport.Proofs.Toml.Keys
import TelemetryExport.Proofs.Log
import TelemetryExport.Proofs.Settings.Filling
import TelemetryExport.Proofs.Store.Appending
import TelemetryExport.Proofs.Settings.Documents
import TelemetryExport.Proofs.Store.Devices
import TelemetryExport.Proofs.CommandLine.Placement
import TelemetryExport.Proofs.CommandLine.Values
