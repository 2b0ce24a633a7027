import TraceForward.Daemon.Intake
import TraceForward.Main
import TraceForward.Session.Host
import TraceForward.Proofs.Delivery.Recorded
import TraceForward.Proofs.Session.Transcript
import TraceForward.Proofs.Framing.Cut
import TraceForward.Proofs.Harvest.Unit
import TraceForward.Proofs.Session.Flow
import TraceForward.Proofs.Catalog.Descriptors
import TraceForward.Proofs.Session.Export
import TraceForward.Proofs.Session.Opening
import TraceForward.Proofs.Session.Accounts
import TraceForward.Proofs.Session.Stop
import TraceForward.Proofs.Catalog.Records
import TraceForward.Proofs.Session.Integrity
import TraceForward.Proofs.Harvest.Interleaving
import TraceForward.Proofs.Registry.HandleMap
import TraceForward.Session.SharedHost
import TraceForward.Proofs.Registry.History
import TraceForward.Proofs.Registry.Atomic
import TraceForward.Proofs.Registry.Calls
import TraceForward.Proofs.Registry.StopAll
import TraceForward.Proofs.Registry.Refinement
import TraceForward.Proofs.Catalog.Decoding
import TraceForward.Proofs.Session.Offers
import TraceForward.Proofs.Session.Limits
import TraceForward.Proofs.Registry.Origins
import TraceForward.Proofs.Catalog.Growth
import TraceForward.Proofs.Session.Described
import TraceForward.Proofs.Delivery.Splitting
import TraceForward.Proofs.Harvest.Cycles
import TraceForward.Proofs.Daemon.Instances
import TraceForward.Proofs.Daemon.Backpressure
import TraceForward.Proofs.Daemon.Lines
import TraceForward.Proofs.Runs
import TraceForward.Proofs.Framing.Messages
import TraceForward.Proofs.Daemon.Rendering
import TraceForward.Proofs.Daemon.Listening
import TraceForward.Proofs.Delivery.Tries
import TraceForward.Proofs.Daemon.Posting
import TraceForward.Proofs.Daemon.Outflow
import TraceForward.Proofs.Daemon.Inflow
import TraceForward.Proofs.Framing.Boundaries
import TraceForward.Proofs.Session.Readers
import TraceForward.Proofs.Catalog.Exported
import TraceForward.Proofs.Session.Joining
import TraceForward.Proofs.Delivery.Partition
import TraceForward.Proofs.Harvest.Handover
import TraceForward.Proofs.Registry.Verdicts
import TraceForward.Proofs.Framing.Grammar
import TraceForward.Proofs.Text.Utf8
import TraceForward.Proofs.Daemon.Verbatim
import TraceForward.Proofs.Guest.Forwarded
import TraceForward.Proofs.Daemon.Serving
import TraceForward.Proofs.Framing.Packing
import TraceForward.Proofs.Catalog.Views
import TraceForward.Proofs.Catalog.Announcing
import TraceForward.Proofs.Settings.Sizing
