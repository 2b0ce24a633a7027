/-
Publishing the descriptor tables.

The descriptors go out one after the other.  The first that is not taken ends
the export, and the fault names its kind.
-/

import TraceForward.Catalog.Descriptor
import TraceForward.Delivery.Publisher

namespace TraceForward

structure ExportSummary where
  formats : Nat := 0
  probes : Nat := 0
  clauses : Nat := 0
deriving DecidableEq, Repr

namespace ExportSummary

def count (summary : ExportSummary) : Descriptor → ExportSummary
  | .format .. => { summary with formats := summary.formats + 1 }
  | .probe .. => { summary with probes := summary.probes + 1 }
  | .clause .. => { summary with clauses := summary.clauses + 1 }

def fields (summary : ExportSummary) : List (String × Nat) :=
  [("formats", summary.formats), ("probes", summary.probes), ("eprobes", summary.clauses)]

end ExportSummary

namespace Descriptor

/-- The fault of an export whose signal fired on a full queue. -/
def stoppedFault (descriptor : Descriptor) : Fault :=
  .metadataExport
    s!"stopped while the delivery queue was full ({descriptor.kind.key} descriptor)"

def rejectedFault (descriptor : Descriptor) (reason : String) : Fault :=
  .metadataExport s!"{descriptor.kind.key} descriptor rejected: {reason}"

end Descriptor

namespace Publisher

variable {Client : Type} [BrokerClient Client]

/-- Publishes descriptors in order; `summary` counts those before them.  A
descriptor given up for the signal counts as abandoned. -/
def exportFrom (tries : Nat) (summary : ExportSummary) :
    List Descriptor → Publisher Client → StopSignal →
      Option (Except Fault ExportSummary × Publisher Client)
  | [], publisher, _ => some (.ok summary, publisher)
  | descriptor :: rest, publisher, stop => do
      let (outcome, publisher, stop) ← publisher.publish descriptor.frame.message stop tries
      match outcome with
      | .enqueued _ => exportFrom tries (summary.count descriptor) rest publisher stop
      | .retry => some (.error descriptor.stoppedFault, publisher.abandon 1)
      | .fatal reason => some (.error (descriptor.rejectedFault reason), publisher)

/-- Publishes the descriptors of the tables, each with at most `tries` tries. -/
def exportCatalog (publisher : Publisher Client) (catalog : Catalog) (stop : StopSignal)
    (tries : Nat) : Option (Except Fault ExportSummary × Publisher Client) :=
  exportFrom tries {} catalog.descriptors publisher stop

end Publisher

end TraceForward
