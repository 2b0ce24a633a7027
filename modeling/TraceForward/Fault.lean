/-
Everything that can go wrong between a trace buffer and the broker.

A fault is its cause.  Its name, the wording, the severity it is reported with and
whether it turns down a session are functions of the cause.
-/

import TraceForward.Handle

namespace TraceForward

inductive Severity where
  | low
  | normal
  | high
deriving DecidableEq, Repr

namespace Severity

def name : Severity → String
  | .low => "low"
  | .normal => "normal"
  | .high => "high"

def rank : Severity → Nat
  | .low => 0
  | .normal => 1
  | .high => 2

end Severity

inductive Fault where
  | alreadyOpen (handle : Handle)
  | unknownSession (handle : Handle)
  | unsupportedPolicy (unit : Nat) (policy : String)
  | recordExceedsMtu (clause size mtu : Nat)
  | unknownRecordSize (clause offset : Nat)
  | truncatedRecord (offset needed available : Nat)
  | inconsistentSwap (unit : Nat)
  | metadataExport (reason : String)
  | broker (reason : String)
  | stopTimeout (handle : Handle) (milliseconds : Nat)
  | invalidSetting (reason : String)
  | pidFile (reason : String)
  | io (reason : String)
  | serialization (reason : String)
deriving DecidableEq, Repr

namespace Fault

def kind : Fault → String
  | .alreadyOpen .. => "AlreadyOpen"
  | .unknownSession .. => "UnknownSession"
  | .unsupportedPolicy .. => "UnsupportedBufferPolicy"
  | .recordExceedsMtu .. => "RecordExceedsMtu"
  | .unknownRecordSize .. => "UnknownRecordSize"
  | .truncatedRecord .. => "TruncatedRecord"
  | .inconsistentSwap .. => "InconsistentSwap"
  | .metadataExport .. => "MetadataExport"
  | .broker .. => "Broker"
  | .stopTimeout .. => "StopTimeout"
  | .invalidSetting .. => "InvalidConfig"
  | .pidFile .. => "PidFile"
  | .io .. => "Io"
  | .serialization .. => "Serialization"

def message : Fault → String
  | .alreadyOpen handle => s!"Session {handle.display} is already open"
  | .unknownSession handle => s!"Session {handle.display} is not registered"
  | .unsupportedPolicy unit policy =>
      s!"Buffer unit {unit} uses the {policy} policy; only switch is supported"
  | .recordExceedsMtu clause size mtu =>
      s!"Record size {size} for clause {clause} exceeds MTU {mtu}"
  | .unknownRecordSize clause offset =>
      s!"Unknown record size for clause {clause} at offset {offset}"
  | .truncatedRecord offset needed available =>
      s!"Truncated record at offset {offset}: needs {needed} bytes, {available} available"
  | .inconsistentSwap unit => s!"Buffer unit {unit} swapped inconsistently"
  | .metadataExport reason => s!"Metadata export failed: {reason}"
  | .broker reason => s!"Broker error: {reason}"
  | .stopTimeout handle milliseconds =>
      s!"Session {handle.display} worker did not stop within {milliseconds}ms"
  | .invalidSetting reason => s!"Invalid configuration: {reason}"
  | .pidFile reason => s!"PID file error: {reason}"
  | .io reason => s!"IO error: {reason}"
  | .serialization reason => s!"Serialization error: {reason}"

/-- Faults local to one cycle or one request are of normal severity; those
that stop a session or the process are of high severity. -/
def severity : Fault → Severity
  | .unknownRecordSize .. | .truncatedRecord .. | .inconsistentSwap .. => .normal
  | .alreadyOpen .. | .unknownSession .. => .normal
  | _ => .high

def publisherGone : Fault :=
  .broker "publisher thread stopped"

def rejectsOpen : Fault → Bool
  | .alreadyOpen .. | .unsupportedPolicy .. => true
  | .recordExceedsMtu .. | .invalidSetting .. => true
  | _ => false

end Fault

end TraceForward
