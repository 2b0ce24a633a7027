/-
Starting the daemon from a command line.

A command line that cannot be read ends with an exit code of its own, one that
only asks for help or for the version ends well, and a daemon that cannot be
set up says why.  Otherwise the exit code is the daemon's.
-/

import TraceForward.CommandLine.Scan
import TraceForward.Daemon.Service

namespace TraceForward

namespace Scan

def broker (scan : Scan) : BrokerSettings :=
  { servers := (scan.value? .brokers).getD Limits.defaultServers
    security :=
      Security.ofParts (scan.value? .authority) (scan.value? .certificate) (scan.value? .key)
        (scan.value? .password)
    startOffset := if scan.isGiven .fromBeginning then .beginning else .stored }

/-- The options that a command line asks for, unless a topic is none. -/
def options (scan : Scan) : Except Fault DaemonOptions := do
  let input ← Topic.ofName ((scan.value? .input).getD "")
  let output ←
    match scan.value? .output with
    | none => pure none
    | some name => (Topic.ofName name).map some
  return {
    settings := { broker := scan.broker }
    input
    output
    interpreter := (scan.value? .interpreter).getD Limits.defaultInterpreter
    script := (scan.value? .script).getD ""
    scriptArguments := scan.arguments
    consumerPollUs := ((scan.value? .poll).bind number?).getD Limits.defaultConsumerPollUs
    pidFile := (scan.value? .pidFile).getD Limits.defaultPidFile
    guestSocket := scan.value? .guestSocket }

end Scan

inductive Start where
  | usage (error : UsageError)
  | failed (fault : Fault) (echo : Bytes)
  | finished (summary : DaemonSummary) (echo : Bytes)

namespace Start

/-- The exit code of a usage error; to be told how to use it is none. -/
def usageCode : UsageError → Nat
  | .help | .version => 0
  | _ => 2

def exitCode : Start → Nat
  | .usage error => usageCode error
  | .failed _ _ => 1
  | .finished summary _ => summary.exitCode

def failure? : Start → Option String
  | .failed fault _ => some s!"Setup failed error={fault.message}"
  | _ => none

def report (start : Start) : List Bytes :=
  match start.failure? with
  | none => []
  | some text => (LineReader.feed {} (Bytes.ofText (text ++ "\n"))).1

/-- What is written to the output: the version if it was asked for, or what
the daemon copied. -/
def echo : Start → Bytes
  | .usage .version => Bytes.ofText (Limits.programVersion ++ "\n")
  | .usage _ => []
  | .failed _ echo => echo
  | .finished _ echo => echo

/-- The lines of the output.  A report has its first line among what is logged,
and its other lines here. -/
def printed (start : Start) : List Bytes :=
  (LineReader.feed {} start.echo).1 ++ start.report.drop 1

/-- Reads the words of a command line and runs the daemon, unless its
interpreter does not seem to end. -/
def ofWords? (programs : Programs) (words : List String) (files : Files) (pid : Nat) :
    Option Start :=
  match ({} : Scan).run words with
  | .error error => some (.usage error)
  | .ok scan =>
      match scan.options with
      | .error fault => some (.failed fault [])
      | .ok options =>
          (Service.run? programs options files pid).map fun outcome =>
            match outcome.result with
            | .ok summary => .finished summary outcome.echo
            | .error fault => .failed fault outcome.echo

end Start

end TraceForward
