/-
The daemon from its start to its end.

Everything that can fail is set up before anything runs, in a fixed order: the
settings, the PID file, the broker clients, the interpreter, the guest's
socket.  Then the loop, the guest forwarder and the courier run until the
interpreter closes its output or a shutdown is requested.  The PID file is
given up on every way out.
-/

import TraceForward.Daemon.Courier
import TraceForward.Daemon.Interpreter
import TraceForward.Daemon.Options
import TraceForward.Daemon.PidFile
import TraceForward.Guest.Stream

namespace TraceForward

structure DaemonSummary where
  exit : BridgeExit
  relay : BridgeStats := {}
  consumed : Nat := 0
  guestBuffers : Nat := 0
  status : Option Int := none
  publisher : PublisherStats := {}
deriving DecidableEq, Repr

/-- The exit code of the daemon: that of an interpreter that exited by itself,
in its lowest byte; a requested shutdown is clean. -/
def DaemonSummary.exitCode (summary : DaemonSummary) : Nat :=
  match summary.exit, summary.status with
  | .shutdown, _ => 0
  | .interpreterExited, some code => (code % 256).toNat
  | .interpreterExited, none => 1

namespace BrokerSettings

def checkServers (settings : BrokerSettings) : Except Fault Unit :=
  if settings.isConfigured then .ok () else .error (.invalidSetting "bootstrap.servers is empty")

end BrokerSettings

namespace Service

def checkOptions (options : DaemonOptions) : Except Fault Unit :=
  match options.settings.validate with
  | .error fault => .error fault
  | .ok () =>
      if options.guestSocket.isSome && options.output.isNone then
        .error (.invalidSetting "guest buffers need an output topic")
      else .ok ()

def connectGuest (files : Files) (path : String) (limit : Nat) : Except Fault GuestStream :=
  match files.connect path with
  | .ok stream => .ok (GuestStream.create limit stream)
  | .error fault => .error (.io s!"{path}: {fault.message}")

structure Parts where
  call : Call
  guest : Option GuestStream := none

def setUp (options : DaemonOptions) (files : Files) : Except Fault Parts :=
  match options.settings.sizedBroker.checkServers with
  | .error fault => .error fault
  | .ok () =>
      match
        Interpreter.call files options.interpreter options.script options.scriptArguments
      with
      | .error fault => .error fault
      | .ok call =>
          match options.guestSocket with
          | none => .ok { call }
          | some path =>
              match connectGuest files path options.settings.mtu with
              | .ok guest => .ok { call, guest := some guest }
              | .error fault => .error fault

def countedBuffers (forwarded : Option Forwarded) : Nat :=
  match forwarded with
  | some { result := .ok buffers, .. } => buffers
  | _ => 0

/-- A broker client whose brokers are out of reach: it queues every message
and delivers none. -/
def unreachableBroker : ScriptedBroker :=
  { pumpLimit := some 0, flushFails := true }

def publishAll? (settings : Settings) (topic : Topic) (broker : ScriptedBroker)
    (frames : List Frame) : Option PublisherStats :=
  let courier : Courier ScriptedBroker :=
    { publisher := { broker, topic, pumpMs := settings.queueFullPumpMs }
      flushMs := settings.flushMs, queue := frames, sendersGone := true }
  courier.finish?.map fun courier => courier.publisher.stats

structure Outcome where
  result : Except Fault DaemonSummary
  echo : Bytes := []
  files : Files

/-- How the daemon attends to its interpreter: nothing arrives on the input
topic, which stays open, and a requested shutdown ends the interpreter. -/
def terms (options : DaemonOptions) : Interpreter.Terms :=
  { outlet := if options.output.isSome then .publisher true else .echo
    isInputClosed := false
    isStopped := fun ended => !(ended matches .ok .interpreterExited)
    waitMs := Limits.decommissionMs }

/-- Runs what was set up.  The guest's stream is forwarded as far as it
goes. -/
def serve? (programs : Programs) (options : DaemonOptions) (files : Files) (parts : Parts) :
    Option Outcome := do
  let { bridge, status, files } ←
    Interpreter.run? programs files parts.call (terms options)
  let forwarded := parts.guest.map fun guest => guest.forward false true
  let frames := bridge.sent ++ (forwarded.map Forwarded.frames).getD []
  let publisher ←
    match options.output with
    | none => some {}
    | some topic => publishAll? options.settings topic unreachableBroker frames
  let ended ← bridge.ended
  let summary (exit : BridgeExit) : DaemonSummary :=
    { exit
      relay := bridge.totals
      guestBuffers := countedBuffers forwarded
      status := (status.bind ExitStatus.code?).map Int.ofNat
      publisher }
  return { result := ended.map summary, echo := bridge.echo, files }

/-- Runs the daemon to its end, unless its interpreter does not seem to
end. -/
def run? (programs : Programs) (options : DaemonOptions) (files : Files) (pid : Nat) :
    Option Outcome :=
  match checkOptions options with
  | .error fault => some { result := .error fault, files }
  | .ok () =>
      match PidFile.acquire files options.pidFile pid with
      | (.error fault, files) => some { result := .error fault, files }
      | (.ok pidFile, files) =>
          match setUp options files with
          | .error fault => some { result := .error fault, files := pidFile.release files }
          | .ok parts =>
              (serve? programs options files parts).map fun outcome =>
                { outcome with files := pidFile.release outcome.files }

end Service

end TraceForward
