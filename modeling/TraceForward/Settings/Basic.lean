/-
The settings of the relay and the bounds they have to keep.
-/

import TraceForward.Fault
import TraceForward.Settings.Broker

namespace TraceForward

structure Settings where
  pollPeriodMs : Nat := Limits.defaultPollPeriodMs
  mtu : Nat := Limits.defaultMtu
  stopTimeoutMs : Nat := Limits.defaultStopTimeoutMs
  /-- How long the last cycle of a session retries on a full queue. -/
  finalFlushMs : Nat := Limits.defaultFinalFlushMs
  /-- How long one wait for delivery reports may take on a full queue. -/
  queueFullPumpMs : Nat := Limits.defaultQueueFullPumpMs
  flushMs : Nat := Limits.defaultFlushMs
  registryBuckets : Nat := Limits.defaultRegistryBuckets
  broker : BrokerSettings := {}
deriving DecidableEq, Repr

inductive Setting where
  | pollPeriod
  | mtu
  | stopTimeout
  | finalFlush
  | queueFullPump
  | flush
  | registryBuckets
deriving DecidableEq, Repr

namespace Setting

def all : List Setting :=
  [.pollPeriod, .mtu, .stopTimeout, .finalFlush, .queueFullPump, .flush, .registryBuckets]

def name : Setting → String
  | .pollPeriod => "poll_period_ms"
  | .mtu => "mtu"
  | .stopTimeout => "stop_timeout_ms"
  | .finalFlush => "final_flush_timeout_ms"
  | .queueFullPump => "queue_full_pump_ms"
  | .flush => "flush_timeout_ms"
  | .registryBuckets => "registry_buckets"

def value (settings : Settings) : Setting → Nat
  | .pollPeriod => settings.pollPeriodMs
  | .mtu => settings.mtu
  | .stopTimeout => settings.stopTimeoutMs
  | .finalFlush => settings.finalFlushMs
  | .queueFullPump => settings.queueFullPumpMs
  | .flush => settings.flushMs
  | .registryBuckets => settings.registryBuckets

def set (settings : Settings) (value : Nat) : Setting → Settings
  | .pollPeriod => { settings with pollPeriodMs := value }
  | .mtu => { settings with mtu := value }
  | .stopTimeout => { settings with stopTimeoutMs := value }
  | .finalFlush => { settings with finalFlushMs := value }
  | .queueFullPump => { settings with queueFullPumpMs := value }
  | .flush => { settings with flushMs := value }
  | .registryBuckets => { settings with registryBuckets := value }

/-- A setting has the value that it was given, and the others have kept
theirs. -/
theorem value_set (settings : Settings) (number : Nat) (changed setting : Setting) :
    setting.value (changed.set settings number) =
      if setting = changed then number else setting.value settings := by
  cases changed <;> cases setting <;> rfl

end Setting

namespace Settings

/-- Whether a number is a power of two: positive, and sharing no bit with the
number below it. -/
def isPowerOfTwo (value : Nat) : Bool :=
  value != 0 && value &&& (value - 1) == 0

inductive Violation where
  | pollPeriod (milliseconds : Nat)
  | mtu (bytes : Nat)
  | stopTimeout (milliseconds : Nat)
  | queueFullPump
  | registryBuckets (count : Nat)
deriving DecidableEq, Repr

def Violation.message : Violation → String
  | .pollPeriod milliseconds =>
      s!"{Setting.pollPeriod.name} must be within {Limits.minPollPeriodMs}"
        ++ s!"..={Limits.maxPollPeriodMs}, got {milliseconds}"
  | .mtu bytes => s!"{Setting.mtu.name} must be at least {Limits.minMtu} bytes, got {bytes}"
  | .stopTimeout milliseconds =>
      s!"{Setting.stopTimeout.name} must be at least {Limits.minStopTimeoutMs}, got {milliseconds}"
  | .queueFullPump => s!"{Setting.queueFullPump.name} must be positive"
  | .registryBuckets count => s!"{Setting.registryBuckets.name} must be a power of two, got {count}"

/-- The first setting out of its bounds, in the order of the fields. -/
def violation? (settings : Settings) : Option Violation :=
  if settings.pollPeriodMs < Limits.minPollPeriodMs
      ∨ Limits.maxPollPeriodMs < settings.pollPeriodMs then
    some (.pollPeriod settings.pollPeriodMs)
  else if settings.mtu < Limits.minMtu then
    some (.mtu settings.mtu)
  else if settings.stopTimeoutMs < Limits.minStopTimeoutMs then
    some (.stopTimeout settings.stopTimeoutMs)
  else if settings.queueFullPumpMs = 0 then
    some .queueFullPump
  else if isPowerOfTwo settings.registryBuckets = false then
    some (.registryBuckets settings.registryBuckets)
  else
    none

def validate (settings : Settings) : Except Fault Unit :=
  match settings.violation? with
  | none => .ok ()
  | some violation => .error (.invalidSetting violation.message)

/-- The broker settings, with the producer sized for the frames of these
settings. -/
def sizedBroker (settings : Settings) : BrokerSettings :=
  { settings.broker with mtu := settings.mtu }

end Settings

end TraceForward
