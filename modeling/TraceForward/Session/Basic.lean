/-
Trace sessions.

A session owns the units that its producers write to and the publisher that
its frames leave through.  The exit flag, the lifecycle and the units are only
read and changed by whoever holds the session's lock; the rest belongs to the
session's worker.
-/

import TraceForward.Catalog.Export
import TraceForward.Delivery.Batch
import TraceForward.Harvest
import TraceForward.Settings.Basic

namespace TraceForward

/-- What the worker of a session is about, as others see it. -/
inductive Lifecycle where
  | running
  | draining
  | stopping
  | stopped
deriving DecidableEq, Repr

def Lifecycle.name : Lifecycle → String
  | .running => "Running"
  | .draining => "Draining"
  | .stopping => "Stopping"
  | .stopped => "Stopped"

/-- Where the worker of a session stands. -/
inductive Phase where
  | starting
  | exporting (done : ExportSummary) (rest : List Descriptor)
  | exportBlocked (done : ExportSummary) (next : Descriptor) (rest : List Descriptor)
  | waiting
  /-- About to visit the unit at a position, with the session's lock held. -/
  | harvesting (final : Bool) (position : Nat) (frames : List Frame)
  | publishing (final : Bool) (batch : Batch)
  | flushing
  | finished
deriving DecidableEq, Repr

structure Session (Client : Type) where
  handle : Handle
  owner : Nat
  exit : Bool := false
  lifecycle : Lifecycle := .running
  harvester : Harvester
  catalog : Catalog
  publisher : Publisher Client
  /-- The settings that the worker read before it last began to wait. -/
  settings : Settings
  phase : Phase := .starting
  /-- Frames of earlier cycles that were not taken, in order. -/
  carried : List Frame := []
  metadata : Option ExportSummary := none
  /-- Cycles begun after the exit flag was seen. -/
  finalCycles : Nat := 0
  fault : Option Fault := none

structure SessionResources (Client : Type := ScriptedBroker) where
  owner : Nat := 0
  units : List BufferPair
  catalog : Catalog
  broker : Client
  topic : Topic

def SessionResources.display {Client : Type} (resources : SessionResources Client) : String :=
  Quoted.record "SessionResources"
    [("owner", toString resources.owner), ("units", toString resources.units.length),
      ("topic", Quoted.wrapped "Topic" (Quoted.text resources.topic.name))]

structure SessionReport where
  harvest : HarvestStats
  publisher : PublisherStats
  metadata : Option ExportSummary
  finalCycles : Nat
  fault : Option Fault
deriving DecidableEq, Repr

namespace Session

variable {Client : Type}

/-- A session over the resources, whose worker has not begun.  Every record has
to fit a frame, and every unit has to be a switch buffer. -/
def ofResources (settings : Settings) (handle : Handle) (resources : SessionResources Client) :
    Except Fault (Session Client) := do
  resources.catalog.checkMtu settings.mtu
  let harvester ←
    Harvester.create resources.units resources.catalog.sizeTable settings.mtu
  return {
    handle
    owner := resources.owner
    harvester
    catalog := resources.catalog
    settings
    publisher :=
      { broker := resources.broker, topic := resources.topic,
        pumpMs := settings.queueFullPumpMs } }

/-- Whether the worker holds the session's lock. -/
def lockHeld (session : Session Client) : Bool :=
  match session.phase with
  | .harvesting .. => true
  | _ => false

def requestStop (session : Session Client) : Session Client :=
  { session with exit := true }

def report (session : Session Client) : SessionReport :=
  { harvest := session.harvester.stats
    publisher := session.publisher.stats
    metadata := session.metadata
    finalCycles := session.finalCycles
    fault := session.fault }

def modifyUnit (session : Session Client) (position : Nat)
    (change : BufferPair → BufferPair) : Session Client :=
  { session with harvester := session.harvester.modifyUnit position change }

end Session

end TraceForward
