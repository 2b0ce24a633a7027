/-
Opening and closing sessions.

The host registers sessions, gives their workers time to run, and stops them.
A worker runs until it can do nothing by itself: until it waits for its poll
period, waits for a broker that does not answer, meets a queue that stays full
with nobody asking it to stop, or has ended.
-/

import TraceForward.Session.Table
import TraceForward.Session.Worker
import TraceForward.Settings.Live

namespace TraceForward

structure HostedSession where
  session : Session ScriptedBroker
  stalled : Bool := false
  /-- The broker's queue is emptied as soon as the session is asked to stop. -/
  recoverOnStop : Bool := false

namespace HostedSession

def modifyBroker (hosted : HostedSession) (change : ScriptedBroker → ScriptedBroker) :
    HostedSession :=
  let session := hosted.session
  { hosted with
    session :=
      { session with
        publisher := { session.publisher with broker := change session.publisher.broker } } }

def broker (hosted : HostedSession) : ScriptedBroker :=
  hosted.session.publisher.broker

def isQuiet (hosted : HostedSession) (late : Bool) : Bool :=
  let session := hosted.session
  match session.phase with
  | .finished => true
  | .waiting => !session.exit
  | .exporting _ (_ :: _) | .publishing _ (.offering (_ :: _)) => hosted.stalled
  | .exportBlocked .. => hosted.broker.isJammed && !session.exit
  | .publishing final (.blocked ..) =>
      hosted.broker.isJammed && !(if final then late else session.exit)
  | _ => false

def advance (hosted : HostedSession) (moment : Moment) : HostedSession :=
  let ready :=
    if hosted.recoverOnStop && hosted.session.exit then
      hosted.modifyBroker fun broker => { broker with fallback := .accepted }
    else
      hosted
  { ready with session := ready.session.step moment }

/-- Steps until the worker is quiet, at most the given number of them. -/
def advanceWithin (moment : Moment) : Nat → HostedSession → HostedSession
  | 0, hosted => hosted
  | steps + 1, hosted =>
      if hosted.isQuiet moment.late then hosted
      else advanceWithin moment steps (hosted.advance moment)

def workload (session : Session ScriptedBroker) : Nat :=
  match session.phase with
  | .exporting _ rest | .exportBlocked _ _ rest => rest.length
  | .harvesting _ _ frames => frames.length
  | .publishing _ batch => batch.frames.length
  | _ => 0

/-- More steps than the worker takes before it is quiet: every message costs
two at most, so does every scripted answer, and there are no more frames than
bytes. -/
def stepBound (hosted : HostedSession) : Nat :=
  let session := hosted.session
  let units := session.harvester.units
  let messages :=
    workload session + session.catalog.descriptors.length + session.carried.length
      + (units.flatMap fun unit => unit.front.data ++ unit.back.data).length
  8 * (hosted.broker.script.length + messages + units.length + 8)

def run (hosted : HostedSession) (settings : Settings) (late : Bool := false) : HostedSession :=
  let deadlinePassed := late || hosted.session.settings.finalFlushMs == 0
  advanceWithin { late := deadlinePassed, settings } hosted.stepBound hosted

/-- The poll period passes once: a worker that waits runs another cycle. -/
def pollPeriod (hosted : HostedSession) (settings : Settings) : HostedSession :=
  let rested := hosted.run settings
  match rested.session.phase with
  | .waiting => (rested.advance { settings }).run settings
  | _ => rested

/-- Poll periods pass until the broker has accepted `count` messages, at most
the given number of them. -/
def pollUntil (settings : Settings) (count : Nat) : Nat → HostedSession → HostedSession
  | 0, hosted => hosted
  | periods + 1, hosted =>
      if count ≤ hosted.broker.accepted.length then hosted
      else pollUntil settings count periods (hosted.pollPeriod settings)

/-- The worker is asked to stop and runs.  A queue that stays full holds it up
to the deadline of its final cycle, which passes if `patienceMs` is longer. -/
def stop (hosted : HostedSession) (settings : Settings) (patienceMs : Nat) : HostedSession :=
  let asked := { hosted with session := hosted.session.requestStop }
  let rested := asked.run settings
  match rested.session.phase with
  | .publishing true (.blocked ..) =>
      if rested.session.settings.finalFlushMs < patienceMs then rested.run settings true
      else rested
  | _ => rested

def hasEnded (hosted : HostedSession) : Bool :=
  hosted.session.phase == .finished

end HostedSession

/-- Every session that was opened, and the table of those that are
registered. -/
structure Host where
  live : LiveSettings
  table : HandleTable Nat
  /-- The sessions in the order they were opened; the table holds positions. -/
  sessions : List HostedSession := []

namespace Host

/-- A host without sessions, for settings that keep their bounds.  Handles are
spread over its buckets by the given hash. -/
def createWith (hash : Handle → Nat) (settings : Settings) : Except Fault Host :=
  match settings.validate with
  | .error fault => .error fault
  | .ok () =>
      .ok
        { live := { current := settings }
          table := HandleTable.create hash settings.registryBuckets }

def create (settings : Settings) : Except Fault Host :=
  createWith Handle.hash settings

/-- The checks of an open under the given settings: the handle is free, every
record fits a frame, and every unit is a switch buffer. -/
def prepare (host : Host) (settings : Settings) (handle : Handle)
    (resources : SessionResources) : Except Fault (Session ScriptedBroker) := do
  if host.table.contains handle then
    throw (.alreadyOpen handle)
  Session.ofResources settings handle resources

/-- Opens a session under the given settings and starts its worker; gives its
position. -/
def register (host : Host) (settings : Settings) (handle : Handle)
    (resources : SessionResources) : Except Fault (Nat × Host) := do
  let session ← host.prepare settings handle resources
  let slot := host.sessions.length
  return (slot,
    { host with
      table := host.table.insert handle slot
      sessions := host.sessions ++ [{ session }] })

def openSession (host : Host) (handle : Handle) (resources : SessionResources) :
    Except Fault (Nat × Host) :=
  host.register host.live.current handle resources

/-- Takes the session of a handle out of the table; gives its position. -/
def withdraw (host : Host) (handle : Handle) : Option (Nat × Host) :=
  (host.table.unlink handle).map fun (slot, table) => (slot, { host with table })

def modifySession (host : Host) (slot : Nat) (change : HostedSession → HostedSession) :
    Host :=
  { host with sessions := host.sessions.modify slot change }

def runSession (host : Host) (slot : Nat) : Host :=
  host.modifySession slot fun hosted => hosted.run host.live.current

def find? (host : Host) (handle : Handle) : Option HostedSession :=
  (host.table.find? handle).bind fun slot => host.sessions[slot]?

/-- Closes a session: it is taken out of the table, asked to stop, and waited
for.  A worker that does not end within the stop timeout is left behind. -/
def close (host : Host) (handle : Handle) : Except Fault SessionReport × Host :=
  match host.withdraw handle with
  | none => (.error (.unknownSession handle), host)
  | some (slot, host) =>
      let settings := host.live.current
      let stopped :=
        host.modifySession slot fun hosted =>
          hosted.stop settings settings.stopTimeoutMs
      match stopped.sessions[slot]? with
      | none => (.error (.unknownSession handle), stopped)
      | some hosted =>
          if hosted.hasEnded then
            (.ok hosted.session.report, stopped)
          else
            (.error (.stopTimeout handle settings.stopTimeoutMs), stopped)

/-- Closes the given handles in order.  One that is not registered is passed
over; a worker that does not end is fatal. -/
def closeEach : List Handle → Host → Except Fault (List (Handle × SessionReport)) × Host
  | [], host => (.ok [], host)
  | handle :: rest, host =>
      match host.close handle with
      | (.error (.unknownSession _), host) => closeEach rest host
      | (.error fault, host) => (.error fault, host)
      | (.ok report, host) =>
          let (later, host) := closeEach rest host
          (later.map ((handle, report) :: ·), host)

def stopAll (host : Host) : Except Fault (List (Handle × SessionReport)) × Host :=
  closeEach host.table.handles host

def display (host : Host) : String :=
  Quoted.record "SessionRegistry"
    [("buckets", toString host.table.buckets.length), ("sessions", toString host.table.size)]

end Host

end TraceForward
