/-
The worker of a session, step by step.

The worker publishes the descriptor tables, then runs cycles of harvesting and
publishing until it finds the exit flag set when a cycle begins.  That cycle is
the final one; after it the producer is flushed and the worker ends.  Frames
that an earlier cycle could not publish before the flag was set lead the batch
of the final cycle.

A step is what the worker does between two moments at which others may act:
one call of the broker, one look at a flag, or one visit to a unit.
-/

import TraceForward.Session.Basic

namespace TraceForward

/-- What a step of a worker finds outside the session. -/
structure Moment where
  now : Nat := 0
  /-- Whether the deadline of the final cycle has passed. -/
  late : Bool := false
  settings : Settings := {}

namespace Session

variable {Client : Type} [BrokerClient Client]

def failExport (session : Session Client) (fault : Fault) (moment : Moment) :
    Session Client :=
  { session with
    fault := some fault, exit := true, phase := .waiting, settings := moment.settings }

def offerDescriptor (session : Session Client) (moment : Moment) (done : ExportSummary)
    (next : Descriptor) (rest : List Descriptor) : Session Client :=
  match session.publisher.offer next.frame.message with
  | (.accepted, publisher) =>
      { session with publisher, phase := .exporting (done.count next) rest }
  | (.queueFull, publisher) => { session with publisher, phase := .exportBlocked done next rest }
  | (.fatal reason, publisher) =>
      { session with publisher }.failExport (next.rejectedFault reason) moment

/-- Visits the next unit, or ends the harvest when there is none left: its
frames follow those carried over. -/
def harvestStep (session : Session Client) (moment : Moment) (final : Bool)
    (position : Nat) (frames : List Frame) : Session Client :=
  if position < session.harvester.units.length then
    let (more, harvester) := session.harvester.harvestUnit position
    { session with harvester, phase := .harvesting final (position + 1) (frames ++ more) }
  else
    { session with
      harvester := session.harvester.finishCycle moment.now
      finalCycles := session.finalCycles + (if final then 1 else 0)
      carried := []
      phase := .publishing final (.offering (session.carried ++ frames)) }

/-- Ends a cycle that is not the final one.  What was not taken is carried
over, and a fault of the harvester stops the session. -/
def endCycle (session : Session Client) (moment : Moment) (pending : List Frame) :
    Session Client :=
  let next :=
    { session with
      carried := pending, lifecycle := .running, phase := .waiting
      settings := moment.settings }
  match session.fault, session.harvester.fault with
  | none, some fault => { next with fault := some fault, exit := true }
  | _, _ => next

/-- Serves the delivery reports that are there and ends the cycle.  The final
cycle gives up what was not taken. -/
def settle (session : Session Client) (moment : Moment) (final : Bool)
    (pending : List Frame) : Session Client :=
  let publisher := session.publisher.pumpReports.2
  if final then
    { session with
      publisher := publisher.abandon pending.length
      lifecycle := .stopping, phase := .flushing }
  else
    { session with publisher }.endCycle moment pending

def step (session : Session Client) (moment : Moment) : Session Client :=
  match session.phase with
  | .starting => { session with phase := .exporting {} session.catalog.descriptors }
  | .exporting done [] =>
      { session with metadata := some done, phase := .waiting, settings := moment.settings }
  | .exporting done (next :: rest) => session.offerDescriptor moment done next rest
  | .exportBlocked done next rest =>
      if session.exit then
        { session with publisher := session.publisher.abandon 1 }.failExport
          next.stoppedFault moment
      else
        { session with phase := .exporting done (next :: rest) }
  | .waiting => { session with lifecycle := .draining, phase := .harvesting session.exit 0 [] }
  | .harvesting final position frames => session.harvestStep moment final position frames
  | .publishing final (.ended pending) => session.settle moment final pending
  | .publishing final batch =>
      let (batch, publisher) :=
        batch.step session.publisher (if final then moment.late else session.exit)
      { session with publisher, phase := .publishing final batch }
  | .flushing =>
      { session with
        publisher := (session.publisher.flush moment.settings.flushMs).2
        lifecycle := .stopped, phase := .finished }
  | .finished => session

end Session

inductive SessionEvent where
  | work (moment : Moment)
  | write (unit : Nat) (record : Bytes)
  | recordError (unit : Nat)
  | armFailedSwitch (unit : Nat)
  | armForeignDrain (unit : Nat)
  | addFormat (format : String)
  | addClause (clause : Option Clause)
  | requestStop

namespace Session

variable {Client : Type} [BrokerClient Client]

/-- The session after an event.  A stop cannot be requested while the worker
holds the lock. -/
def after? (session : Session Client) : SessionEvent → Option (Session Client)
  | .work moment => some (session.step moment)
  | .write unit record =>
      some (session.modifyUnit unit fun pair => (pair.write record).2)
  | .recordError unit => some (session.modifyUnit unit BufferPair.recordError)
  | .armFailedSwitch unit => some (session.modifyUnit unit BufferPair.armFailedSwitch)
  | .armForeignDrain unit => some (session.modifyUnit unit BufferPair.armForeignDrain)
  | .addFormat format => some { session with catalog := (session.catalog.addFormat format).2 }
  | .addClause clause => some { session with catalog := (session.catalog.addClause clause).2 }
  | .requestStop => if session.lockHeld then none else some session.requestStop

/-- The session after a row of events, if all of them can happen. -/
def run? (session : Session Client) : List SessionEvent → Option (Session Client)
  | [] => some session
  | event :: rest => session.after? event >>= fun session => session.run? rest

end Session

end TraceForward
