/-
The publisher of the daemon.

Frames come through a channel that several senders share.  Each cycle takes
what is in the channel, publishes it and serves delivery reports; a frame that
meets a full queue after the shutdown flag was set is given up, and so are
those behind it.  When every sender is gone and the channel is empty, the
producer is flushed once and the courier ends.
-/

import TraceForward.Delivery.Batch

namespace TraceForward

inductive CourierPhase where
  | receiving
  | publishing (batch : Batch)
  | finished
deriving DecidableEq, Repr

/-- The publisher of the daemon, and the channel in front of it. -/
structure Courier (Client : Type) where
  publisher : Publisher Client
  flushMs : Nat
  queue : List Frame := []
  sendersGone : Bool := false
  shutdown : Bool := false
  phase : CourierPhase := .receiving

inductive CourierEvent where
  /-- The courier takes a step; when it waits in vain, a cycle passes. -/
  | work
  | send (frame : Frame)
  | lastSenderGone
  | shutdown
deriving DecidableEq, Repr

namespace Courier

variable {Client : Type} [BrokerClient Client]

def step (courier : Courier Client) : Courier Client :=
  match courier.phase with
  | .receiving =>
      if courier.queue.isEmpty && courier.sendersGone then
        { courier with
          publisher := (courier.publisher.flush courier.flushMs).2, phase := .finished }
      else
        { courier with queue := [], phase := .publishing (.offering courier.queue) }
  | .publishing (.ended pending) =>
      { courier with
        publisher := courier.publisher.pumpReports.2.abandon pending.length
        phase := .receiving }
  | .publishing batch =>
      let (batch, publisher) := batch.step courier.publisher courier.shutdown
      { courier with publisher, phase := .publishing batch }
  | .finished => courier

/-- The courier after an event.  Nothing is sent once every sender is gone. -/
def after? (courier : Courier Client) : CourierEvent → Option (Courier Client)
  | .work => some courier.step
  | .send frame =>
      if courier.sendersGone then none
      else some { courier with queue := courier.queue ++ [frame] }
  | .lastSenderGone => some { courier with sendersGone := true }
  | .shutdown => some { courier with shutdown := true }

/-- Steps until the courier has ended, if the given number of steps is
enough. -/
def finishWithin : Nat → Courier Client → Option (Courier Client)
  | 0, courier => if courier.phase == .finished then some courier else none
  | steps + 1, courier =>
      if courier.phase == .finished then some courier else finishWithin steps courier.step

end Courier

/-- Steps enough for a courier whose senders are gone: two for every scripted
answer and every frame, and a few to begin and to end.  Where they are not, a
queue stays full that nobody gives up on. -/
def Courier.stepBound (courier : Courier ScriptedBroker) : Nat :=
  2 * (courier.publisher.broker.script.length + courier.queue.length) + 8

def Courier.finish? (courier : Courier ScriptedBroker) : Option (Courier ScriptedBroker) :=
  courier.finishWithin courier.stepBound

end TraceForward
