/-
Publishing under backpressure.

A message that meets a full delivery queue is tried again, after delivery
reports were served, until it is taken or turned down or a stop signal fires.
The signal is looked at after every full answer and at no other time, so a
message is always tried once.  A message that is turned down is dropped.

Retrying has no bound of its own.  The functions take the number of tries that
one message may have and give nothing when that does not suffice.

The full answers to one message are counted in a word of 32 bits, which starts anew
behind its last value.  Arithmetic that is checked would end the program there.  Nothing
but the count itself depends on it.
-/

import TraceForward.Delivery.Broker
import TraceForward.Text.Quoted

namespace TraceForward

/-- Tells a retry when to give up. -/
inductive StopSignal where
  | never
  /-- The given number of looks find it silent, all later ones find it fired. -/
  | after (looks : Nat)
deriving DecidableEq, Repr

namespace StopSignal

def fired : Bool → StopSignal
  | true => .after 0
  | false => .never

def look : StopSignal → Bool × StopSignal
  | .never => (false, .never)
  | .after 0 => (true, .after 0)
  | .after (looks + 1) => (false, .after looks)

/-- The number of looks that find the signal silent, if there is an end to
them. -/
def silentLooks : StopSignal → Nat
  | .never => 0
  | .after looks => looks

end StopSignal

inductive Outcome where
  /-- It was taken after this many full answers. -/
  | enqueued (pumps : UInt32)
  | retry
  | fatal (reason : String)
deriving DecidableEq, Repr

structure PublisherStats where
  enqueued : Nat := 0
  dropped : Nat := 0
  abandoned : Nat := 0
  queueFullPumps : Nat := 0
  reports : Nat := 0
deriving DecidableEq, Repr

def PublisherStats.fields (stats : PublisherStats) : List (String × Nat) :=
  [("enqueued", stats.enqueued), ("dropped", stats.dropped), ("abandoned", stats.abandoned),
    ("queue_full_pumps", stats.queueFullPumps), ("reports", stats.reports)]

structure CycleOutcome where
  enqueued : Nat := 0
  dropped : Nat := 0
  /-- Frames at the end of the batch that were not taken. -/
  pending : Nat := 0
  reports : Nat := 0
deriving DecidableEq, Repr

def CycleOutcome.fields (outcome : CycleOutcome) : List (String × Nat) :=
  [("enqueued", outcome.enqueued), ("dropped", outcome.dropped), ("pending", outcome.pending),
    ("reports", outcome.reports)]

def CycleOutcome.unpublished (outcome : CycleOutcome) (batch : List Frame) : List Frame :=
  batch.drop (batch.length - outcome.pending)

structure Publisher (Client : Type) where
  broker : Client
  topic : Topic
  pumpMs : Nat
  stats : PublisherStats := {}

namespace Publisher

variable {Client : Type} [BrokerClient Client]

def serveReports (publisher : Publisher Client) (milliseconds : Nat) :
    Nat × Publisher Client :=
  let (served, broker) := BrokerClient.pump publisher.broker milliseconds
  let stats := publisher.stats
  (served, { publisher with broker, stats := { stats with reports := stats.reports + served } })

/-- Serves the delivery reports that are there, without waiting. -/
def pumpReports (publisher : Publisher Client) : Nat × Publisher Client :=
  publisher.serveReports 0

/-- Tries a message once.  A full answer is followed by a pump. -/
def offer (publisher : Publisher Client) (message : Message) :
    Answer × Publisher Client :=
  let (answer, broker) := BrokerClient.publish publisher.broker publisher.topic message
  let stats := publisher.stats
  match answer with
  | .accepted =>
      (answer, { publisher with broker, stats := { stats with enqueued := stats.enqueued + 1 } })
  | .fatal _ =>
      (answer, { publisher with broker, stats := { stats with dropped := stats.dropped + 1 } })
  | .queueFull =>
      let counted :=
        { publisher with
          broker, stats := { stats with queueFullPumps := stats.queueFullPumps + 1 } }
      (answer, (counted.serveReports publisher.pumpMs).2)

/-- Publishes a message with at most `tries` tries; `pumps` full answers have
gone before. -/
def publishFrom (message : Message) :
    (tries : Nat) → (pumps : UInt32) → Publisher Client → StopSignal →
      Option (Outcome × Publisher Client × StopSignal)
  | 0, _, _, _ => none
  | tries + 1, pumps, publisher, stop =>
      match publisher.offer message with
      | (.accepted, publisher) => some (.enqueued pumps, publisher, stop)
      | (.fatal reason, publisher) => some (.fatal reason, publisher, stop)
      | (.queueFull, publisher) =>
          match stop.look with
          | (true, stop) => some (.retry, publisher, stop)
          | (false, stop) => publishFrom message tries (pumps + 1) publisher stop

def publish (publisher : Publisher Client) (message : Message) (stop : StopSignal)
    (tries : Nat) : Option (Outcome × Publisher Client × StopSignal) :=
  publishFrom message tries 0 publisher stop

/-- Publishes frames in order up to the first that is not taken for the signal;
it and the frames after it are pending. -/
def publishBatch (tries : Nat) :
    List Frame → Publisher Client → StopSignal → Option (CycleOutcome × Publisher Client)
  | [], publisher, _ => some ({}, publisher)
  | frame :: rest, publisher, stop => do
      let (outcome, publisher, stop) ← publisher.publish frame.message stop tries
      match outcome with
      | .retry => some ({ pending := rest.length + 1 }, publisher)
      | .enqueued _ =>
          let (later, publisher) ← publishBatch tries rest publisher stop
          some ({ later with enqueued := later.enqueued + 1 }, publisher)
      | .fatal _ =>
          let (later, publisher) ← publishBatch tries rest publisher stop
          some ({ later with dropped := later.dropped + 1 }, publisher)

/-- Publishes the frames of one cycle, then serves the delivery reports that
are there. -/
def publishCycle (publisher : Publisher Client) (batch : List Frame) (stop : StopSignal)
    (tries : Nat) : Option (CycleOutcome × Publisher Client) := do
  let (outcome, publisher) ← publishBatch tries batch publisher stop
  let (reports, publisher) := publisher.pumpReports
  some ({ outcome with reports }, publisher)

def abandon (publisher : Publisher Client) (count : Nat) : Publisher Client :=
  let stats := publisher.stats
  { publisher with stats := { stats with abandoned := stats.abandoned + count } }

def flush (publisher : Publisher Client) (milliseconds : Nat) :
    Except Fault Unit × Publisher Client :=
  let (result, broker) := BrokerClient.flush publisher.broker milliseconds
  (result, { publisher with broker })

def display (publisher : Publisher Client) : String :=
  Quoted.record "Publisher"
    [("topic", Quoted.wrapped "Topic" (Quoted.text publisher.topic.name)),
      ("stats", Quoted.totals "PublisherStats" publisher.stats.fields)]

end Publisher

/-- Enough tries for any message: a scripted broker either gives a final answer
within its script and one more call, or answers full until the signal fires.
Where neither comes about, no number of tries is enough. -/
def ScriptedBroker.tries (broker : ScriptedBroker) (stop : StopSignal) : Nat :=
  broker.script.length + stop.silentLooks + 1

end TraceForward
