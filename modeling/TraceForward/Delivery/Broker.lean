/-
Broker clients.

A client takes messages into its delivery queue, serves delivery reports when
it is pumped, and can be flushed.  Every call is given the client and gives it
back, so what a client answers may depend on all that went before.
-/

import TraceForward.Frame
import TraceForward.Topic

namespace TraceForward

/-- What a client answers to a message. -/
inductive Answer where
  | accepted
  | queueFull
  | fatal (reason : String)
deriving DecidableEq, Repr, Inhabited

class BrokerClient (Client : Type) where
  publish : Client → Topic → Message → Answer × Client
  /-- Serves delivery reports for at most the given milliseconds, and tells
  how many were served. -/
  pump : Client → (milliseconds : Nat) → Nat × Client
  flush : Client → (milliseconds : Nat) → Except Fault Unit × Client

inductive BrokerCall where
  | publish (message : Message) (answer : Answer)
  | pump (milliseconds served : Nat)
  | flush (milliseconds : Nat)
deriving DecidableEq, Repr

/-- A client that answers from a script and remembers its calls. -/
structure ScriptedBroker where
  script : List Answer := []
  /-- The answer once the script is used up. -/
  fallback : Answer := .accepted
  /-- The most reports that one pump serves. -/
  pumpLimit : Option Nat := none
  flushFails : Bool := false
  pending : Nat := 0
  calls : List BrokerCall := []
  accepted : List (Topic × Message) := []

namespace ScriptedBroker

def nextAnswer (broker : ScriptedBroker) : Answer :=
  broker.script.head?.getD broker.fallback

def isJammed (broker : ScriptedBroker) : Bool :=
  broker.script.isEmpty && broker.fallback == .queueFull

def publish (broker : ScriptedBroker) (topic : Topic) (message : Message) :
    Answer × ScriptedBroker :=
  let answer := broker.nextAnswer
  let used :=
    { broker with
      script := broker.script.tail
      calls := broker.calls ++ [.publish message answer] }
  match answer with
  | .accepted =>
      (answer,
        { used with
          pending := broker.pending + 1
          accepted := broker.accepted ++ [(topic, message)] })
  | _ => (answer, used)

def pump (broker : ScriptedBroker) (milliseconds : Nat) : Nat × ScriptedBroker :=
  let served :=
    match broker.pumpLimit with
    | none => broker.pending
    | some limit => min broker.pending limit
  (served,
    { broker with
      pending := broker.pending - served
      calls := broker.calls ++ [.pump milliseconds served] })

def flush (broker : ScriptedBroker) (milliseconds : Nat) :
    Except Fault Unit × ScriptedBroker :=
  let broker := { broker with calls := broker.calls ++ [.flush milliseconds] }
  if broker.flushFails then
    (.error (.broker "flush timed out"), broker)
  else
    (.ok (), { broker with pending := 0 })

instance : BrokerClient ScriptedBroker where
  publish := publish
  pump := pump
  flush := flush

end ScriptedBroker

end TraceForward
