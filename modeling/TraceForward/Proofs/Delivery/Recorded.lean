/-
A client that keeps a record of its calls.

Recording is an observation.  It changes no answer, so a publisher over a
recorded client does what it does over the client itself, and what is proved of
the record holds for every client.  The counters of a publisher are counts of
the answers in its record.
-/

import Mathlib.Data.List.Basic
import TraceForward.Delivery.Batch

namespace TraceForward

/-- A client together with the calls that were made of it, in order. -/
structure Recorded (Client : Type) where
  client : Client
  calls : List BrokerCall := []

namespace Recorded

variable {Client : Type} [BrokerClient Client]

def publish (recorded : Recorded Client) (topic : Topic) (message : Message) :
    Answer × Recorded Client :=
  let (answer, client) := BrokerClient.publish recorded.client topic message
  (answer, { client, calls := recorded.calls ++ [.publish message answer] })

def pump (recorded : Recorded Client) (milliseconds : Nat) : Nat × Recorded Client :=
  let (served, client) := BrokerClient.pump recorded.client milliseconds
  (served, { client, calls := recorded.calls ++ [.pump milliseconds served] })

def flush (recorded : Recorded Client) (milliseconds : Nat) :
    Except Fault Unit × Recorded Client :=
  let (result, client) := BrokerClient.flush recorded.client milliseconds
  (result, { client, calls := recorded.calls ++ [.flush milliseconds] })

instance : BrokerClient (Recorded Client) where
  publish := publish
  pump := pump
  flush := flush

end Recorded

/-! ### Reading a record -/

namespace BrokerCall

/-- The message that a call settled, and how: it was taken or turned down. -/
def settled? : BrokerCall → Option (Message × Answer)
  | .publish _ .queueFull => none
  | .publish message answer => some (message, answer)
  | _ => none

def isAccepted : BrokerCall → Bool
  | .publish _ .accepted => true
  | _ => false

def isTurnedDown : BrokerCall → Bool
  | .publish _ (.fatal _) => true
  | _ => false

def isFull : BrokerCall → Bool
  | .publish _ .queueFull => true
  | _ => false

def isFlush : BrokerCall → Bool
  | .flush _ => true
  | _ => false

end BrokerCall

def Message.isTrace (message : Message) : Bool :=
  message.key == some Kind.trace.keyBytes

theorem Kind.keyBytes_injective : Function.Injective Kind.keyBytes := by
  intro left right same
  cases left <;> cases right <;> first | rfl | (revert same; decide +kernel)

theorem Frame.message_injective : Function.Injective Frame.message := by
  intro left right same
  obtain ⟨keys, payloads⟩ := Message.mk.inj same
  have kinds := Kind.keyBytes_injective (Option.some.inj keys)
  cases left
  cases right
  cases kinds
  cases payloads
  rfl

theorem Frame.isTrace_message (frame : Frame) :
    frame.message.isTrace = true ↔ frame.kind = .trace := by
  unfold Message.isTrace Frame.message
  rw [beq_iff_eq, Option.some.injEq]
  exact Kind.keyBytes_injective.eq_iff

namespace Recorded

variable {Client : Type}

def settled (recorded : Recorded Client) : List (Message × Answer) :=
  recorded.calls.filterMap BrokerCall.settled?

def settledTraces (recorded : Recorded Client) : List (Message × Answer) :=
  recorded.settled.filter fun entry => entry.1.isTrace

def settledDescriptors (recorded : Recorded Client) : List (Message × Answer) :=
  recorded.settled.filter fun entry => !entry.1.isTrace

def acceptedTraces (recorded : Recorded Client) : List Bytes :=
  (recorded.settledTraces.filter fun entry => entry.2 == .accepted).map
    fun entry => entry.1.payload

def acceptedCount (recorded : Recorded Client) : Nat :=
  recorded.calls.countP BrokerCall.isAccepted

def turnedDownCount (recorded : Recorded Client) : Nat :=
  recorded.calls.countP BrokerCall.isTurnedDown

def fullCount (recorded : Recorded Client) : Nat :=
  recorded.calls.countP BrokerCall.isFull

def flushCount (recorded : Recorded Client) : Nat :=
  recorded.calls.countP BrokerCall.isFlush

theorem settled_answer {recorded : Recorded Client} {entry : Message × Answer}
    (member : entry ∈ recorded.settled) : entry.2 ≠ .queueFull := by
  obtain ⟨call, _, last⟩ := List.mem_filterMap.mp member
  rcases call with ⟨message, _ | _ | reason⟩ | ⟨milliseconds, served⟩ | milliseconds
  all_goals
    cases last
    try nofun

theorem length_settled (recorded : Recorded Client) :
    recorded.settled.length = recorded.acceptedCount + recorded.turnedDownCount := by
  obtain ⟨client, calls⟩ := recorded
  simp only [settled, acceptedCount, turnedDownCount]
  induction calls with
  | nil => rfl
  | cons call rest ih =>
      rw [List.countP_cons, List.countP_cons]
      rcases call with ⟨message, _ | _ | reason⟩ | ⟨milliseconds, served⟩ | milliseconds
      all_goals
        simp only [List.filterMap_cons, BrokerCall.settled?, BrokerCall.isAccepted,
          BrokerCall.isTurnedDown, List.length_cons, ih]
        simp
      all_goals omega

theorem length_settledTraces_add (recorded : Recorded Client) :
    recorded.settledTraces.length + recorded.settledDescriptors.length =
      recorded.settled.length :=
  (List.length_eq_length_filter_add fun entry : Message × Answer => entry.1.isTrace).symm

end Recorded

/-! ### What a publisher adds to the record -/

namespace Publisher

variable {Client : Type} [BrokerClient Client]
  {publisher changed : Publisher (Recorded Client)} {message : Message} {answer : Answer}

/-- An offer is one call with the message, after which reports may be served. -/
theorem offer_calls (offered : publisher.offer message = (answer, changed)) :
    changed.broker.calls =
      publisher.broker.calls ++ .publish message answer ::
        (if answer = .queueFull then
          [.pump publisher.pumpMs
            (BrokerClient.pump
              (BrokerClient.publish publisher.broker.client publisher.topic message).2
              publisher.pumpMs).1]
        else []) := by
  unfold offer at offered
  simp only [BrokerClient.publish, Recorded.publish] at offered
  generalize BrokerClient.publish publisher.broker.client publisher.topic message = reply
    at offered ⊢
  obtain ⟨given, client⟩ := reply
  cases given with
  | accepted =>
      obtain ⟨rfl, rfl⟩ := Prod.mk.inj offered
      rfl
  | fatal reason =>
      obtain ⟨rfl, rfl⟩ := Prod.mk.inj offered
      rfl
  | queueFull =>
      obtain ⟨rfl, rfl⟩ := Prod.mk.inj offered
      simp [serveReports, BrokerClient.pump, Recorded.pump]

theorem offer_settled (offered : publisher.offer message = (answer, changed)) :
    changed.broker.settled =
      publisher.broker.settled ++ (BrokerCall.settled? (.publish message answer)).toList := by
  unfold Recorded.settled
  rw [offer_calls offered, List.filterMap_append]
  cases answer <;> rfl

theorem offer_settled_full (offered : publisher.offer message = (.queueFull, changed)) :
    changed.broker.settled = publisher.broker.settled := by
  rw [offer_settled offered]
  exact List.append_nil _

theorem offer_settled_last (offered : publisher.offer message = (answer, changed))
    (last : answer ≠ .queueFull) :
    changed.broker.settled = publisher.broker.settled ++ [(message, answer)] := by
  rw [offer_settled offered]
  cases answer with
  | queueFull => exact (last rfl).elim
  | accepted => rfl
  | fatal reason => rfl

theorem offer_fullCount (offered : publisher.offer message = (answer, changed)) :
    changed.broker.fullCount =
      publisher.broker.fullCount + (if answer = .queueFull then 1 else 0) := by
  unfold Recorded.fullCount
  rw [offer_calls offered, List.countP_append]
  cases answer <;> rfl

theorem offer_flushCount (offered : publisher.offer message = (answer, changed)) :
    changed.broker.flushCount = publisher.broker.flushCount := by
  unfold Recorded.flushCount
  rw [offer_calls offered, List.countP_append]
  cases answer <;> rfl

/-- The counters of a publisher are counts of the answers it was given. -/
structure Balanced (publisher : Publisher (Recorded Client)) : Prop where
  enqueued : publisher.stats.enqueued = publisher.broker.acceptedCount
  dropped : publisher.stats.dropped = publisher.broker.turnedDownCount
  queueFullPumps : publisher.stats.queueFullPumps = publisher.broker.fullCount

theorem offer_stats (offered : publisher.offer message = (answer, changed)) :
    ∃ served, changed.stats =
      { publisher.stats with
        enqueued := publisher.stats.enqueued + (if answer = .accepted then 1 else 0)
        dropped :=
          publisher.stats.dropped + (if answer = .accepted ∨ answer = .queueFull then 0 else 1)
        queueFullPumps :=
          publisher.stats.queueFullPumps + (if answer = .queueFull then 1 else 0)
        reports := publisher.stats.reports + served } := by
  unfold offer at offered
  generalize BrokerClient.publish publisher.broker publisher.topic message = reply at offered
  obtain ⟨given, client⟩ := reply
  cases given with
  | accepted =>
      obtain ⟨rfl, rfl⟩ := Prod.mk.inj offered
      exact ⟨0, rfl⟩
  | fatal reason =>
      obtain ⟨rfl, rfl⟩ := Prod.mk.inj offered
      exact ⟨0, rfl⟩
  | queueFull =>
      obtain ⟨rfl, rfl⟩ := Prod.mk.inj offered
      exact ⟨_, rfl⟩

theorem balanced_offer (balanced : publisher.Balanced)
    (offered : publisher.offer message = (answer, changed)) : changed.Balanced := by
  obtain ⟨served, stats⟩ := offer_stats offered
  have calls := offer_calls offered
  refine ⟨?_, ?_, ?_⟩
  · rw [stats, Recorded.acceptedCount, calls, List.countP_append, ← Recorded.acceptedCount,
      ← balanced.enqueued]
    cases answer <;> rfl
  · rw [stats, Recorded.turnedDownCount, calls, List.countP_append,
      ← Recorded.turnedDownCount, ← balanced.dropped]
    cases answer <;> rfl
  · rw [stats, offer_fullCount offered, ← balanced.queueFullPumps]

theorem offer_abandoned (offered : publisher.offer message = (answer, changed)) :
    changed.stats.abandoned = publisher.stats.abandoned := by
  obtain ⟨served, stats⟩ := offer_stats offered
  rw [stats]

theorem pumpReports_calls (publisher : Publisher (Recorded Client)) :
    publisher.pumpReports.2.broker.calls =
      publisher.broker.calls ++ [.pump 0 (BrokerClient.pump publisher.broker.client 0).1] :=
  rfl

@[simp]
theorem pumpReports_settled (publisher : Publisher (Recorded Client)) :
    publisher.pumpReports.2.broker.settled = publisher.broker.settled := by
  unfold Recorded.settled
  rw [pumpReports_calls, List.filterMap_append]
  simp [BrokerCall.settled?]

@[simp]
theorem pumpReports_fullCount (publisher : Publisher (Recorded Client)) :
    publisher.pumpReports.2.broker.fullCount = publisher.broker.fullCount := by
  unfold Recorded.fullCount
  rw [pumpReports_calls, List.countP_append]
  rfl

@[simp]
theorem pumpReports_flushCount (publisher : Publisher (Recorded Client)) :
    publisher.pumpReports.2.broker.flushCount = publisher.broker.flushCount := by
  unfold Recorded.flushCount
  rw [pumpReports_calls, List.countP_append]
  rfl

theorem flush_calls (publisher : Publisher (Recorded Client)) (milliseconds : Nat) :
    (publisher.flush milliseconds).2.broker.calls =
      publisher.broker.calls ++ [.flush milliseconds] :=
  rfl

@[simp]
theorem flush_settled (publisher : Publisher (Recorded Client)) (milliseconds : Nat) :
    (publisher.flush milliseconds).2.broker.settled = publisher.broker.settled := by
  unfold Recorded.settled
  rw [flush_calls, List.filterMap_append]
  simp [BrokerCall.settled?]

omit [BrokerClient Client] in
theorem balanced_of_call {call : BrokerCall} (balanced : publisher.Balanced)
    (calls : changed.broker.calls = publisher.broker.calls ++ [call])
    (silent : call.isAccepted = false ∧ call.isTurnedDown = false ∧ call.isFull = false)
    (enqueued : changed.stats.enqueued = publisher.stats.enqueued)
    (dropped : changed.stats.dropped = publisher.stats.dropped)
    (queueFullPumps : changed.stats.queueFullPumps = publisher.stats.queueFullPumps) :
    changed.Balanced := by
  refine ⟨?_, ?_, ?_⟩
  · rw [enqueued, balanced.enqueued, Recorded.acceptedCount, Recorded.acceptedCount, calls]
    simp [silent.1]
  · rw [dropped, balanced.dropped, Recorded.turnedDownCount, Recorded.turnedDownCount, calls]
    simp [silent.2.1]
  · rw [queueFullPumps, balanced.queueFullPumps, Recorded.fullCount, Recorded.fullCount, calls]
    simp [silent.2.2]

theorem balanced_pumpReports (balanced : publisher.Balanced) :
    publisher.pumpReports.2.Balanced :=
  balanced_of_call balanced (pumpReports_calls publisher) ⟨rfl, rfl, rfl⟩ rfl rfl rfl

theorem balanced_flush (balanced : publisher.Balanced) (milliseconds : Nat) :
    (publisher.flush milliseconds).2.Balanced :=
  balanced_of_call balanced (flush_calls publisher milliseconds) ⟨rfl, rfl, rfl⟩ rfl rfl rfl

omit [BrokerClient Client] in
theorem balanced_abandon (balanced : publisher.Balanced) (count : Nat) :
    (publisher.abandon count).Balanced :=
  ⟨balanced.enqueued, balanced.dropped, balanced.queueFullPumps⟩

end Publisher
end TraceForward
