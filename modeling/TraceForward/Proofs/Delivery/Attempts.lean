/-
What is handed to a client whose answers are laid down in advance.

What such a client says to a message depends only on how many it was handed before.
So the answers decide how often each message is tried, and the log of the calls is
the same for everyone who hands over the same messages in order until each is
settled.
-/

import TraceForward.Proofs.Delivery.Recorded

namespace TraceForward

class LaidDown (Client : Type) [BrokerClient Client] where
  coming : Client → Nat → Answer
  publish_answer : ∀ client topic message,
    (BrokerClient.publish client topic message).1 = coming client 0
  coming_publish : ∀ client topic message count,
    coming (BrokerClient.publish client topic message).2 count = coming client (count + 1)
  coming_pump : ∀ client milliseconds,
    coming (BrokerClient.pump client milliseconds).2 = coming client

/-- There is no point from which on the queue is full for good. -/
def NeverJams (answers : Nat → Answer) : Prop :=
  ∀ start, ∃ count, answers (start + count) ≠ .queueFull

namespace ScriptedBroker

def coming (broker : ScriptedBroker) (count : Nat) : Answer :=
  (broker.script[count]?).getD broker.fallback

theorem publish_fst (broker : ScriptedBroker) (topic : Topic) (message : Message) :
    (broker.publish topic message).1 = broker.nextAnswer := by
  unfold publish
  cases broker.nextAnswer <;> rfl

theorem coming_publish (broker : ScriptedBroker) (topic : Topic) (message : Message)
    (count : Nat) :
    (broker.publish topic message).2.coming count = broker.coming (count + 1) := by
  have used :
      (broker.publish topic message).2.script = broker.script.tail ∧
        (broker.publish topic message).2.fallback = broker.fallback := by
    unfold publish
    cases broker.nextAnswer <;> exact ⟨rfl, rfl⟩
  unfold coming
  rw [used.1, used.2, List.getElem?_tail]

instance : LaidDown ScriptedBroker where
  coming := coming
  publish_answer := by
    intro broker topic message
    change (broker.publish topic message).1 = broker.coming 0
    rw [publish_fst, nextAnswer, coming, List.head?_eq_getElem?]
  coming_publish := coming_publish
  coming_pump := by
    intro broker milliseconds
    rfl

theorem neverJams_coming {broker : ScriptedBroker} (last : broker.fallback ≠ .queueFull) :
    NeverJams broker.coming := by
  intro start
  refine ⟨broker.script.length, ?_⟩
  unfold coming
  rw [List.getElem?_eq_none (Nat.le_add_left _ _)]
  exact last

end ScriptedBroker

instance {Client : Type} [BrokerClient Client] [LaidDown Client] :
    LaidDown (Recorded Client) where
  coming recorded := LaidDown.coming recorded.client
  publish_answer recorded := LaidDown.publish_answer recorded.client
  coming_publish recorded := LaidDown.coming_publish recorded.client
  coming_pump recorded := LaidDown.coming_pump recorded.client

/-! ### Tries over answers that are laid down -/

/-- The messages are handed over in order, each until it is settled.  `log` holds
the calls, and `left` the messages that are not settled after them. -/
inductive Attempts : (answers : Nat → Answer) → (messages : List Message) →
    (log : List BrokerCall) → (left : List Message) → Prop where
  | done (answers : Nat → Answer) (messages : List Message) :
      Attempts answers messages [] messages
  | full {answers : Nat → Answer} {message : Message} {rest left : List Message}
      {log : List BrokerCall} (jammed : answers 0 = .queueFull)
      (later : Attempts (fun count => answers (count + 1)) (message :: rest) log left) :
      Attempts answers (message :: rest) (.publish message .queueFull :: log) left
  | settled {answers : Nat → Answer} {message : Message} {rest left : List Message}
      {log : List BrokerCall} (last : answers 0 ≠ .queueFull)
      (later : Attempts (fun count => answers (count + 1)) rest log left) :
      Attempts answers (message :: rest) (.publish message (answers 0) :: log) left

namespace Attempts

variable {answers : Nat → Answer} {messages left : List Message} {log : List BrokerCall}

/-- What is left over may be tried later, in front of more messages. -/
theorem append {more left' : List Message} {log' : List BrokerCall}
    (first : Attempts answers messages log left)
    (second : Attempts (fun count => answers (log.length + count)) (left ++ more) log' left') :
    Attempts answers (messages ++ more) (log ++ log') left' := by
  induction first with
  | done answers messages =>
      simpa only [List.length_nil, Nat.zero_add, List.nil_append] using second
  | full jammed later ih =>
      refine .full jammed (ih ?_)
      simpa only [List.length_cons, Nat.add_right_comm] using second
  | settled last later ih =>
      refine .settled last (ih ?_)
      simpa only [List.length_cons, Nat.add_right_comm] using second

/-- The answers decide all calls up to the last message that is settled. -/
theorem unique {log' : List BrokerCall} (first : Attempts answers messages log [])
    (second : Attempts answers messages log' []) : log = log' := by
  generalize ends : ([] : List Message) = left at first
  induction first generalizing log' with
  | done answers messages =>
      subst ends
      cases second
      rfl
  | full jammed later ih =>
      cases second with
      | full _ later' => rw [ih later' ends]
      | settled last _ => exact absurd jammed last
  | settled last later ih =>
      cases second with
      | full jammed _ => exact absurd jammed last
      | settled _ later' => rw [ih later' ends]

end Attempts

/-! ### What a publisher tries -/

namespace Outcome

def enqueuedCount : Outcome → Nat
  | .enqueued _ => 1
  | _ => 0

def droppedCount : Outcome → Nat
  | .fatal _ => 1
  | _ => 0

end Outcome

namespace BrokerCall

def isOffer : BrokerCall → Bool
  | .publish _ _ => true
  | _ => false

def taken? : BrokerCall → Option Message
  | .publish message .accepted => some message
  | _ => none

end BrokerCall

namespace Recorded

variable {Client : Type}

/-- The messages that were handed over, with the answers, in order. -/
def offers (recorded : Recorded Client) : List BrokerCall :=
  recorded.calls.filter BrokerCall.isOffer

def taken (recorded : Recorded Client) : List Message :=
  recorded.calls.filterMap BrokerCall.taken?

theorem taken_eq (recorded : Recorded Client) :
    recorded.taken = recorded.offers.filterMap BrokerCall.taken? := by
  unfold taken offers
  rw [List.filterMap_filter]
  congr 1
  funext call
  cases call <;> rfl

end Recorded

namespace Publisher

variable {Client : Type} [BrokerClient Client] [LaidDown Client]

/-- Between two states of a publisher, `log` was handed over and nothing else. -/
structure Adds (publisher changed : Publisher (Recorded Client)) (log : List BrokerCall) :
    Prop where
  offers : changed.broker.offers = publisher.broker.offers ++ log
  coming : LaidDown.coming changed.broker =
    fun count => LaidDown.coming publisher.broker (log.length + count)
  enqueued : changed.stats.enqueued =
    publisher.stats.enqueued + log.countP BrokerCall.isAccepted
  dropped : changed.stats.dropped =
    publisher.stats.dropped + log.countP BrokerCall.isTurnedDown
  queueFullPumps : changed.stats.queueFullPumps =
    publisher.stats.queueFullPumps + log.countP BrokerCall.isFull

variable {publisher middle changed : Publisher (Recorded Client)}

theorem Adds.refl (publisher : Publisher (Recorded Client)) : publisher.Adds publisher [] := by
  constructor
  · rw [List.append_nil]
  · simp only [List.length_nil, Nat.zero_add]
  · rfl
  · rfl
  · rfl

theorem Adds.trans {first second : List BrokerCall} (earlier : publisher.Adds middle first)
    (later : middle.Adds changed second) : publisher.Adds changed (first ++ second) := by
  constructor
  · rw [later.offers, earlier.offers, List.append_assoc]
  · rw [later.coming, earlier.coming]
    funext count
    rw [List.length_append, Nat.add_assoc]
  · rw [later.enqueued, earlier.enqueued, List.countP_append, Nat.add_assoc]
  · rw [later.dropped, earlier.dropped, List.countP_append, Nat.add_assoc]
  · rw [later.queueFullPumps, earlier.queueFullPumps, List.countP_append, Nat.add_assoc]

theorem Adds.neverJams {log : List BrokerCall} (adds : publisher.Adds changed log)
    (fair : NeverJams (LaidDown.coming publisher.broker)) :
    NeverJams (LaidDown.coming changed.broker) := by
  intro start
  obtain ⟨count, free⟩ := fair (log.length + start)
  refine ⟨count, ?_⟩
  rw [adds.coming]
  simpa only [Nat.add_assoc] using free

theorem offer_adds {message : Message} {answer : Answer}
    (offered : publisher.offer message = (answer, changed)) :
    answer = LaidDown.coming publisher.broker 0 ∧
      publisher.Adds changed [.publish message answer] := by
  have calls := offer_calls offered
  obtain ⟨served, stats⟩ := offer_stats offered
  have offers : changed.broker.offers = publisher.broker.offers ++ [.publish message answer] := by
    unfold Recorded.offers
    rw [calls, List.filter_append]
    cases answer <;> rfl
  have next :
      answer = LaidDown.coming publisher.broker 0 ∧
        ∀ count,
          LaidDown.coming changed.broker count = LaidDown.coming publisher.broker (count + 1) := by
    have given := LaidDown.publish_answer publisher.broker publisher.topic message
    have shifted := LaidDown.coming_publish publisher.broker publisher.topic message
    unfold offer at offered
    generalize BrokerClient.publish publisher.broker publisher.topic message = reply
      at offered given shifted
    obtain ⟨reply, client⟩ := reply
    cases reply with
    | accepted =>
        obtain ⟨rfl, rfl⟩ := Prod.mk.inj offered
        exact ⟨given, shifted⟩
    | fatal reason =>
        obtain ⟨rfl, rfl⟩ := Prod.mk.inj offered
        exact ⟨given, shifted⟩
    | queueFull =>
        obtain ⟨rfl, rfl⟩ := Prod.mk.inj offered
        refine ⟨given, ?_⟩
        intro count
        have pumped := LaidDown.coming_pump client publisher.pumpMs
        exact (congrFun pumped count).trans (shifted count)
  refine ⟨next.1, offers, ?_, ?_, ?_, ?_⟩
  · funext count
    rw [next.2, List.length_singleton, Nat.add_comm]
  · rw [stats]
    cases answer <;> rfl
  · rw [stats]
    cases answer <;> rfl
  · rw [stats]
    cases answer <;> rfl

theorem pumpReports_adds (publisher : Publisher (Recorded Client)) :
    publisher.Adds publisher.pumpReports.2 [] := by
  constructor
  · unfold Recorded.offers
    rw [pumpReports_calls, List.filter_append]
    rfl
  · simp only [List.length_nil, Nat.zero_add]
    exact LaidDown.coming_pump publisher.broker 0
  · rfl
  · rfl
  · rfl

/-- What became of one message over the answers to come: it was settled, or is
left over because its signal fired. -/
structure Settles (answers : Nat → Answer) (message : Message) (outcome : Outcome)
    (log : List BrokerCall) : Prop where
  attempts : Attempts answers [message] log (if outcome = .retry then [message] else [])
  accepted : log.countP BrokerCall.isAccepted = outcome.enqueuedCount
  turnedDown : log.countP BrokerCall.isTurnedDown = outcome.droppedCount

theorem publishFrom_settles {message : Message} {tries : Nat} {pumps : UInt32}
    {stop later : StopSignal} {outcome : Outcome}
    (ran : publishFrom message tries pumps publisher stop = some (outcome, changed, later)) :
    (∃ log, Settles (LaidDown.coming publisher.broker) message outcome log ∧
        publisher.Adds changed log) ∧
      (stop = .never → outcome ≠ .retry ∧ later = .never) := by
  induction tries generalizing pumps publisher stop with
  | zero => cases ran
  | succ tries ih =>
      unfold publishFrom at ran
      generalize offered : publisher.offer message = reply at ran
      obtain ⟨answer, offering⟩ := reply
      obtain ⟨next, adds⟩ := offer_adds offered
      have last (settled : answer ≠ .queueFull) :
          Attempts (LaidDown.coming publisher.broker) [message] [.publish message answer] [] := by
        subst next
        exact .settled settled (.done _ _)
      cases answer with
      | accepted =>
          cases ran
          exact ⟨⟨_, ⟨last nofun, rfl, rfl⟩, adds⟩, fun silent => ⟨nofun, silent⟩⟩
      | fatal reason =>
          cases ran
          exact ⟨⟨_, ⟨last nofun, rfl, rfl⟩, adds⟩, fun silent => ⟨nofun, silent⟩⟩
      | queueFull =>
          cases looked : stop.look with
          | mk fired after =>
              rw [looked] at ran
              cases fired with
              | true =>
                  cases ran
                  refine ⟨⟨_, ⟨.full next.symm (.done _ _), rfl, rfl⟩, adds⟩, ?_⟩
                  intro silent
                  subst silent
                  cases looked
              | false =>
                  obtain ⟨⟨log, settles, more⟩, never⟩ := ih ran
                  refine ⟨⟨.publish message .queueFull :: log, ?_, adds.trans more⟩, ?_⟩
                  · obtain ⟨attempts, accepted, turnedDown⟩ := settles
                    rw [adds.coming] at attempts
                    refine ⟨.full next.symm ?_, accepted, turnedDown⟩
                    simpa only [List.length_singleton, Nat.add_comm] using attempts
                  · intro silent
                    subst silent
                    cases looked
                    exact never rfl

/-- What became of the frames of a batch over the answers to come. -/
structure Publishes (answers : Nat → Answer) (batch : List Frame) (outcome : CycleOutcome)
    (log : List BrokerCall) : Prop where
  attempts : Attempts answers (batch.map Frame.message) log
    ((outcome.unpublished batch).map Frame.message)
  pending : outcome.pending ≤ batch.length
  accepted : log.countP BrokerCall.isAccepted = outcome.enqueued
  turnedDown : log.countP BrokerCall.isTurnedDown = outcome.dropped

omit [BrokerClient Client] [LaidDown Client] in
theorem unpublished_cons {outcome : CycleOutcome} {rest : List Frame} (frame : Frame)
    (within : outcome.pending ≤ rest.length) :
    outcome.unpublished (frame :: rest) = outcome.unpublished rest := by
  unfold CycleOutcome.unpublished
  rw [List.length_cons, Nat.succ_sub within, List.drop_succ_cons]

/-- A batch ends at its first frame that is left over, or goes on behind it. -/
theorem publishBatch_cons {Client : Type} [BrokerClient Client]
    {publisher changed : Publisher Client} {tries : Nat} {frame : Frame} {rest : List Frame}
    {stop : StopSignal} {outcome : CycleOutcome}
    (ran : publishBatch tries (frame :: rest) publisher stop = some (outcome, changed)) :
    ∃ settled middle after,
      publisher.publish frame.message stop tries = some (settled, middle, after) ∧
        (settled = .retry ∧ changed = middle ∧ outcome = { pending := rest.length + 1 } ∨
          settled ≠ .retry ∧ ∃ later,
            publishBatch tries rest middle after = some (later, changed) ∧
              outcome = { later with
                enqueued := later.enqueued + settled.enqueuedCount
                dropped := later.dropped + settled.droppedCount }) := by
  unfold publishBatch at ran
  obtain ⟨⟨settled, middle, after⟩, first, ran⟩ := Option.bind_eq_some_iff.mp ran
  refine ⟨settled, middle, after, first, ?_⟩
  cases settled with
  | retry =>
      cases ran
      exact .inl ⟨rfl, rfl, rfl⟩
  | enqueued pumps =>
      obtain ⟨⟨later, _⟩, behind, ran⟩ := Option.bind_eq_some_iff.mp ran
      cases ran
      exact .inr ⟨nofun, later, behind, rfl⟩
  | fatal reason =>
      obtain ⟨⟨later, _⟩, behind, ran⟩ := Option.bind_eq_some_iff.mp ran
      cases ran
      exact .inr ⟨nofun, later, behind, rfl⟩

theorem publishBatch_publishes {tries : Nat} {batch : List Frame} {stop : StopSignal}
    {outcome : CycleOutcome}
    (ran : publishBatch tries batch publisher stop = some (outcome, changed)) :
    (∃ log, Publishes (LaidDown.coming publisher.broker) batch outcome log ∧
        publisher.Adds changed log) ∧
      (stop = .never → outcome.pending = 0) := by
  induction batch generalizing publisher stop outcome with
  | nil =>
      cases ran
      exact ⟨⟨[], ⟨.done _ _, Nat.zero_le _, rfl, rfl⟩, Adds.refl _⟩, fun _ => rfl⟩
  | cons frame rest ih =>
      obtain ⟨settled, middle, after, first, ends | ⟨goesOn, later, behind, rfl⟩⟩ :=
        publishBatch_cons ran
      · obtain ⟨⟨log, settles, adds⟩, never⟩ := publishFrom_settles first
        obtain ⟨rfl, rfl, rfl⟩ := ends
        refine ⟨⟨log, ⟨?_, Nat.le_refl _, settles.accepted, settles.turnedDown⟩, adds⟩, ?_⟩
        · have all : ({ pending := rest.length + 1 } : CycleOutcome).unpublished (frame :: rest) =
              frame :: rest := by
            simp [CycleOutcome.unpublished]
          have attempts := settles.attempts
          rw [if_pos rfl] at attempts
          have waiting := attempts.append (.done _ ([frame.message] ++ rest.map Frame.message))
          rw [List.append_nil] at waiting
          rw [all]
          exact waiting
        · exact fun silent => absurd rfl (never silent).1
      · obtain ⟨⟨log, settles, adds⟩, never⟩ := publishFrom_settles first
        obtain ⟨⟨log', publishes, adds'⟩, never'⟩ := ih behind
        obtain ⟨attempts, pending, accepted, turnedDown⟩ := publishes
        have one := settles.attempts
        rw [if_neg goesOn] at one
        rw [adds.coming] at attempts
        refine ⟨⟨log ++ log', ⟨?_, Nat.le_succ_of_le pending, ?_, ?_⟩, adds.trans adds'⟩, ?_⟩
        · change Attempts _ _ _ ((later.unpublished (frame :: rest)).map Frame.message)
          rw [unpublished_cons frame pending]
          exact one.append attempts
        · rw [List.countP_append, settles.accepted, accepted, Nat.add_comm]
        · rw [List.countP_append, settles.turnedDown, turnedDown, Nat.add_comm]
        · exact fun silent => never' (never silent).2

theorem publishCycle_publishes {tries : Nat} {batch : List Frame} {stop : StopSignal}
    {outcome : CycleOutcome}
    (ran : publisher.publishCycle batch stop tries = some (outcome, changed)) :
    (∃ log, Publishes (LaidDown.coming publisher.broker) batch outcome log ∧
        publisher.Adds changed log) ∧
      (stop = .never → outcome.pending = 0) := by
  unfold publishCycle at ran
  obtain ⟨⟨published, middle⟩, first, ran⟩ := Option.bind_eq_some_iff.mp ran
  cases ran
  obtain ⟨⟨log, publishes, adds⟩, never⟩ := publishBatch_publishes first
  obtain ⟨attempts, pending, accepted, turnedDown⟩ := publishes
  refine ⟨⟨log, ⟨attempts, pending, accepted, turnedDown⟩, ?_⟩, never⟩
  have reported := adds.trans (pumpReports_adds middle)
  rw [List.append_nil] at reported
  exact reported

end Publisher
end TraceForward
