/-
How one message is published.

The client is asked again and again, with the same message on the same topic, and
behind every full answer it is pumped once and the signal is looked at once.  So the
answers and the looks decide at which try the publishing ends, and what comes of it.
-/

import Mathlib.Algebra.GroupWithZero.Nat
import Mathlib.Data.Nat.Find
import Mathlib.Logic.Function.Iterate
import TraceForward.Proofs.Delivery.Attempts

namespace TraceForward

/-! ### Looks at a signal -/

namespace StopSignal

/-- What one finds at the signal after that many looks. -/
def finds : StopSignal → Nat → Bool
  | .never, _ => false
  | .after looks, count => decide (looks ≤ count)

theorem look_eq (stop : StopSignal) :
    ∃ after, stop.look = (stop.finds 0, after) ∧
      ∀ count, after.finds count = stop.finds (count + 1) := by
  cases stop with
  | never => exact ⟨_, rfl, fun _ => rfl⟩
  | after looks =>
      cases looks with
      | zero => exact ⟨_, rfl, fun _ => by simp [finds]⟩
      | succ looks => exact ⟨_, rfl, fun _ => by simp [finds]⟩

/-- The signal is found as these looks say, up to the first that finds it fired.
Nobody looks at it after that. -/
def Tells (stop : StopSignal) (looks : Nat → Bool) : Prop :=
  ∀ count, (∀ earlier < count, looks earlier = false) → stop.finds count = looks count

theorem exists_tells (looks : Nat → Bool) : ∃ stop : StopSignal, stop.Tells looks := by
  by_cases fires : ∃ count, looks count = true
  · have fired := Nat.find_spec fires
    refine ⟨.after (Nat.find fires), ?_⟩
    intro count silent
    cases found : looks count with
    | true =>
        have first : Nat.find fires ≤ count := Nat.find_min' fires found
        simpa [finds] using first
    | false =>
        have later : count < Nat.find fires := by
          rcases Nat.lt_trichotomy count (Nat.find fires) with before | same | past
          · exact before
          · rw [← same, found] at fired
            cases fired
          · rw [silent _ past] at fired
            cases fired
        simpa [finds] using later
  · refine ⟨.never, ?_⟩
    intro count _
    cases found : looks count with
    | true => exact absurd ⟨count, found⟩ fires
    | false => rfl

end StopSignal

structure PublisherStats.AtMost (stats other : PublisherStats) : Prop where
  enqueued : stats.enqueued ≤ other.enqueued
  dropped : stats.dropped ≤ other.dropped
  abandoned : stats.abandoned ≤ other.abandoned
  queueFullPumps : stats.queueFullPumps ≤ other.queueFullPumps
  reports : stats.reports ≤ other.reports

structure PublisherStats.InWords (stats : PublisherStats) : Prop where
  enqueued : stats.enqueued < Limits.wordCount
  dropped : stats.dropped < Limits.wordCount
  abandoned : stats.abandoned < Limits.wordCount
  queueFullPumps : stats.queueFullPumps < Limits.wordCount
  reports : stats.reports < Limits.wordCount

theorem PublisherStats.InWords.mono {stats other : PublisherStats} (words : other.InWords)
    (less : stats.AtMost other) : stats.InWords := by
  constructor
  · exact Nat.lt_of_le_of_lt less.enqueued words.enqueued
  · exact Nat.lt_of_le_of_lt less.dropped words.dropped
  · exact Nat.lt_of_le_of_lt less.abandoned words.abandoned
  · exact Nat.lt_of_le_of_lt less.queueFullPumps words.queueFullPumps
  · exact Nat.lt_of_le_of_lt less.reports words.reports

/-- What comes of a message with that answer, when it is not tried again. -/
def Outcome.ofAnswer (pumps : UInt32) : Answer → Outcome
  | .accepted => .enqueued pumps
  | .fatal reason => .fatal reason
  | .queueFull => .retry

namespace Publisher

/-! ### Asking again and again -/

section Client

variable {Client : Type} [BrokerClient Client]

/-- The client after a message has met a full queue that many times. -/
def jammed (publisher : Publisher Client) (message : Message) (count : Nat) : Client :=
  (fun client =>
    (BrokerClient.pump (BrokerClient.publish client publisher.topic message).2
      publisher.pumpMs).2)^[count] publisher.broker

def answerTo (publisher : Publisher Client) (message : Message) (count : Nat) : Answer :=
  (BrokerClient.publish (publisher.jammed message count) publisher.topic message).1

/-- The reports served if the answer behind that many full ones is full as well. -/
def servedBehind (publisher : Publisher Client) (message : Message) (count : Nat) : Nat :=
  (BrokerClient.pump
    (BrokerClient.publish (publisher.jammed message count) publisher.topic message).2
    publisher.pumpMs).1

/-- The full answers up to the one behind that many of them. -/
def fullAnswers (publisher : Publisher Client) (message : Message) (count : Nat) : Nat :=
  if publisher.answerTo message count = .queueFull then count + 1 else count

def afterTry (publisher : Publisher Client) (message : Message) (count : Nat) :
    Publisher Client :=
  { publisher with
    broker :=
      if publisher.answerTo message count = .queueFull then
        publisher.jammed message (count + 1)
      else
        (BrokerClient.publish (publisher.jammed message count) publisher.topic message).2
    stats :=
      { enqueued :=
          publisher.stats.enqueued +
            (Outcome.ofAnswer (.ofNat count) (publisher.answerTo message count)).enqueuedCount
        dropped :=
          publisher.stats.dropped +
            (Outcome.ofAnswer (.ofNat count) (publisher.answerTo message count)).droppedCount
        abandoned := publisher.stats.abandoned
        queueFullPumps :=
          publisher.stats.queueFullPumps + publisher.fullAnswers message count
        reports :=
          publisher.stats.reports +
            ((List.range (publisher.fullAnswers message count)).map
              (publisher.servedBehind message)).sum } }

variable {publisher : Publisher Client} {message : Message}

@[simp]
theorem afterTry_topic (publisher : Publisher Client) (message : Message) (count : Nat) :
    (publisher.afterTry message count).topic = publisher.topic :=
  rfl

@[simp]
theorem afterTry_pumpMs (publisher : Publisher Client) (message : Message) (count : Nat) :
    (publisher.afterTry message count).pumpMs = publisher.pumpMs :=
  rfl

theorem offer_eq (publisher : Publisher Client) (message : Message) :
    publisher.offer message = (publisher.answerTo message 0, publisher.afterTry message 0) := by
  have replied :
      BrokerClient.publish publisher.broker publisher.topic message =
        (publisher.answerTo message 0,
          (BrokerClient.publish publisher.broker publisher.topic message).2) := rfl
  unfold offer
  rw [replied]
  cases answered : publisher.answerTo message 0 with
  | accepted =>
      simp [afterTry, Outcome.ofAnswer, fullAnswers, answered, jammed, Outcome.enqueuedCount,
        Outcome.droppedCount]
  | fatal reason =>
      simp [afterTry, Outcome.ofAnswer, fullAnswers, answered, jammed, Outcome.enqueuedCount,
        Outcome.droppedCount]
  | queueFull =>
      simp [afterTry, Outcome.ofAnswer, fullAnswers, answered, jammed, Outcome.enqueuedCount,
        Outcome.droppedCount, serveReports, servedBehind]

/-! Behind a full answer the tries go on as before, but for that answer. -/

theorem jammed_succ (full : publisher.answerTo message 0 = .queueFull) (count : Nat) :
    (publisher.afterTry message 0).jammed message count =
      publisher.jammed message (count + 1) := by
  have broker : (publisher.afterTry message 0).broker = publisher.jammed message 1 := by
    simp [afterTry, full]
  unfold jammed
  rw [broker, Function.iterate_succ_apply]
  rfl

theorem answerTo_succ (full : publisher.answerTo message 0 = .queueFull) (count : Nat) :
    (publisher.afterTry message 0).answerTo message count =
      publisher.answerTo message (count + 1) := by
  unfold answerTo
  rw [jammed_succ full]
  rfl

theorem servedBehind_succ (full : publisher.answerTo message 0 = .queueFull) (count : Nat) :
    (publisher.afterTry message 0).servedBehind message count =
      publisher.servedBehind message (count + 1) := by
  unfold servedBehind
  rw [jammed_succ full]
  rfl

theorem fullAnswers_succ (full : publisher.answerTo message 0 = .queueFull) (count : Nat) :
    publisher.fullAnswers message (count + 1) =
      (publisher.afterTry message 0).fullAnswers message count + 1 := by
  unfold fullAnswers
  rw [answerTo_succ full]
  split
  · rfl
  · rfl

theorem enqueuedCount_ofAnswer (pumps other : UInt32) (answer : Answer) :
    (Outcome.ofAnswer pumps answer).enqueuedCount =
      (Outcome.ofAnswer other answer).enqueuedCount := by
  cases answer <;> rfl

theorem droppedCount_ofAnswer (pumps other : UInt32) (answer : Answer) :
    (Outcome.ofAnswer pumps answer).droppedCount =
      (Outcome.ofAnswer other answer).droppedCount := by
  cases answer <;> rfl

theorem afterTry_succ (full : publisher.answerTo message 0 = .queueFull) (count : Nat) :
    (publisher.afterTry message 0).afterTry message count =
      publisher.afterTry message (count + 1) := by
  have first : publisher.fullAnswers message 0 = 1 := by
    unfold fullAnswers
    rw [if_pos full]
  have stats :
      (publisher.afterTry message 0).stats =
        { publisher.stats with
          queueFullPumps := publisher.stats.queueFullPumps + 1
          reports := publisher.stats.reports + publisher.servedBehind message 0 } := by
    simp [afterTry, first, full, Outcome.ofAnswer, Outcome.enqueuedCount, Outcome.droppedCount]
  -- The reports of the first pump stand apart from those of the others.
  have served :
      ((List.range (publisher.fullAnswers message (count + 1))).map
          (publisher.servedBehind message)).sum =
        publisher.servedBehind message 0 +
          ((List.range ((publisher.afterTry message 0).fullAnswers message count)).map
            ((publisher.afterTry message 0).servedBehind message)).sum := by
    rw [fullAnswers_succ full, List.range_succ_eq_map, List.map_cons, List.sum_cons,
      List.map_map]
    congr 3
    funext round
    exact (servedBehind_succ full round).symm
  have client :
      (BrokerClient.publish ((publisher.afterTry message 0).jammed message count)
          (publisher.afterTry message 0).topic message) =
        BrokerClient.publish (publisher.jammed message (count + 1)) publisher.topic message := by
    rw [jammed_succ full, afterTry_topic]
  rw [afterTry.eq_def publisher message (count + 1), afterTry.eq_def (publisher.afterTry message 0),
    client, answerTo_succ full, jammed_succ full, stats, served, fullAnswers_succ full,
    enqueuedCount_ofAnswer (.ofNat count) (.ofNat (count + 1)),
    droppedCount_ofAnswer (.ofNat count) (.ofNat (count + 1))]
  simp only [afterTry_topic, afterTry_pumpMs, Nat.add_assoc, Nat.add_comm 1]

/-- While the queue is full and the signal is silent, the tries run out. -/
theorem publishFrom_eq_none {tries : Nat} (pumps : UInt32) {stop : StopSignal}
    (goesOn : ∀ earlier < tries,
      publisher.answerTo message earlier = .queueFull ∧ stop.finds earlier = false) :
    publishFrom message tries pumps publisher stop = none := by
  induction tries generalizing publisher pumps stop with
  | zero => rfl
  | succ tries ih =>
      obtain ⟨full, silent⟩ := goesOn 0 (Nat.succ_pos tries)
      obtain ⟨after, looked, later⟩ := stop.look_eq
      rw [publishFrom, offer_eq, full]
      simp only [looked, silent]
      apply ih
      intro earlier within
      rw [answerTo_succ full, later]
      exact goesOn (earlier + 1) (Nat.succ_lt_succ within)

/-- The first answer that is not full, and the first full one behind which the signal
is found fired, ends the tries. -/
theorem publishFrom_eq_some {index : Nat} (pumps : UInt32) {stop : StopSignal}
    (goesOn : ∀ earlier < index,
      publisher.answerTo message earlier = .queueFull ∧ stop.finds earlier = false)
    (ends : publisher.answerTo message index ≠ .queueFull ∨ stop.finds index = true) :
    ∃ later : StopSignal,
      (∀ count, later.finds count =
        stop.finds (publisher.fullAnswers message index + count)) ∧
      ∀ tries, publishFrom message (tries + index + 1) pumps publisher stop =
        some (.ofAnswer (pumps + .ofNat index) (publisher.answerTo message index),
          publisher.afterTry message index, later) := by
  -- Behind a full first answer, the rest is a run of the publisher that this answer left.
  induction index generalizing publisher pumps stop with
  | zero =>
      cases answered : publisher.answerTo message 0 with
      | accepted =>
          refine ⟨stop, ?_, ?_⟩
          · intro count
            simp [fullAnswers, answered]
          · intro tries
            have counted : pumps + .ofNat 0 = pumps := UInt32.add_zero pumps
            rw [publishFrom, offer_eq, answered, counted]
            rfl
      | fatal reason =>
          refine ⟨stop, ?_, ?_⟩
          · intro count
            simp [fullAnswers, answered]
          · intro tries
            rw [publishFrom, offer_eq, answered]
            rfl
      | queueFull =>
          have fired : stop.finds 0 = true := ends.resolve_left (not_not_intro answered)
          obtain ⟨after, looked, later⟩ := stop.look_eq
          refine ⟨after, ?_, ?_⟩
          · intro count
            rw [later, fullAnswers, if_pos answered, Nat.zero_add, Nat.add_comm]
          · intro tries
            rw [publishFrom, offer_eq, answered]
            simp only [looked, fired]
            rfl
  | succ index ih =>
      obtain ⟨full, silent⟩ := goesOn 0 (Nat.succ_pos index)
      obtain ⟨after, looked, next⟩ := stop.look_eq
      have goesOn' : ∀ earlier < index,
          (publisher.afterTry message 0).answerTo message earlier = .queueFull ∧
            after.finds earlier = false := by
        intro earlier within
        rw [answerTo_succ full, next]
        exact goesOn (earlier + 1) (Nat.succ_lt_succ within)
      have ends' :
          (publisher.afterTry message 0).answerTo message index ≠ .queueFull ∨
            after.finds index = true := by
        rw [answerTo_succ full, next]
        exact ends
      obtain ⟨later, looks, ran⟩ := ih (pumps + 1) goesOn' ends'
      refine ⟨later, ?_, ?_⟩
      · intro count
        rw [looks, next, fullAnswers_succ full, Nat.add_right_comm]
      · intro tries
        have onward := ran tries
        have counted : pumps + 1 + .ofNat index = pumps + .ofNat (index + 1) := by
          rw [UInt32.ofNat_add, UInt32.add_assoc, UInt32.add_comm 1]
          rfl
        rw [answerTo_succ full, afterTry_succ full, counted] at onward
        rw [← Nat.add_assoc, publishFrom, offer_eq, full]
        simp only [looked, silent]
        exact onward

end Client

/-! ### The calls of the client -/

section Calls

variable {Client : Type} [BrokerClient Client]

/-- A message that is handed over `rounds` times and meets a full queue, which is pumped. -/
def refusals (publisher : Publisher (Recorded Client)) (message : Message) (rounds : Nat) :
    List BrokerCall :=
  (List.range rounds).flatMap fun round =>
    [.publish message .queueFull,
      .pump publisher.pumpMs (publisher.servedBehind message round)]

theorem jammed_succ_calls (publisher : Publisher (Recorded Client)) (message : Message)
    (count : Nat) :
    (publisher.jammed message (count + 1)).calls =
      (publisher.jammed message count).calls ++
        [.publish message (publisher.answerTo message count),
          .pump publisher.pumpMs (publisher.servedBehind message count)] := by
  rw [jammed, Function.iterate_succ_apply']
  exact List.append_assoc _ _ _

theorem jammed_calls (publisher : Publisher (Recorded Client)) (message : Message) (count : Nat)
    (full : ∀ earlier < count, publisher.answerTo message earlier = .queueFull) :
    (publisher.jammed message count).calls =
      publisher.broker.calls ++ publisher.refusals message count := by
  induction count with
  | zero => simp [jammed, refusals]
  | succ count ih =>
      have before := ih fun earlier within => full earlier (Nat.lt_succ_of_lt within)
      have last : publisher.answerTo message count = .queueFull :=
        full count (Nat.lt_succ_self count)
      rw [jammed_succ_calls, before, last, refusals, refusals, List.range_succ,
        List.flatMap_append, List.flatMap_singleton, List.append_assoc]

theorem afterTry_calls (publisher : Publisher (Recorded Client)) (message : Message)
    (count : Nat) (full : ∀ earlier < count, publisher.answerTo message earlier = .queueFull) :
    (publisher.afterTry message count).broker.calls =
      publisher.broker.calls ++ publisher.refusals message count ++
        .publish message (publisher.answerTo message count) ::
          (if publisher.answerTo message count = .queueFull then
            [.pump publisher.pumpMs (publisher.servedBehind message count)]
          else []) := by
  rw [← jammed_calls publisher message count full]
  by_cases last : publisher.answerTo message count = .queueFull
  · have broker :
        (publisher.afterTry message count).broker = publisher.jammed message (count + 1) := by
      rw [afterTry, if_pos last]
    rw [broker, jammed_succ_calls, if_pos last]
  · have broker :
        (publisher.afterTry message count).broker =
          (BrokerClient.publish (publisher.jammed message count) publisher.topic message).2 := by
      rw [afterTry, if_neg last]
    rw [broker, if_neg last]
    rfl

end Calls

/-! ### The protocol -/

section Protocol

variable {Client : Type} [BrokerClient Client] {publisher : Publisher (Recorded Client)}
  {message : Message} {looks : Nat → Bool} {stop : StopSignal}

/-- A try that is not followed by another: the message is taken or turned down, or the
look behind the full answer finds the signal fired. -/
def EndsAt (publisher : Publisher (Recorded Client)) (message : Message) (looks : Nat → Bool)
    (index : Nat) : Prop :=
  publisher.answerTo message index ≠ .queueFull ∨ looks index = true

/-- What has been done for a message when its tries end, with the one behind `index`
full answers. -/
structure HandedOver (publisher : Publisher (Recorded Client)) (message : Message)
    (index : Nat) (outcome : Outcome) (changed : Publisher (Recorded Client)) : Prop where
  result : outcome = .ofAnswer (.ofNat index) (publisher.answerTo message index)
  /-- Each try is one call with the message, and each full answer is followed by a pump. -/
  calls : changed.broker.calls =
    publisher.broker.calls ++ publisher.refusals message index ++
      .publish message (publisher.answerTo message index) ::
        (if publisher.answerTo message index = .queueFull then
          [.pump publisher.pumpMs (publisher.servedBehind message index)]
        else [])
  /-- All of these calls are made for the topic of the publisher. -/
  client : changed.broker =
    if publisher.answerTo message index = .queueFull then publisher.jammed message (index + 1)
    else (BrokerClient.publish (publisher.jammed message index) publisher.topic message).2
  topic : changed.topic = publisher.topic
  pumpMs : changed.pumpMs = publisher.pumpMs
  enqueued : changed.stats.enqueued = publisher.stats.enqueued + outcome.enqueuedCount
  dropped : changed.stats.dropped = publisher.stats.dropped + outcome.droppedCount
  abandoned : changed.stats.abandoned = publisher.stats.abandoned
  queueFullPumps : changed.stats.queueFullPumps =
    publisher.stats.queueFullPumps + publisher.fullAnswers message index
  reports : changed.stats.reports =
    publisher.stats.reports +
      ((List.range (publisher.fullAnswers message index)).map
        (publisher.servedBehind message)).sum

/-- Room for what is counted while a message is tried `bound` times: the pumps are counted
in a word of 32 bits, and the totals in machine words. -/
structure HasRoom (publisher : Publisher (Recorded Client)) (message : Message)
    (bound : Nat) : Prop where
  pumps : bound < UInt32.size
  totals : PublisherStats.InWords
    { enqueued := publisher.stats.enqueued + 1
      dropped := publisher.stats.dropped + 1
      abandoned := publisher.stats.abandoned
      queueFullPumps := publisher.stats.queueFullPumps + bound
      reports :=
        publisher.stats.reports + ((List.range bound).map (publisher.servedBehind message)).sum }

/-- How a message is published against the answers of a client and the looks at a
signal, as far as the counters have room. -/
structure FollowsBackpressure (publisher : Publisher (Recorded Client)) (message : Message)
    (looks : Nat → Bool) (stop : StopSignal) (bound : Nat) : Prop where
  ends_iff : (∃ result, publisher.publish message stop bound = some result) ↔
    ∃ index < bound, publisher.EndsAt message looks index
  /-- The first try that can be the last one is. -/
  ends : ∀ index < bound, publisher.EndsAt message looks index →
    (∀ earlier < index, ¬ publisher.EndsAt message looks earlier) →
    ∃ outcome changed later,
      (∀ tries, publisher.publish message stop tries =
        if index < tries then some (outcome, changed, later) else none) ∧
      publisher.HandedOver message index outcome changed ∧
      (∀ pumps, outcome = .enqueued pumps → pumps.toNat = index) ∧
      changed.stats.InWords ∧
      ∀ count, later.finds count = stop.finds (publisher.fullAnswers message index + count)
  /-- While the signal is silent the message is not given up. -/
  givesUp : ∀ changed later,
    publisher.publish message stop bound = some (.retry, changed, later) →
    ∃ index < bound, looks index = true ∧
      ∀ earlier ≤ index, publisher.answerTo message earlier = .queueFull
  /-- When the signal has fired before, the message is still tried once. -/
  triesOnce : looks 0 = true → 0 < bound →
    ∃ outcome changed later,
      (∀ tries, publisher.publish message stop (tries + 1) = some (outcome, changed, later)) ∧
      publisher.HandedOver message 0 outcome changed

theorem not_endsAt_iff {index : Nat} :
    ¬ publisher.EndsAt message looks index ↔
      publisher.answerTo message index = .queueFull ∧ looks index = false := by
  rw [EndsAt, not_or, not_not, Bool.not_eq_true]

/-- As long as the tries go on, the signal is found as the looks say. -/
theorem goesOn_of_tells (tells : stop.Tells looks) {index : Nat}
    (goesOn : ∀ earlier < index, ¬ publisher.EndsAt message looks earlier) :
    (∀ earlier < index,
        publisher.answerTo message earlier = .queueFull ∧ stop.finds earlier = false) ∧
      stop.finds index = looks index := by
  have silent : ∀ earlier < index, looks earlier = false :=
    fun earlier within => (not_endsAt_iff.mp (goesOn earlier within)).2
  refine ⟨?_, tells index silent⟩
  intro earlier within
  refine ⟨(not_endsAt_iff.mp (goesOn earlier within)).1, ?_⟩
  rw [tells earlier fun before order => silent before (Nat.lt_trans order within)]
  exact silent earlier within

theorem handedOver_afterTry {index : Nat}
    (full : ∀ earlier < index, publisher.answerTo message earlier = .queueFull) :
    publisher.HandedOver message index
      (.ofAnswer (.ofNat index) (publisher.answerTo message index))
      (publisher.afterTry message index) := by
  constructor
  · rfl
  · exact afterTry_calls publisher message index full
  · rfl
  · rfl
  · rfl
  · rfl
  · rfl
  · rfl
  · rfl
  · rfl

theorem publish_of_first (tells : stop.Tells looks) {index : Nat}
    (ends : publisher.EndsAt message looks index)
    (first : ∀ earlier < index, ¬ publisher.EndsAt message looks earlier) :
    ∃ outcome changed later,
      (∀ tries, publisher.publish message stop tries =
        if index < tries then some (outcome, changed, later) else none) ∧
      publisher.HandedOver message index outcome changed ∧
      ∀ count, later.finds count =
        stop.finds (publisher.fullAnswers message index + count) := by
  obtain ⟨goesOn, found⟩ := goesOn_of_tells tells first
  rw [EndsAt, ← found] at ends
  obtain ⟨later, looked, ran⟩ := publishFrom_eq_some 0 goesOn ends
  rw [UInt32.zero_add] at ran
  refine ⟨_, _, later, ?_, handedOver_afterTry fun earlier within => (goesOn earlier within).1,
    looked⟩
  intro tries
  split
  next enough =>
    obtain ⟨more, rfl⟩ := Nat.exists_eq_add_of_le' enough
    exact ran more
  next short =>
    apply publishFrom_eq_none
    intro earlier within
    exact goesOn earlier (by omega)

theorem exists_first (ends : ∃ index, publisher.EndsAt message looks index) :
    ∃ index, publisher.EndsAt message looks index ∧
      ∀ earlier < index, ¬ publisher.EndsAt message looks earlier := by
  classical
  exact ⟨Nat.find ends, Nat.find_spec ends, fun _ => Nat.find_min ends⟩

theorem exists_endsAt_lt {tries : Nat}
    {result : Outcome × Publisher (Recorded Client) × StopSignal} (tells : stop.Tells looks)
    (ran : publisher.publish message stop tries = some result) :
    ∃ index < tries, publisher.EndsAt message looks index := by
  by_contra never
  have goesOn_before : ∀ earlier < tries, ¬ publisher.EndsAt message looks earlier :=
    fun earlier within ends => never ⟨earlier, within, ends⟩
  have goesOn := (goesOn_of_tells tells goesOn_before).1
  rw [publish, publishFrom_eq_none 0 goesOn] at ran
  cases ran

theorem exists_endsAt {tries : Nat} {result : Outcome × Publisher (Recorded Client) × StopSignal}
    (tells : stop.Tells looks) (ran : publisher.publish message stop tries = some result) :
    ∃ index, publisher.EndsAt message looks index :=
  (exists_endsAt_lt tells ran).imp fun _ => And.right

theorem eq_queueFull_of_retry {pumps : UInt32} {answer : Answer}
    (retry : Outcome.retry = .ofAnswer pumps answer) : answer = .queueFull := by
  cases answer with
  | queueFull => rfl
  | accepted => cases retry
  | fatal reason => cases retry

/-! As far as there is room, the words hold what is counted. -/

theorem fullAnswers_le (publisher : Publisher (Recorded Client)) (message : Message)
    (count : Nat) : publisher.fullAnswers message count ≤ count + 1 := by
  unfold fullAnswers
  split
  · exact Nat.le_refl _
  · exact Nat.le_succ _

theorem toNat_of_ofAnswer {pumps counted : UInt32} {answer : Answer}
    (taken : Outcome.ofAnswer counted answer = .enqueued pumps) : pumps = counted := by
  cases answer with
  | accepted => exact (Outcome.enqueued.inj taken).symm
  | queueFull => cases taken
  | fatal reason => cases taken

theorem counted_le_one (outcome : Outcome) :
    outcome.enqueuedCount ≤ 1 ∧ outcome.droppedCount ≤ 1 := by
  cases outcome with
  | enqueued pumps => exact ⟨Nat.le_refl 1, Nat.zero_le 1⟩
  | retry => exact ⟨Nat.zero_le 1, Nat.zero_le 1⟩
  | fatal reason => exact ⟨Nat.zero_le 1, Nat.le_refl 1⟩

theorem HandedOver.inWords {bound index : Nat} {outcome : Outcome}
    {changed : Publisher (Recorded Client)}
    (handed : publisher.HandedOver message index outcome changed)
    (room : publisher.HasRoom message bound) (within : index < bound) :
    changed.stats.InWords := by
  have full : publisher.fullAnswers message index ≤ bound :=
    Nat.le_trans (fullAnswers_le publisher message index) within
  have served :
      ((List.range (publisher.fullAnswers message index)).map
          (publisher.servedBehind message)).sum ≤
        ((List.range bound).map (publisher.servedBehind message)).sum := by
    obtain ⟨more, enough⟩ := Nat.exists_eq_add_of_le full
    rw [enough, List.range_add, List.map_append, List.sum_append]
    exact Nat.le_add_right _ _
  obtain ⟨enqueued, dropped⟩ := counted_le_one outcome
  apply room.totals.mono
  constructor
  · rw [handed.enqueued]
    exact Nat.add_le_add_left enqueued _
  · rw [handed.dropped]
    exact Nat.add_le_add_left dropped _
  · exact Nat.le_of_eq handed.abandoned
  · rw [handed.queueFullPumps]
    exact Nat.add_le_add_left full _
  · rw [handed.reports]
    exact Nat.add_le_add_left served _

/-- Publishing a message follows the backpressure protocol, whatever the client answers
and whatever is found at the signal, as far as the counters have room. -/
theorem publish_backpressure (publisher : Publisher (Recorded Client)) (message : Message)
    (looks : Nat → Bool) (stop : StopSignal) (bound : Nat) (tells : stop.Tells looks)
    (room : publisher.HasRoom message bound) :
    publisher.FollowsBackpressure message looks stop bound := by
  constructor
  · constructor
    · rintro ⟨result, ran⟩
      exact exists_endsAt_lt tells ran
    · rintro ⟨within, below, ends_within⟩
      obtain ⟨index, ends, first⟩ := exists_first ⟨within, ends_within⟩
      obtain ⟨outcome, changed, later, ran, _⟩ := publish_of_first tells ends first
      have least : index ≤ within := Nat.le_of_not_lt fun past => first within past ends_within
      refine ⟨(outcome, changed, later), ?_⟩
      rw [ran, if_pos (Nat.lt_of_le_of_lt least below)]
  · intro index within ends first
    obtain ⟨outcome, changed, later, ran, handed, looked⟩ := publish_of_first tells ends first
    refine ⟨outcome, changed, later, ran, handed, ?_, handed.inWords room within, looked⟩
    intro pumps taken
    rw [toNat_of_ofAnswer (handed.result.symm.trans taken)]
    exact UInt32.toNat_ofNat_of_lt' (Nat.lt_trans within room.pumps)
  · intro changed later given
    obtain ⟨index, ends, first⟩ := exists_first (exists_endsAt tells given)
    obtain ⟨outcome, _, _, ran, handed, _⟩ := publish_of_first tells ends first
    rw [ran] at given
    split at given
    next within =>
      cases given
      have full := eq_queueFull_of_retry handed.result
      refine ⟨index, within, ends.resolve_left (not_not_intro full), ?_⟩
      intro earlier upTo
      rcases Nat.lt_or_eq_of_le upTo with before | rfl
      · exact (not_endsAt_iff.mp (first earlier before)).1
      · exact full
    next => cases given
  · intro fired _
    have ends : publisher.EndsAt message looks 0 := .inr fired
    obtain ⟨outcome, changed, later, ran, handed, _⟩ :=
      publish_of_first tells ends fun _ before => absurd before (Nat.not_lt_zero _)
    refine ⟨outcome, changed, later, ?_, handed⟩
    intro tries
    rw [ran, if_pos (Nat.succ_pos tries)]

/-- The queue is full three times, and the signal is found fired behind the third. -/
theorem publish_backpressure_sample :
    let broker : ScriptedBroker :=
      { script := [.queueFull, .queueFull, .queueFull, .accepted], pending := 3
        pumpLimit := some 2 }
    let publisher : Publisher (Recorded ScriptedBroker) :=
      { broker := { client := broker }, topic := default, pumpMs := 7 }
    let message : Message := { key := none, payload := [1] }
    let looks : Nat → Bool := fun count => count == 2
    (publisher.publish message (.after 2) 3).map
          (fun result => (result.1, result.2.1.broker.calls)) =
        some
          (.retry,
            [.publish message .queueFull, .pump 7 2, .publish message .queueFull, .pump 7 1,
              .publish message .queueFull, .pump 7 0]) ∧
      (StopSignal.after 2).Tells looks ∧
      publisher.HasRoom message 4 ∧
      publisher.FollowsBackpressure message looks (.after 2) 4 := by
  intro broker publisher message looks
  have tells : (StopSignal.after 2).Tells looks := by
    intro count silent
    match count with
    | 0 | 1 | 2 => rfl
    | more + 3 => cases silent 2 (by omega)
  have room : publisher.HasRoom message 4 := ⟨by decide, by constructor <;> decide +kernel⟩
  exact ⟨by decide +kernel, tells, room,
    publish_backpressure publisher message looks _ 4 tells room⟩

end Protocol

end Publisher
end TraceForward
