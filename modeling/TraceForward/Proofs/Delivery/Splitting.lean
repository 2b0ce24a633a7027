/-
Batches that are cut and interrupted.

Let the answers of a client be laid down in advance.  Then the calls do not show how
the frames were cut into batches, nor where a stop signal put an end to one, as long
as what was left over goes in front of the next batch and nothing stops the last one.
-/

import Mathlib.Algebra.GroupWithZero.Nat
import TraceForward.Proofs.Delivery.Attempts

namespace TraceForward

namespace Publisher

variable {Client : Type} [BrokerClient Client] [LaidDown Client]
variable {publisher changed : Publisher (Recorded Client)}

/-! ### Enough tries -/

/-- With enough tries a run has this result, and more of them change nothing. -/
def EndsWith {Result : Type} (run : Nat → Option Result) (result : Result) : Prop :=
  ∃ enough, ∀ tries, enough ≤ tries → run tries = some result

theorem EndsWith.exists_run {Result : Type} {run : Nat → Option Result} {result : Result}
    (ends : EndsWith run result) : ∃ tries, run tries = some result := by
  obtain ⟨enough, steady⟩ := ends
  exact ⟨enough, steady enough (Nat.le_refl _)⟩

theorem EndsWith.bind {First Second : Type} {run : Nat → Option First}
    {next : Nat → First → Option Second} {first : First} {second : Second}
    (before : EndsWith run first) (after : EndsWith (fun tries => next tries first) second) :
    EndsWith (fun tries => run tries >>= next tries) second := by
  obtain ⟨enough, steady⟩ := before
  obtain ⟨enough', steady'⟩ := after
  refine ⟨max enough enough', ?_⟩
  intro tries many
  have ran := steady tries (Nat.le_trans (Nat.le_max_left _ _) many)
  have ran' := steady' tries (Nat.le_trans (Nat.le_max_right _ _) many)
  simp only [ran, Option.bind_eq_bind, Option.bind_some]
  exact ran'

theorem EndsWith.of_some {Result : Type} (result : Result) :
    EndsWith (fun _ => some result) result :=
  ⟨0, fun _ _ => rfl⟩

omit [LaidDown Client] in
theorem publishFrom_of_settled {message : Message} {answer : Answer} (pumps : UInt32)
    (stop : StopSignal) (offered : publisher.offer message = (answer, changed))
    (last : answer ≠ .queueFull) :
    ∃ outcome, ∀ tries, publishFrom message (tries + 1) pumps publisher stop =
      some (outcome, changed, stop) := by
  cases answer with
  | queueFull => exact absurd rfl last
  | accepted =>
      refine ⟨.enqueued pumps, fun tries => ?_⟩
      rw [publishFrom, offered]
  | fatal reason =>
      refine ⟨.fatal reason, fun tries => ?_⟩
      rw [publishFrom, offered]

/-- A message is settled, or left over, at the latest with the next answer that is
not a full queue. -/
theorem publishFrom_ends (message : Message) {count : Nat} (pumps : UInt32) (stop : StopSignal)
    (free : LaidDown.coming publisher.broker count ≠ .queueFull) :
    ∃ result, ∀ tries,
      publishFrom message (tries + count + 1) pumps publisher stop = some result := by
  induction count generalizing publisher stop pumps with
  | zero =>
      generalize offered : publisher.offer message = reply
      obtain ⟨answer, offering⟩ := reply
      rw [← (offer_adds offered).1] at free
      obtain ⟨outcome, ran⟩ := publishFrom_of_settled pumps stop offered free
      exact ⟨_, ran⟩
  | succ count ih =>
      generalize offered : publisher.offer message = reply
      obtain ⟨answer, offering⟩ := reply
      by_cases jammed : answer = .queueFull
      · subst jammed
        have adds := (offer_adds offered).2
        generalize looked : stop.look = found
        obtain ⟨fired, after⟩ := found
        cases fired with
        | true =>
            refine ⟨(.retry, offering, after), fun tries => ?_⟩
            rw [publishFrom, offered, looked]
        | false =>
            have later : LaidDown.coming offering.broker count ≠ .queueFull := by
              rw [adds.coming]
              simpa only [List.length_singleton, Nat.add_comm] using free
            obtain ⟨result, ends⟩ := ih (pumps + 1) after later
            refine ⟨result, fun tries => ?_⟩
            rw [publishFrom, offered, looked]
            exact ends tries
      · obtain ⟨outcome, ran⟩ := publishFrom_of_settled pumps stop offered jammed
        exact ⟨_, fun tries => ran (tries + (count + 1))⟩

theorem publish_ends (message : Message) (stop : StopSignal)
    (fair : NeverJams (LaidDown.coming publisher.broker)) :
    ∃ result, EndsWith (publisher.publish message stop) result := by
  obtain ⟨count, free⟩ := fair 0
  rw [Nat.zero_add] at free
  obtain ⟨result, ends⟩ := publishFrom_ends message 0 stop free
  refine ⟨result, count + 1, ?_⟩
  intro tries many
  obtain ⟨more, rfl⟩ := Nat.exists_eq_add_of_le' many
  exact ends more

theorem publishBatch_ends (batch : List Frame) (stop : StopSignal)
    (fair : NeverJams (LaidDown.coming publisher.broker)) :
    ∃ result, EndsWith (fun tries => publishBatch tries batch publisher stop) result := by
  induction batch generalizing publisher stop with
  | nil => exact ⟨_, EndsWith.of_some _⟩
  | cons frame rest ih =>
      obtain ⟨⟨settled, middle, after⟩, first⟩ := publish_ends frame.message stop fair
      obtain ⟨tries, ran⟩ := first.exists_run
      obtain ⟨⟨log, _, adds⟩, _⟩ := publishFrom_settles ran
      obtain ⟨⟨later, changed⟩, behind⟩ := ih after (adds.neverJams fair)
      cases settled with
      | retry => exact ⟨_, first.bind (EndsWith.of_some _)⟩
      | enqueued pumps => exact ⟨_, first.bind (behind.bind (EndsWith.of_some _))⟩
      | fatal reason => exact ⟨_, first.bind (behind.bind (EndsWith.of_some _))⟩

theorem publishCycle_ends (batch : List Frame) (stop : StopSignal)
    (fair : NeverJams (LaidDown.coming publisher.broker)) :
    ∃ result, EndsWith (publisher.publishCycle batch stop) result := by
  obtain ⟨⟨outcome, middle⟩, ends⟩ := publishBatch_ends batch stop fair
  exact ⟨_, ends.bind (EndsWith.of_some _)⟩

/-! ### Rows of batches -/

omit [LaidDown Client] in
/-- Publishes batches in a row, each behind what the one before it left over, and in
the end `last` behind what is left over then, with a signal that never fires. -/
def publishBatches {Client : Type} [BrokerClient Client] (tries : Nat) (last : List Frame) :
    List (List Frame × StopSignal) → List Frame → Publisher Client →
      Option (List CycleOutcome × Publisher Client)
  | [], carried, publisher => do
      let (outcome, publisher) ← publisher.publishCycle (carried ++ last) .never tries
      some ([outcome], publisher)
  | (batch, stop) :: rest, carried, publisher => do
      let frames := carried ++ batch
      let (outcome, publisher) ← publisher.publishCycle frames stop tries
      let (later, publisher) ←
        publishBatches tries last rest (outcome.unpublished frames) publisher
      some (outcome :: later, publisher)

structure PublishesAll (answers : Nat → Answer) (frames : List Frame)
    (outcomes : List CycleOutcome) (log : List BrokerCall) : Prop where
  attempts : Attempts answers (frames.map Frame.message) log []
  accepted : log.countP BrokerCall.isAccepted = (outcomes.map CycleOutcome.enqueued).sum
  turnedDown : log.countP BrokerCall.isTurnedDown = (outcomes.map CycleOutcome.dropped).sum

theorem Publishes.all {answers : Nat → Answer} {batch : List Frame} {outcome : CycleOutcome}
    {log : List BrokerCall} (publishes : Publishes answers batch outcome log)
    (whole : outcome.pending = 0) : PublishesAll answers batch [outcome] log := by
  obtain ⟨attempts, _, accepted, turnedDown⟩ := publishes
  have nothing : outcome.unpublished batch = [] := by
    rw [CycleOutcome.unpublished, whole]
    exact List.drop_length
  rw [nothing] at attempts
  refine ⟨attempts, ?_, ?_⟩
  · rw [accepted, List.map_singleton, List.sum_singleton]
  · rw [turnedDown, List.map_singleton, List.sum_singleton]

theorem publishBatches_publishes {tries : Nat} {last carried : List Frame}
    {batches : List (List Frame × StopSignal)} {outcomes : List CycleOutcome}
    (ran : publishBatches tries last batches carried publisher = some (outcomes, changed)) :
    ∃ log,
      PublishesAll (LaidDown.coming publisher.broker)
          (carried ++ (batches.map Prod.fst).flatten ++ last) outcomes log ∧
        publisher.Adds changed log := by
  induction batches generalizing carried publisher outcomes with
  | nil =>
      obtain ⟨⟨outcome, _⟩, first, ran⟩ := Option.bind_eq_some_iff.mp ran
      cases ran
      obtain ⟨⟨log, publishes, adds⟩, never⟩ := publishCycle_publishes first
      refine ⟨log, ?_, adds⟩
      rw [List.map_nil, List.flatten_nil, List.append_nil]
      exact publishes.all (never rfl)
  | cons next rest ih =>
      obtain ⟨batch, stop⟩ := next
      obtain ⟨⟨outcome, middle⟩, first, ran⟩ := Option.bind_eq_some_iff.mp ran
      obtain ⟨⟨later, _⟩, behind, ran⟩ := Option.bind_eq_some_iff.mp ran
      cases ran
      obtain ⟨⟨log, publishes, adds⟩, _⟩ := publishCycle_publishes first
      obtain ⟨log', publishes', adds'⟩ := ih behind
      refine ⟨log ++ log', ⟨?_, ?_, ?_⟩, adds.trans adds'⟩
      · have attempts := publishes'.attempts
        rw [adds.coming, List.append_assoc, List.map_append] at attempts
        rw [List.map_cons, List.flatten_cons, ← List.append_assoc carried, List.append_assoc,
          List.map_append]
        exact publishes.attempts.append attempts
      · rw [List.countP_append, publishes.accepted, publishes'.accepted, List.map_cons,
          List.sum_cons]
      · rw [List.countP_append, publishes.turnedDown, publishes'.turnedDown, List.map_cons,
          List.sum_cons]

theorem publishBatches_ends (last carried : List Frame)
    (batches : List (List Frame × StopSignal))
    (fair : NeverJams (LaidDown.coming publisher.broker)) :
    ∃ result, EndsWith (fun tries => publishBatches tries last batches carried publisher)
      result := by
  induction batches generalizing carried publisher with
  | nil =>
      obtain ⟨⟨outcome, changed⟩, ends⟩ := publishCycle_ends (carried ++ last) .never fair
      exact ⟨_, ends.bind (EndsWith.of_some _)⟩
  | cons next rest ih =>
      obtain ⟨batch, stop⟩ := next
      obtain ⟨⟨outcome, middle⟩, first⟩ := publishCycle_ends (carried ++ batch) stop fair
      obtain ⟨tries, ran⟩ := first.exists_run
      obtain ⟨⟨log, _, adds⟩, _⟩ := publishCycle_publishes ran
      obtain ⟨⟨later, changed⟩, behind⟩ :=
        ih (outcome.unpublished (carried ++ batch)) (adds.neverJams fair)
      exact ⟨_, first.bind (behind.bind (EndsWith.of_some _))⟩

/-- A row of batches made the same calls, with the same answers, as one batch of all
frames, of which nothing is left over. -/
structure SameDeliveries (outcomes : List CycleOutcome) (split : Publisher (Recorded Client))
    (outcome : CycleOutcome) (whole : Publisher (Recorded Client)) : Prop where
  offers : split.broker.offers = whole.broker.offers
  taken : split.broker.taken = whole.broker.taken
  enqueued : split.stats.enqueued = whole.stats.enqueued
  dropped : split.stats.dropped = whole.stats.dropped
  queueFullPumps : split.stats.queueFullPumps = whole.stats.queueFullPumps
  outcomesEnqueued : (outcomes.map CycleOutcome.enqueued).sum = outcome.enqueued
  outcomesDropped : (outcomes.map CycleOutcome.dropped).sum = outcome.dropped
  pending : outcome.pending = 0

/-- Neither the cuts between batches nor the signals that end them show in what is
published.  A batch is over with the first look that finds its signal fired, so the
number of silent looks before it is all there is to a signal. -/
theorem splitting_unobservable (publisher : Publisher (Recorded Client))
    (batches : List (List Frame × StopSignal)) (last : List Frame)
    (fair : NeverJams (LaidDown.coming publisher.broker)) :
    ∃ outcomes split outcome whole,
      EndsWith (fun tries => publishBatches tries last batches [] publisher)
          (outcomes, split) ∧
        EndsWith
          (publisher.publishCycle ((batches.map Prod.fst).flatten ++ last) .never)
          (outcome, whole) ∧
        SameDeliveries outcomes split outcome whole := by
  obtain ⟨⟨outcomes, split⟩, splitEnds⟩ := publishBatches_ends last [] batches fair
  obtain ⟨⟨outcome, whole⟩, wholeEnds⟩ :=
    publishCycle_ends ((batches.map Prod.fst).flatten ++ last) .never fair
  refine ⟨outcomes, split, outcome, whole, splitEnds, wholeEnds, ?_⟩
  obtain ⟨tries, splitRan⟩ := splitEnds.exists_run
  obtain ⟨tries', wholeRan⟩ := wholeEnds.exists_run
  obtain ⟨log, pieces, splitAdds⟩ := publishBatches_publishes splitRan
  obtain ⟨⟨log', publishes, wholeAdds⟩, never⟩ := publishCycle_publishes wholeRan
  have all := publishes.all (never rfl)
  -- Both logs settle the same messages over the same answers.
  have same : log = log' := pieces.attempts.unique all.attempts
  subst same
  have offers : split.broker.offers = whole.broker.offers := by
    rw [splitAdds.offers, wholeAdds.offers]
  refine ⟨offers, ?_, ?_, ?_, ?_, ?_, ?_, never rfl⟩
  · rw [Recorded.taken_eq, Recorded.taken_eq, offers]
  · rw [splitAdds.enqueued, wholeAdds.enqueued]
  · rw [splitAdds.dropped, wholeAdds.dropped]
  · rw [splitAdds.queueFullPumps, wholeAdds.queueFullPumps]
  · rw [← pieces.accepted, publishes.accepted]
  · rw [← pieces.turnedDown, publishes.turnedDown]

/-- The first batch is stopped at its second frame, after that was refused twice, and
the second batch once more at the same frame. -/
theorem splitting_unobservable_sample :
    let broker : ScriptedBroker :=
      { script := [.accepted, .queueFull, .queueFull, .queueFull, .fatal "no", .queueFull] }
    let publisher : Publisher (Recorded ScriptedBroker) :=
      { broker := { client := broker }, topic := default, pumpMs := 1 }
    let frame (byte : UInt8) : Frame := Frame.trace [byte]
    let batches := [([frame 1, frame 2], StopSignal.after 1), ([frame 3], .after 0)]
    let offer (byte : UInt8) (answer : Answer) : BrokerCall :=
      .publish (frame byte).message answer
    (publishBatches 5 [frame 4] batches [] publisher).map
          (fun result => (result.1.map CycleOutcome.pending, result.2.broker.offers)) =
        some
          ([1, 2, 0],
            [offer 1 .accepted, offer 2 .queueFull, offer 2 .queueFull, offer 2 .queueFull,
              offer 2 (.fatal "no"), offer 3 .queueFull, offer 3 .accepted,
              offer 4 .accepted]) ∧
      NeverJams (LaidDown.coming publisher.broker) ∧
      ∃ outcomes split outcome whole,
        EndsWith (fun tries => publishBatches tries [frame 4] batches [] publisher)
            (outcomes, split) ∧
          EndsWith
            (publisher.publishCycle ((batches.map Prod.fst).flatten ++ [frame 4]) .never)
            (outcome, whole) ∧
          SameDeliveries outcomes split outcome whole := by
  intro broker publisher frame batches offer
  have fair : NeverJams broker.coming := ScriptedBroker.neverJams_coming nofun
  refine ⟨?_, fair, splitting_unobservable publisher batches [frame 4] fair⟩
  decide +kernel

end Publisher
end TraceForward
