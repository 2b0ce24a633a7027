/-
How a cycle divides its batch.

The frames are published in order, each behind the one before it.  Those in front of
the first that has to be tried again are taken or turned down; it and the frames
behind it are left over, and the latter are not even tried.
-/

import TraceForward.Proofs.Delivery.Retrying

namespace TraceForward

def Outcome.settling (message : Message) : Outcome → List BrokerCall
  | .enqueued _ => [.publish message .accepted]
  | .retry => []
  | .fatal reason => [.publish message (.fatal reason)]

def Outcome.isTurnedDown : Outcome → Bool
  | .fatal _ => true
  | _ => false

/-- A frame that was tried, what came of it, and the reports that were served behind
each of its full answers. -/
structure Attempt where
  frame : Frame
  outcome : Outcome
  served : List Nat

namespace Attempt

def calls (pumpMs : Nat) (attempt : Attempt) : List BrokerCall :=
  attempt.served.flatMap
      (fun reports =>
        [.publish attempt.frame.message .queueFull, .pump pumpMs reports]) ++
    attempt.outcome.settling attempt.frame.message

theorem sum_counts {attempts : List Attempt}
    (goesOn : ∀ attempt ∈ attempts, attempt.outcome ≠ .retry) :
    (attempts.map fun attempt => attempt.outcome.enqueuedCount).sum +
        (attempts.map fun attempt => attempt.outcome.droppedCount).sum =
      attempts.length := by
  induction attempts with
  | nil => rfl
  | cons attempt rest ih =>
      obtain ⟨settled, behind⟩ := List.forall_mem_cons.mp goesOn
      have one : attempt.outcome.enqueuedCount + attempt.outcome.droppedCount = 1 := by
        cases outcome : attempt.outcome with
        | retry => exact absurd outcome settled
        | enqueued pumps => rfl
        | fatal reason => rfl
      have others := ih behind
      simp only [List.map_cons, List.sum_cons, List.length_cons]
      omega

theorem taken_calls (pumpMs : Nat) (attempt : Attempt) :
    (attempt.calls pumpMs).filterMap BrokerCall.taken? =
      (attempt.outcome.settling attempt.frame.message).filterMap BrokerCall.taken? := by
  have refused (served : List Nat) :
      (served.flatMap fun reports =>
        [.publish attempt.frame.message .queueFull, .pump pumpMs reports]).filterMap
          BrokerCall.taken? = [] := by
    induction served with
    | nil => rfl
    | cons reports rest ih => exact ih
  rw [calls, List.filterMap_append, refused, List.nil_append]

theorem taken_of_settled (pumpMs : Nat) {attempts : List Attempt}
    (goesOn : ∀ attempt ∈ attempts, attempt.outcome ≠ .retry) :
    (attempts.flatMap (Attempt.calls pumpMs)).filterMap BrokerCall.taken? =
      (attempts.filter fun attempt => !attempt.outcome.isTurnedDown).map
        fun attempt => attempt.frame.message := by
  induction attempts with
  | nil => rfl
  | cons attempt rest ih =>
      obtain ⟨settled, behind⟩ := List.forall_mem_cons.mp goesOn
      rw [List.flatMap_cons, List.filterMap_append, taken_calls, ih behind]
      cases outcome : attempt.outcome with
      | retry => exact absurd outcome settled
      | enqueued pumps => simp [Outcome.settling, Outcome.isTurnedDown, BrokerCall.taken?, outcome]
      | fatal reason => simp [Outcome.settling, Outcome.isTurnedDown, BrokerCall.taken?, outcome]

theorem taken_of_retried (pumpMs : Nat) {retried : Option Attempt}
    (again : ∀ attempt ∈ retried, attempt.outcome = .retry) :
    (retried.toList.flatMap (Attempt.calls pumpMs)).filterMap BrokerCall.taken? = [] := by
  cases retried with
  | none => rfl
  | some attempt =>
      rw [Option.toList_some, List.flatMap_singleton, taken_calls, again attempt rfl]
      rfl

end Attempt

namespace Publisher

variable {Client : Type} [BrokerClient Client] {tries : Nat}
  {publisher changed : Publisher (Recorded Client)} {message : Message}
  {stop later : StopSignal} {outcome : Outcome}

/-! ### One frame -/

theorem refusals_succ (publisher : Publisher (Recorded Client)) (message : Message)
    (rounds : Nat) :
    publisher.refusals message (rounds + 1) =
      publisher.refusals message rounds ++
        [.publish message .queueFull,
          .pump publisher.pumpMs (publisher.servedBehind message rounds)] := by
  rw [refusals, List.range_succ, List.flatMap_append, List.flatMap_singleton]
  rfl

structure Leaves (publisher : Publisher (Recorded Client)) (message : Message)
    (outcome : Outcome) (served : List Nat) (changed : Publisher (Recorded Client)) : Prop where
  calls : changed.broker.calls =
    publisher.broker.calls ++
      served.flatMap
        (fun reports => [.publish message .queueFull, .pump publisher.pumpMs reports]) ++
      outcome.settling message
  tried : outcome = .retry → served ≠ []
  pumpMs : changed.pumpMs = publisher.pumpMs
  enqueued : changed.stats.enqueued = publisher.stats.enqueued + outcome.enqueuedCount
  dropped : changed.stats.dropped = publisher.stats.dropped + outcome.droppedCount
  abandoned : changed.stats.abandoned = publisher.stats.abandoned

theorem HandedOver.leaves {index : Nat}
    (handed : publisher.HandedOver message index outcome changed) :
    publisher.Leaves message outcome
      ((List.range (publisher.fullAnswers message index)).map (publisher.servedBehind message))
      changed := by
  constructor
  · have rounds (count : Nat) :
        ((List.range count).map (publisher.servedBehind message)).flatMap
            (fun reports => [.publish message .queueFull, .pump publisher.pumpMs reports]) =
          publisher.refusals message count :=
      List.flatMap_map ..
    rw [rounds, handed.calls, handed.result, fullAnswers]
    cases answered : publisher.answerTo message index with
    | accepted => rfl
    | fatal reason => rfl
    | queueFull =>
        rw [if_pos rfl, if_pos rfl, refusals_succ]
        simp [Outcome.ofAnswer, Outcome.settling]
  · intro retry
    have full := eq_queueFull_of_retry (retry.symm.trans handed.result)
    rw [fullAnswers, if_pos full]
    simp
  · exact handed.pumpMs
  · exact handed.enqueued
  · exact handed.dropped
  · exact handed.abandoned

theorem publish_leaves (ran : publisher.publish message stop tries = some (outcome, changed, later)) :
    ∃ served, publisher.Leaves message outcome served changed := by
  have tells : stop.Tells stop.finds := fun _ _ => rfl
  obtain ⟨index, ends, first⟩ := exists_first (exists_endsAt tells ran)
  obtain ⟨_, _, _, same, handed, _⟩ := publish_of_first tells ends first
  rw [same] at ran
  split at ran
  next =>
    cases ran
    exact ⟨_, handed.leaves⟩
  next => cases ran

/-! ### Frames in turn -/

/-- The frames of these attempts are published one behind the other, each with what it
came to. -/
inductive PublishedInTurn (tries : Nat) :
    Publisher (Recorded Client) → StopSignal → List Attempt →
      Publisher (Recorded Client) → StopSignal → Prop where
  | none (publisher : Publisher (Recorded Client)) (stop : StopSignal) :
      PublishedInTurn tries publisher stop [] publisher stop
  | next {publisher middle changed : Publisher (Recorded Client)} {stop after later : StopSignal}
      {attempt : Attempt} {rest : List Attempt}
      (first : publisher.publish attempt.frame.message stop tries =
        some (attempt.outcome, middle, after))
      (leaves : publisher.Leaves attempt.frame.message attempt.outcome attempt.served middle)
      (behind : PublishedInTurn tries middle after rest changed later) :
      PublishedInTurn tries publisher stop (attempt :: rest) changed later

theorem PublishedInTurn.calls {attempts : List Attempt}
    (inTurn : PublishedInTurn tries publisher stop attempts changed later) :
    changed.broker.calls =
      publisher.broker.calls ++ attempts.flatMap (Attempt.calls publisher.pumpMs) := by
  induction inTurn with
  | none => simp
  | next first leaves behind ih =>
      rw [ih, leaves.calls, leaves.pumpMs, List.flatMap_cons, Attempt.calls]
      simp only [List.append_assoc]

theorem PublishedInTurn.enqueued {attempts : List Attempt}
    (inTurn : PublishedInTurn tries publisher stop attempts changed later) :
    changed.stats.enqueued =
      publisher.stats.enqueued +
        (attempts.map fun attempt => attempt.outcome.enqueuedCount).sum := by
  induction inTurn with
  | none => rfl
  | next first leaves behind ih =>
      rw [ih, leaves.enqueued, List.map_cons, List.sum_cons, Nat.add_assoc]

theorem PublishedInTurn.dropped {attempts : List Attempt}
    (inTurn : PublishedInTurn tries publisher stop attempts changed later) :
    changed.stats.dropped =
      publisher.stats.dropped +
        (attempts.map fun attempt => attempt.outcome.droppedCount).sum := by
  induction inTurn with
  | none => rfl
  | next first leaves behind ih =>
      rw [ih, leaves.dropped, List.map_cons, List.sum_cons, Nat.add_assoc]

theorem PublishedInTurn.abandoned {attempts : List Attempt}
    (inTurn : PublishedInTurn tries publisher stop attempts changed later) :
    changed.stats.abandoned = publisher.stats.abandoned := by
  induction inTurn with
  | none => rfl
  | next first leaves behind ih => rw [ih, leaves.abandoned]

/-- A frame that is to be tried again has been handed over at least once. -/
theorem PublishedInTurn.tried {attempts : List Attempt}
    (inTurn : PublishedInTurn tries publisher stop attempts changed later) :
    ∀ attempt ∈ attempts, attempt.outcome = .retry → attempt.served ≠ [] := by
  induction inTurn with
  | none => exact nofun
  | next first leaves behind ih =>
      exact List.forall_mem_cons.mpr ⟨leaves.tried, ih⟩

/-! ### The parts of a batch -/

/-- The parts of a batch: the frames that were settled, the one that has to be tried
again, and those behind it. -/
structure Divides (batch : List Frame) (outcome : CycleOutcome) (settled : List Attempt)
    (retried : Option Attempt) : Prop where
  frames : batch = settled.map Attempt.frame ++ outcome.unpublished batch
  goesOn : ∀ attempt ∈ settled, attempt.outcome ≠ .retry
  again : ∀ attempt ∈ retried, attempt.outcome = .retry
  /-- The frame to be tried again is the first of those that are left. -/
  head : retried.map Attempt.frame = (outcome.unpublished batch).head?
  pending : outcome.pending ≤ batch.length
  enqueued : outcome.enqueued = (settled.map fun attempt => attempt.outcome.enqueuedCount).sum
  dropped : outcome.dropped = (settled.map fun attempt => attempt.outcome.droppedCount).sum

theorem Divides.none : Divides [] {} [] none := by
  constructor
  · rfl
  · exact nofun
  · exact nofun
  · rfl
  · exact Nat.le_refl _
  · rfl
  · rfl

theorem unpublished_all (batch : List Frame) (outcome : CycleOutcome)
    (all : outcome.pending = batch.length) : outcome.unpublished batch = batch := by
  rw [CycleOutcome.unpublished, all, Nat.sub_self, List.drop_zero]

theorem Divides.retry (attempt : Attempt) (again : attempt.outcome = .retry)
    (rest : List Frame) :
    Divides (attempt.frame :: rest) { pending := rest.length + 1 } [] (some attempt) := by
  have all := unpublished_all (attempt.frame :: rest) { pending := rest.length + 1 } rfl
  constructor
  · rw [all]
    rfl
  · exact nofun
  · intro other same
    cases same
    exact again
  · rw [all]
    rfl
  · exact Nat.le_refl _
  · rfl
  · rfl

theorem Divides.cons {rest : List Frame} {later : CycleOutcome} {settled : List Attempt}
    {retried : Option Attempt} (attempt : Attempt) (goesOn : attempt.outcome ≠ .retry)
    (divides : Divides rest later settled retried) :
    Divides (attempt.frame :: rest)
      { later with
        enqueued := later.enqueued + attempt.outcome.enqueuedCount
        dropped := later.dropped + attempt.outcome.droppedCount }
      (attempt :: settled) retried := by
  obtain ⟨frames, allSettled, again, head, pending, enqueued, dropped⟩ := divides
  have same := unpublished_cons attempt.frame pending
  constructor
  · change attempt.frame :: rest =
      attempt.frame :: (settled.map Attempt.frame ++ later.unpublished (attempt.frame :: rest))
    rw [same, ← frames]
  · exact List.forall_mem_cons.mpr ⟨goesOn, allSettled⟩
  · exact again
  · rw [head]
    exact congrArg List.head? same.symm
  · exact Nat.le_succ_of_le pending
  · rw [List.map_cons, List.sum_cons, ← enqueued]
    exact Nat.add_comm _ _
  · rw [List.map_cons, List.sum_cons, ← dropped]
    exact Nat.add_comm _ _

theorem publishBatch_divides {batch : List Frame} {outcome : CycleOutcome}
    (ran : publishBatch tries batch publisher stop = some (outcome, changed)) :
    ∃ settled retried later,
      PublishedInTurn tries publisher stop (settled ++ retried.toList) changed later ∧
        Divides batch outcome settled retried := by
  induction batch generalizing publisher stop outcome with
  | nil =>
      cases ran
      exact ⟨[], none, stop, .none _ _, .none⟩
  | cons frame rest ih =>
      obtain ⟨result, middle, after, first, ends | ⟨goesOn, later, behind, rfl⟩⟩ :=
        publishBatch_cons ran
      · obtain ⟨again, rfl, rfl⟩ := ends
        obtain ⟨served, leaves⟩ := publish_leaves first
        let attempt : Attempt := { frame, outcome := result, served }
        exact ⟨[], some attempt, after, .next first leaves (.none _ _),
          .retry attempt again rest⟩
      · obtain ⟨served, leaves⟩ := publish_leaves first
        obtain ⟨settled, retried, last, inTurn, divides⟩ := ih behind
        let attempt : Attempt := { frame, outcome := result, served }
        exact ⟨attempt :: settled, retried, last, .next first leaves inTurn,
          .cons attempt goesOn divides⟩

theorem publishBatch_cons_eq_none {frame : Frame} {rest : List Frame}
    {middle : Publisher (Recorded Client)} {after : StopSignal}
    (first : publisher.publish frame.message stop tries = some (outcome, middle, after))
    (stuck : publishBatch tries (frame :: rest) publisher stop = none) :
    outcome ≠ .retry ∧ publishBatch tries rest middle after = none := by
  unfold publishBatch at stuck
  rw [first] at stuck
  constructor
  · rintro rfl
    cases stuck
  · cases behind : publishBatch tries rest middle after with
    | none => rfl
    | some result =>
        cases outcome with
        | retry => cases stuck
        | enqueued pumps => simp [behind] at stuck
        | fatal reason => simp [behind] at stuck

/-- Where a batch comes to no end, the tries of one of its frames do not, behind frames
that were settled. -/
theorem exists_stuck {batch : List Frame}
    (stuck : publishBatch tries batch publisher stop = none) :
    ∃ settled middle after frame rest,
      PublishedInTurn tries publisher stop settled middle after ∧
        (∀ attempt ∈ settled, attempt.outcome ≠ .retry) ∧
        batch = settled.map Attempt.frame ++ frame :: rest ∧
        middle.publish frame.message after tries = none := by
  induction batch generalizing publisher stop with
  | nil => cases stuck
  | cons frame rest ih =>
      cases first : publisher.publish frame.message stop tries with
      | none => exact ⟨[], publisher, stop, frame, rest, .none _ _, nofun, rfl, first⟩
      | some result =>
          obtain ⟨outcome, middle, after⟩ := result
          obtain ⟨served, leaves⟩ := publish_leaves first
          obtain ⟨goesOn, behind⟩ := publishBatch_cons_eq_none first stuck
          obtain ⟨settled, last, final, frame', rest', inTurn, allGoOn, rfl, none⟩ := ih behind
          let attempt : Attempt := { frame, outcome, served }
          refine ⟨attempt :: settled, last, final, frame', rest', .next first leaves inTurn, ?_,
            rfl, none⟩
          exact List.forall_mem_cons.mpr ⟨goesOn, allGoOn⟩

/-! ### The division of a batch -/

/-- How a cycle has divided its batch, and what it has done for the parts. -/
structure Partitions (publisher : Publisher (Recorded Client)) (batch : List Frame)
    (stop : StopSignal) (tries : Nat) (outcome : CycleOutcome)
    (changed : Publisher (Recorded Client)) (settled : List Attempt)
    (retried : Option Attempt) : Prop where
  divides : Divides batch outcome settled retried
  length_batch : outcome.enqueued + outcome.dropped + outcome.pending = batch.length
  length_unpublished : (outcome.unpublished batch).length = outcome.pending
  /-- The frames up to the first retry are published in turn, and no others are. -/
  published : ∃ middle later,
    PublishedInTurn tries publisher stop (settled ++ retried.toList) middle later ∧
      changed.broker.calls = middle.broker.calls ++ [.pump 0 outcome.reports]
  calls : changed.broker.calls =
    publisher.broker.calls ++
      (settled ++ retried.toList).flatMap (Attempt.calls publisher.pumpMs) ++
      [.pump 0 outcome.reports]
  tried : ∀ attempt ∈ retried, attempt.served ≠ []
  taken : changed.broker.taken =
    publisher.broker.taken ++
      (settled.filter fun attempt => !attempt.outcome.isTurnedDown).map
        fun attempt => attempt.frame.message
  /-- Frames of trace data are taken with the key of the trace. -/
  traceKey : (∀ frame ∈ batch, frame.kind = .trace) →
    changed.broker.taken =
      publisher.broker.taken ++
        (settled.filter fun attempt => !attempt.outcome.isTurnedDown).map fun attempt =>
          { key := some Kind.trace.keyBytes, payload := attempt.frame.payload }
  /-- The frame to be tried again was not taken, and those behind it were not tried. -/
  refused : (retried.toList.flatMap (Attempt.calls publisher.pumpMs)).filterMap
    BrokerCall.taken? = []
  enqueued : changed.stats.enqueued = publisher.stats.enqueued + outcome.enqueued
  dropped : changed.stats.dropped = publisher.stats.dropped + outcome.dropped
  abandoned : changed.stats.abandoned = publisher.stats.abandoned

theorem Divides.length_batch {batch : List Frame} {cycle : CycleOutcome}
    {settled : List Attempt} {retried : Option Attempt}
    (divides : Divides batch cycle settled retried) :
    cycle.enqueued + cycle.dropped + cycle.pending = batch.length ∧
      (cycle.unpublished batch).length = cycle.pending := by
  have left : (cycle.unpublished batch).length = cycle.pending := by
    rw [CycleOutcome.unpublished, List.length_drop]
    exact Nat.sub_sub_self divides.pending
  refine ⟨?_, left⟩
  have parts := congrArg List.length divides.frames
  rw [List.length_append, List.length_map, left] at parts
  rw [parts, divides.enqueued, divides.dropped, Attempt.sum_counts divides.goesOn]

theorem partitions_of_publishBatch {batch : List Frame} {cycle : CycleOutcome}
    (ran : publishBatch tries batch publisher stop = some (cycle, changed)) :
    ∃ settled retried,
      publisher.Partitions batch stop tries { cycle with reports := changed.pumpReports.1 }
        changed.pumpReports.2 settled retried := by
  obtain ⟨settled, retried, later, inTurn, divides⟩ := publishBatch_divides ran
  obtain ⟨length_batch, length_unpublished⟩ := divides.length_batch
  obtain ⟨frames, goesOn, again, head, pending, enqueued, dropped⟩ := divides
  have none_counted :
      (retried.toList.map fun attempt => attempt.outcome.enqueuedCount).sum = 0 ∧
        (retried.toList.map fun attempt => attempt.outcome.droppedCount).sum = 0 := by
    cases retried with
    | none => exact ⟨rfl, rfl⟩
    | some attempt => simp [again attempt rfl, Outcome.enqueuedCount, Outcome.droppedCount]
  have taken :
      changed.pumpReports.2.broker.taken =
        publisher.broker.taken ++
          (settled.filter fun attempt => !attempt.outcome.isTurnedDown).map
            fun attempt => attempt.frame.message := by
    rw [Recorded.taken, pumpReports_calls, inTurn.calls, List.flatMap_append]
    simp only [List.filterMap_append, Attempt.taken_of_settled _ goesOn,
      Attempt.taken_of_retried _ again, List.append_nil]
    exact List.append_nil _
  refine ⟨settled, retried, ?_⟩
  constructor
  · exact ⟨frames, goesOn, again, head, pending, enqueued, dropped⟩
  · exact length_batch
  · exact length_unpublished
  · exact ⟨changed, later, inTurn, pumpReports_calls changed⟩
  · rw [pumpReports_calls, inTurn.calls]
    rfl
  · intro attempt member
    exact inTurn.tried attempt (List.mem_append_right _ (Option.mem_toList.mpr member))
      (again attempt member)
  · exact taken
  · intro traces
    rw [taken]
    refine congrArg _ (List.map_congr_left fun attempt member => ?_)
    have kept : attempt.frame ∈ settled.map Attempt.frame :=
      List.mem_map_of_mem (List.mem_of_mem_filter member)
    rw [Frame.message, traces attempt.frame (frames ▸ List.mem_append_left _ kept)]
  · exact Attempt.taken_of_retried _ again
  · change changed.stats.enqueued = publisher.stats.enqueued + cycle.enqueued
    rw [inTurn.enqueued, List.map_append, List.sum_append, none_counted.1, Nat.add_zero,
      ← enqueued]
  · change changed.stats.dropped = publisher.stats.dropped + cycle.dropped
    rw [inTurn.dropped, List.map_append, List.sum_append, none_counted.2, Nat.add_zero,
      ← dropped]
  · exact inTurn.abandoned

/-- A cycle divides its batch, unless the tries of one of the frames come to no end. -/
theorem publishCycle_partitions (publisher : Publisher (Recorded Client)) (batch : List Frame)
    (stop : StopSignal) (tries : Nat) :
    (∀ outcome changed, publisher.publishCycle batch stop tries = some (outcome, changed) →
      ∃ settled retried,
        publisher.Partitions batch stop tries outcome changed settled retried) ∧
    (publisher.publishCycle batch stop tries = none →
      ∃ settled middle after frame rest,
        PublishedInTurn tries publisher stop settled middle after ∧
          (∀ attempt ∈ settled, attempt.outcome ≠ .retry) ∧
          batch = settled.map Attempt.frame ++ frame :: rest ∧
          middle.publish frame.message after tries = none) := by
  constructor
  · intro outcome changed ran
    unfold publishCycle at ran
    obtain ⟨⟨cycle, middle⟩, published, ran⟩ := Option.bind_eq_some_iff.mp ran
    cases ran
    exact partitions_of_publishBatch published
  · intro stuck
    apply exists_stuck
    cases published : publishBatch tries batch publisher stop with
    | none => rfl
    | some result =>
        unfold publishCycle at stuck
        rw [published] at stuck
        cases stuck

/-- Of four frames the first is turned down, the second taken behind a full answer, and
the third meets a full queue when the signal has fired. -/
theorem publishCycle_partitions_sample :
    let broker : ScriptedBroker :=
      { script := [.fatal "too large", .queueFull, .accepted, .queueFull], pending := 1 }
    let publisher : Publisher (Recorded ScriptedBroker) :=
      { broker := { client := broker }, topic := default, pumpMs := 5 }
    let frames : List Frame := [.trace [1], .trace [2], .trace [3], .trace [4]]
    (publisher.publishCycle frames (.after 1) 2).map
          (fun result => (result.1, result.1.unpublished frames, result.2.broker.calls)) =
        some
          ({ enqueued := 1, dropped := 1, pending := 2, reports := 0 },
            [.trace [3], .trace [4]],
            [.publish (Frame.trace [1]).message (.fatal "too large"),
              .publish (Frame.trace [2]).message .queueFull, .pump 5 1,
              .publish (Frame.trace [2]).message .accepted,
              .publish (Frame.trace [3]).message .queueFull, .pump 5 1, .pump 0 0]) ∧
      ∀ outcome changed,
        publisher.publishCycle frames (.after 1) 2 = some (outcome, changed) →
        ∃ settled retried,
          publisher.Partitions frames (.after 1) 2 outcome changed settled retried := by
  intro broker publisher frames
  exact ⟨by decide +kernel, (publishCycle_partitions publisher frames (.after 1) 2).1⟩

end Publisher
end TraceForward
