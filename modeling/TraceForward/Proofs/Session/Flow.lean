/-
What becomes of the frames that a session harvests.

A frame is settled by the broker, held by the worker, or given up by the final
cycle, and at every moment the harvested frames are the settled ones, then those
held, then those given up, in the order of their harvest.  So no frame is lost
or settled twice on the way through a batch, the tail that is carried to the
next cycle, and the batch of the final cycle.
-/

import TraceForward.Proofs.Delivery.Recorded
import TraceForward.Proofs.Harvest.Unit
import TraceForward.Proofs.Session.Transcript

namespace TraceForward

variable {Client : Type} [BrokerClient Client]

/-- The frames that were harvested and are not settled, in order. -/
def Session.held {Client : Type} (session : Session Client) : List Frame :=
  match session.phase with
  | .harvesting _ _ frames => session.carried ++ frames
  | .publishing _ batch => batch.frames
  | .flushing | .finished => []
  | _ => session.carried

namespace Observed

/-- Every harvested frame carries trace data and is settled, held or given up,
in the order of the harvest; only the final cycle gives frames up. -/
structure Flows (observed : Observed (Recorded Client)) : Prop where
  traces : ∀ entry ∈ observed.transcript.harvested, entry.2.kind = .trace
  order :
    observed.transcript.harvested.map (fun entry => entry.2.message) =
      observed.session.publisher.broker.settledTraces.map Prod.fst ++
        (observed.session.held ++ observed.transcript.givenUp).map Frame.message
  kept : observed.session.phase ≠ .flushing → observed.session.phase ≠ .finished →
    observed.transcript.givenUp = []

omit [BrokerClient Client] in
theorem Flows.held_trace {observed : Observed (Recorded Client)} (flows : observed.Flows)
    {frame : Frame} (held : frame ∈ observed.session.held) : frame.message.isTrace = true := by
  have member : frame.message ∈
      observed.transcript.harvested.map fun entry => entry.2.message := by
    rw [flows.order, List.map_append]
    exact List.mem_append_right _ (List.mem_append_left _ (List.mem_map_of_mem held))
  obtain ⟨entry, present, same⟩ := List.mem_map.mp member
  rw [← same, Frame.isTrace_message]
  exact flows.traces entry present

end Observed

theorem Descriptor.isTrace_message (descriptor : Descriptor) :
    descriptor.frame.message.isTrace = false := by
  rw [← Bool.not_eq_true, Frame.isTrace_message]
  cases descriptor <;> simp [Descriptor.frame, Descriptor.kind]

namespace Publisher

variable {publisher changed : Publisher (Recorded Client)} {message : Message} {answer : Answer}

theorem offer_settledTraces_other (offered : publisher.offer message = (answer, changed))
    (other : message.isTrace = false) :
    changed.broker.settledTraces = publisher.broker.settledTraces := by
  unfold Recorded.settledTraces
  rw [offer_settled offered, List.filter_append]
  cases answer <;> simp [BrokerCall.settled?, other]

theorem offer_settledTraces_last (offered : publisher.offer message = (answer, changed))
    (last : answer ≠ .queueFull) (trace : message.isTrace = true) :
    changed.broker.settledTraces = publisher.broker.settledTraces ++ [(message, answer)] := by
  unfold Recorded.settledTraces
  rw [offer_settled_last offered last, List.filter_append]
  simp [trace]

theorem offer_settledTraces_full (offered : publisher.offer message = (.queueFull, changed)) :
    changed.broker.settledTraces = publisher.broker.settledTraces := by
  unfold Recorded.settledTraces
  rw [offer_settled_full offered]

@[simp]
theorem pumpReports_settledTraces (publisher : Publisher (Recorded Client)) :
    publisher.pumpReports.2.broker.settledTraces = publisher.broker.settledTraces := by
  unfold Recorded.settledTraces
  rw [pumpReports_settled]

@[simp]
theorem flush_settledTraces (publisher : Publisher (Recorded Client)) (milliseconds : Nat) :
    (publisher.flush milliseconds).2.broker.settledTraces = publisher.broker.settledTraces := by
  unfold Recorded.settledTraces
  rw [flush_settled]

end Publisher

namespace Observed

variable {observed next : Observed (Recorded Client)}

omit [BrokerClient Client] in
theorem Flows.of_quiet {phase : Phase} (flows : observed.Flows)
    (stands : observed.session.phase = phase) (working : phase ≠ .flushing ∧ phase ≠ .finished)
    (harvested : next.transcript.harvested = observed.transcript.harvested)
    (givenUp : next.transcript.givenUp = observed.transcript.givenUp)
    (settled : next.session.publisher.broker.settledTraces =
      observed.session.publisher.broker.settledTraces)
    (held : next.session.held = observed.session.held) : next.Flows := by
  have kept := flows.kept (by rw [stands]; exact working.1) (by rw [stands]; exact working.2)
  refine ⟨?_, ?_, fun _ _ => givenUp.trans kept⟩
  · rw [harvested]
    exact flows.traces
  · rw [harvested, settled, held, givenUp]
    exact flows.order

theorem Flows.work {moment : Moment}
    (flows : observed.Flows) (advance : observed.session.Advance moment next.session)
    (seen : next.transcript = observed.transcript.extendWork observed.session) :
    next.Flows := by
  obtain ⟨session, transcript⟩ := observed
  obtain ⟨changed, extended⟩ := next
  dsimp only at advance seen
  subst seen
  cases advance with
  | copyTables stands =>
      refine flows.of_quiet stands (by simp) ?_ ?_ rfl ?_
      all_goals simp [Transcript.extendWork, Session.held, stands]
  | completeExport done stands =>
      refine flows.of_quiet stands (by simp) ?_ ?_ rfl ?_
      all_goals simp [Transcript.extendWork, Session.held, stands]
  | takeDescriptor done next rest publisher stands offered =>
      have settled := Publisher.offer_settledTraces_other offered next.isTrace_message
      refine flows.of_quiet stands (by simp) ?_ ?_ settled ?_
      all_goals simp [Transcript.extendWork, Session.held, stands]
  | blockDescriptor done next rest publisher stands offered =>
      have settled := Publisher.offer_settledTraces_other offered next.isTrace_message
      refine flows.of_quiet stands (by simp) ?_ ?_ settled ?_
      all_goals simp [Transcript.extendWork, Session.held, stands]
  | rejectDescriptor done next rest reason publisher stands offered =>
      have settled := Publisher.offer_settledTraces_other offered next.isTrace_message
      refine flows.of_quiet stands (by simp) ?_ ?_ settled ?_
      all_goals simp [Transcript.extendWork, Session.held, stands]
  | abandonDescriptor done next rest stands asked =>
      refine flows.of_quiet stands (by simp) ?_ ?_ rfl ?_
      all_goals simp [Transcript.extendWork, Session.held, stands]
  | retryDescriptor done next rest stands unasked =>
      refine flows.of_quiet stands (by simp) ?_ ?_ rfl ?_
      all_goals simp [Transcript.extendWork, Session.held, stands]
  | beginHarvest stands =>
      refine flows.of_quiet stands (by simp) ?_ ?_ rfl ?_
      all_goals simp [Transcript.extendWork, Session.held, stands]
  | visitUnit final position frames stands inside =>
      have kept : transcript.givenUp = [] := flows.kept (by simp [stands]) (by simp [stands])
      obtain ⟨carryTrace, _, _⟩ := session.harvester.harvestUnit_stats position
      have order := flows.order
      refine ⟨?_, ?_, ?_⟩
      · intro entry member
        simp only [Transcript.extendWork, stands] at member
        rcases List.mem_append.mp member with old | new
        · exact flows.traces entry old
        · obtain ⟨frame, taken, rfl⟩ := List.mem_map.mp new
          exact carryTrace frame taken
      · simp only [Transcript.extendWork, Session.held, stands, kept, List.append_nil]
          at order ⊢
        rw [List.map_append, order]
        simp [Function.comp_def]
      · intro _ _
        simpa only [Transcript.extendWork, stands] using kept
  | endHarvest final position frames stands past =>
      have absent : session.harvester.units[position]? = none :=
        List.getElem?_eq_none_iff.mpr past
      refine flows.of_quiet stands (by simp) ?_ ?_ rfl ?_
      all_goals
        simp [Transcript.extendWork, Session.held, Batch.frames, stands,
          Harvester.harvestUnit_past absent]
  | endBatch final stands =>
      refine flows.of_quiet stands (by simp) ?_ ?_ rfl ?_
      all_goals simp [Transcript.extendWork, Session.held, Batch.frames, stands]
  | settleFrame final next rest answer publisher stands offered settled =>
      have kept : transcript.givenUp = [] := flows.kept (by simp [stands]) (by simp [stands])
      have trace : next.message.isTrace = true :=
        flows.held_trace (by simp [Session.held, Batch.frames, stands])
      have order := flows.order
      simp only [Session.held, Batch.frames, stands, kept, List.append_nil] at order
      refine ⟨?_, ?_, ?_⟩
      · simpa only [Transcript.extendWork, stands] using flows.traces
      · simp only [Transcript.extendWork, Session.held, Batch.frames, stands, kept,
          List.append_nil]
        rw [order, Publisher.offer_settledTraces_last offered settled trace]
        simp
      · intro _ _
        simpa only [Transcript.extendWork, stands] using kept
  | blockFrame final next rest publisher stands offered =>
      have settled := Publisher.offer_settledTraces_full offered
      refine flows.of_quiet stands (by simp) ?_ ?_ settled ?_
      all_goals simp [Transcript.extendWork, Session.held, Batch.frames, stands]
  | leaveFrames final next rest stands stopped =>
      refine flows.of_quiet stands (by simp) ?_ ?_ rfl ?_
      all_goals simp [Transcript.extendWork, Session.held, Batch.frames, stands]
  | retryFrame final next rest stands unstopped =>
      refine flows.of_quiet stands (by simp) ?_ ?_ rfl ?_
      all_goals simp [Transcript.extendWork, Session.held, Batch.frames, stands]
  | endFinalCycle pending stands =>
      have kept : transcript.givenUp = [] := flows.kept (by simp [stands]) (by simp [stands])
      have order := flows.order
      simp only [Session.held, Batch.frames, stands, kept, List.append_nil] at order
      refine ⟨?_, ?_, ?_⟩
      · simpa only [Transcript.extendWork, stands] using flows.traces
      · simp only [Transcript.extendWork, Session.held, stands, kept, List.nil_append]
        rw [order]
        exact congrArg (fun settled => settled.map Prod.fst ++ pending.map Frame.message)
          session.publisher.pumpReports_settledTraces.symm
      · intro working _
        exact (working rfl).elim
  | endCycle pending stands sound =>
      have settled := session.publisher.pumpReports_settledTraces
      refine flows.of_quiet stands (by simp) ?_ ?_ settled ?_
      all_goals simp [Transcript.extendWork, Session.held, Batch.frames, stands]
  | endFaultedCycle pending fault stands first faulted =>
      have settled := session.publisher.pumpReports_settledTraces
      refine flows.of_quiet stands (by simp) ?_ ?_ settled ?_
      all_goals simp [Transcript.extendWork, Session.held, Batch.frames, stands]
  | flush stands =>
      have order := flows.order
      simp only [Session.held, stands] at order
      refine ⟨?_, ?_, ?_⟩
      · simpa only [Transcript.extendWork, stands] using flows.traces
      · simp only [Transcript.extendWork, Session.held, stands,
          Publisher.flush_settledTraces]
        exact order
      · intro _ working
        exact (working rfl).elim
  | rest stands =>
      simpa only [Transcript.extendWork, stands] using flows

theorem Flows.after {event : SessionEvent} (flows : observed.Flows)
    (happens : observed.after? event = some next) : next.Flows := by
  rcases after?_cases happens with
    ⟨moment, rfl, advance, seen⟩ | ⟨unit, record, rfl, rfl⟩ | ⟨unit, change, _, rfl⟩ |
      ⟨catalog, rfl⟩ | ⟨rfl, _, rfl⟩
  · exact flows.work advance seen
  · rw [Transcript.extendWrite_eq]
    exact ⟨flows.traces, flows.order, flows.kept⟩
  · exact ⟨flows.traces, flows.order, flows.kept⟩
  · exact ⟨flows.traces, flows.order, flows.kept⟩
  · exact ⟨flows.traces, flows.order, flows.kept⟩

end Observed
end TraceForward
