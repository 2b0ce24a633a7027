/-
How the export of a session goes.

The worker publishes the descriptors of the tables that it copied, one after
the other.  Until the first that is not taken, the record shows exactly those
before it; from then on it shows no further descriptor, and what became of the
export does not change any more.
-/

import TraceForward.Proofs.Catalog.Descriptors
import TraceForward.Proofs.Session.Flow

namespace TraceForward

variable {Client : Type} [BrokerClient Client]

def Descriptor.taken (descriptors : List Descriptor) : List (Message × Answer) :=
  descriptors.map fun descriptor => (descriptor.frame.message, .accepted)

namespace Publisher

variable {publisher changed : Publisher (Recorded Client)} {message : Message} {answer : Answer}

theorem offer_settledDescriptors_trace (offered : publisher.offer message = (answer, changed))
    (trace : message.isTrace = true) :
    changed.broker.settledDescriptors = publisher.broker.settledDescriptors := by
  unfold Recorded.settledDescriptors
  rw [offer_settled offered, List.filter_append]
  cases answer <;> simp [BrokerCall.settled?, trace]

theorem offer_settledDescriptors_last (offered : publisher.offer message = (answer, changed))
    (last : answer ≠ .queueFull) (other : message.isTrace = false) :
    changed.broker.settledDescriptors =
      publisher.broker.settledDescriptors ++ [(message, answer)] := by
  unfold Recorded.settledDescriptors
  rw [offer_settled_last offered last, List.filter_append]
  simp [other]

theorem offer_settledDescriptors_full
    (offered : publisher.offer message = (.queueFull, changed)) :
    changed.broker.settledDescriptors = publisher.broker.settledDescriptors := by
  unfold Recorded.settledDescriptors
  rw [offer_settled_full offered]

@[simp]
theorem pumpReports_settledDescriptors (publisher : Publisher (Recorded Client)) :
    publisher.pumpReports.2.broker.settledDescriptors =
      publisher.broker.settledDescriptors := by
  unfold Recorded.settledDescriptors
  rw [pumpReports_settled]

@[simp]
theorem flush_settledDescriptors (publisher : Publisher (Recorded Client))
    (milliseconds : Nat) :
    (publisher.flush milliseconds).2.broker.settledDescriptors =
      publisher.broker.settledDescriptors := by
  unfold Recorded.settledDescriptors
  rw [flush_settled]

end Publisher

namespace Observed

def ExportUnderway (observed : Observed (Recorded Client)) (done : ExportSummary)
    (rest : List Descriptor) : Prop :=
  ∃ catalog sent,
    observed.transcript.exported = some catalog ∧
    catalog.descriptors = sent ++ rest ∧
    done = ExportSummary.ofDescriptors sent ∧
    observed.session.publisher.broker.settledDescriptors = Descriptor.taken sent ∧
    observed.session.metadata = none ∧
    observed.session.publisher.stats.abandoned = 0

def ExportComplete (observed : Observed (Recorded Client)) (catalog : Catalog) : Prop :=
  observed.session.metadata = some (ExportSummary.ofDescriptors catalog.descriptors) ∧
    observed.session.publisher.broker.settledDescriptors =
      Descriptor.taken catalog.descriptors ∧
    observed.session.publisher.stats.abandoned = observed.transcript.givenUp.length

/-- The export failed at the descriptor `next` after those in `sent`: it was
turned down, or given up for a request to stop. -/
def ExportFailed (observed : Observed (Recorded Client)) (sent : List Descriptor)
    (next : Descriptor) : Prop :=
  observed.session.metadata = none ∧
    ((∃ reason,
        observed.session.fault = some (next.rejectedFault reason) ∧
        observed.session.publisher.broker.settledDescriptors =
          Descriptor.taken sent ++ [(next.frame.message, .fatal reason)] ∧
        observed.session.publisher.stats.abandoned = observed.transcript.givenUp.length) ∨
      (observed.session.fault = some next.stoppedFault ∧
        observed.session.publisher.broker.settledDescriptors = Descriptor.taken sent ∧
        observed.session.publisher.stats.abandoned =
          observed.transcript.givenUp.length + 1))

def ExportOver (observed : Observed (Recorded Client)) : Prop :=
  ∃ catalog, observed.transcript.exported = some catalog ∧
    (observed.ExportComplete catalog ∨
      ∃ sent next rest, catalog.descriptors = sent ++ next :: rest ∧
        observed.ExportFailed sent next)

def Exports (observed : Observed (Recorded Client)) : Prop :=
  match observed.session.phase with
  | .starting =>
      observed.transcript.exported = none ∧
      observed.session.publisher.broker.settledDescriptors = [] ∧
      observed.session.metadata = none ∧
      observed.session.publisher.stats.abandoned = 0
  | .exporting done rest => observed.ExportUnderway done rest
  | .exportBlocked done next rest => observed.ExportUnderway done (next :: rest)
  | _ => observed.ExportOver

variable {observed next : Observed (Recorded Client)}

omit [BrokerClient Client] in
theorem ExportOver.of_same (exportOver : observed.ExportOver)
    (exported : next.transcript.exported = observed.transcript.exported)
    (metadata : next.session.metadata = observed.session.metadata)
    (fault : observed.session.fault = none ∨ next.session.fault = observed.session.fault)
    (settled : next.session.publisher.broker.settledDescriptors =
      observed.session.publisher.broker.settledDescriptors)
    (abandoned : next.session.publisher.stats.abandoned + observed.transcript.givenUp.length =
      observed.session.publisher.stats.abandoned + next.transcript.givenUp.length) :
    next.ExportOver := by
  obtain ⟨catalog, copied, ⟨completed, log, before⟩ |
    ⟨sent, failing, rest, split, unfinished, verdict⟩⟩ := exportOver
  · refine ⟨catalog, exported.trans copied, .inl ⟨?_, ?_, by omega⟩⟩
    · exact metadata.trans completed
    · exact settled.trans log
  · have known : next.session.fault = observed.session.fault := by
      rcases fault with unknown | same
      · rcases verdict with ⟨reason, named, _⟩ | ⟨named, _⟩
        · rw [unknown] at named
          cases named
        · rw [unknown] at named
          cases named
      · exact same
    refine ⟨catalog, exported.trans copied, .inr ⟨sent, failing, rest, split, ?_, ?_⟩⟩
    · exact metadata.trans unfinished
    · rw [known, settled]
      rcases verdict with ⟨reason, named, log, before⟩ | ⟨named, log, before⟩
      · exact .inl ⟨reason, named, log, by omega⟩
      · exact .inr ⟨named, log, by omega⟩

theorem Exports.work {moment : Moment} (exports : observed.Exports) (flows : observed.Flows)
    (advance : observed.session.Advance moment next.session)
    (seen : next.transcript = observed.transcript.extendWork observed.session) :
    next.Exports := by
  obtain ⟨session, transcript⟩ := observed
  obtain ⟨changed, extended⟩ := next
  dsimp only at advance seen
  subst seen
  cases advance with
  | copyTables stands =>
      simp only [Exports, stands] at exports
      obtain ⟨_, log, unfinished, nothing⟩ := exports
      refine ⟨session.catalog, [], ?_, rfl, rfl, log, unfinished, nothing⟩
      simp [Transcript.extendWork, stands]
  | completeExport done stands =>
      simp only [Exports, stands] at exports
      obtain ⟨catalog, sent, copied, split, counted, log, unfinished, nothing⟩ := exports
      rw [List.append_nil] at split
      subst split
      have kept : transcript.givenUp = [] := flows.kept (by simp [stands]) (by simp [stands])
      simp only [Transcript.extendWork, stands]
      refine ⟨catalog, copied, .inl ⟨congrArg some counted, log, ?_⟩⟩
      rw [kept]
      exact nothing
  | takeDescriptor done next rest publisher stands offered =>
      simp only [Exports, stands] at exports
      obtain ⟨catalog, sent, copied, split, counted, log, unfinished, nothing⟩ := exports
      have settled :=
        Publisher.offer_settledDescriptors_last offered (by simp) next.isTrace_message
      simp only [Transcript.extendWork, stands]
      refine ⟨catalog, sent ++ [next], copied, ?_, ?_, ?_, unfinished, ?_⟩
      · rw [split, List.append_assoc]
        rfl
      · rw [counted, ExportSummary.ofDescriptors_concat]
      · rw [settled, log]
        simp [Descriptor.taken]
      · rw [Publisher.offer_abandoned offered, nothing]
  | blockDescriptor done next rest publisher stands offered =>
      simp only [Exports, stands] at exports
      obtain ⟨catalog, sent, copied, split, counted, log, unfinished, nothing⟩ := exports
      have settled := Publisher.offer_settledDescriptors_full offered
      simp only [Transcript.extendWork, stands]
      refine ⟨catalog, sent, copied, split, counted, settled.trans log, unfinished, ?_⟩
      rw [Publisher.offer_abandoned offered, nothing]
  | rejectDescriptor done next rest reason publisher stands offered =>
      simp only [Exports, stands] at exports
      obtain ⟨catalog, sent, copied, split, counted, log, unfinished, nothing⟩ := exports
      have settled :=
        Publisher.offer_settledDescriptors_last offered (by simp) next.isTrace_message
      have kept : transcript.givenUp = [] := flows.kept (by simp [stands]) (by simp [stands])
      simp only [Transcript.extendWork, stands]
      refine ⟨catalog, copied, .inr ⟨sent, next, rest, split, unfinished, .inl ?_⟩⟩
      refine ⟨reason, rfl, by rw [settled, log], ?_⟩
      rw [Publisher.offer_abandoned offered, kept]
      exact nothing
  | abandonDescriptor done next rest stands asked =>
      simp only [Exports, stands] at exports
      obtain ⟨catalog, sent, copied, split, counted, log, unfinished, nothing⟩ := exports
      have kept : transcript.givenUp = [] := flows.kept (by simp [stands]) (by simp [stands])
      simp only [Transcript.extendWork, stands]
      refine ⟨catalog, copied, .inr ⟨sent, next, rest, split, unfinished, .inr ⟨rfl, log, ?_⟩⟩⟩
      rw [kept]
      exact congrArg (· + 1) nothing
  | retryDescriptor done next rest stands unasked =>
      simp only [Exports, stands] at exports
      simp only [Transcript.extendWork, stands]
      exact exports
  | beginHarvest stands =>
      simp only [Exports, stands] at exports
      simp only [Transcript.extendWork, stands]
      exact exports.of_same rfl rfl (.inr rfl) rfl rfl
  | visitUnit final position frames stands inside =>
      simp only [Exports, stands] at exports
      simp only [Transcript.extendWork, stands]
      exact exports.of_same rfl rfl (.inr rfl) rfl rfl
  | endHarvest final position frames stands past =>
      simp only [Exports, stands] at exports
      simp only [Transcript.extendWork, stands]
      exact exports.of_same rfl rfl (.inr rfl) rfl rfl
  | endBatch final stands =>
      simp only [Exports, stands] at exports
      simp only [Transcript.extendWork, stands]
      exact exports.of_same rfl rfl (.inr rfl) rfl rfl
  | settleFrame final next rest answer publisher stands offered settled =>
      simp only [Exports, stands] at exports
      have trace : next.message.isTrace = true :=
        flows.held_trace (by simp [Session.held, Batch.frames, stands])
      have log := Publisher.offer_settledDescriptors_trace offered trace
      simp only [Transcript.extendWork, stands]
      refine exports.of_same rfl rfl (.inr rfl) log ?_
      exact congrArg (· + transcript.givenUp.length) (Publisher.offer_abandoned offered)
  | blockFrame final next rest publisher stands offered =>
      simp only [Exports, stands] at exports
      have log := Publisher.offer_settledDescriptors_full offered
      simp only [Transcript.extendWork, stands]
      refine exports.of_same rfl rfl (.inr rfl) log ?_
      exact congrArg (· + transcript.givenUp.length) (Publisher.offer_abandoned offered)
  | leaveFrames final next rest stands stopped =>
      simp only [Exports, stands] at exports
      simp only [Transcript.extendWork, stands]
      exact exports.of_same rfl rfl (.inr rfl) rfl rfl
  | retryFrame final next rest stands unstopped =>
      simp only [Exports, stands] at exports
      simp only [Transcript.extendWork, stands]
      exact exports.of_same rfl rfl (.inr rfl) rfl rfl
  | endFinalCycle pending stands =>
      simp only [Exports, stands] at exports
      simp only [Transcript.extendWork, stands]
      refine exports.of_same rfl rfl (.inr rfl)
        session.publisher.pumpReports_settledDescriptors ?_
      change session.publisher.stats.abandoned + pending.length + transcript.givenUp.length =
        session.publisher.stats.abandoned + (transcript.givenUp ++ pending).length
      rw [List.length_append]
      omega
  | endCycle pending stands sound =>
      simp only [Exports, stands] at exports
      simp only [Transcript.extendWork, stands]
      exact exports.of_same rfl rfl (.inr rfl)
        session.publisher.pumpReports_settledDescriptors rfl
  | endFaultedCycle pending fault stands first faulted =>
      simp only [Exports, stands] at exports
      simp only [Transcript.extendWork, stands]
      exact exports.of_same rfl rfl (.inl first)
        session.publisher.pumpReports_settledDescriptors rfl
  | flush stands =>
      simp only [Exports, stands] at exports
      simp only [Transcript.extendWork, stands]
      exact exports.of_same rfl rfl (.inr rfl)
        (session.publisher.flush_settledDescriptors moment.settings.flushMs) rfl
  | rest stands =>
      simpa only [Transcript.extendWork, stands] using exports

theorem Exports.after {event : SessionEvent} (exports : observed.Exports)
    (flows : observed.Flows) (happens : observed.after? event = some next) : next.Exports := by
  rcases after?_cases happens with
    ⟨moment, rfl, advance, seen⟩ | ⟨unit, record, rfl, rfl⟩ | ⟨unit, change, _, rfl⟩ |
      ⟨catalog, rfl⟩ | ⟨rfl, _, rfl⟩
  · exact exports.work flows advance seen
  · rw [Transcript.extendWrite_eq]
    exact exports
  · exact exports
  · exact exports
  · exact exports

end Observed
end TraceForward
