/-
What the report of a session accounts for.

The counters are kept in five places, and a frame that is carried over is tried
in several cycles.  Nothing is counted twice for all that: a counter of the
publisher is a count of answers, the harvester counts what it yields, and every
message that was settled or given up is a harvested frame or a descriptor.
-/

import TraceForward.Proofs.Session.Export
import TraceForward.Proofs.Session.Opening

namespace TraceForward

variable {Client : Type}

def Recorded.acceptedDescriptors (recorded : Recorded Client) : List Message :=
  (recorded.settledDescriptors.filter fun entry => entry.2 == .accepted).map Prod.fst

/-- How many descriptor messages an export tried: all that the tables have, or
those that were taken and the one that was not. -/
def Recorded.attemptedDescriptors (recorded : Recorded Client) (catalog : Catalog)
    (metadata : Option ExportSummary) : Nat :=
  match metadata with
  | some _ => catalog.formats.length + 2 * catalog.boundClauses
  | none => recorded.acceptedDescriptors.length + 1

/-- A report tells what became of every message and of every byte, and whether
the export of the tables failed. -/
structure SessionReport.Accounts (report : SessionReport) (record : Recorded Client)
    (harvested : List Frame) (catalog : Catalog) : Prop where
  messages :
    report.publisher.enqueued + report.publisher.dropped + report.publisher.abandoned =
      report.harvest.frames + record.attemptedDescriptors catalog report.metadata
  frames : report.harvest.frames = harvested.length
  bytes : report.harvest.bytes = payloadBytes harvested + report.harvest.bytesDiscarded
  enqueued : report.publisher.enqueued = record.acceptedCount
  queueFullPumps : report.publisher.queueFullPumps = record.fullCount
  exportFailed :
    report.metadata = none ↔
      record.acceptedDescriptors ≠
        catalog.descriptors.map fun descriptor => descriptor.frame.message
  faulted : report.metadata = none → report.fault ≠ none

/-! ### The books of a run -/

namespace Observed

/-- The publisher counts the answers it is given, and the harvester what it
yields and what it gives up. -/
structure Books (observed : Observed (Recorded Client)) : Prop where
  balanced : observed.session.publisher.Balanced
  frames :
    observed.session.harvester.stats.frames = observed.transcript.harvested.length
  bytes :
    observed.session.harvester.stats.bytes =
      payloadBytes (observed.transcript.harvested.map Prod.snd) +
        observed.session.harvester.stats.bytesDiscarded

variable [BrokerClient Client] {observed next : Observed (Recorded Client)}

theorem Books.balanced_work {moment : Moment} (books : observed.Books)
    (advance : observed.session.Advance moment next.session) :
    next.session.publisher.Balanced := by
  have balanced := books.balanced
  rcases advance.publisher_cases with
    same | ⟨message, answer, offered⟩ | ⟨count, same⟩ | same | ⟨count, same⟩ |
      ⟨_, milliseconds, same⟩
  · rw [same]
    exact balanced
  · exact Publisher.balanced_offer balanced offered
  · rw [same]
    exact Publisher.balanced_abandon balanced count
  · rw [same]
    exact Publisher.balanced_pumpReports balanced
  · rw [same]
    exact Publisher.balanced_abandon (Publisher.balanced_pumpReports balanced) count
  · rw [same]
    exact Publisher.balanced_flush balanced milliseconds

theorem Books.work {moment : Moment} (books : observed.Books)
    (advance : observed.session.Advance moment next.session)
    (seen : next.transcript = observed.transcript.extendWork observed.session) :
    next.Books := by
  have balanced := books.balanced_work advance
  rcases advance.harvester_cases with
    ⟨elsewhere, same⟩ | ⟨final, position, frames, stands, inside, visited⟩ |
      ⟨final, position, frames, stands, past, ended⟩
  · have harvested : next.transcript.harvested = observed.transcript.harvested := by
      rw [seen, Transcript.harvested_extendWork elsewhere]
    refine ⟨balanced, ?_, ?_⟩
    · rw [same, harvested]
      exact books.frames
    · rw [same, harvested]
      exact books.bytes
  · obtain ⟨_, counted, conserved⟩ := observed.session.harvester.harvestUnit_stats position
    have yielded := Transcript.harvested_extendWork_visit observed.transcript stands
    have before := books.bytes
    refine ⟨balanced, ?_, ?_⟩
    · rw [visited, seen, yielded, counted, books.frames, List.length_append, List.length_map]
    · rw [visited, seen, yielded, List.map_append, List.map_map, payloadBytes_append]
      change _ = _ + payloadBytes (List.map id _) + _
      rw [List.map_id]
      omega
  · have absent : observed.session.harvester.units[position]? = none :=
      List.getElem?_eq_none_iff.mpr past
    have yielded := Transcript.harvested_extendWork_visit observed.transcript stands
    rw [Harvester.harvestUnit_past absent, List.map_nil, List.append_nil] at yielded
    refine ⟨balanced, ?_, ?_⟩
    · rw [ended, seen, yielded]
      exact books.frames
    · rw [ended, seen, yielded]
      exact books.bytes

theorem Books.after {event : SessionEvent} (books : observed.Books)
    (happens : observed.after? event = some next) : next.Books := by
  rcases after?_cases happens with
    ⟨moment, rfl, advance, seen⟩ | ⟨unit, record, rfl, rfl⟩ | ⟨unit, change, _, rfl⟩ |
      ⟨catalog, rfl⟩ | ⟨rfl, _, rfl⟩
  · exact books.work advance seen
  · rw [Transcript.extendWrite_eq]
    exact ⟨books.balanced, books.frames, books.bytes⟩
  · exact ⟨books.balanced, books.frames, books.bytes⟩
  · exact ⟨books.balanced, books.frames, books.bytes⟩
  · exact ⟨books.balanced, books.frames, books.bytes⟩

structure Ledger (observed : Observed (Recorded Client)) : Prop where
  books : observed.Books
  flows : observed.Flows
  exports : observed.Exports

omit [BrokerClient Client] in
theorem Ledger.opened {settings : Settings} {handle : Handle}
    {resources : SessionResources Client} {session : Session (Recorded Client)}
    (opened : Session.ofResources settings handle resources.recorded = .ok session) :
    Ledger { session } := by
  obtain ⟨_, _, rfl⟩ := Session.ofResources_eq_ok opened
  refine ⟨⟨⟨rfl, rfl, rfl⟩, rfl, rfl⟩, ⟨?_, rfl, fun _ _ => rfl⟩, ⟨rfl, rfl, rfl, rfl⟩⟩
  intro entry member
  cases member

theorem Ledger.run {observed final : Observed (Recorded Client)} {events : List SessionEvent}
    (ledger : observed.Ledger) (run : observed.run? events = some final) : final.Ledger := by
  refine run?_induction ?_ ledger run
  intro before event after _ known happens
  exact ⟨known.books.after happens, known.flows.after happens,
    known.exports.after known.flows happens⟩

end Observed

/-! ### Descriptors that were tried -/

namespace Recorded

theorem acceptedDescriptors_of_taken {record : Recorded Client} {sent : List Descriptor}
    (log : record.settledDescriptors = Descriptor.taken sent) :
    record.acceptedDescriptors = sent.map fun descriptor => descriptor.frame.message := by
  unfold acceptedDescriptors
  rw [log]
  simp [Descriptor.taken, List.filter_map, Function.comp_def]

theorem acceptedDescriptors_of_rejected {record : Recorded Client} {sent : List Descriptor}
    {message : Message} {reason : String}
    (log : record.settledDescriptors = Descriptor.taken sent ++ [(message, .fatal reason)]) :
    record.acceptedDescriptors = sent.map fun descriptor => descriptor.frame.message := by
  unfold acceptedDescriptors
  rw [log, List.filter_append]
  simp [Descriptor.taken, List.filter_map, Function.comp_def]

end Recorded

namespace Observed

theorem ExportOver.attempted {observed : Observed (Recorded Client)}
    (exportOver : observed.ExportOver) :
    ∃ catalog, observed.transcript.exported = some catalog ∧
      observed.session.publisher.broker.settledDescriptors.length +
          observed.session.publisher.stats.abandoned =
        observed.session.publisher.broker.attemptedDescriptors catalog
            observed.session.metadata +
          observed.transcript.givenUp.length ∧
      (observed.session.metadata = none ↔
        observed.session.publisher.broker.acceptedDescriptors ≠
          catalog.descriptors.map fun descriptor => descriptor.frame.message) ∧
      (observed.session.metadata = none → observed.session.fault ≠ none) := by
  obtain ⟨catalog, copied, ⟨completed, log, abandoned⟩ |
    ⟨sent, next, rest, split, unfinished, verdict⟩⟩ := exportOver
  · have taken := Recorded.acceptedDescriptors_of_taken log
    refine ⟨catalog, copied, ?_, ?_, ?_⟩
    · rw [completed, log, abandoned]
      simp [Recorded.attemptedDescriptors, Descriptor.taken, catalog.descriptors_length]
    · simp [completed, taken]
    · intro unfinished
      rw [completed] at unfinished
      cases unfinished
  · have shorter : (sent.map fun descriptor => descriptor.frame.message) ≠
        catalog.descriptors.map fun descriptor => descriptor.frame.message := by
      intro same
      have lengths := congrArg List.length same
      rw [split] at lengths
      simp at lengths
    rcases verdict with ⟨reason, named, log, abandoned⟩ | ⟨named, log, abandoned⟩
    · have taken := Recorded.acceptedDescriptors_of_rejected log
      refine ⟨catalog, copied, ?_, ?_, ?_⟩
      · rw [unfinished, log, abandoned]
        simp [Recorded.attemptedDescriptors, Descriptor.taken, taken]
      · simpa [unfinished, taken] using shorter
      · simp [named]
    · have taken := Recorded.acceptedDescriptors_of_taken log
      refine ⟨catalog, copied, ?_, ?_, ?_⟩
      · rw [unfinished, log, abandoned]
        simp only [Recorded.attemptedDescriptors, Descriptor.taken, taken, List.length_map]
        omega
      · simpa [unfinished, taken] using shorter
      · simp [named]

theorem Flows.length_harvested {observed : Observed (Recorded Client)}
    (flows : observed.Flows) :
    observed.transcript.harvested.length =
      observed.session.publisher.broker.settledTraces.length +
        (observed.session.held.length + observed.transcript.givenUp.length) := by
  have lengths := congrArg List.length flows.order
  simpa only [List.length_append, List.length_map] using lengths

variable [BrokerClient Client]

/-- The report of a session that has ended accounts for everything: for every
message and every byte, whatever the units held, whatever the broker answered
and whatever happened between the steps of the worker. -/
theorem report_accounts {settings : Settings} {handle : Handle}
    {resources : SessionResources Client} {session : Session (Recorded Client)}
    {events : List SessionEvent} {final : Observed (Recorded Client)}
    (opened : Session.ofResources settings handle resources.recorded = .ok session)
    (run : Observed.run? { session } events = some final)
    (ended : final.session.phase = .finished) :
    ∃ catalog, final.transcript.exported = some catalog ∧
      final.session.report.Accounts final.session.publisher.broker
        (final.transcript.harvested.map Prod.snd) catalog := by
  have ledger := (Ledger.opened opened).run run
  have exportOver : final.ExportOver := by
    simpa only [Exports, ended] using ledger.exports
  obtain ⟨catalog, copied, tried, exportFailed, faulted⟩ := exportOver.attempted
  have balanced := ledger.books.balanced
  have settled := final.session.publisher.broker.length_settled
  have kinds := final.session.publisher.broker.length_settledTraces_add
  have harvested := ledger.flows.length_harvested
  have nothingHeld : final.session.held.length = 0 := by
    simp [Session.held, ended]
  refine ⟨catalog, copied, ?_⟩
  constructor
  · change final.session.publisher.stats.enqueued + final.session.publisher.stats.dropped +
        final.session.publisher.stats.abandoned =
      final.session.harvester.stats.frames +
        final.session.publisher.broker.attemptedDescriptors catalog final.session.metadata
    rw [balanced.enqueued, balanced.dropped, ledger.books.frames]
    omega
  · rw [List.length_map]
    exact ledger.books.frames
  · exact ledger.books.bytes
  · exact balanced.enqueued
  · exact balanced.queueFullPumps
  · exact exportFailed
  · exact faulted

theorem report_accounts_sample :
    ∃ session final,
      Session.ofResources {} ⟨1⟩ SessionResources.sample.recorded = .ok session ∧
      Observed.run? { session } SessionEvent.sample = some final ∧
      final.session.phase = .finished ∧
      ∃ catalog, final.transcript.exported = some catalog ∧
        final.session.report.Accounts final.session.publisher.broker
          (final.transcript.harvested.map Prod.snd) catalog := by
  obtain ⟨session, final, opened, run, ended⟩ := Session.sample_ends
  exact ⟨session, final, opened, run, ended, report_accounts opened run ended⟩

end Observed
end TraceForward
