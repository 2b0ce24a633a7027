/-
Trace messages, and the messages that describe what they hold.

A worker hands over the messages about its tables before it harvests.  So all of
them are taken before the first trace message goes out, unless the export failed.
Then the worker is left with its final cycle, and hands over what that yields.
-/

import TraceForward.Proofs.Framing.Walk
import TraceForward.Proofs.Session.Order
import TraceForward.Proofs.Session.Tables

namespace TraceForward

namespace BrokerCall

def handsTrace : BrokerCall → Bool
  | .publish message _ => message.isTrace
  | _ => false

def handsDescriptor : BrokerCall → Bool
  | .publish message _ => !message.isTrace
  | _ => false

end BrokerCall

structure Catalog.DescribedBy (catalog : Catalog) (calls : List BrokerCall) : Prop where
  formats : ∀ position text, catalog.formats[position]? = some text →
    .publish (Descriptor.format (position + 1) text).frame.message .accepted ∈ calls
  clauses : ∀ id clause probe, catalog.clause? id = some clause → clause.probe = some probe →
    .publish (Descriptor.probe probe).frame.message .accepted ∈ calls ∧
      .publish (describe id clause probe).frame.message .accepted ∈ calls

theorem Catalog.describedBy_of_descriptors {catalog : Catalog} {calls : List BrokerCall}
    (all : ∀ descriptor ∈ catalog.descriptors,
      .publish descriptor.frame.message .accepted ∈ calls) : catalog.DescribedBy calls := by
  constructor
  · intro position text present
    exact all _ (mem_descriptors_iff.mpr (.inl ⟨position, text, present, rfl⟩))
  · intro id clause probe found bound
    constructor
    · exact all _ (mem_descriptors_iff.mpr (.inr ⟨id, clause, probe, found, bound, .inl rfl⟩))
    · exact all _ (mem_descriptors_iff.mpr (.inr ⟨id, clause, probe, found, bound, .inr rfl⟩))

variable {Client : Type} [BrokerClient Client]

/-! ### Sessions whose export failed -/

namespace Session

variable {session next : Session Client} {event : SessionEvent}

structure FinalUnlessExported (session : Session Client) : Prop where
  before : session.phase.isExport = true → session.harvester.stats.cycles = 0
  since : session.phase.isExport = false → session.metadata = none →
    session.exit = true ∧ session.harvester.stats.cycles = session.finalCycles ∧
      (session.phase = .waiting ∨ session.phase.finalBegun = true)

theorem FinalUnlessExported.after (only : session.FinalUnlessExported)
    (orderly : session.Orderly) (happens : session.after? event = some next) :
    next.FinalUnlessExported := by
  have counted := orderly.finalCycles
  rcases after?_cases happens with
    ⟨moment, rfl, advance⟩ | ⟨unit, change, rfl⟩ | ⟨catalog, rfl⟩ | ⟨rfl, free, rfl⟩
  · cases advance with
    | copyTables stands | takeDescriptor _ _ _ _ stands _ | blockDescriptor _ _ _ _ stands _
    | retryDescriptor _ _ _ stands _ =>
        exact ⟨fun _ => only.before (by rw [stands]; rfl), nofun⟩
    | completeExport done stands => exact ⟨nofun, nofun⟩
    | rejectDescriptor _ _ _ _ _ stands _ | abandonDescriptor _ _ _ stands _ =>
        rw [stands] at counted
        have none := only.before (by rw [stands]; rfl)
        exact ⟨nofun, fun _ _ => ⟨rfl, none.trans counted.symm, .inl rfl⟩⟩
    | beginHarvest stands =>
        refine ⟨nofun, ?_⟩
        intro _ unfinished
        obtain ⟨asked, cycles, _⟩ := only.since (by rw [stands]; rfl) unfinished
        exact ⟨asked, cycles, .inr asked⟩
    | visitUnit _ _ _ stands _ | endHarvest _ _ _ stands _ | endBatch _ stands
    | settleFrame _ _ _ _ _ stands _ _ | blockFrame _ _ _ _ stands _ | leaveFrames _ _ _ stands _
    | retryFrame _ _ _ stands _ | endFinalCycle _ stands | endCycle _ stands _
    | endFaultedCycle _ _ stands _ _ | flush stands =>
        refine ⟨nofun, ?_⟩
        intro _ unfinished
        obtain ⟨asked, cycles, waits | begun⟩ := only.since (by rw [stands]; rfl) unfinished
        · rw [stands] at waits
          cases waits
        · have same := cycles_after orderly happens asked
          exact ⟨exit_after happens asked, by omega, .inr (finalBegun_after happens begun)⟩
    | rest stands => exact only
  · exact ⟨only.before, only.since⟩
  · exact ⟨only.before, only.since⟩
  · refine ⟨only.before, ?_⟩
    intro past unfinished
    exact ⟨rfl, (only.since past unfinished).2⟩

theorem metadata_after (happens : session.after? event = some next)
    (past : session.phase.isExport = false) : next.metadata = session.metadata := by
  rcases after?_cases happens with
    ⟨moment, rfl, advance⟩ | ⟨unit, change, rfl⟩ | ⟨catalog, rfl⟩ | ⟨rfl, free, rfl⟩
  · cases advance with
    | completeExport done stands =>
        rw [stands] at past
        cases past
    | _ => rfl
  · rfl
  · rfl
  · rfl

end Session

/-! ### The order of the calls -/

namespace Observed

variable {observed next : Observed (Recorded Client)} {event : SessionEvent}
  {added : List BrokerCall}

/-- No trace message goes out during the export, none about the tables after a
trace message, and without a complete export trace messages are left to the final
cycle. -/
structure TracesLast (observed : Observed (Recorded Client)) : Prop where
  untraced : observed.session.phase.isExport = true →
    ∀ call ∈ observed.session.publisher.broker.calls, call.handsTrace = false
  ordered : observed.session.publisher.broker.calls.Pairwise fun first second =>
    first.handsTrace = true → second.handsDescriptor = false
  final : observed.session.metadata = none →
    ∀ call ∈ observed.session.publisher.broker.calls, call.handsTrace = true →
      observed.session.phase.finalHarvested = true

omit [BrokerClient Client] in
theorem handsTrace_of_due (under : observed.session.phase.isExport = true)
    (due : ∀ message answer, .publish message answer ∈ added →
      observed.session.nextMessage? = some message) :
    ∀ call ∈ added, call.handsTrace = false := by
  intro call member
  cases call with
  | publish message answer =>
      rcases Session.nextMessage?_cases (due message answer member) with
        ⟨done, descriptor, rest, stands, rfl⟩ | ⟨final, frame, rest, stands, rfl⟩
      · exact descriptor.isTrace_message
      · rw [stands] at under
        cases under
  | pump milliseconds served => rfl
  | flush milliseconds => rfl

omit [BrokerClient Client] in
theorem Flows.handsDescriptor_of_due (flows : observed.Flows)
    (past : observed.session.phase.isExport = false)
    (due : ∀ message answer, .publish message answer ∈ added →
      observed.session.nextMessage? = some message) :
    ∀ call ∈ added, call.handsDescriptor = false := by
  intro call member
  cases call with
  | publish message answer =>
      rcases Session.nextMessage?_cases (due message answer member) with
        ⟨done, descriptor, rest, stands, rfl⟩ | ⟨final, frame, rest, stands, rfl⟩
      · rw [stands] at past
        cases past
      · have trace : frame.message.isTrace = true :=
          flows.held_trace (by simp [Session.held, Batch.frames, stands])
        rw [BrokerCall.handsDescriptor, trace]
        rfl
  | pump milliseconds served => rfl
  | flush milliseconds => rfl

omit [BrokerClient Client] in
theorem finalHarvested_of_due (only : observed.session.FinalUnlessExported)
    (past : observed.session.phase.isExport = false)
    (unfinished : observed.session.metadata = none)
    (due : ∀ message answer, .publish message answer ∈ added →
      observed.session.nextMessage? = some message)
    {call : BrokerCall} (member : call ∈ added) (trace : call.handsTrace = true) :
    observed.session.phase.finalHarvested = true := by
  cases call with
  | publish message answer =>
      rcases Session.nextMessage?_cases (due message answer member) with
        ⟨done, descriptor, rest, stands, _⟩ | ⟨final, frame, rest, stands, _⟩
      · rw [stands] at past
        cases past
      · obtain ⟨_, _, waits | begun⟩ := only.since past unfinished
        · rw [stands] at waits
          cases waits
        · rw [stands] at begun ⊢
          exact begun
  | pump milliseconds served => cases trace
  | flush milliseconds => cases trace

theorem TracesLast.after (last : observed.TracesLast) (flows : observed.Flows)
    (only : observed.session.FinalUnlessExported)
    (happens : observed.after? event = some next) : next.TracesLast := by
  obtain ⟨session, reached, rfl⟩ := after?_eq_some happens
  obtain ⟨added, same, due⟩ := Session.after?_logged Recorded.loggedBy_calls reached
  constructor
  · intro under call member
    have before := Session.isExport_of_after reached under
    rw [same] at member
    rcases List.mem_append.mp member with old | new
    · exact last.untraced before call old
    · exact handsTrace_of_due before due call new
  · change session.publisher.broker.calls.Pairwise _
    rw [same, List.pairwise_append]
    refine ⟨last.ordered, ?_, ?_⟩
    · apply List.pairwise_of_forall_mem_list
      intro first here second there trace
      cases under : observed.session.phase.isExport with
      | true =>
          rw [handsTrace_of_due under due first here] at trace
          cases trace
      | false => exact flows.handsDescriptor_of_due under due second there
    · intro first here second there trace
      cases under : observed.session.phase.isExport with
      | true =>
          rw [last.untraced under first here] at trace
          cases trace
      | false => exact flows.handsDescriptor_of_due under due second there
  · intro unfinished call member trace
    rw [same] at member
    have past : observed.session.phase.isExport = false := by
      cases under : observed.session.phase.isExport with
      | false => rfl
      | true =>
          rcases List.mem_append.mp member with old | new
          · rw [last.untraced under call old] at trace
            cases trace
          · rw [handsTrace_of_due under due call new] at trace
            cases trace
    have before : observed.session.metadata = none :=
      (Session.metadata_after reached past).symm.trans unfinished
    apply Session.finalHarvested_after reached
    rcases List.mem_append.mp member with old | new
    · exact last.final before call old trace
    · exact finalHarvested_of_due only past before due new trace

omit [BrokerClient Client] in
theorem TracesLast.mem_earlier (last : observed.TracesLast) {earlier later : List BrokerCall}
    {trace other : Message} {answer given : Answer}
    (split : observed.session.publisher.broker.calls =
      earlier ++ .publish trace answer :: later)
    (isTrace : trace.isTrace = true) (isOther : other.isTrace = false)
    (member : .publish other given ∈ observed.session.publisher.broker.calls) :
    .publish other given ∈ earlier := by
  have ordered := last.ordered
  rw [split] at ordered member
  rcases List.mem_append.mp member with before | behind
  · exact before
  · rcases List.mem_cons.mp behind with here | after
    · cases here
      rw [isTrace] at isOther
      cases isOther
    · have none := List.rel_of_pairwise_cons (List.pairwise_append.mp ordered).2.1 after isTrace
      rw [BrokerCall.handsDescriptor, isOther] at none
      cases none

structure CallsInOrder (tables : Catalog) (observed : Observed (Recorded Client)) : Prop where
  accords : observed.Accords tables
  orderly : observed.session.Orderly
  only : observed.session.FinalUnlessExported
  last : observed.TracesLast

omit [BrokerClient Client] in
theorem CallsInOrder.opened {settings : Settings} {handle : Handle}
    {resources : SessionResources Client} {session : Session (Recorded Client)}
    (opened : Session.ofResources settings handle resources.recorded = .ok session) :
    CallsInOrder resources.catalog { session } := by
  have accords := Accords.opened opened
  have orderly := Session.Orderly.opened opened
  obtain ⟨_, _, rfl⟩ := Session.ofResources_eq_ok opened
  exact ⟨accords, orderly, ⟨fun _ => rfl, nofun⟩, ⟨nofun, .nil, nofun⟩⟩

theorem CallsInOrder.run {tables : Catalog} {observed final : Observed (Recorded Client)}
    {events : List SessionEvent} (inOrder : observed.CallsInOrder tables)
    (run : observed.run? events = some final) : final.CallsInOrder tables := by
  refine run?_induction ?_ inOrder run
  intro before event after member known happens
  obtain ⟨session, reached, rfl⟩ := after?_eq_some happens
  constructor
  · exact known.accords.after happens
  · exact known.orderly.after reached
  · exact known.only.after known.orderly reached
  · exact known.last.after known.accords.flows known.only happens

/-- Whenever a trace message is handed over, all that the copied tables describe
was taken before.  The exception is an export that failed: the descriptors before
the failing one were taken then, and the trace message belongs to the final cycle,
which is the only one. -/
theorem traces_described {settings : Settings} {handle : Handle}
    {resources : SessionResources Client} {session : Session (Recorded Client)}
    {events : List SessionEvent} {final : Observed (Recorded Client)}
    {earlier later : List BrokerCall} {message : Message} {answer : Answer}
    (opened : Session.ofResources settings handle resources.recorded = .ok session)
    (run : Observed.run? { session } events = some final)
    (handed : final.session.publisher.broker.calls =
      earlier ++ .publish message answer :: later)
    (trace : message.isTrace = true) :
    ∃ copy, final.transcript.exported = some copy ∧ resources.catalog.Grows copy ∧
      (final.session.metadata ≠ none ∧ copy.DescribedBy earlier ∨
        ∃ sent next rest, copy.descriptors = sent ++ next :: rest ∧
          final.ExportFailed sent next ∧
          (∀ descriptor ∈ sent, .publish descriptor.frame.message .accepted ∈ earlier) ∧
          final.session.finalCycles = 1 ∧ final.session.harvester.stats.cycles = 1) := by
  obtain ⟨accords, orderly, only, last⟩ := (CallsInOrder.opened opened).run run
  have member : .publish message answer ∈ final.session.publisher.broker.calls := by
    rw [handed]
    exact List.mem_append_right _ List.mem_cons_self
  have past : final.session.phase.isExport = false := by
    cases under : final.session.phase.isExport with
    | false => rfl
    | true =>
        have untraced := last.untraced under _ member
        rw [BrokerCall.handsTrace, trace] at untraced
        cases untraced
  have taken : ∀ sent,
      Descriptor.taken sent ⊆ final.session.publisher.broker.settledDescriptors →
        ∀ descriptor ∈ sent, .publish descriptor.frame.message .accepted ∈ earlier := by
    intro sent log descriptor present
    exact last.mem_earlier handed trace descriptor.isTrace_message
      (mem_calls_of_taken log present)
  obtain ⟨copy, copied, verdict⟩ := accords.exports.exportOver past
  refine ⟨copy, copied, accords.follows.copied copy copied, ?_⟩
  rcases verdict with ⟨completed, log, _⟩ | ⟨sent, next, rest, split, failed⟩
  · refine .inl ⟨by simp [completed], Catalog.describedBy_of_descriptors (taken _ ?_)⟩
    rw [log]
    exact List.Subset.refl _
  · have once : final.session.finalCycles = 1 := by
      rw [orderly.finalCycles, last.final failed.1 _ member trace]
      rfl
    refine .inr ⟨sent, next, rest, split, failed, taken sent ?_, once, ?_⟩
    · rcases failed.2 with ⟨reason, _, log, _⟩ | ⟨_, log, _⟩
      · rw [log]
        exact List.subset_append_left _ _
      · rw [log]
        exact List.Subset.refl _
    · rw [(only.since past failed.1).2.1]
      exact once

/-- In the small session a record goes out after the one format. -/
theorem traces_described_sample :
    ∃ session final earlier message answer later,
      Session.ofResources {} ⟨1⟩ SessionResources.sample.recorded = .ok session ∧
      Observed.run? { session } SessionEvent.sample = some final ∧
      final.session.publisher.broker.calls = earlier ++ .publish message answer :: later ∧
      message.isTrace = true ∧
      ∃ copy, final.transcript.exported = some copy ∧
        SessionResources.sample.catalog.Grows copy ∧
        (final.session.metadata ≠ none ∧ copy.DescribedBy earlier ∨
          ∃ sent next rest, copy.descriptors = sent ++ next :: rest ∧
            final.ExportFailed sent next ∧
            (∀ descriptor ∈ sent, .publish descriptor.frame.message .accepted ∈ earlier) ∧
            final.session.finalCycles = 1 ∧ final.session.harvester.stats.cycles = 1) := by
  have ends :
      (match Session.ofResources {} ⟨1⟩ SessionResources.sample.recorded with
        | .ok session =>
            (Observed.run? { session } SessionEvent.sample).map fun final =>
              final.session.publisher.broker.calls.any BrokerCall.handsTrace
        | .error _ => none) = some true := by
    decide +kernel
  split at ends
  next session opened =>
    obtain ⟨final, run, found⟩ := Option.map_eq_some_iff.mp ends
    obtain ⟨call, member, trace⟩ := List.any_eq_true.mp found
    cases call with
    | publish message answer =>
        obtain ⟨earlier, later, handed⟩ := List.append_of_mem member
        exact ⟨session, final, earlier, message, answer, later, opened, run, handed, trace,
          traces_described opened run handed trace⟩
    | pump milliseconds served => cases trace
    | flush milliseconds => cases trace
  next => cases ends

/-- After a failed export, the record of a clause goes out though the message about
the clause did not. -/
theorem not_every_trace_described :
    ¬ ∀ (settings : Settings) (handle : Handle) (resources : SessionResources)
        (session : Session (Recorded ScriptedBroker)) (events : List SessionEvent)
        (final : Observed (Recorded ScriptedBroker)) (earlier later : List BrokerCall)
        (message : Message),
        Session.ofResources settings handle resources.recorded = .ok session →
        Observed.run? { session } events = some final →
        final.session.publisher.broker.calls = earlier ++ .publish message .accepted :: later →
        message.isTrace = true →
        ∀ record ∈ Record.walk settings.mtu (Sizer.ofTable resources.catalog.sizeTable)
            message.payload,
          ∀ id clause probe, record.word? Limits.headerSize = some id →
            resources.catalog.clause? id = some clause → clause.probe = some probe →
            .publish (Catalog.describe id clause probe).frame.message .accepted ∈ earlier := by
  intro every
  obtain ⟨session, final, opened, run, _, probe, bound, calls⟩ := Session.refused_ends
  have record : [1, 0, 0, 0, 7, 7, 7, 7] ∈
      Record.walk ({} : Settings).mtu (Sizer.ofTable SessionResources.refused.catalog.sizeTable)
        [1, 0, 0, 0, 7, 7, 7, 7] := by
    decide +kernel
  have described := every {} ⟨1⟩ SessionResources.refused session _ final
    [.publish (Descriptor.probe probe).frame.message (.fatal "no")] _
    (Frame.trace [1, 0, 0, 0, 7, 7, 7, 7]).message opened run calls
    ((Frame.isTrace_message _).mpr rfl) _ record 1 .sample probe (by decide) rfl bound
  cases (BrokerCall.publish.inj (List.mem_singleton.mp described)).2

end Observed
end TraceForward
