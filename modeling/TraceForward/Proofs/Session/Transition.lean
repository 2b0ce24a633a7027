/-
What a step of a worker can do.

Each way in which a session goes on is one case, with the condition under which
it is taken and the session that comes of it.  What every step keeps is shown
by going through these cases.
-/

import TraceForward.Session.Worker

namespace TraceForward
namespace Session

variable {Client : Type} [BrokerClient Client]

inductive Advance (session : Session Client) (moment : Moment) : Session Client → Prop
  | copyTables (stands : session.phase = .starting) :
      Advance session moment { session with phase := .exporting {} session.catalog.descriptors }
  | completeExport (done : ExportSummary) (stands : session.phase = .exporting done []) :
      Advance session moment
        { session with metadata := some done, phase := .waiting, settings := moment.settings }
  | takeDescriptor (done : ExportSummary) (next : Descriptor) (rest : List Descriptor)
      (publisher : Publisher Client) (stands : session.phase = .exporting done (next :: rest))
      (offered : session.publisher.offer next.frame.message = (.accepted, publisher)) :
      Advance session moment { session with publisher, phase := .exporting (done.count next) rest }
  | blockDescriptor (done : ExportSummary) (next : Descriptor) (rest : List Descriptor)
      (publisher : Publisher Client) (stands : session.phase = .exporting done (next :: rest))
      (offered : session.publisher.offer next.frame.message = (.queueFull, publisher)) :
      Advance session moment { session with publisher, phase := .exportBlocked done next rest }
  | rejectDescriptor (done : ExportSummary) (next : Descriptor) (rest : List Descriptor)
      (reason : String) (publisher : Publisher Client)
      (stands : session.phase = .exporting done (next :: rest))
      (offered : session.publisher.offer next.frame.message = (.fatal reason, publisher)) :
      Advance session moment
        { session with
          publisher, fault := some (next.rejectedFault reason), exit := true
          phase := .waiting, settings := moment.settings }
  | abandonDescriptor (done : ExportSummary) (next : Descriptor) (rest : List Descriptor)
      (stands : session.phase = .exportBlocked done next rest) (asked : session.exit = true) :
      Advance session moment
        { session with
          publisher := session.publisher.abandon 1, fault := some next.stoppedFault
          exit := true, phase := .waiting, settings := moment.settings }
  | retryDescriptor (done : ExportSummary) (next : Descriptor) (rest : List Descriptor)
      (stands : session.phase = .exportBlocked done next rest) (unasked : session.exit = false) :
      Advance session moment { session with phase := .exporting done (next :: rest) }
  | beginHarvest (stands : session.phase = .waiting) :
      Advance session moment
        { session with lifecycle := .draining, phase := .harvesting session.exit 0 [] }
  | visitUnit (final : Bool) (position : Nat) (frames : List Frame)
      (stands : session.phase = .harvesting final position frames)
      (inside : position < session.harvester.units.length) :
      Advance session moment
        { session with
          harvester := (session.harvester.harvestUnit position).2
          phase := .harvesting final (position + 1)
            (frames ++ (session.harvester.harvestUnit position).1) }
  | endHarvest (final : Bool) (position : Nat) (frames : List Frame)
      (stands : session.phase = .harvesting final position frames)
      (past : session.harvester.units.length ≤ position) :
      Advance session moment
        { session with
          harvester := session.harvester.finishCycle moment.now
          finalCycles := session.finalCycles + (if final then 1 else 0)
          carried := []
          phase := .publishing final (.offering (session.carried ++ frames)) }
  | endBatch (final : Bool) (stands : session.phase = .publishing final (.offering [])) :
      Advance session moment { session with phase := .publishing final (.ended []) }
  | settleFrame (final : Bool) (next : Frame) (rest : List Frame) (answer : Answer)
      (publisher : Publisher Client)
      (stands : session.phase = .publishing final (.offering (next :: rest)))
      (offered : session.publisher.offer next.message = (answer, publisher))
      (settled : answer ≠ .queueFull) :
      Advance session moment { session with publisher, phase := .publishing final (.offering rest) }
  | blockFrame (final : Bool) (next : Frame) (rest : List Frame) (publisher : Publisher Client)
      (stands : session.phase = .publishing final (.offering (next :: rest)))
      (offered : session.publisher.offer next.message = (.queueFull, publisher)) :
      Advance session moment
        { session with publisher, phase := .publishing final (.blocked next rest) }
  | leaveFrames (final : Bool) (next : Frame) (rest : List Frame)
      (stands : session.phase = .publishing final (.blocked next rest))
      (stopped : (if final then moment.late else session.exit) = true) :
      Advance session moment { session with phase := .publishing final (.ended (next :: rest)) }
  | retryFrame (final : Bool) (next : Frame) (rest : List Frame)
      (stands : session.phase = .publishing final (.blocked next rest))
      (unstopped : (if final then moment.late else session.exit) = false) :
      Advance session moment { session with phase := .publishing final (.offering (next :: rest)) }
  | endFinalCycle (pending : List Frame)
      (stands : session.phase = .publishing true (.ended pending)) :
      Advance session moment
        { session with
          publisher := session.publisher.pumpReports.2.abandon pending.length
          lifecycle := .stopping, phase := .flushing }
  | endCycle (pending : List Frame) (stands : session.phase = .publishing false (.ended pending))
      (sound : session.fault ≠ none ∨ session.harvester.fault = none) :
      Advance session moment
        { session with
          publisher := session.publisher.pumpReports.2
          carried := pending, lifecycle := .running, phase := .waiting
          settings := moment.settings }
  | endFaultedCycle (pending : List Frame) (fault : Fault)
      (stands : session.phase = .publishing false (.ended pending))
      (first : session.fault = none) (faulted : session.harvester.fault = some fault) :
      Advance session moment
        { session with
          publisher := session.publisher.pumpReports.2
          carried := pending, lifecycle := .running, phase := .waiting
          settings := moment.settings, fault := some fault, exit := true }
  | flush (stands : session.phase = .flushing) :
      Advance session moment
        { session with
          publisher := (session.publisher.flush moment.settings.flushMs).2
          lifecycle := .stopped, phase := .finished }
  | rest (stands : session.phase = .finished) : Advance session moment session

theorem step_advance (session : Session Client) (moment : Moment) :
    session.Advance moment (session.step moment) := by
  unfold step
  split
  next stands => exact .copyTables stands
  next done stands => exact .completeExport done stands
  next done next rest stands =>
      unfold offerDescriptor
      split
      next publisher offered => exact .takeDescriptor done next rest publisher stands offered
      next publisher offered => exact .blockDescriptor done next rest publisher stands offered
      next reason publisher offered =>
        exact .rejectDescriptor done next rest reason publisher stands offered
  next done next rest stands =>
      split
      next asked => exact .abandonDescriptor done next rest stands asked
      next unasked => exact .retryDescriptor done next rest stands (by simpa using unasked)
  next stands => exact .beginHarvest stands
  next final position frames stands =>
      unfold harvestStep
      split
      next inside => exact .visitUnit final position frames stands inside
      next outside => exact .endHarvest final position frames stands (by omega)
  next final pending stands =>
      unfold settle
      cases final with
      | true => exact .endFinalCycle pending stands
      | false =>
          simp only [Bool.false_eq_true, if_false, Session.endCycle]
          split
          next fault first faulted =>
            exact .endFaultedCycle pending fault stands first faulted
          next sound =>
            refine .endCycle pending stands ?_
            cases known : session.fault with
            | some fault => exact .inl (by simp)
            | none =>
                cases seen : session.harvester.fault with
                | none => exact .inr rfl
                | some fault => exact (sound fault known seen).elim
  next final batch unfinished stands =>
      cases batch with
      | offering frames =>
          cases frames with
          | nil => exact .endBatch final stands
          | cons next rest =>
              cases offered : session.publisher.offer next.message with
              | mk answer publisher =>
                  cases answer with
                  | queueFull =>
                      simpa only [Batch.step, offered] using
                        Advance.blockFrame final next rest publisher stands offered
                  | accepted =>
                      simpa only [Batch.step, offered] using
                        Advance.settleFrame final next rest _ publisher stands offered (by simp)
                  | fatal reason =>
                      simpa only [Batch.step, offered] using
                        Advance.settleFrame final next rest _ publisher stands offered (by simp)
      | blocked next rest =>
          cases stop : (if final then moment.late else session.exit) with
          | true =>
              have left : session.Advance moment _ :=
                .leaveFrames final next rest stands stop
              simpa only [Batch.step, stop, if_true] using left
          | false =>
              have retried : session.Advance moment _ :=
                .retryFrame final next rest stands stop
              simpa only [Batch.step, stop, Bool.false_eq_true, if_false] using retried
      | ended pending => exact (unfinished pending rfl).elim
  next stands => exact .flush stands
  next stands => exact .rest stands

/-! ### What a step does with one part of the session -/

variable {session next : Session Client} {moment : Moment}

/-- A step leaves the publisher alone, offers it one message, has it give up
some, or has it serve reports; and it is flushed at the end. -/
theorem Advance.publisher_cases (advance : session.Advance moment next) :
    next.publisher = session.publisher ∨
      (∃ message answer, session.publisher.offer message = (answer, next.publisher)) ∨
      (∃ count, next.publisher = session.publisher.abandon count) ∨
      next.publisher = session.publisher.pumpReports.2 ∨
      (∃ count, next.publisher = session.publisher.pumpReports.2.abandon count) ∨
      (session.phase = .flushing ∧
        ∃ milliseconds, next.publisher = (session.publisher.flush milliseconds).2) := by
  cases advance with
  | takeDescriptor done next rest publisher stands offered =>
      exact .inr (.inl ⟨_, _, offered⟩)
  | blockDescriptor done next rest publisher stands offered =>
      exact .inr (.inl ⟨_, _, offered⟩)
  | rejectDescriptor done next rest reason publisher stands offered =>
      exact .inr (.inl ⟨_, _, offered⟩)
  | settleFrame final next rest answer publisher stands offered settled =>
      exact .inr (.inl ⟨_, _, offered⟩)
  | blockFrame final next rest publisher stands offered =>
      exact .inr (.inl ⟨_, _, offered⟩)
  | abandonDescriptor done next rest stands asked =>
      exact .inr (.inr (.inl ⟨1, rfl⟩))
  | endCycle pending stands sound => exact .inr (.inr (.inr (.inl rfl)))
  | endFaultedCycle pending fault stands first faulted =>
      exact .inr (.inr (.inr (.inl rfl)))
  | endFinalCycle pending stands =>
      exact .inr (.inr (.inr (.inr (.inl ⟨pending.length, rfl⟩))))
  | flush stands => exact .inr (.inr (.inr (.inr (.inr ⟨stands, _, rfl⟩))))
  | _ => exact .inl rfl

/-- A step leaves the harvester alone, visits one unit, or ends the harvest
once every unit was visited. -/
theorem Advance.harvester_cases (advance : session.Advance moment next) :
    ((∀ final position frames, session.phase ≠ .harvesting final position frames) ∧
        next.harvester = session.harvester) ∨
      (∃ final position frames, session.phase = .harvesting final position frames ∧
        position < session.harvester.units.length ∧
        next.harvester = (session.harvester.harvestUnit position).2) ∨
      (∃ final position frames, session.phase = .harvesting final position frames ∧
        session.harvester.units.length ≤ position ∧
        next.harvester = session.harvester.finishCycle moment.now) := by
  cases advance with
  | visitUnit final position frames stands inside =>
      exact .inr (.inl ⟨final, position, frames, stands, inside, rfl⟩)
  | endHarvest final position frames stands past =>
      exact .inr (.inr ⟨final, position, frames, stands, past, rfl⟩)
  | _ =>
      refine .inl ⟨?_, rfl⟩
      intro final position frames harvesting
      simp_all

/-! ### Events and runs -/

/-- The ways in which an event changes a session: a step of the worker, a
change of a unit, new tables, or a request to stop. -/
theorem after?_cases {event : SessionEvent} (happens : session.after? event = some next) :
    (∃ moment, event = .work moment ∧ session.Advance moment next) ∨
      (∃ unit change, next = session.modifyUnit unit change) ∨
      (∃ catalog, next = { session with catalog }) ∨
      (event = .requestStop ∧ session.lockHeld = false ∧ next = session.requestStop) := by
  cases event with
  | work moment =>
      cases happens
      exact .inl ⟨moment, rfl, step_advance _ _⟩
  | requestStop =>
      simp only [after?] at happens
      split at happens
      · cases happens
      next free =>
        cases happens
        exact .inr (.inr (.inr ⟨rfl, by simpa using free, rfl⟩))
  | addFormat format =>
      cases happens
      exact .inr (.inr (.inl ⟨_, rfl⟩))
  | addClause clause =>
      cases happens
      exact .inr (.inr (.inl ⟨_, rfl⟩))
  | _ =>
      cases happens
      exact .inr (.inl ⟨_, _, rfl⟩)

theorem run?_cons {event : SessionEvent} {rest : List SessionEvent} {final : Session Client}
    (run : session.run? (event :: rest) = some final) :
    ∃ next, session.after? event = some next ∧ next.run? rest = some final := by
  simpa only [run?, Option.bind_eq_bind, Option.bind_eq_some_iff] using run

theorem run?_induction {Holds : Session Client → Prop}
    (keeps : ∀ session event next, Holds session → session.after? event = some next →
      Holds next)
    {session final : Session Client} {events : List SessionEvent}
    (start : Holds session) (run : session.run? events = some final) : Holds final := by
  induction events generalizing session with
  | nil =>
      cases run
      exact start
  | cons event rest ih =>
      obtain ⟨next, happens, later⟩ := run?_cons run
      exact ih (keeps session event next start happens) later

end Session
end TraceForward
