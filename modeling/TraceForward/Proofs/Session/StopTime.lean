/-
How long a worker takes to stop, at the most.

A stop may meet the worker in a pump.  When this has ended, the worker comes to the
final cycle at once, and retries until the deadline of that cycle; the last retry may
begin just before it and is followed by one more pump, and then the producer is
flushed.
-/

import TraceForward.Proofs.Session.Clock

namespace TraceForward

/-! ### When a phase is due -/

/-- How long after the request of a stop the worker comes to a phase, at the latest, in
milliseconds. -/
def Phase.dueMs (settings : Settings) : Phase → Nat
  | .starting | .exporting .. | .publishing false (.offering _) => 0
  | .publishing true (.offering _) => settings.queueFullPumpMs + settings.finalFlushMs
  | .publishing true _ | .flushing => 2 * settings.queueFullPumpMs + settings.finalFlushMs
  | .finished => 2 * settings.queueFullPumpMs + settings.finalFlushMs + settings.flushMs
  | _ => settings.queueFullPumpMs

namespace Session

variable {Client : Type} [BrokerClient Client] {session next : Session (Recorded Client)}
  {moment : Moment} {settings : Settings}

theorem callMs_le (pumpMs : session.publisher.pumpMs = settings.queueFullPumpMs) :
    session.phase.dueMs settings + session.callMs settings ≤
      2 * settings.queueFullPumpMs + settings.finalFlushMs + settings.flushMs := by
  unfold callMs
  split
  next stands =>
    rw [stands, pumpMs]
    split <;> simp only [Phase.dueMs] <;> omega
  next final _ _ stands =>
    rw [stands, pumpMs]
    cases final <;> split <;> simp only [Phase.dueMs] <;> omega
  next stands =>
    rw [stands]
    exact Nat.le_refl _
  next =>
    unfold Phase.dueMs
    split <;> omega

/-- A step that is asked to stop leads to a phase that is due when it has ended, or goes
on with the final cycle before the deadline. -/
theorem Advance.dueMs_le (advance : session.Advance moment next) (orderly : session.Orderly)
    (asked : session.exit = true) (unfinished : session.phase ≠ .finished)
    (pumpMs : session.publisher.pumpMs = settings.queueFullPumpMs) :
    session.phase.dueMs settings + session.callMs settings ≤ next.phase.dueMs settings ∨
      moment.late = false ∧ (∃ batch, session.phase = .publishing true batch) ∧
        ∃ rest, next.phase = .publishing true (.offering rest) := by
  cases advance with
  | copyTables stands =>
      rw [callMs, stands]
      exact .inl (Nat.zero_le _)
  | completeExport done stands =>
      rw [callMs, stands]
      exact .inl (Nat.zero_le _)
  | takeDescriptor done next rest publisher stands offered =>
      rw [callMs, stands]
      simp only [offered]
      exact .inl (Nat.zero_le _)
  | blockDescriptor done next rest publisher stands offered =>
      rw [callMs, stands]
      simp only [offered, if_true, pumpMs]
      exact .inl (Nat.le_of_eq (Nat.zero_add _))
  | rejectDescriptor done next rest reason publisher stands offered =>
      rw [callMs, stands]
      simp only [offered]
      exact .inl (Nat.zero_le _)
  | abandonDescriptor done next rest stands asked =>
      rw [callMs, stands]
      exact .inl (Nat.le_refl _)
  | retryDescriptor done next rest stands unasked =>
      rw [asked] at unasked
      cases unasked
  | beginHarvest stands =>
      rw [callMs, stands]
      exact .inl (Nat.le_refl _)
  | visitUnit final position frames stands inside =>
      rw [callMs, stands]
      exact .inl (Nat.le_refl _)
  | endHarvest final position frames stands past =>
      -- The harvest took up the request, for it may not be raised while the lock is held.
      have last : final = true := (orderly.caught _ _ _ stands).trans asked
      rw [callMs, stands, last]
      exact .inl (Nat.le_add_right _ _)
  | endBatch final stands =>
      rw [callMs, stands]
      cases final with
      | true =>
          refine .inl ?_
          simp only [Phase.dueMs]
          omega
      | false => exact .inl (Nat.zero_le _)
  | settleFrame final next rest answer publisher stands offered settled =>
      rw [callMs, stands]
      simp only [offered, if_neg settled]
      cases final with
      | true => exact .inl (Nat.le_refl _)
      | false => exact .inl (Nat.le_refl _)
  | blockFrame final next rest publisher stands offered =>
      rw [callMs, stands]
      simp only [offered, if_true, pumpMs]
      cases final with
      | true =>
          refine .inl ?_
          simp only [Phase.dueMs]
          omega
      | false => exact .inl (Nat.le_of_eq (Nat.zero_add _))
  | leaveFrames final next rest stands stopped =>
      rw [callMs, stands]
      cases final with
      | true => exact .inl (Nat.le_refl _)
      | false => exact .inl (Nat.le_refl _)
  | retryFrame final next rest stands unstopped =>
      cases final with
      | true => exact .inr ⟨unstopped, ⟨_, stands⟩, _, rfl⟩
      | false =>
          rw [if_neg Bool.false_ne_true, asked] at unstopped
          cases unstopped
  | endFinalCycle pending stands =>
      rw [callMs, stands]
      exact .inl (Nat.le_refl _)
  | endCycle pending stands sound =>
      rw [callMs, stands]
      exact .inl (Nat.le_refl _)
  | endFaultedCycle pending fault stands first faulted =>
      rw [callMs, stands]
      exact .inl (Nat.le_refl _)
  | flush stands =>
      rw [callMs, stands]
      exact .inl (Nat.le_refl _)
  | rest stands => exact (unfinished stands).elim

theorem Advance.publishing_cases (advance : session.Advance moment next) {final : Bool}
    {batch : Batch} (publishing : next.phase = .publishing final batch) :
    (∃ position frames, session.phase = .harvesting final position frames) ∨
      ∃ before, session.phase = .publishing final before := by
  cases advance with
  | endHarvest final position frames stands past =>
      cases publishing
      exact .inl ⟨_, _, stands⟩
  | endBatch final stands =>
      cases publishing
      exact .inr ⟨_, stands⟩
  | settleFrame final next rest answer publisher stands offered settled =>
      cases publishing
      exact .inr ⟨_, stands⟩
  | blockFrame final next rest publisher stands offered =>
      cases publishing
      exact .inr ⟨_, stands⟩
  | leaveFrames final next rest stands stopped =>
      cases publishing
      exact .inr ⟨_, stands⟩
  | retryFrame final next rest stands unstopped =>
      cases publishing
      exact .inr ⟨_, stands⟩
  | rest stands =>
      rw [stands] at publishing
      cases publishing
  | _ => cases publishing

end Session

namespace Clocked

variable {Client : Type} [BrokerClient Client] {clocked next : Clocked Client} {asked : Nat}

structure Hurries (asked : Nat) (clocked : Clocked Client) : Prop where
  keeps : clocked.Keeps
  exit : clocked.session.exit = true
  due : clocked.since ≤ asked + nanoseconds (clocked.session.phase.dueMs clocked.settings)
  deadline : ∀ batch, clocked.session.phase = .publishing true batch →
    clocked.deadline ≤
      asked + nanoseconds (clocked.settings.queueFullPumpMs + clocked.settings.finalFlushMs)
  /-- The step that the worker is at lasts as long as its calls may. -/
  lasts : clocked.session.phase = .finished ∨ clocked.now ≤ asked ∨
    clocked.now ≤ clocked.since + nanoseconds (clocked.session.callMs clocked.settings)

theorem Hurries.now_le (hurries : clocked.Hurries asked)
    (unfinished : clocked.session.phase ≠ .finished) :
    clocked.now ≤ asked + nanoseconds
      (clocked.session.phase.dueMs clocked.settings +
        clocked.session.callMs clocked.settings) := by
  have due := hurries.due
  unfold nanoseconds at due ⊢
  rcases hurries.lasts with finished | early | lasts
  · exact (unfinished finished).elim
  · omega
  · unfold nanoseconds at lasts
    omega

theorem Keeps.hurries (keeps : clocked.Keeps) {session : Session (Recorded Client)}
    (requested : clocked.session.after? .requestStop = some session) :
    Hurries clocked.now { clocked with session } := by
  have after : clocked.after? (.act .requestStop) = some { clocked with session } := by
    simp [after?, requested]
  have asked : session.exit = true := by
    simp only [Session.after?] at requested
    split at requested
    · cases requested
    · cases requested
      rfl
  refine ⟨keeps.after after, asked, Nat.le_add_right_of_le keeps.since, ?_, .inr (.inl ?_)⟩
  · intro batch _
    have deadline := keeps.deadline
    unfold nanoseconds at deadline ⊢
    dsimp only
    omega
  · exact Nat.le_refl _

theorem Hurries.due_work (hurries : clocked.Hurries asked)
    (unfinished : clocked.session.phase ≠ .finished) :
    clocked.now ≤ asked + nanoseconds (clocked.next.phase.dueMs clocked.settings) := by
  have keeps := hurries.keeps
  have advance : clocked.session.Advance clocked.moment clocked.next :=
    clocked.session.step_advance clocked.moment
  have now := hurries.now_le unfinished
  unfold nanoseconds at now ⊢
  rcases advance.dueMs_le keeps.orderly hurries.exit unfinished keeps.pumpMs with
    due | ⟨early, ⟨batch, stands⟩, rest, goesOn⟩
  · omega
  · have deadline := hurries.deadline batch stands
    have before : clocked.now < clocked.deadline := by
      simpa [Clocked.moment] using early
    unfold nanoseconds at deadline
    rw [goesOn]
    simp only [Phase.dueMs]
    omega

/-- The final cycle begins its tries when the pump that the request has met is over. -/
theorem Hurries.deadline_work (hurries : clocked.Hurries asked) {batch : Batch}
    (publishing : clocked.next.phase = .publishing true batch) :
    clocked.work.deadline ≤
      asked + nanoseconds (clocked.settings.queueFullPumpMs + clocked.settings.finalFlushMs) := by
  have advance : clocked.session.Advance clocked.moment clocked.next :=
    clocked.session.step_advance clocked.moment
  rcases advance.publishing_cases publishing with ⟨position, frames, stands⟩ | ⟨before, stands⟩
  -- A harvest takes no time, so it ends when the worker has come to it.
  · have now := hurries.now_le (by simp [stands])
    have none : clocked.session.callMs clocked.settings = 0 := by
      rw [Session.callMs, stands]
    rw [deadline_work_harvested stands publishing, hurries.keeps.settings]
    rw [stands, none] at now
    unfold nanoseconds at now ⊢
    simp only [Phase.dueMs] at now
    omega
  · rw [Clocked.deadline_work stands]
    exact hurries.deadline before stands

theorem Hurries.work (hurries : clocked.Hurries asked)
    (unfinished : clocked.session.phase ≠ .finished) : clocked.work.Hurries asked := by
  have worked : clocked.session.after? (.work clocked.moment) = some clocked.next := rfl
  constructor
  · exact hurries.keeps.work
  · exact Session.exit_after worked hurries.exit
  · exact hurries.due_work unfinished
  · intro batch publishing
    exact hurries.deadline_work publishing
  · exact .inr (.inr (Nat.le_add_right _ _))

theorem Hurries.after {tick : Tick} (hurries : clocked.Hurries asked)
    (happens : clocked.after? tick = some next) : next.Hurries asked := by
  have keeps := hurries.keeps.after happens
  rcases after?_cases happens with
    ⟨time, mayLast, rfl⟩ | ⟨unfinished, rfl⟩ | ⟨event, session, after, beside, rfl⟩
  · refine ⟨keeps, hurries.exit, hurries.due, hurries.deadline, ?_⟩
    unfold MayLast at mayLast
    split at mayLast
    next finished => exact .inl finished
    next =>
      rw [hurries.exit] at mayLast
      cases mayLast.1
    next =>
      rw [allowance_eq] at mayLast
      exact .inr (.inr mayLast)
  · exact hurries.work unfinished
  · obtain ⟨_, exit, due, deadline, lasts⟩ := hurries
    refine ⟨keeps, beside.exit exit, ?_, ?_, ?_⟩
    · dsimp only
      rw [beside.phase]
      exact due
    · dsimp only
      rw [beside.phase]
      exact deadline
    · dsimp only
      rw [beside.phase, beside.callMs]
      exact lasts

theorem settings_after {tick : Tick} (happens : clocked.after? tick = some next) :
    next.settings = clocked.settings := by
  rcases after?_cases happens with ⟨time, _, rfl⟩ | ⟨_, rfl⟩ | ⟨event, session, _, _, rfl⟩
  · rfl
  · rfl
  · rfl

theorem settings_run {ticks : List Tick} (run : clocked.run? ticks = some next) :
    next.settings = clocked.settings :=
  runMoves?_induction (fun state : Clocked Client => state.settings = clocked.settings)
    (fun _ _ _ same happens => (settings_after happens).trans same) rfl run

theorem Hurries.run {ticks : List Tick} (hurries : clocked.Hurries asked)
    (run : clocked.run? ticks = some next) : next.Hurries asked :=
  runMoves?_induction (Hurries asked) (fun _ _ _ hurries happens => hurries.after happens)
    hurries run

/-- In the course of a run under these settings a stop was requested, and the run went
on to the final state. -/
def StoppedUnder (settings : Settings) (asked final : Clocked Client) : Prop :=
  ∃ handle resources session now earlier before later,
    Session.ofResources settings handle (SessionResources.recorded resources) = .ok session ∧
    (start settings now session).run? earlier = some before ∧
    before.after? (.act .requestStop) = some asked ∧
    asked.run? later = some final

theorem StoppedUnder.hurries {settings : Settings} {asked final : Clocked Client}
    (stopped : StoppedUnder settings asked final) :
    final.Hurries asked.now ∧ final.settings = settings := by
  obtain ⟨handle, resources, session, now, earlier, before, later, opened, reached, requested,
    run⟩ := stopped
  have keeps : before.Keeps :=
    runMoves?_induction Keeps (fun _ _ _ keeps happens => keeps.after happens)
      (.start opened now) reached
  have raises : (before.session.after? .requestStop).map (fun session =>
      { before with session }) = some asked := requested
  obtain ⟨raised, after, rfl⟩ := Option.map_eq_some_iff.mp raises
  refine ⟨(keeps.hurries after).run run, ?_⟩
  exact (settings_run run).trans (settings_run reached)

end Clocked

/-- How long a worker takes to stop, at the most, in milliseconds. -/
def Settings.stopMs (settings : Settings) : Nat :=
  2 * settings.queueFullPumpMs + settings.finalFlushMs + settings.flushMs

namespace Clocked

variable {Client : Type} [BrokerClient Client] {clocked : Clocked Client} {asked : Nat}

theorem Hurries.within (hurries : clocked.Hurries asked) :
    (clocked.session.phase = .finished ∧
        clocked.since ≤ asked + nanoseconds clocked.settings.stopMs) ∨
      (clocked.session.phase ≠ .finished ∧
        clocked.now ≤ asked + nanoseconds clocked.settings.stopMs) := by
  by_cases finished : clocked.session.phase = .finished
  · refine .inl ⟨finished, ?_⟩
    have due := hurries.due
    rw [finished] at due
    exact due
  · refine .inr ⟨finished, ?_⟩
    have now := hurries.now_le finished
    have most := Session.callMs_le hurries.keeps.pumpMs
    unfold nanoseconds Settings.stopMs at *
    omega

end Clocked
end TraceForward
