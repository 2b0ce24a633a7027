/-
What the phase of a worker says about the rest of the session.

The worker looks at the exit flag with the session's lock held, just before it
harvests, and nobody can raise the flag during a harvest.  So whether a harvest
is the final one, how often the worker harvested for the last time, what its
lifecycle is, and whether the broker was flushed all follow from the phase; and
the phase bounds what the worker may still do before it looks at the flag.
-/

import TraceForward.Proofs.Harvest.Unit
import TraceForward.Proofs.Session.Opening

namespace TraceForward

variable {Client : Type}

namespace Phase

def finalBegun : Phase → Bool
  | .harvesting final _ _ | .publishing final _ => final
  | .flushing | .finished => true
  | _ => false

def finalHarvested : Phase → Bool
  | .publishing final _ => final
  | .flushing | .finished => true
  | _ => false

def lifecycle : Phase → Lifecycle
  | .harvesting .. | .publishing .. => .draining
  | .flushing => .stopping
  | .finished => .stopped
  | _ => .running

/-- How many messages may meet a full queue before the worker looks at the exit
flag, if that is raised already and the final cycle has not begun. -/
def fullAllowance : Phase → Nat
  | .starting | .exporting .. | .publishing _ (.offering _) => 1
  | _ => 0

theorem finalBegun_of_harvested {phase : Phase} (harvested : phase.finalHarvested = true) :
    phase.finalBegun = true := by
  cases phase with
  | publishing final batch => exact harvested
  | flushing => rfl
  | finished => rfl
  | _ => cases harvested

theorem fullAllowance_le (phase : Phase) : phase.fullAllowance ≤ 1 := by
  unfold fullAllowance
  split <;> omega

end Phase

namespace Session

/-- The worker's own data agree with its phase, and the final cycle begins if and
only if the exit flag is raised when its harvest begins. -/
structure Orderly (session : Session Client) : Prop where
  lifecycle : session.lifecycle = session.phase.lifecycle
  asked : session.phase.finalBegun = true → session.exit = true
  caught : ∀ final position frames, session.phase = .harvesting final position frames →
    final = session.exit
  finalCycles : session.finalCycles = session.phase.finalHarvested.toNat

/-- The broker is flushed by the last call of the run and by no other. -/
def FlushedLast (session : Session (Recorded Client)) : Prop :=
  if session.phase = .finished then
    ∃ earlier milliseconds,
      session.publisher.broker.calls = earlier ++ [.flush milliseconds] ∧
      earlier.countP BrokerCall.isFlush = 0
  else
    session.publisher.broker.flushCount = 0

section Work

variable [BrokerClient Client] {session next : Session Client} {moment : Moment}

theorem Orderly.work (orderly : session.Orderly) (advance : session.Advance moment next) :
    next.Orderly := by
  obtain ⟨lifecycle, asked, caught, finalCycles⟩ := orderly
  cases advance with
  | beginHarvest stands =>
      rw [stands] at finalCycles
      refine ⟨rfl, id, ?_, finalCycles⟩
      intro final position frames harvesting
      cases harvesting
      rfl
  | visitUnit final position frames stands inside =>
      rw [stands] at lifecycle asked finalCycles
      refine ⟨lifecycle, asked, ?_, finalCycles⟩
      intro again after more harvesting
      cases harvesting
      exact caught _ _ _ stands
  | endHarvest final position frames stands past =>
      rw [stands] at lifecycle asked finalCycles
      refine ⟨lifecycle, asked, nofun, ?_⟩
      change session.finalCycles + _ = final.toNat
      rw [finalCycles]
      cases final <;> rfl
  | endFinalCycle pending stands =>
      rw [stands] at asked finalCycles
      exact ⟨rfl, fun _ => asked rfl, nofun, finalCycles⟩
  | flush stands =>
      rw [stands] at asked finalCycles
      exact ⟨rfl, fun _ => asked rfl, nofun, finalCycles⟩
  | rest stands => exact ⟨lifecycle, asked, caught, finalCycles⟩
  | rejectDescriptor done next rest reason publisher stands offered =>
      rw [stands] at lifecycle finalCycles
      exact ⟨lifecycle, fun _ => rfl, nofun, finalCycles⟩
  | abandonDescriptor done next rest stands asked =>
      rw [stands] at lifecycle finalCycles
      exact ⟨lifecycle, fun _ => rfl, nofun, finalCycles⟩
  | endCycle pending stands sound =>
      rw [stands] at finalCycles
      exact ⟨rfl, nofun, nofun, finalCycles⟩
  | endFaultedCycle pending fault stands first faulted =>
      rw [stands] at finalCycles
      exact ⟨rfl, fun _ => rfl, nofun, finalCycles⟩
  | copyTables stands | completeExport _ stands | takeDescriptor _ _ _ _ stands _
  | blockDescriptor _ _ _ _ stands _ | retryDescriptor _ _ _ stands _ | endBatch _ stands
  | settleFrame _ _ _ _ _ stands _ _ | blockFrame _ _ _ _ stands _
  | leaveFrames _ _ _ stands _ | retryFrame _ _ _ stands _ =>
      rw [stands] at lifecycle asked finalCycles
      exact ⟨lifecycle, asked, nofun, finalCycles⟩

theorem Orderly.after {event : SessionEvent} (orderly : session.Orderly)
    (happens : session.after? event = some next) : next.Orderly := by
  rcases after?_cases happens with
    ⟨moment, rfl, advance⟩ | ⟨unit, change, rfl⟩ | ⟨catalog, rfl⟩ | ⟨rfl, free, rfl⟩
  · exact orderly.work advance
  · exact ⟨orderly.lifecycle, orderly.asked, orderly.caught, orderly.finalCycles⟩
  · exact ⟨orderly.lifecycle, orderly.asked, orderly.caught, orderly.finalCycles⟩
  · refine ⟨orderly.lifecycle, fun _ => rfl, ?_, orderly.finalCycles⟩
    intro final position frames harvesting
    have held : session.lockHeld = true := by
      unfold lockHeld
      rw [show session.phase = _ from harvesting]
    rw [free] at held
    cases held

theorem exit_after {event : SessionEvent} (happens : session.after? event = some next)
    (asked : session.exit = true) : next.exit = true := by
  rcases after?_cases happens with
    ⟨moment, rfl, advance⟩ | ⟨unit, change, rfl⟩ | ⟨catalog, rfl⟩ | ⟨rfl, free, rfl⟩
  · cases advance with
    | rejectDescriptor | abandonDescriptor | endFaultedCycle => rfl
    | _ => exact asked
  · exact asked
  · exact asked
  · rfl

/-- A final cycle that has begun goes on to the end of the worker. -/
theorem finalBegun_after {event : SessionEvent} (happens : session.after? event = some next)
    (begun : session.phase.finalBegun = true) : next.phase.finalBegun = true := by
  rcases after?_cases happens with
    ⟨moment, rfl, advance⟩ | ⟨unit, change, rfl⟩ | ⟨catalog, rfl⟩ | ⟨rfl, free, rfl⟩
  · cases advance with
    | copyTables stands | completeExport _ stands | takeDescriptor _ _ _ _ stands _
    | blockDescriptor _ _ _ _ stands _ | rejectDescriptor _ _ _ _ _ stands _
    | abandonDescriptor _ _ _ stands _ | retryDescriptor _ _ _ stands _ | beginHarvest stands
    | endCycle _ stands _ | endFaultedCycle _ _ stands _ _ =>
        rw [stands] at begun
        cases begun
    | visitUnit _ _ _ stands _ | endHarvest _ _ _ stands _ | endBatch _ stands
    | settleFrame _ _ _ _ _ stands _ _ | blockFrame _ _ _ _ stands _
    | leaveFrames _ _ _ stands _ | retryFrame _ _ _ stands _ =>
        rw [stands] at begun
        exact begun
    | endFinalCycle | flush => rfl
    | rest stands => exact begun
  · exact begun
  · exact begun
  · exact begun

/-- A final harvest that has ended is followed by the end of the worker. -/
theorem finalHarvested_after (happens : session.after? event = some next)
    (harvested : session.phase.finalHarvested = true) : next.phase.finalHarvested = true := by
  rcases after?_cases happens with
    ⟨moment, rfl, advance⟩ | ⟨unit, change, rfl⟩ | ⟨catalog, rfl⟩ | ⟨rfl, free, rfl⟩
  · cases advance with
    | endBatch _ stands | settleFrame _ _ _ _ _ stands _ _ | blockFrame _ _ _ _ stands _
    | leaveFrames _ _ _ stands _ | retryFrame _ _ _ stands _ =>
        rw [stands] at harvested
        exact harvested
    | endFinalCycle | flush => rfl
    | rest stands => exact harvested
    | copyTables stands | completeExport _ stands | takeDescriptor _ _ _ _ stands _
    | blockDescriptor _ _ _ _ stands _ | rejectDescriptor _ _ _ _ _ stands _
    | abandonDescriptor _ _ _ stands _ | retryDescriptor _ _ _ stands _ | beginHarvest stands
    | visitUnit _ _ _ stands _ | endHarvest _ _ _ stands _ | endCycle _ stands _
    | endFaultedCycle _ _ stands _ _ =>
        rw [stands] at harvested
        cases harvested
  · exact harvested
  · exact harvested
  · exact harvested

theorem finalBegun_raised {event : SessionEvent} (orderly : session.Orderly)
    (happens : session.after? event = some next) (unasked : session.exit = false)
    (raised : next.exit = true) : next.phase.finalBegun = false := by
  have unbegun : session.phase.finalBegun = false := by
    cases begun : session.phase.finalBegun with
    | false => rfl
    | true =>
        rw [orderly.asked begun] at unasked
        cases unasked
  rcases after?_cases happens with
    ⟨moment, rfl, advance⟩ | ⟨unit, change, rfl⟩ | ⟨catalog, rfl⟩ | ⟨rfl, free, rfl⟩
  · cases advance with
    | rejectDescriptor | abandonDescriptor | endFaultedCycle => rfl
    | _ =>
        rw [show session.exit = true from raised] at unasked
        cases unasked
  · exact unbegun
  · exact unbegun
  · exact unbegun

theorem cycles_after {event : SessionEvent} (orderly : session.Orderly)
    (happens : session.after? event = some next) (asked : session.exit = true) :
    next.harvester.stats.cycles + session.finalCycles =
      session.harvester.stats.cycles + next.finalCycles := by
  rcases after?_cases happens with
    ⟨moment, rfl, advance⟩ | ⟨unit, change, rfl⟩ | ⟨catalog, rfl⟩ | ⟨rfl, free, rfl⟩
  · cases advance with
    | visitUnit final position frames stands inside =>
        exact congrArg (· + session.finalCycles)
          (session.harvester.harvestUnit_cycles position)
    | endHarvest final position frames stands past =>
        have last : final = true := (orderly.caught _ _ _ stands).trans asked
        subst last
        change session.harvester.stats.cycles + 1 + session.finalCycles =
          session.harvester.stats.cycles + (session.finalCycles + 1)
        omega
    | _ => rfl
  · rfl
  · rfl
  · rfl

theorem Advance.end_cases (advance : session.Advance moment next) :
    (session.phase = .flushing ∧ next.phase = .finished ∧
        next.publisher = (session.publisher.flush moment.settings.flushMs).2) ∨
      (session.phase = .finished ∧ next = session) ∨
      (session.phase ≠ .flushing ∧ session.phase ≠ .finished ∧ next.phase ≠ .finished) := by
  cases advance with
  | flush stands => exact .inl ⟨stands, rfl, rfl⟩
  | rest stands => exact .inr (.inl ⟨stands, rfl⟩)
  | _ =>
      refine .inr (.inr ⟨?_, ?_, nofun⟩)
      all_goals simp [*]

theorem report_after_finished {event : SessionEvent}
    (happens : session.after? event = some next) (ended : session.phase = .finished) :
    next.phase = .finished ∧ next.report = session.report := by
  rcases after?_cases happens with
    ⟨moment, rfl, advance⟩ | ⟨unit, change, rfl⟩ | ⟨catalog, rfl⟩ | ⟨rfl, free, rfl⟩
  · rcases advance.end_cases with ⟨flushing, _⟩ | ⟨_, rfl⟩ | ⟨_, unfinished, _⟩
    · rw [ended] at flushing
      cases flushing
    · exact ⟨ended, rfl⟩
    · exact (unfinished ended).elim
  · exact ⟨ended, rfl⟩
  · exact ⟨ended, rfl⟩
  · exact ⟨ended, rfl⟩

end Work

section Calls

variable [BrokerClient Client] {session next : Session (Recorded Client)} {moment : Moment}

theorem Advance.flushCount (advance : session.Advance moment next)
    (working : session.phase ≠ .flushing) :
    next.publisher.broker.flushCount = session.publisher.broker.flushCount := by
  rcases advance.publisher_cases with
    same | ⟨message, answer, offered⟩ | ⟨count, same⟩ | same | ⟨count, same⟩ |
      ⟨flushing, _⟩
  · rw [same]
  · exact Publisher.offer_flushCount offered
  · rw [same]
    rfl
  · rw [same, Publisher.pumpReports_flushCount]
  · rw [same]
    exact session.publisher.pumpReports_flushCount
  · exact (working flushing).elim

theorem FlushedLast.after {event : SessionEvent} (flushed : session.FlushedLast)
    (happens : session.after? event = some next) : next.FlushedLast := by
  rcases after?_cases happens with
    ⟨moment, rfl, advance⟩ | ⟨unit, change, rfl⟩ | ⟨catalog, rfl⟩ | ⟨rfl, free, rfl⟩
  · rcases advance.end_cases with
      ⟨flushing, finished, same⟩ | ⟨finished, rfl⟩ | ⟨working, unfinished, still⟩
    · rw [FlushedLast, flushing, if_neg nofun] at flushed
      rw [FlushedLast, if_pos finished, same, Publisher.flush_calls]
      exact ⟨session.publisher.broker.calls, moment.settings.flushMs, rfl, flushed⟩
    · exact flushed
    · rw [FlushedLast, if_neg unfinished] at flushed
      rw [FlushedLast, if_neg still, advance.flushCount working]
      exact flushed
  · exact flushed
  · exact flushed
  · exact flushed

/-- With the flag raised and the final cycle yet to begin, a full queue uses up
what the phase allows. -/
theorem Advance.full_allowed (orderly : session.Orderly)
    (advance : session.Advance moment next) (asked : session.exit = true)
    (unbegun : next.phase.finalBegun = false) :
    next.publisher.broker.fullCount + next.phase.fullAllowance ≤
      session.publisher.broker.fullCount + session.phase.fullAllowance := by
  have broken {goal : Prop} (unasked : session.exit = false) : goal := by
    rw [asked] at unasked
    cases unasked
  cases advance with
  | takeDescriptor done next rest publisher stands offered =>
      rw [stands]
      exact Nat.le_of_eq (congrArg (· + 1) (Publisher.offer_fullCount offered))
  | blockDescriptor done next rest publisher stands offered =>
      rw [stands]
      exact Nat.le_of_eq (Publisher.offer_fullCount offered)
  | rejectDescriptor done next rest reason publisher stands offered =>
      rw [stands]
      exact Nat.le_succ_of_le (Nat.le_of_eq (Publisher.offer_fullCount offered))
  | settleFrame final next rest answer publisher stands offered settled =>
      have same := Publisher.offer_fullCount offered
      rw [if_neg settled] at same
      rw [stands]
      exact Nat.le_of_eq (congrArg (· + 1) same)
  | blockFrame final next rest publisher stands offered =>
      rw [stands]
      exact Nat.le_of_eq (Publisher.offer_fullCount offered)
  | retryDescriptor done next rest stands unasked => exact broken unasked
  | beginHarvest stands => exact broken unbegun
  | endHarvest final position frames stands past =>
      exact broken ((orderly.caught _ _ _ stands).symm.trans unbegun)
  | retryFrame final next rest stands unstopped =>
      have regular : final = false := unbegun
      subst regular
      exact broken unstopped
  | endCycle pending stands sound =>
      rw [stands]
      exact Nat.le_of_eq session.publisher.pumpReports_fullCount
  | endFaultedCycle pending fault stands first faulted =>
      rw [stands]
      exact Nat.le_of_eq session.publisher.pumpReports_fullCount
  | endFinalCycle pending stands => cases unbegun
  | flush stands => cases unbegun
  | rest stands => exact Nat.le_refl _
  | copyTables stands =>
      rw [stands]
      exact Nat.le_refl _
  | completeExport _ stands | abandonDescriptor _ _ _ stands _ | visitUnit _ _ _ stands _
  | endBatch _ stands | leaveFrames _ _ _ stands _ =>
      rw [stands]
      exact Nat.add_le_add_left (Nat.zero_le _) _

end Calls

/-! ### Orderly runs -/

theorem Orderly.run [BrokerClient Client] {session final : Session Client}
    {events : List SessionEvent} (orderly : session.Orderly)
    (run : session.run? events = some final) : final.Orderly :=
  run?_induction (fun _ _ _ known happens => known.after happens) orderly run

theorem Orderly.opened {settings : Settings} {handle : Handle}
    {resources : SessionResources Client} {session : Session Client}
    (opened : ofResources settings handle resources = .ok session) : session.Orderly := by
  obtain ⟨_, _, rfl⟩ := ofResources_eq_ok opened
  exact ⟨rfl, nofun, nofun, rfl⟩

end Session
end TraceForward
