/-
What others see of the lifecycle of a session.

They see it with the session's lock held, so they never see it during a harvest.
-/

import Mathlib.Data.List.Destutter
import TraceForward.Proofs.Session.Order

namespace TraceForward

variable {Client : Type}

namespace Session

/-- What somebody who holds the session's lock sees of its lifecycle, which is
nothing while the worker holds the lock itself. -/
def visible (session : Session Client) : List Lifecycle :=
  if session.lockHeld then [] else [session.lifecycle]

/-- All that can be seen of the lifecycle in a run, in order. -/
def sightings [BrokerClient Client] (session : Session Client) :
    List SessionEvent → List Lifecycle
  | [] => session.visible
  | event :: rest =>
      session.visible ++
        match session.after? event with
        | none => []
        | some next => next.sightings rest

end Session

/-- The lifecycle of a session with a number of cycles before the final one. -/
def Lifecycle.course (cycles : Nat) : List Lifecycle :=
  (List.replicate cycles [.running, .draining]).flatten ++
    [.running, .draining, .stopping, .stopped]

/-- What is yet to be seen of the lifecycle, from what is seen on, with a number
of cycles to come before the final one. -/
def Lifecycle.toCome : Lifecycle → Nat → List Lifecycle
  | .running, cycles => course cycles
  | .draining, cycles => (course cycles).tail
  | .stopping, _ => [.stopping, .stopped]
  | .stopped, _ => [.stopped]

def Lifecycle.changes : List (Lifecycle × Lifecycle) :=
  [(.running, .draining), (.draining, .running), (.draining, .stopping), (.stopping, .stopped)]

/-- A change leads from what is to come to the rest of it. -/
theorem Lifecycle.toCome_change {seen new : Lifecycle} (change : (seen, new) ∈ changes)
    (cycles : Nat) : ∃ more, seen.toCome more = seen :: new.toCome cycles := by
  simp only [changes, List.mem_cons, Prod.mk.injEq, List.not_mem_nil, or_false] at change
  rcases change with ⟨rfl, rfl⟩ | ⟨rfl, rfl⟩ | ⟨rfl, rfl⟩ | ⟨rfl, rfl⟩
  · refine ⟨cycles, ?_⟩
    cases cycles <;> rfl
  · exact ⟨cycles + 1, rfl⟩
  · exact ⟨0, rfl⟩
  · exact ⟨0, rfl⟩

theorem Lifecycle.singleton_prefix_toCome (seen : Lifecycle) : [seen] <+: seen.toCome 0 := by
  cases seen <;> decide

def Phase.lastSeen : Phase → Lifecycle
  | .harvesting .. => .running
  | phase => phase.lifecycle

namespace Session

section Sightings

variable [BrokerClient Client] {session next final : Session Client}

omit [BrokerClient Client] in
theorem Orderly.visible_of_free (orderly : session.Orderly) (free : session.lockHeld = false) :
    session.visible = [session.phase.lastSeen] := by
  rw [visible, free, orderly.lifecycle]
  unfold lockHeld at free
  cases stands : session.phase with
  | harvesting final position frames => simp [stands] at free
  | _ => rfl

omit [BrokerClient Client] in
theorem Orderly.destutter_visible (orderly : session.Orderly) (rest : List Lifecycle) :
    (session.visible ++ rest).destutter' (· ≠ ·) session.phase.lastSeen =
      rest.destutter' (· ≠ ·) session.phase.lastSeen := by
  cases held : session.lockHeld with
  | true =>
      rw [visible, held]
      rfl
  | false =>
      rw [orderly.visible_of_free held, List.singleton_append]
      exact List.destutter'_cons_neg _ (by simp)

theorem exists_sightings (session : Session Client) (events : List SessionEvent) :
    ∃ others, session.sightings events = session.visible ++ others := by
  cases events with
  | nil => exact ⟨[], (List.append_nil _).symm⟩
  | cons event rest => exact ⟨_, rfl⟩

/-- After an event the same is seen as before, or a change of it. -/
theorem lastSeen_after {event : SessionEvent} (happens : session.after? event = some next) :
    next.phase.lastSeen = session.phase.lastSeen ∨
      (next.lockHeld = false ∧
        (session.phase.lastSeen, next.phase.lastSeen) ∈ Lifecycle.changes) := by
  rcases after?_cases happens with
    ⟨moment, rfl, advance⟩ | ⟨unit, change, rfl⟩ | ⟨catalog, rfl⟩ | ⟨rfl, free, rfl⟩
  · cases advance with
    | endHarvest _ _ _ stands _ | endFinalCycle _ stands | endCycle _ stands _
    | endFaultedCycle _ _ stands _ _ | flush stands =>
        rw [stands]
        exact .inr ⟨rfl, by simp [Lifecycle.changes, Phase.lastSeen, Phase.lifecycle]⟩
    | copyTables stands | completeExport _ stands | takeDescriptor _ _ _ _ stands _
    | blockDescriptor _ _ _ _ stands _ | rejectDescriptor _ _ _ _ _ stands _
    | abandonDescriptor _ _ _ stands _ | retryDescriptor _ _ _ stands _ | beginHarvest stands
    | visitUnit _ _ _ stands _ | endBatch _ stands | settleFrame _ _ _ _ _ stands _ _
    | blockFrame _ _ _ _ stands _ | leaveFrames _ _ _ stands _ | retryFrame _ _ _ stands _
    | rest stands =>
        rw [stands]
        exact .inl rfl
  · exact .inl rfl
  · exact .inl rfl
  · exact .inl rfl

/-- What is seen of a run from a moment on begins what is to come, and is all of
it if the worker ends. -/
theorem Orderly.sightings_toCome {events : List SessionEvent} (orderly : session.Orderly)
    (run : session.run? events = some final) :
    ∃ cycles,
      (session.sightings events).destutter' (· ≠ ·) session.phase.lastSeen <+:
        session.phase.lastSeen.toCome cycles ∧
      (final.phase = .finished →
        (session.sightings events).destutter' (· ≠ ·) session.phase.lastSeen =
          session.phase.lastSeen.toCome cycles) := by
  induction events generalizing session with
  | nil =>
      cases run
      have seen := orderly.destutter_visible []
      rw [List.append_nil] at seen
      rw [sightings, seen, List.destutter'_nil]
      refine ⟨0, Lifecycle.singleton_prefix_toCome _, ?_⟩
      intro ended
      rw [ended]
      rfl
  | cons event rest ih =>
      obtain ⟨next, happens, later⟩ := run?_cons run
      have orderlyNext := orderly.after happens
      obtain ⟨cycles, begins, ends⟩ := ih orderlyNext later
      rw [sightings, happens, orderly.destutter_visible]
      rcases lastSeen_after happens with same | ⟨free, change⟩
      · rw [← same]
        exact ⟨cycles, begins, ends⟩
      · obtain ⟨more, course⟩ := Lifecycle.toCome_change change cycles
        have changed : session.phase.lastSeen ≠ next.phase.lastSeen := by
          intro same
          rw [same] at change
          revert change
          cases next.phase.lastSeen <;> decide
        have first :
            (next.sightings rest).destutter' (· ≠ ·) session.phase.lastSeen =
              session.phase.lastSeen ::
                (next.sightings rest).destutter' (· ≠ ·) next.phase.lastSeen := by
          obtain ⟨others, starts⟩ := next.exists_sightings rest
          rw [starts, orderlyNext.destutter_visible, orderlyNext.visible_of_free free,
            List.singleton_append, List.destutter'_cons_pos _ changed]
        rw [first]
        refine ⟨more, ?_, ?_⟩
        · rw [course]
          exact (List.prefix_cons_inj _).mpr begins
        · intro ended
          rw [course, ends ended]

end Sightings

end Session
end TraceForward
