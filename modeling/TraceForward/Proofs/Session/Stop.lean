/-
How a session comes to its end.

The first harvest that begins with the exit flag raised is the only one, and it
is the final one.  This holds whether a request raised the flag, the export of
the tables failed, or a harvest met a fault, and wherever the worker stood.
-/

import TraceForward.Proofs.Session.Sightings

namespace TraceForward
namespace Session

variable {Client : Type}

/-! ### From the raised flag on -/

/-- In the course of a run to `final`, an event raised the exit flag and left the
session `raised` behind. -/
def RaisedWithin [BrokerClient Client] (session : Session Client) (events : List SessionEvent)
    (raised final : Session Client) : Prop :=
  ∃ earlier event later before,
    events = earlier ++ event :: later ∧
    session.run? earlier = some before ∧ before.exit = false ∧
    before.after? event = some raised ∧ raised.exit = true ∧
    raised.run? later = some final

theorem exists_raisedWithin [BrokerClient Client] {session final : Session Client}
    {events : List SessionEvent} (unasked : session.exit = false)
    (run : session.run? events = some final) (asked : final.exit = true) :
    ∃ raised, session.RaisedWithin events raised final := by
  induction events generalizing session with
  | nil =>
      cases run
      rw [asked] at unasked
      cases unasked
  | cons event rest ih =>
      obtain ⟨next, happens, later⟩ := run?_cons run
      cases raised : next.exit with
      | true => exact ⟨next, [], event, rest, session, rfl, rfl, unasked, happens, raised, later⟩
      | false =>
          obtain ⟨left, earlier, raising, after, before, split, reached, known⟩ := ih raised later
          refine ⟨left, event :: earlier, raising, after, before, ?_, ?_, known⟩
          · rw [split]
            rfl
          · rw [run?, happens]
            exact reached

section Raised

variable [BrokerClient Client] {session raised final : Session (Recorded Client)}
  {events : List SessionEvent}

/-- What has come of a session since its exit flag was raised: the harvests that
ended since then are counted as final, and until the final cycle begins at most
one message met a full queue. -/
structure SinceRaised (raised session : Session (Recorded Client)) : Prop where
  orderly : session.Orderly
  asked : session.exit = true
  cycles :
    session.harvester.stats.cycles = raised.harvester.stats.cycles + session.finalCycles
  full : session.phase.finalBegun = false →
    session.publisher.broker.fullCount + session.phase.fullAllowance ≤
      raised.publisher.broker.fullCount + raised.phase.fullAllowance

theorem SinceRaised.after {next : Session (Recorded Client)} {event : SessionEvent}
    (since : raised.SinceRaised session) (happens : session.after? event = some next) :
    raised.SinceRaised next := by
  obtain ⟨orderly, asked, cycles, full⟩ := since
  have counted := cycles_after orderly happens asked
  refine ⟨orderly.after happens, exit_after happens asked, by omega, ?_⟩
  intro unbegun
  have before : session.phase.finalBegun = false := by
    cases begun : session.phase.finalBegun with
    | false => rfl
    | true =>
        rw [finalBegun_after happens begun] at unbegun
        cases unbegun
  have bound := full before
  rcases after?_cases happens with
    ⟨moment, rfl, advance⟩ | ⟨unit, change, rfl⟩ | ⟨catalog, rfl⟩ | ⟨rfl, free, rfl⟩
  · exact Nat.le_trans (advance.full_allowed orderly asked unbegun) bound
  · exact bound
  · exact bound
  · exact bound

end Raised

/-! ### How a run stops -/

variable [BrokerClient Client]

/-- From where an orderly session has its flag raised on, all harvests but the
final one are over. -/
theorem SinceRaised.of_raisedWithin {session raised final : Session (Recorded Client)}
    {events : List SessionEvent} (orderly : session.Orderly)
    (within : session.RaisedWithin events raised final) :
    raised.SinceRaised final ∧ raised.finalCycles = 0 := by
  obtain ⟨earlier, event, later, before, _, reached, unasked, happens, asked, run⟩ := within
  have orderlyBefore := orderly.run reached
  have orderlyRaised := orderlyBefore.after happens
  -- The final cycle is yet to begin, so all of it comes after the flag was raised.
  have unbegun := finalBegun_raised orderlyBefore happens unasked asked
  have none : raised.finalCycles = 0 := by
    rw [orderlyRaised.finalCycles]
    cases harvested : raised.phase.finalHarvested with
    | false => rfl
    | true =>
        rw [Phase.finalBegun_of_harvested harvested] at unbegun
        cases unbegun
  have start : raised.SinceRaised raised :=
    ⟨orderlyRaised, asked, by rw [none, Nat.add_zero], fun _ => Nat.le_refl _⟩
  exact ⟨run?_induction (fun _ _ _ since happens => since.after happens) start run, none⟩

/-- How a run from `session` to `final` keeps to the order of a stop, whoever
raised the exit flag, and whenever. -/
structure StopsInOrder (session : Session (Recorded Client)) (events : List SessionEvent)
    (final : Session (Recorded Client)) : Prop where
  /-- A harvest that ended after the flag was raised is counted as a final
  cycle; there is at most one. -/
  harvests : ∀ raised, session.RaisedWithin events raised final →
    raised.finalCycles = 0 ∧
      final.harvester.stats.cycles = raised.harvester.stats.cycles + final.finalCycles
  once : final.finalCycles ≤ 1
  /-- A harvest that is under way is the final one exactly if the flag is raised. -/
  underWay : ∀ kind position frames, final.phase = .harvesting kind position frames →
    kind = final.exit
  /-- Until the final cycle begins, at most one more message meets a full queue. -/
  fullAnswers : ∀ raised, session.RaisedWithin events raised final →
    final.phase.finalBegun = false →
    final.publisher.broker.fullCount ≤ raised.publisher.broker.fullCount + 1
  /-- A worker that has ended harvested exactly once after the flag was raised. -/
  ended : final.phase = .finished →
    final.finalCycles = 1 ∧
      ∃ raised, session.RaisedWithin events raised final ∧
        final.harvester.stats.cycles = raised.harvester.stats.cycles + 1
  flushed : final.FlushedLast
  course : ∃ cycles,
    (session.sightings events).destutter (· ≠ ·) <+: Lifecycle.course cycles ∧
      (final.phase = .finished →
        (session.sightings events).destutter (· ≠ ·) = Lifecycle.course cycles)
  asked : final.lifecycle = .stopping ∨ final.lifecycle = .stopped → final.exit = true

/-- Every run of an opened session keeps to the order of a stop. -/
theorem stops_in_order {settings : Settings} {handle : Handle}
    {resources : SessionResources Client} {session final : Session (Recorded Client)}
    {events : List SessionEvent}
    (opened : ofResources settings handle resources.recorded = .ok session)
    (run : session.run? events = some final) : session.StopsInOrder events final := by
  have start := Orderly.opened opened
  have orderly := start.run run
  obtain ⟨_, _, shape⟩ := ofResources_eq_ok opened
  have counted := orderly.finalCycles
  refine ⟨?_, ?_, orderly.caught, ?_, ?_, ?_, ?_, ?_⟩
  · intro raised within
    obtain ⟨since, none⟩ := SinceRaised.of_raisedWithin start within
    exact ⟨none, since.cycles⟩
  · rw [counted]
    exact Bool.toNat_le _
  · intro raised within unbegun
    obtain ⟨since, _⟩ := SinceRaised.of_raisedWithin start within
    have bound := since.full unbegun
    have allowance := raised.phase.fullAllowance_le
    omega
  · intro ended
    rw [ended] at counted
    have asked : final.exit = true := orderly.asked (by rw [ended]; rfl)
    have unasked : session.exit = false := by rw [shape]
    obtain ⟨raised, within⟩ := exists_raisedWithin unasked run asked
    obtain ⟨since, _⟩ := SinceRaised.of_raisedWithin start within
    refine ⟨counted, raised, within, ?_⟩
    rw [since.cycles, counted]
    rfl
  · refine run?_induction (fun _ _ _ flushed happens => flushed.after happens) ?_ run
    rw [shape]
    rfl
  · obtain ⟨cycles, begins, ends⟩ := start.sightings_toCome run
    have seen :
        (session.sightings events).destutter (· ≠ ·) =
          (session.sightings events).destutter' (· ≠ ·) session.phase.lastSeen := by
      have free : session.lockHeld = false := by
        rw [shape]
        rfl
      obtain ⟨others, starts⟩ := session.exists_sightings events
      rw [starts, start.destutter_visible, start.visible_of_free free]
      rfl
    have running : session.phase.lastSeen = .running := by
      rw [shape]
      rfl
    rw [running] at begins ends seen
    rw [seen]
    exact ⟨cycles, begins, ends⟩
  · intro stopping
    rw [orderly.lifecycle] at stopping
    refine orderly.asked ?_
    cases stands : final.phase with
    | flushing => rfl
    | finished => rfl
    | _ => simp [stands, Phase.lifecycle] at stopping

theorem stops_in_order_sample :
    ∃ session final,
      ofResources {} ⟨1⟩ SessionResources.sample.recorded = .ok session ∧
      session.run? SessionEvent.sample = some final ∧ final.phase = .finished ∧
      session.StopsInOrder SessionEvent.sample final := by
  obtain ⟨session, final, opened, run, ended⟩ := sample_ends
  have plain := Observed.map_session_run? { session } SessionEvent.sample
  rw [run] at plain
  exact ⟨session, final.session, opened, plain.symm, ended, stops_in_order opened plain.symm⟩

end Session
end TraceForward
