/-
A worker that is asked to stop comes to its end.

If every call takes all the time that it may, each turn brings the worker nearer to the
end: it passes to a later stage, has less left to do in this one, or has less time to
retry.
-/

import TraceForward.Proofs.Session.StopTime

namespace TraceForward

/-- The stages that are still before a worker that is asked to stop. -/
def Phase.stage : Phase → Nat
  | .starting => 9
  | .exporting .. | .publishing false (.offering _) => 8
  | .exportBlocked .. | .publishing false (.blocked ..) => 7
  | .publishing false (.ended _) => 6
  | .waiting => 5
  | .harvesting .. => 4
  | .publishing true (.offering _) | .publishing true (.blocked ..) => 3
  | .publishing true (.ended _) => 2
  | .flushing => 1
  | .finished => 0

namespace Clocked

variable {Client : Type} {clocked later : Clocked Client} {asked : Nat}

/-- What is left to do in the stage.  A try of the final cycle that meets a full queue
takes a pump from the time that is left to retry. -/
def left (clocked : Clocked Client) : Nat :=
  match clocked.session.phase with
  | .exporting _ rest => rest.length
  | .publishing false (.offering rest) => rest.length
  | .harvesting _ position _ => clocked.session.harvester.units.length - position
  -- A nanosecond and a frame count two each.  A blocked frame counts three: more than
  -- the place to which it may go back, and less than this with the time of the pump.
  | .publishing true (.offering rest) =>
      2 * (clocked.deadline - clocked.now) + 2 * rest.length
  | .publishing true (.blocked _ rest) =>
      if clocked.deadline ≤ clocked.now then 0
      else 2 * (clocked.deadline - clocked.now) + 2 * rest.length + 3
  | _ => 0

def Nearer (later clocked : Clocked Client) : Prop :=
  Prod.Lex (· < ·) (· < ·) (later.session.phase.stage, later.left)
    (clocked.session.phase.stage, clocked.left)

theorem Nearer.of_stage
    (stage : later.session.phase.stage < clocked.session.phase.stage) : later.Nearer clocked :=
  .left _ _ stage

theorem Nearer.of_left (stage : later.session.phase.stage = clocked.session.phase.stage)
    (left : later.left < clocked.left) : later.Nearer clocked := by
  unfold Nearer
  rw [stage]
  exact .right _ left

theorem wellFounded_nearer : WellFounded (@Nearer Client) :=
  InvImage.wf (fun clocked : Clocked Client => (clocked.session.phase.stage, clocked.left))
    (Prod.lex ⟨_, Nat.lt_wfRel.wf⟩ ⟨_, Nat.lt_wfRel.wf⟩).wf

variable [BrokerClient Client]

/-- The worker takes all the time that its step may, and ends it. -/
def turn (clocked : Clocked Client) : Clocked Client :=
  work { clocked with now := clocked.now + clocked.allowance }

theorem leads_turn (unfinished : clocked.session.phase ≠ .finished)
    (since : clocked.since = clocked.now) : clocked.Leads clocked.turn := by
  by_cases none : clocked.allowance = 0
  · have same : clocked.turn = clocked.work := by
      rw [turn, none]
      rfl
    rw [same]
    exact leads_work unfinished
  · have lasts : clocked.MayLast (clocked.now + clocked.allowance) := by
      unfold MayLast
      split
      next => trivial
      next stands =>
        refine (none ?_).elim
        rw [allowance_eq, Session.callMs, stands]
        rfl
      next => exact Nat.le_of_eq (by rw [since])
    exact (leads_pass lasts).trans (leads_work unfinished)

theorem deadline_turn {final : Bool} {batch : Batch}
    (stands : clocked.session.phase = .publishing final batch) :
    clocked.turn.deadline = clocked.deadline := by
  unfold turn
  exact deadline_work stands

theorem Keeps.now_lt_turn (keeps : clocked.Keeps) (positive : 0 < clocked.settings.queueFullPumpMs)
    {next : Frame} {rest : List Frame} {publisher : Publisher (Recorded Client)}
    (stands : clocked.session.phase = .publishing true (.offering (next :: rest)))
    (offered : clocked.session.publisher.offer next.message = (.queueFull, publisher)) :
    clocked.now < clocked.turn.now := by
  have pumped : clocked.session.callMs clocked.settings = clocked.settings.queueFullPumpMs := by
    rw [Session.callMs, stands]
    simp only [offered, if_true]
    exact keeps.pumpMs
  change clocked.now < clocked.now + clocked.allowance
  rw [allowance_eq, pumped]
  unfold nanoseconds
  omega

theorem Hurries.nearer_turn (hurries : clocked.Hurries asked)
    (positive : 0 < clocked.settings.queueFullPumpMs)
    (unfinished : clocked.session.phase ≠ .finished) : clocked.turn.Nearer clocked := by
  have orderly := hurries.keeps.orderly
  have grows : clocked.now ≤ clocked.turn.now := Nat.le_add_right _ _
  obtain ⟨moment, late, step⟩ : ∃ moment : Moment,
      moment.late = decide (clocked.deadline ≤ clocked.turn.now) ∧
        clocked.turn.session = clocked.session.step moment :=
    ⟨_, rfl, rfl⟩
  have advance := clocked.session.step_advance moment
  rw [← step] at advance
  generalize same : clocked.turn.session = next at advance
  cases advance with
  | copyTables stands | completeExport _ stands | blockDescriptor _ _ _ _ stands _
  | rejectDescriptor _ _ _ _ _ stands _ | abandonDescriptor _ _ _ stands _
  | beginHarvest stands | endFinalCycle _ stands | endCycle _ stands _
  | endFaultedCycle _ _ stands _ _ | flush stands =>
      apply Nearer.of_stage
      rw [same, stands]
      simp [Phase.stage]
  | takeDescriptor done next rest publisher stands offered =>
      apply Nearer.of_left
      · rw [same, stands]
        rfl
      · simp [left, same, stands]
  | retryDescriptor done next rest stands unasked =>
      rw [hurries.exit] at unasked
      cases unasked
  | visitUnit final position frames stands inside =>
      apply Nearer.of_left
      · rw [same, stands]
        rfl
      · simp only [left, same, stands, Harvester.harvestUnit_units, List.length_modify]
        omega
  | endHarvest final position frames stands past =>
      have last : final = true := (orderly.caught _ _ _ stands).trans hurries.exit
      apply Nearer.of_stage
      rw [same, stands, last]
      simp [Phase.stage]
  | endBatch final stands =>
      apply Nearer.of_stage
      rw [same, stands]
      cases final <;> simp [Phase.stage]
  | settleFrame final next rest answer publisher stands offered settled =>
      have deadline := deadline_turn stands
      apply Nearer.of_left
      · rw [same, stands]
        cases final <;> rfl
      · cases final with
        | false => simp [left, same, stands]
        | true =>
            simp only [left, same, stands, deadline, List.length_cons]
            omega
  | blockFrame final next rest publisher stands offered =>
      cases final with
      | false =>
          apply Nearer.of_stage
          rw [same, stands]
          simp [Phase.stage]
      | true =>
          have deadline := deadline_turn stands
          have pumped := hurries.keeps.now_lt_turn positive stands offered
          apply Nearer.of_left
          · rw [same, stands]
            rfl
          · simp only [left, same, stands, deadline, List.length_cons]
            split <;> omega
  | leaveFrames final next rest stands stopped =>
      apply Nearer.of_stage
      rw [same, stands]
      cases final <;> simp [Phase.stage]
  | retryFrame final next rest stands unstopped =>
      cases final with
      | false =>
          rw [if_neg Bool.false_ne_true, hurries.exit] at unstopped
          cases unstopped
      | true =>
          have deadline := deadline_turn stands
          have early : ¬ clocked.deadline ≤ clocked.turn.now := by
            simpa [late] using unstopped
          apply Nearer.of_left
          · rw [same, stands]
            rfl
          · simp only [left, same, stands, deadline, List.length_cons]
            rw [if_neg (by omega)]
            omega
  | rest stands => exact (unfinished stands).elim

theorem Hurries.ends_of_fresh (hurries : clocked.Hurries asked)
    (positive : 0 < clocked.settings.queueFullPumpMs) (fresh : clocked.since = clocked.now) :
    ∃ later, clocked.Leads later ∧ later.session.phase = .finished := by
  -- A turn ends with the step, so the worker is fresh again and nearer to the end.
  induction clocked using wellFounded_nearer.induction with
  | _ clocked ih =>
      by_cases finished : clocked.session.phase = .finished
      · exact ⟨clocked, .refl clocked, finished⟩
      · obtain ⟨ticks, run⟩ := leads_turn finished fresh
        obtain ⟨later, reached, ended⟩ :=
          ih clocked.turn (hurries.nearer_turn positive finished) (hurries.run run) positive rfl
        exact ⟨later, .trans ⟨ticks, run⟩ reached, ended⟩

/-- Wherever it stands, a worker that is asked to stop may come to its end. -/
theorem Hurries.ends (hurries : clocked.Hurries asked)
    (positive : 0 < clocked.settings.queueFullPumpMs) :
    ∃ later, clocked.Leads later ∧ later.session.phase = .finished := by
  by_cases finished : clocked.session.phase = .finished
  · exact ⟨clocked, .refl clocked, finished⟩
  -- The step that the request has met is ended at once, whatever time it has taken.
  · obtain ⟨later, reached, ended⟩ := (hurries.work finished).ends_of_fresh positive rfl
    exact ⟨later, (leads_work finished).trans reached, ended⟩

end Clocked
end TraceForward
