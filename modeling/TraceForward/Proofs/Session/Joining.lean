/-
Stops that are joined in time.

A join gives the worker the stop timeout from the request on.  This suffices for every
session, wherever the request meets it and whatever its client answers, exactly if the
timeout covers two pumps, the final cycle and the flush.  A valid configuration need not
see to it: a queue that stays full takes all of that time.
-/

import TraceForward.Proofs.Catalog.Records
import TraceForward.Proofs.Session.StopEnds

namespace TraceForward

/-! ### At the most -/

namespace Clocked

variable {Client : Type} [BrokerClient Client] {clocked : Clocked Client} {began : Nat}

/-- A join that began at a time never runs into its timeout.  It gives the report once
the timeout has passed, and may always come to give it. -/
structure Joined (clocked : Clocked Client) (began : Nat) : Prop where
  inTime : ∀ fault, clocked.join? began ≠ some (.error fault)
  report : began + nanoseconds clocked.settings.stopTimeoutMs < clocked.now →
    clocked.join? began = some (.ok clocked.session.report)
  comes : ∃ later, clocked.Leads later ∧
    later.join? began = some (.ok later.session.report)

theorem Hurries.join_of_finished (hurries : clocked.Hurries began)
    (enough : clocked.settings.stopMs ≤ clocked.settings.stopTimeoutMs)
    (finished : clocked.session.phase = .finished) :
    clocked.join? began = some (.ok clocked.session.report) := by
  have covered : nanoseconds clocked.settings.stopMs ≤
      nanoseconds clocked.settings.stopTimeoutMs := Nat.mul_le_mul_left _ enough
  rcases hurries.within with ⟨_, since⟩ | ⟨unfinished, _⟩
  · rw [join?, if_pos ⟨finished, by omega⟩]
  · exact (unfinished finished).elim

theorem Hurries.joined (hurries : clocked.Hurries began)
    (positive : 0 < clocked.settings.queueFullPumpMs)
    (enough : clocked.settings.stopMs ≤ clocked.settings.stopTimeoutMs) :
    clocked.Joined began := by
  have comes : ∃ later, clocked.Leads later ∧
      later.join? began = some (.ok later.session.report) := by
    obtain ⟨later, ⟨ticks, run⟩, finished⟩ := hurries.ends positive
    have inForce := settings_run run
    have joins := (hurries.run run).join_of_finished (by rw [inForce]; exact enough) finished
    exact ⟨later, ⟨ticks, run⟩, joins⟩
  rcases hurries.within with ⟨finished, _⟩ | ⟨unfinished, now⟩
  · have joins := hurries.join_of_finished enough finished
    refine ⟨?_, fun _ => joins, comes⟩
    intro fault
    rw [joins]
    nofun
  · have covered : nanoseconds clocked.settings.stopMs ≤
        nanoseconds clocked.settings.stopTimeoutMs := Nat.mul_le_mul_left _ enough
    refine ⟨?_, fun late => by omega, comes⟩
    intro fault
    rw [join?, if_neg fun ended => unfinished ended.1, if_neg (by omega)]
    nofun

end Clocked

/-- Under these settings every stop is joined in time, whatever the session, wherever its
worker stands and whatever its client answers. -/
def Settings.StopsInTime (settings : Settings) : Prop :=
  ∀ (Client : Type) [BrokerClient Client] (asked final : Clocked Client),
    Clocked.StoppedUnder settings asked final → final.Joined asked.now

theorem Settings.stopsInTime_of_le {settings : Settings} (valid : settings.validate = .ok ())
    (enough : settings.stopMs ≤ settings.stopTimeoutMs) : settings.StopsInTime := by
  intro Client _ asked final stopped
  obtain ⟨hurries, rfl⟩ := stopped.hurries
  exact hurries.joined (final.settings.validate_eq_ok_iff.mp valid).queueFullPump enough

/-! ### As long as that -/

structure JammedBroker where

instance : BrokerClient JammedBroker where
  publish client _ _ := (.queueFull, client)
  pump client _ := (0, client)
  flush client _ := (.ok (), client)

/-- A session that has a format to describe and one record to publish. -/
def SessionResources.jammed : SessionResources JammedBroker :=
  { units := [{ capacity := 4, front := { id := .own 0, data := [0, 0, 0, 0] } }]
    catalog := { formats := [""] }
    broker := {}
    topic := default }

namespace Clocked

variable {clocked : Clocked JammedBroker}

structure Retries (clocked : Clocked JammedBroker) (next : Frame) (rest : List Frame) : Prop where
  stands : clocked.session.phase = .publishing true (.offering (next :: rest))
  pumpMs : clocked.session.publisher.pumpMs = clocked.settings.queueFullPumpMs
  since : clocked.since = clocked.now

theorem Retries.mayLast {next : Frame} {rest : List Frame} (retries : clocked.Retries next rest)
    {time : Nat} (short : time ≤ nanoseconds clocked.settings.queueFullPumpMs) :
    clocked.MayLast (clocked.now + time) := by
  obtain ⟨stands, pumpMs, since⟩ := retries
  have spent : clocked.session.callMs clocked.settings = clocked.settings.queueFullPumpMs := by
    rw [Session.callMs, stands]
    exact pumpMs
  unfold MayLast
  rw [stands]
  dsimp only
  rw [allowance_eq, spent, since]
  omega

structure Stays (clocked later : Clocked JammedBroker) : Prop where
  settings : later.settings = clocked.settings
  deadline : later.deadline = clocked.deadline
  pumpMs : later.session.publisher.pumpMs = clocked.session.publisher.pumpMs

theorem Stays.trans {middle later : Clocked JammedBroker} (first : clocked.Stays middle)
    (second : middle.Stays later) : clocked.Stays later :=
  ⟨second.settings.trans first.settings, second.deadline.trans first.deadline,
    second.pumpMs.trans first.pumpMs⟩

theorem stays_work {batch : Batch}
    (stands : clocked.session.phase = .publishing true batch) : clocked.Stays clocked.work := by
  constructor
  · rfl
  · exact deadline_work stands
  · exact (clocked.session.step_advance clocked.moment).pumpMs

theorem phase_work_offering {next : Frame} {rest : List Frame}
    (stands : clocked.session.phase = .publishing true (.offering (next :: rest))) :
    clocked.work.session.phase = .publishing true (.blocked next rest) := by
  change (clocked.session.step clocked.moment).phase = _
  unfold Session.step
  rw [stands]
  rfl

theorem phase_work_blocked {next : Frame} {rest : List Frame}
    (stands : clocked.session.phase = .publishing true (.blocked next rest)) :
    clocked.work.session.phase =
      .publishing true
        (if clocked.deadline ≤ clocked.now then .ended (next :: rest)
        else .offering (next :: rest)) := by
  change (clocked.session.step clocked.moment).phase = _
  unfold Session.step
  rw [stands]
  by_cases late : clocked.deadline ≤ clocked.now
  · simp [Batch.step, moment, late]
  · simp [Batch.step, moment, late]

theorem phase_work_ended {pending : List Frame}
    (stands : clocked.session.phase = .publishing true (.ended pending)) :
    clocked.work.session.phase = .flushing := by
  change (clocked.session.step clocked.moment).phase = _
  unfold Session.step
  rw [stands]
  rfl

/-- The try meets a full queue, and after the pump the worker looks at the deadline. -/
theorem Retries.pumped {next : Frame} {rest : List Frame} (retries : clocked.Retries next rest)
    {time : Nat} (short : time ≤ nanoseconds clocked.settings.queueFullPumpMs) :
    ∃ later, clocked.Leads later ∧ clocked.Stays later ∧ later.now = clocked.now + time ∧
      later.since = later.now ∧
      later.session.phase =
        .publishing true
          (if clocked.deadline ≤ clocked.now + time then .ended (next :: rest)
          else .offering (next :: rest)) := by
  have waits := leads_pass (retries.mayLast short)
  obtain ⟨waited, same⟩ : ∃ waited, waited = { clocked with now := clocked.now + time } := ⟨_, rfl⟩
  rw [← same] at waits
  have stays : clocked.Stays waited := by
    rw [same]
    exact ⟨rfl, rfl, rfl⟩
  have stands : waited.session.phase = .publishing true (.offering (next :: rest)) := by
    rw [same]
    exact retries.stands
  have now : waited.work.now = clocked.now + time := by
    rw [same]
    rfl
  have blocked := phase_work_offering stands
  have tried := stays.trans (stays_work stands)
  have looked := phase_work_blocked blocked
  rw [tried.deadline, now] at looked
  refine ⟨waited.work.work, ?_, tried.trans (stays_work blocked), now, rfl, looked⟩
  apply waits.trans
  apply (leads_work (by simp [stands])).trans
  exact leads_work (by simp [blocked])

theorem Retries.again {next : Frame} {rest : List Frame} (retries : clocked.Retries next rest)
    (positive : 0 < clocked.settings.queueFullPumpMs)
    (early : clocked.now + 1 < clocked.deadline) :
    ∃ later, clocked.Leads later ∧ later.Retries next rest ∧ later.now = clocked.now + 1 ∧
      clocked.Stays later := by
  have short : 1 ≤ nanoseconds clocked.settings.queueFullPumpMs := by
    unfold nanoseconds
    omega
  obtain ⟨later, reached, stays, now, since, stands⟩ := retries.pumped short
  rw [if_neg (by omega)] at stands
  refine ⟨later, reached, ⟨stands, ?_, since⟩, now, stays⟩
  rw [stays.pumpMs, stays.settings]
  exact retries.pumpMs

theorem Retries.upTo {next : Frame} {rest : List Frame} (retries : clocked.Retries next rest)
    (positive : 0 < clocked.settings.queueFullPumpMs) (count : Nat)
    (early : count = 0 ∨ clocked.now + count < clocked.deadline) :
    ∃ later, clocked.Leads later ∧ later.Retries next rest ∧ later.now = clocked.now + count ∧
      clocked.Stays later := by
  induction count with
  | zero => exact ⟨clocked, ⟨[], rfl⟩, retries, rfl, rfl, rfl, rfl⟩
  | succ count ih =>
      obtain ⟨middle, reached, retried, now, stays⟩ := ih (by omega)
      obtain ⟨later, goesOn, again, ticked, kept⟩ :=
        retried.again (by rw [stays.settings]; exact positive)
          (by rw [stays.deadline, now]; omega)
      exact ⟨later, reached.trans goesOn, again, by omega, stays.trans kept⟩

/-- The last try is followed by a whole pump, and the flush takes its whole time. -/
theorem Retries.ends {next : Frame} {rest : List Frame} (retries : clocked.Retries next rest)
    (last : clocked.deadline ≤ clocked.now + nanoseconds clocked.settings.queueFullPumpMs) :
    ∃ later, clocked.Leads later ∧ later.session.phase = .flushing ∧
      later.now = clocked.now + nanoseconds clocked.settings.queueFullPumpMs +
        nanoseconds clocked.settings.flushMs := by
  obtain ⟨ended, reached, stays, now, _, stands⟩ := retries.pumped (Nat.le_refl _)
  rw [if_pos last] at stands
  have flushing := phase_work_ended stands
  have spent : ended.work.session.callMs ended.work.settings = clocked.settings.flushMs := by
    rw [Session.callMs, flushing]
    exact congrArg Settings.flushMs stays.settings
  have lasts : ended.work.MayLast (ended.work.now + nanoseconds clocked.settings.flushMs) := by
    unfold MayLast
    rw [flushing]
    dsimp only
    rw [allowance_eq, spent]
    exact Nat.le_refl _
  refine ⟨{ ended.work with
    now := ended.work.now + nanoseconds clocked.settings.flushMs }, ?_, flushing, ?_⟩
  · apply reached.trans
    apply (leads_work (by simp [stands])).trans
    exact leads_pass lasts
  · rw [← now]
    rfl

end Clocked

/-! ### To the final cycle of the jammed session -/

def Session.jammed (settings : Settings) : Session (Recorded JammedBroker) :=
  { handle := ⟨1⟩
    owner := 0
    harvester :=
      { units := SessionResources.jammed.units, sizes := SessionResources.jammed.catalog.sizeTable
        mtu := settings.mtu }
    catalog := SessionResources.jammed.catalog
    settings
    publisher :=
      { broker := { client := {} }, topic := default, pumpMs := settings.queueFullPumpMs } }

theorem Session.opened_jammed (settings : Settings) :
    ofResources settings ⟨1⟩ SessionResources.jammed.recorded = .ok (jammed settings) :=
  rfl

theorem Session.jammed_frames {settings : Settings} (valid : settings.validate = .ok ()) :
    ((jammed settings).harvester.harvestUnit 0).1 ≠ [] := by
  have clean : BufferPair.Clean
      { capacity := 4, front := { id := .own 0, data := [0, 0, 0, 0] } } :=
    ⟨nofun, rfl, rfl⟩
  have whole : ∀ record ∈ [[0, 0, 0, 0]],
      Record.Whole settings.mtu (Sizer.ofTable SessionResources.jammed.catalog.sizeTable)
        record := by
    intro record member
    rw [List.mem_singleton.mp member]
    exact Catalog.IsRecord.whole (.inl rfl) rfl (Settings.headerSize_le_mtu valid)
  have present : (jammed settings).harvester.units[0]? =
      some { capacity := 4, front := { id := .own 0, data := [0, 0, 0, 0] } } := rfl
  have row : [0, 0, 0, 0] = [([0, 0, 0, 0] : Bytes)].flatten := rfl
  have taken := (Harvester.harvestUnit_clean present clean row whole).1
  intro none
  rw [none] at taken
  cases taken

namespace Clocked

variable {clocked : Clocked JammedBroker}

/-- The jammed session, asked to stop as soon as its export has met the full queue. -/
def jammedAsked (settings : Settings) : Clocked JammedBroker :=
  let started := (start settings 0 (.jammed settings)).work
  { started with session := started.session.requestStop }

theorem jammedAsked_mayLast (settings : Settings) :
    (jammedAsked settings).MayLast (0 + nanoseconds settings.queueFullPumpMs) := by
  have stands : (jammedAsked settings).session.phase = .exporting {} [.format 1 ""] := rfl
  have spent : (jammedAsked settings).session.callMs settings = settings.queueFullPumpMs := by
    rw [Session.callMs, stands]
    rfl
  have inForce : (jammedAsked settings).settings = settings := rfl
  unfold MayLast
  rw [stands]
  dsimp only
  rw [allowance_eq, inForce, spent]
  exact Nat.le_refl _

theorem work_harvest {position : Nat} {frames : List Frame}
    (stands : clocked.session.phase = .harvesting true position frames)
    (inside : position < clocked.session.harvester.units.length) :
    clocked.work.session =
      { clocked.session with
        harvester := (clocked.session.harvester.harvestUnit position).2
        phase := .harvesting true (position + 1)
          (frames ++ (clocked.session.harvester.harvestUnit position).1) } := by
  change clocked.session.step clocked.moment = _
  unfold Session.step
  rw [stands]
  dsimp only
  rw [Session.harvestStep, if_pos inside]

theorem work_harvested {position : Nat} {frames : List Frame}
    (stands : clocked.session.phase = .harvesting true position frames)
    (past : clocked.session.harvester.units.length ≤ position) :
    clocked.work.session.phase =
        .publishing true (.offering (clocked.session.carried ++ frames)) ∧
      clocked.work.session.publisher = clocked.session.publisher ∧
      clocked.work.deadline =
        clocked.now + nanoseconds clocked.session.settings.finalFlushMs := by
  have shape : clocked.next =
      { clocked.session with
        harvester := clocked.session.harvester.finishCycle clocked.moment.now
        finalCycles := clocked.session.finalCycles + 1
        carried := []
        phase := .publishing true (.offering (clocked.session.carried ++ frames)) } := by
    unfold next Session.step
    rw [stands]
    dsimp only
    rw [Session.harvestStep, if_neg (Nat.not_lt.mpr past)]
    rfl
  have publishing : clocked.next.phase =
      .publishing true (.offering (clocked.session.carried ++ frames)) := by
    rw [shape]
  refine ⟨publishing, ?_, deadline_work_harvested stands publishing⟩
  change clocked.next.publisher = clocked.session.publisher
  rw [shape]

def jammedPumped (settings : Settings) : Clocked JammedBroker :=
  { jammedAsked settings with now := 0 + nanoseconds settings.queueFullPumpMs }

/-- Behind the pump the jammed session gives up its export and begins the final cycle. -/
theorem jammedAsked_leads {settings : Settings} (valid : settings.validate = .ok ()) :
    ∃ later next rest, (jammedAsked settings).Leads later ∧ later.Retries next rest ∧
      later.settings = settings ∧ later.now = nanoseconds settings.queueFullPumpMs ∧
      later.deadline = later.now + nanoseconds settings.finalFlushMs := by
  have pumped : (jammedAsked settings).Leads (jammedPumped settings) :=
    leads_pass (jammedAsked_mayLast settings)
  have exporting : (jammedPumped settings).session.phase = .exporting {} [.format 1 ""] := rfl
  have blocked : (jammedPumped settings).work.session.phase =
      .exportBlocked {} (.format 1 "") [] := rfl
  have waiting : (jammedPumped settings).work.work.session.phase = .waiting := rfl
  obtain ⟨harvest, begun⟩ : ∃ harvest, harvest = (jammedPumped settings).work.work.work :=
    ⟨_, rfl⟩
  have first : harvest.session.phase = .harvesting true 0 [] := by
    rw [begun]
    rfl
  have unit : harvest.session.harvester = (Session.jammed settings).harvester := by
    rw [begun]
    rfl
  have visited := work_harvest first (by rw [unit]; exact Nat.one_pos)
  rw [unit] at visited
  have second : harvest.work.session.phase =
      .harvesting true 1 ((Session.jammed settings).harvester.harvestUnit 0).1 := by
    rw [visited]
    rfl
  have past : harvest.work.session.harvester.units.length ≤ 1 := by
    rw [visited]
    apply Nat.le_of_eq
    simp [Harvester.harvestUnit_units, Session.jammed, SessionResources.jammed]
  obtain ⟨publishing, publisher, deadline⟩ := work_harvested second past
  have carried : harvest.work.session.carried = [] := by
    rw [visited, begun]
    rfl
  rw [carried, List.nil_append] at publishing
  cases frames : ((Session.jammed settings).harvester.harvestUnit 0).1 with
  | nil => exact (Session.jammed_frames valid frames).elim
  | cons next rest =>
      rw [frames] at publishing
      refine ⟨harvest.work.work, next, rest, ?_, ⟨publishing, ?_, rfl⟩, ?_, ?_, ?_⟩
      · apply pumped.trans
        apply (leads_work (by simp [exporting])).trans
        apply (leads_work (by simp [blocked])).trans
        apply (leads_work (by simp [waiting])).trans
        rw [← begun]
        apply (leads_work (by simp [first])).trans
        exact leads_work (by simp [second])
      · rw [publisher, visited, begun]
        rfl
      · rw [begun]
        rfl
      · rw [begun]
        exact Nat.zero_add _
      · rw [deadline, visited, begun]
        rfl

/-- A run under the settings in which the worker is not done yet when it has taken, but
for a nanosecond, all the time that it may. -/
theorem exists_slow {settings : Settings} (valid : settings.validate = .ok ()) :
    ∃ asked final : Clocked JammedBroker, StoppedUnder settings asked final ∧
      final.session.phase ≠ .finished ∧
      asked.now + nanoseconds settings.stopMs ≤ final.now + 1 := by
  obtain ⟨cycle, next, rest, reached, retries, inForce, now, deadline⟩ :=
    jammedAsked_leads valid
  have positive := (settings.validate_eq_ok_iff.mp valid).queueFullPump
  -- The retries go on until one nanosecond is left, and the last pump begins then.
  obtain ⟨waited, goesOn, again, ticked, stays⟩ :=
    retries.upTo (by rw [inForce]; exact positive) (nanoseconds settings.finalFlushMs - 1)
      (by omega)
  have last : waited.deadline ≤
      waited.now + nanoseconds waited.settings.queueFullPumpMs := by
    rw [stays.deadline, stays.settings, inForce, deadline, ticked]
    unfold nanoseconds
    omega
  obtain ⟨final, ended, flushing, time⟩ := again.ends last
  obtain ⟨later, run⟩ := reached.trans (goesOn.trans ended)
  refine ⟨jammedAsked settings, final, ?_, by simp [flushing], ?_⟩
  · exact ⟨⟨1⟩, .jammed, .jammed settings, 0, [.act (.work {})],
      (start settings 0 (.jammed settings)).work, later, Session.opened_jammed settings, rfl, rfl,
      run⟩
  · rw [time, ticked, now, stays.settings, inForce]
    change 0 + _ ≤ _
    unfold nanoseconds Settings.stopMs
    omega

end Clocked

theorem Settings.le_of_stopsInTime {settings : Settings} (valid : settings.validate = .ok ())
    (inTime : settings.StopsInTime) : settings.stopMs ≤ settings.stopTimeoutMs := by
  by_contra short
  obtain ⟨asked, final, stopped, unfinished, slow⟩ := Clocked.exists_slow valid
  have joined := inTime JammedBroker asked final stopped
  have inForce := stopped.hurries.2
  refine joined.inTime (.stopTimeout final.session.handle final.settings.stopTimeoutMs) ?_
  rw [Clocked.join?, if_neg fun ended => unfinished ended.1, if_pos]
  rw [inForce]
  unfold nanoseconds at slow ⊢
  omega

/-- A valid configuration joins every stop in time exactly if its stop timeout covers two
pumps, the final cycle and the flush. -/
theorem Settings.stopsInTime_iff {settings : Settings} (valid : settings.validate = .ok ()) :
    settings.StopsInTime ↔ settings.stopMs ≤ settings.stopTimeoutMs :=
  ⟨Settings.le_of_stopsInTime valid, Settings.stopsInTime_of_le valid⟩

theorem Settings.stopsInTime_defaults :
    ({} : Settings).validate = .ok () ∧ ({} : Settings).StopsInTime :=
  ⟨rfl, (Settings.stopsInTime_iff rfl).mpr (by decide)⟩

/-- A stop timeout may be shorter than the final cycle, and the configuration valid. -/
theorem Settings.not_stopsInTime_short :
    let settings : Settings :=
      { pollPeriodMs := 60000, stopTimeoutMs := 100, finalFlushMs := 3000
        queueFullPumpMs := 1, flushMs := 50 }
    settings.validate = .ok () ∧ ¬ settings.StopsInTime := by
  refine ⟨rfl, ?_⟩
  intro inTime
  exact absurd (Settings.le_of_stopsInTime rfl inTime) (by decide)

end TraceForward
