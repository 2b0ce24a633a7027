/-
Sessions against a clock.

The worker computes in no time, and a message is handed over at once; what takes
time is serving reports, flushing, and waiting for the next cycle, each at most as
long as it was asked to.  A step ends with its calls, and others may act while it
lasts.  So the time passes only as long as the step that the worker is at may last.
-/

import Mathlib.Algebra.GroupWithZero.Nat
import TraceForward.Proofs.Delivery.Tries
import TraceForward.Proofs.Runs
import TraceForward.Proofs.Session.Order

namespace TraceForward

/-! ### Times -/

def nanoseconds (milliseconds : Nat) : Nat :=
  1000000 * milliseconds

def BrokerCall.allowedMs : BrokerCall → Nat
  | .publish _ _ => 0
  | .pump milliseconds _ => milliseconds
  | .flush milliseconds => milliseconds

/-! ### How long a step may last -/

namespace Session

variable {Client : Type} {session next : Session (Recorded Client)}

/-- How long the calls between two states of a session may take, in milliseconds. -/
def spentMs (session next : Session (Recorded Client)) : Nat :=
  ((next.publisher.broker.calls.drop session.publisher.broker.calls.length).map
    BrokerCall.allowedMs).sum

theorem spentMs_of_append {added : List BrokerCall}
    (calls : next.publisher.broker.calls = session.publisher.broker.calls ++ added) :
    session.spentMs next = (added.map BrokerCall.allowedMs).sum := by
  rw [spentMs, calls, List.drop_left]

theorem spentMs_same (calls : next.publisher.broker.calls = session.publisher.broker.calls) :
    session.spentMs next = 0 :=
  spentMs_of_append (calls.trans (List.append_nil _).symm)

variable [BrokerClient Client] {moment : Moment}

theorem spentMs_offer {message : Message} {answer : Answer}
    {publisher : Publisher (Recorded Client)}
    (offered : session.publisher.offer message = (answer, publisher))
    (same : next.publisher = publisher) :
    session.spentMs next = if answer = .queueFull then session.publisher.pumpMs else 0 := by
  rw [← same] at offered
  rw [spentMs_of_append (Publisher.offer_calls offered)]
  split
  · simp [BrokerCall.allowedMs]
  · simp [BrokerCall.allowedMs]

theorem spentMs_pumpReports
    (served : next.publisher.broker = session.publisher.pumpReports.2.broker) :
    session.spentMs next = 0 := by
  have calls := session.publisher.pumpReports_calls
  rw [← served] at calls
  rw [spentMs_of_append calls]
  rfl

theorem spentMs_flush {milliseconds : Nat}
    (flushed : next.publisher = (session.publisher.flush milliseconds).2) :
    session.spentMs next = milliseconds := by
  have calls := session.publisher.flush_calls milliseconds
  rw [← flushed] at calls
  rw [spentMs_of_append calls]
  exact Nat.add_zero milliseconds

/-- How long the step that the worker is at may last, in milliseconds: a full queue is
followed by a pump. -/
def callMs (session : Session (Recorded Client)) (settings : Settings) : Nat :=
  match session.phase with
  | .exporting _ (next :: _) =>
      if (session.publisher.offer next.frame.message).1 = .queueFull then
        session.publisher.pumpMs
      else 0
  | .publishing _ (.offering (next :: _)) =>
      if (session.publisher.offer next.message).1 = .queueFull then
        session.publisher.pumpMs
      else 0
  | .flushing => settings.flushMs
  | _ => 0

theorem Advance.spentMs_eq (advance : session.Advance moment next) :
    session.spentMs next = session.callMs moment.settings := by
  cases advance with
  | takeDescriptor done next rest publisher stands offered =>
      rw [spentMs_offer offered rfl, callMs, stands]
      simp only [offered]
  | blockDescriptor done next rest publisher stands offered =>
      rw [spentMs_offer offered rfl, callMs, stands]
      simp only [offered]
  | rejectDescriptor done next rest reason publisher stands offered =>
      rw [spentMs_offer offered rfl, callMs, stands]
      simp only [offered]
  | settleFrame final next rest answer publisher stands offered settled =>
      rw [spentMs_offer offered rfl, callMs, stands]
      simp only [offered]
  | blockFrame final next rest publisher stands offered =>
      rw [spentMs_offer offered rfl, callMs, stands]
      simp only [offered]
  | endFinalCycle pending stands =>
      rw [spentMs_pumpReports rfl, callMs, stands]
  | endCycle pending stands sound =>
      rw [spentMs_pumpReports rfl, callMs, stands]
  | endFaultedCycle pending fault stands first faulted =>
      rw [spentMs_pumpReports rfl, callMs, stands]
  | flush stands =>
      rw [spentMs_flush rfl, callMs, stands]
  | copyTables stands | completeExport _ stands | abandonDescriptor _ _ _ stands _
  | retryDescriptor _ _ _ stands _ | beginHarvest stands | visitUnit _ _ _ stands _
  | endHarvest _ _ _ stands _ | endBatch _ stands | leaveFrames _ _ _ stands _
  | retryFrame _ _ _ stands _ | rest stands =>
      refine (spentMs_same rfl).trans ?_
      rw [callMs, stands]

theorem Advance.settings_cases (advance : session.Advance moment next) :
    next.settings = session.settings ∨ next.settings = moment.settings := by
  cases advance with
  | completeExport | rejectDescriptor | abandonDescriptor | endCycle | endFaultedCycle =>
      exact .inr rfl
  | _ => exact .inl rfl

theorem Advance.pumpMs (advance : session.Advance moment next) :
    next.publisher.pumpMs = session.publisher.pumpMs := by
  rcases advance.publisher_cases with
    same | ⟨message, answer, offered⟩ | ⟨count, same⟩ | same | ⟨count, same⟩ |
      ⟨_, milliseconds, same⟩
  · rw [same]
  · exact Publisher.offer_pumpMs offered
  · rw [same]
    rfl
  · rw [same]
    rfl
  · rw [same]
    rfl
  · rw [same]
    rfl

end Session

/-! ### Sessions with a clock -/

structure Clocked (Client : Type) where
  session : Session (Recorded Client)
  settings : Settings
  now : Nat
  since : Nat
  /-- Until when the cycle retries, should it be the final one. -/
  deadline : Nat := 0

inductive Tick where
  | pass (nanoseconds : Nat)
  /-- A step of the worker finds the time and the settings of the clocked session. -/
  | act (event : SessionEvent)

namespace Clocked

variable {Client : Type} [BrokerClient Client]

def start (settings : Settings) (now : Nat) (session : Session (Recorded Client)) :
    Clocked Client :=
  { session, settings, now, since := now }

def moment (clocked : Clocked Client) : Moment :=
  { now := clocked.now
    late := decide (clocked.deadline ≤ clocked.now)
    settings := clocked.settings }

def next (clocked : Clocked Client) : Session (Recorded Client) :=
  clocked.session.step clocked.moment

/-- How long the calls of that step may take. -/
def allowance (clocked : Clocked Client) : Nat :=
  nanoseconds (clocked.session.spentMs clocked.next)

/-- Whether the worker may be at its step still at a time.  It waits for the poll
period unless it is asked to stop. -/
def MayLast (clocked : Clocked Client) (time : Nat) : Prop :=
  match clocked.session.phase with
  | .finished => True
  | .waiting =>
      clocked.session.exit = false ∧
        time ≤ clocked.since + nanoseconds clocked.settings.pollPeriodMs
  | _ => time ≤ clocked.since + clocked.allowance

instance (clocked : Clocked Client) (time : Nat) : Decidable (clocked.MayLast time) := by
  unfold MayLast
  split
  · exact inferInstance
  · exact inferInstance
  · exact inferInstance

/-- The worker ends its step.  The deadline is set when a harvest is over. -/
def work (clocked : Clocked Client) : Clocked Client :=
  { clocked with
    session := clocked.next
    since := clocked.now
    deadline :=
      if clocked.session.lockHeld && !clocked.next.lockHeld then
        clocked.now + nanoseconds clocked.session.settings.finalFlushMs
      else
        clocked.deadline }

def after? (clocked : Clocked Client) : Tick → Option (Clocked Client)
  | .pass time =>
      if clocked.MayLast (clocked.now + time) then
        some { clocked with now := clocked.now + time }
      else
        none
  | .act (.work _) => if clocked.session.phase = .finished then none else some clocked.work
  | .act event =>
      (clocked.session.after? event).map fun session => { clocked with session }

def run? (clocked : Clocked Client) (ticks : List Tick) : Option (Clocked Client) :=
  runMoves? after? clocked ticks

/-- What a join that began at a time has come to: the report, if it was there
within the stop timeout, or a fault if the timeout has passed. -/
def join? (clocked : Clocked Client) (began : Nat) : Option (Except Fault SessionReport) :=
  let limit := began + nanoseconds clocked.settings.stopTimeoutMs
  if clocked.session.phase = .finished ∧ clocked.since ≤ limit then
    some (.ok clocked.session.report)
  else if limit < clocked.now then
    some (.error (.stopTimeout clocked.session.handle clocked.settings.stopTimeoutMs))
  else
    none

end Clocked

/-! ### Settings that stay in force -/

structure Session.Beside {Client : Type} (session next : Session (Recorded Client)) : Prop where
  phase : next.phase = session.phase
  publisher : next.publisher = session.publisher
  settings : next.settings = session.settings
  exit : session.exit = true → next.exit = true

theorem Session.Beside.callMs {Client : Type} [BrokerClient Client]
    {session next : Session (Recorded Client)} (beside : session.Beside next)
    (settings : Settings) : next.callMs settings = session.callMs settings := by
  unfold Session.callMs
  rw [beside.phase, beside.publisher]

theorem Session.beside_of_after {Client : Type} [BrokerClient Client]
    {session next : Session (Recorded Client)} {event : SessionEvent}
    (other : ∀ moment, event ≠ .work moment) (happens : session.after? event = some next) :
    session.Beside next := by
  rcases after?_cases happens with
    ⟨moment, work, _⟩ | ⟨unit, change, rfl⟩ | ⟨catalog, rfl⟩ | ⟨_, _, rfl⟩
  · exact (other moment work).elim
  · exact ⟨rfl, rfl, rfl, id⟩
  · exact ⟨rfl, rfl, rfl, id⟩
  · exact ⟨rfl, rfl, rfl, fun _ => rfl⟩

namespace Clocked

variable {Client : Type} [BrokerClient Client] {clocked next : Clocked Client}

theorem after?_cases {tick : Tick} (happens : clocked.after? tick = some next) :
    (∃ time, clocked.MayLast (clocked.now + time) ∧
        next = { clocked with now := clocked.now + time }) ∨
      (clocked.session.phase ≠ .finished ∧ next = clocked.work) ∨
      (∃ event session, clocked.session.after? event = some session ∧
        clocked.session.Beside session ∧ next = { clocked with session }) := by
  cases tick with
  | pass time =>
      simp only [after?] at happens
      split at happens
      next lasts =>
        cases happens
        exact .inl ⟨time, lasts, rfl⟩
      next => cases happens
  | act event =>
      -- Of the events, only a step of the worker runs by the clock.
      by_cases work : ∃ moment, event = .work moment
      · obtain ⟨moment, rfl⟩ := work
        simp only [after?] at happens
        split at happens
        next => cases happens
        next unfinished =>
          cases happens
          exact .inr (.inl ⟨unfinished, rfl⟩)
      · have other : ∀ moment, event ≠ .work moment := fun moment same => work ⟨moment, same⟩
        have reached : (clocked.session.after? event).map (fun session =>
            { clocked with session }) = some next := by
          cases event with
          | work moment => exact (other moment rfl).elim
          | _ => exact happens
        obtain ⟨session, after, rfl⟩ := Option.map_eq_some_iff.mp reached
        exact .inr (.inr ⟨event, session, after, Session.beside_of_after other after, rfl⟩)

theorem allowance_eq (clocked : Clocked Client) :
    clocked.allowance = nanoseconds (clocked.session.callMs clocked.settings) :=
  congrArg nanoseconds (clocked.session.step_advance clocked.moment).spentMs_eq

theorem deadline_work_harvested {final caught : Bool} {position : Nat} {frames : List Frame}
    {batch : Batch} (stands : clocked.session.phase = .harvesting caught position frames)
    (publishing : clocked.next.phase = .publishing final batch) :
    clocked.work.deadline = clocked.now + nanoseconds clocked.session.settings.finalFlushMs := by
  have held : clocked.session.lockHeld = true := by
    unfold Session.lockHeld
    rw [stands]
  have free : clocked.next.lockHeld = false := by
    unfold Session.lockHeld
    rw [publishing]
  unfold work
  dsimp only
  rw [held, free, Bool.not_false, Bool.and_true, if_pos rfl]

theorem deadline_work {final : Bool} {batch : Batch}
    (stands : clocked.session.phase = .publishing final batch) :
    clocked.work.deadline = clocked.deadline := by
  have free : clocked.session.lockHeld = false := by
    unfold Session.lockHeld
    rw [stands]
  unfold work
  dsimp only
  rw [free, Bool.false_and, if_neg Bool.false_ne_true]

/-- What holds of a session with a clock while its settings stay in force. -/
structure Keeps (clocked : Clocked Client) : Prop where
  orderly : clocked.session.Orderly
  settings : clocked.session.settings = clocked.settings
  pumpMs : clocked.session.publisher.pumpMs = clocked.settings.queueFullPumpMs
  since : clocked.since ≤ clocked.now
  deadline : clocked.deadline ≤ clocked.now + nanoseconds clocked.settings.finalFlushMs

omit [BrokerClient Client] in
theorem Keeps.start {settings : Settings} {handle : Handle}
    {resources : SessionResources Client} {session : Session (Recorded Client)}
    (opened : Session.ofResources settings handle resources.recorded = .ok session) (now : Nat) :
    (start settings now session).Keeps := by
  have orderly := Session.Orderly.opened opened
  obtain ⟨_, _, rfl⟩ := Session.ofResources_eq_ok opened
  exact ⟨orderly, rfl, rfl, Nat.le_refl _, Nat.zero_le _⟩

theorem Keeps.work (keeps : clocked.Keeps) : clocked.work.Keeps := by
  have advance := clocked.session.step_advance clocked.moment
  constructor
  · exact keeps.orderly.work advance
  · rcases advance.settings_cases with same | same
    · exact same.trans keeps.settings
    · exact same
  · exact advance.pumpMs.trans keeps.pumpMs
  · exact Nat.le_refl _
  · unfold Clocked.work
    dsimp only
    split
    · exact Nat.le_of_eq (by rw [keeps.settings])
    · exact keeps.deadline

theorem Keeps.after {tick : Tick} (keeps : clocked.Keeps)
    (happens : clocked.after? tick = some next) : next.Keeps := by
  obtain ⟨orderly, settings, pumpMs, since, deadline⟩ := keeps
  rcases after?_cases happens with ⟨time, _, rfl⟩ | ⟨_, rfl⟩ | ⟨event, session, after, beside, rfl⟩
  · exact ⟨orderly, settings, pumpMs, Nat.le_add_right_of_le since, by dsimp only; omega⟩
  · exact Keeps.work ⟨orderly, settings, pumpMs, since, deadline⟩
  · refine ⟨orderly.after after, ?_, ?_, since, deadline⟩
    · rw [beside.settings, settings]
    · rw [beside.publisher, pumpMs]

/-! ### Where a run may lead -/

def Leads (clocked later : Clocked Client) : Prop :=
  ∃ ticks, clocked.run? ticks = some later

theorem Leads.refl (clocked : Clocked Client) : clocked.Leads clocked :=
  ⟨[], rfl⟩

theorem Leads.trans {middle later : Clocked Client} (first : clocked.Leads middle)
    (second : middle.Leads later) : clocked.Leads later := by
  obtain ⟨ticks, reached⟩ := first
  obtain ⟨more, run⟩ := second
  exact ⟨ticks ++ more, (runMoves?_append reached).trans run⟩

theorem leads_pass {time : Nat} (lasts : clocked.MayLast (clocked.now + time)) :
    clocked.Leads { clocked with now := clocked.now + time } :=
  ⟨[.pass time], by simp [run?, runMoves?, after?, lasts]⟩

theorem leads_work (unfinished : clocked.session.phase ≠ .finished) :
    clocked.Leads clocked.work :=
  ⟨[.act (.work {})], by simp [run?, runMoves?, after?, unfinished]⟩

end Clocked
end TraceForward
