/-
Sessions as they are opened.

An opened session has not published, harvested or given up anything.  To follow
its calls, it is opened over a recorded client; its run is then the run of the
session over the client itself.
-/

import TraceForward.Proofs.Delivery.Recorded
import TraceForward.Proofs.Session.Transcript

namespace TraceForward

variable {Client : Type}

def SessionResources.recorded (resources : SessionResources Client) :
    SessionResources (Recorded Client) :=
  { owner := resources.owner
    units := resources.units
    catalog := resources.catalog
    broker := { client := resources.broker }
    topic := resources.topic }

/-- A small session: one unit that holds a record, tables with one entry each,
and a broker whose queue is full now and then. -/
def SessionResources.sample : SessionResources :=
  { units := [{ capacity := 64, front := { id := .own 0, data := [1, 0, 0, 0, 7, 7, 7, 7] } }]
    catalog :=
      { formats := ["%d"]
        clauses := [some { probe := none, userArg := 0, size := 8, actions := [] }] }
    broker := { script := [.queueFull, .accepted, .accepted, .queueFull] }
    topic := default }

/-- A run of the small session to its end.  One more record is written, a
switch fails in the second cycle, and the third is the final one. -/
def SessionEvent.sample : List SessionEvent :=
  List.replicate 8 (.work {}) ++ [.write 0 [1, 0, 0, 0, 8, 8, 8, 8], .armFailedSwitch 0] ++
    List.replicate 6 (.work {}) ++ [.requestStop] ++ List.replicate 11 (.work {})

namespace Session

theorem ofResources_eq_ok {settings : Settings} {handle : Handle}
    {resources : SessionResources Client} {session : Session Client}
    (opened : ofResources settings handle resources = .ok session) :
    resources.catalog.checkMtu settings.mtu = .ok () ∧
      (∀ unit ∈ resources.units, unit.policy = .switch) ∧
      session =
        { handle, owner := resources.owner
          harvester :=
            { units := resources.units, sizes := resources.catalog.sizeTable
              mtu := settings.mtu }
          catalog := resources.catalog
          settings
          publisher :=
            { broker := resources.broker, topic := resources.topic
              pumpMs := settings.queueFullPumpMs } } := by
  unfold ofResources at opened
  cases fits : resources.catalog.checkMtu settings.mtu with
  | error fault =>
      rw [fits] at opened
      cases opened
  | ok checked =>
      rw [fits] at opened
      unfold Harvester.create at opened
      cases odd : resources.units.find? fun unit => unit.policy != .switch with
      | some unit =>
          rw [odd] at opened
          cases opened
      | none =>
          rw [odd] at opened
          cases opened
          refine ⟨rfl, ?_, rfl⟩
          intro unit member
          simpa using List.find?_eq_none.mp odd unit member

theorem sample_ends :
    ∃ session final,
      ofResources {} ⟨1⟩ SessionResources.sample.recorded = .ok session ∧
      Observed.run? { session } SessionEvent.sample = some final ∧
      final.session.phase = .finished := by
  have ends :
      (match ofResources {} ⟨1⟩ SessionResources.sample.recorded with
        | .ok session =>
            (Observed.run? { session } SessionEvent.sample).map fun final => final.session.phase
        | .error _ => none) = some .finished := by
    decide +kernel
  split at ends
  next session opened =>
    obtain ⟨final, run, ended⟩ := Option.map_eq_some_iff.mp ends
    exact ⟨session, final, opened, run, ended⟩
  next => cases ends

end Session

/-! ### Forgetting the record -/

section Forget

variable [BrokerClient Client]

def Publisher.forget {Client : Type} (publisher : Publisher (Recorded Client)) :
    Publisher Client :=
  { broker := publisher.broker.client
    topic := publisher.topic
    pumpMs := publisher.pumpMs
    stats := publisher.stats }

namespace Publisher

theorem forget_offer (publisher : Publisher (Recorded Client)) (message : Message) :
    publisher.forget.offer message =
      ((publisher.offer message).1, (publisher.offer message).2.forget) := by
  unfold offer
  simp only [forget, BrokerClient.publish, Recorded.publish]
  cases (BrokerClient.publish publisher.broker.client publisher.topic message).1 <;> rfl

theorem forget_pumpReports (publisher : Publisher (Recorded Client)) :
    publisher.forget.pumpReports.2 = publisher.pumpReports.2.forget :=
  rfl

end Publisher

namespace Session

def forget {Client : Type} (session : Session (Recorded Client)) : Session Client :=
  { session with publisher := session.publisher.forget }

theorem forget_step (session : Session (Recorded Client)) (moment : Moment) :
    session.forget.step moment = (session.step moment).forget := by
  have advance := session.step_advance moment
  generalize session.step moment = next at advance
  have phase : session.forget.phase = session.phase := rfl
  cases advance with
  | copyTables stands =>
      rw [step, phase, stands]
      rfl
  | completeExport done stands =>
      rw [step, phase, stands]
      rfl
  | takeDescriptor done next rest publisher stands offered =>
      rw [step, phase, stands]
      simp [offerDescriptor, forget, Publisher.forget_offer, offered]
  | blockDescriptor done next rest publisher stands offered =>
      rw [step, phase, stands]
      simp [offerDescriptor, forget, Publisher.forget_offer, offered]
  | rejectDescriptor done next rest reason publisher stands offered =>
      rw [step, phase, stands]
      simp [offerDescriptor, failExport, forget, Publisher.forget_offer, offered]
  | abandonDescriptor done next rest stands asked =>
      rw [step, phase, stands]
      simp [failExport, forget, asked, Publisher.abandon, Publisher.forget]
  | retryDescriptor done next rest stands unasked =>
      rw [step, phase, stands]
      simp [forget, unasked]
  | beginHarvest stands =>
      rw [step, phase, stands]
      rfl
  | visitUnit final position frames stands inside =>
      rw [step, phase, stands]
      simp [harvestStep, forget, inside]
  | endHarvest final position frames stands past =>
      rw [step, phase, stands]
      simp [harvestStep, forget, Nat.not_lt.mpr past]
  | endBatch final stands =>
      rw [step, phase, stands]
      rfl
  | settleFrame final next rest answer publisher stands offered settled =>
      rw [step, phase, stands]
      cases answer with
      | queueFull => exact (settled rfl).elim
      | accepted => simp [Batch.step, forget, Publisher.forget_offer, offered]
      | fatal reason => simp [Batch.step, forget, Publisher.forget_offer, offered]
  | blockFrame final next rest publisher stands offered =>
      rw [step, phase, stands]
      simp [Batch.step, forget, Publisher.forget_offer, offered]
  | leaveFrames final next rest stands stopped =>
      rw [step, phase, stands]
      have asked : (if final then moment.late else session.forget.exit) = true := stopped
      simp only [Batch.step, asked, if_true]
      rfl
  | retryFrame final next rest stands unstopped =>
      rw [step, phase, stands]
      have unasked : (if final then moment.late else session.forget.exit) = false := unstopped
      simp only [Batch.step, unasked, Bool.false_eq_true, if_false]
      rfl
  | endFinalCycle pending stands =>
      rw [step, phase, stands]
      rfl
  | endCycle pending stands sound =>
      rw [step, phase, stands]
      simp only [settle, Bool.false_eq_true, if_false, Session.endCycle]
      rcases sound with known | clear
      · obtain ⟨fault, known⟩ := Option.ne_none_iff_exists'.mp known
        simp [forget, known, Publisher.forget_pumpReports]
      · simp [forget, clear, Publisher.forget_pumpReports]
  | endFaultedCycle pending fault stands first faulted =>
      rw [step, phase, stands]
      simp [settle, Session.endCycle, forget, first, faulted, Publisher.forget_pumpReports]
  | flush stands =>
      rw [step, phase, stands]
      rfl
  | rest stands =>
      rw [step, phase, stands]

theorem forget_run? (session : Session (Recorded Client)) (events : List SessionEvent) :
    session.forget.run? events = (session.run? events).map forget := by
  induction events generalizing session with
  | nil => rfl
  | cons event rest ih =>
      have happens : session.forget.after? event = (session.after? event).map forget := by
        cases event with
        | work moment => exact congrArg some (session.forget_step moment)
        | requestStop =>
            simp only [after?]
            have lock : session.forget.lockHeld = session.lockHeld := rfl
            rw [lock]
            cases session.lockHeld <;> rfl
        | _ => rfl
      simp only [run?, happens]
      cases session.after? event with
      | none => rfl
      | some next => exact ih next

omit [BrokerClient Client] in
theorem forget_ofResources (settings : Settings) (handle : Handle)
    (resources : SessionResources Client) :
    (ofResources settings handle resources.recorded).map forget =
      ofResources settings handle resources := by
  unfold ofResources
  have tables : resources.recorded.catalog = resources.catalog := rfl
  have units : resources.recorded.units = resources.units := rfl
  rw [tables, units]
  cases resources.catalog.checkMtu settings.mtu with
  | error fault => rfl
  | ok checked =>
      cases Harvester.create resources.units resources.catalog.sizeTable settings.mtu with
      | error fault => rfl
      | ok harvester => rfl

/-- Every run of an opened session is one that can be followed, call by call. -/
theorem exists_recorded {settings : Settings} {handle : Handle}
    {resources : SessionResources Client} {session final : Session Client}
    {events : List SessionEvent}
    (opened : ofResources settings handle resources = .ok session)
    (run : session.run? events = some final) :
    ∃ recorded followed,
      ofResources settings handle resources.recorded = .ok recorded ∧
      Observed.run? { session := recorded } events = some followed ∧
      followed.session.forget = final := by
  have same := forget_ofResources settings handle resources
  rw [opened] at same
  cases known : ofResources settings handle resources.recorded with
  | error fault =>
      rw [known] at same
      cases same
  | ok recorded =>
      rw [known] at same
      have start : recorded.forget = session := Except.ok.inj same
      rw [← start, forget_run?, Option.map_eq_some_iff] at run
      obtain ⟨reached, followed, forgotten⟩ := run
      obtain ⟨transcript, observed⟩ := Observed.exists_run? followed
      exact ⟨recorded, _, rfl, observed, forgotten⟩

end Session
end Forget
end TraceForward
