/-
Where the sessions of a host come from.

Every session of a host was opened by a call that some thread made, under the
settings that were in force when it made the call, and has gone on by itself
since then.  Settings in force keep their bounds, so a session never leaves the
limit that it was opened with.
-/

import TraceForward.Proofs.Registry.Refinement
import TraceForward.Proofs.Session.Limits

namespace TraceForward

def Session.Reaches {Client : Type} [BrokerClient Client] (session final : Session Client) :
    Prop :=
  ∃ events, session.run? events = some final

namespace Session.Reaches

variable {Client : Type} [BrokerClient Client] {session middle final : Session Client}

theorem refl (session : Session Client) : session.Reaches session :=
  ⟨[], rfl⟩

theorem single {event : SessionEvent} (happens : session.after? event = some final) :
    session.Reaches final := by
  refine ⟨[event], ?_⟩
  rw [run?, happens]
  rfl

theorem trans (reaches : session.Reaches middle) (onward : middle.Reaches final) :
    session.Reaches final := by
  obtain ⟨earlier, first⟩ := reaches
  obtain ⟨later, second⟩ := onward
  refine ⟨earlier ++ later, ?_⟩
  induction earlier generalizing session with
  | nil =>
      cases first
      exact second
  | cons event rest ih =>
      obtain ⟨next, happens, remaining⟩ := run?_cons first
      rw [List.cons_append, run?, happens]
      exact ih remaining

end Session.Reaches

/-! ### One event -/

namespace SharedHost

variable {shared next : SharedHost} {notes : List (Nat × Note)} {thread slot : Nat}
  {settings : Settings} {handle : Handle} {resources : SessionResources}

theorem act?_live (happens : shared.act? thread = some next) :
    next.host.live = shared.host.live := by
  unfold act? at happens
  cases stands : shared.threads thread with
  | idle =>
      rw [stands] at happens
      cases happens
  | opening settings handle resources =>
      simp only [stands] at happens
      rcases shared.host.register_cases settings handle resources with
        ⟨_, _, result⟩ | ⟨_, _, _, result⟩ | ⟨_, _, _, result⟩
      all_goals
        rw [result] at happens
        cases happens
        rfl
  | finding handle =>
      simp only [stands] at happens
      cases happens
      rfl
  | listing position handles =>
      simp only [stands] at happens
      split at happens
      · cases happens
        rfl
      · cases happens
        rfl
  | closing handle errand =>
      simp only [stands] at happens
      split at happens
      next =>
        cases happens
        rfl
      next slot host taken =>
        cases happens
        change host.live = shared.host.live
        rw [(Host.withdraw_eq_some taken).2]
  | stopping handle slot errand =>
      simp only [stands, Option.map_eq_some_iff] at happens
      obtain ⟨asked, asks, rfl⟩ := happens
      obtain ⟨_, _, _, _, rfl⟩ := sessionAfter?_eq_some asks
      rfl
  | joining handle slot errand =>
      simp only [stands, Option.map_eq_some_iff] at happens
      obtain ⟨report, _, rfl⟩ := happens
      rfl
  | returning reply =>
      simp only [stands] at happens
      cases happens
      rfl

theorem live_after {event : HostEvent} (happens : shared.after? event = some next)
    (valid : shared.host.live.current.validate = .ok ()) :
    next.host.live.current.validate = .ok () := by
  cases event with
  | call thread call =>
      simp only [after?] at happens
      split at happens
      · cases happens
        exact valid
      · cases happens
  | act thread =>
      rw [act?_live happens]
      exact valid
  | session slot event =>
      obtain ⟨_, _, _, _, rfl⟩ := sessionAfter?_eq_some happens
      exact valid
  | configure change =>
      simp only [after?] at happens
      split at happens
      next =>
        cases happens
        exact valid
      next live updated =>
        cases happens
        exact LiveSettings.update_valid updated

theorem eq_call_of_eventNotes {event : HostEvent} {call : RegistryCall}
    (noted : shared.eventNotes event = [(thread, .called call)]) :
    event = .call thread call := by
  cases event with
  | call other made =>
      cases noted
      rfl
  | act other =>
      simp only [eventNotes] at noted
      cases stands : shared.threads other with
      | _ =>
          rw [stands] at noted
          cases noted
  | session slot event => cases noted
  | configure change => cases noted

theorem opening_turn {other : Nat} {stage : CallStage}
    (stands : (shared.turn other stage).threads thread = .opening settings handle resources) :
    shared.threads thread = .opening settings handle resources ∨
      thread = other ∧ stage = .opening settings handle resources := by
  by_cases same : thread = other
  · subst same
    rw [threads_turn_self] at stands
    exact .inr ⟨rfl, stands⟩
  · rw [threads_turn_other shared same] at stands
    exact .inl stands

/-- A thread opens a session under the settings in force when it made the call. -/
theorem Move.opening_cases (move : shared.Move next notes)
    (stands : next.threads thread = .opening settings handle resources) :
    shared.threads thread = .opening settings handle resources ∨
      notes = [(thread, .called (.openSession handle resources))] ∧
        settings = shared.host.live.current := by
  cases move with
  | call other call idle =>
      rcases opening_turn stands with before | ⟨rfl, begun⟩
      · exact .inl before
      · cases call with
        | openSession opened given =>
            cases begun
            exact .inr ⟨rfl, rfl⟩
        | _ => cases begun
  | refuse | register | find | list | withdraw | reply =>
      rcases opening_turn stands with before | ⟨_, turned⟩
      · exact .inl before
      · cases turned
  | listed other _ handles _ _ =>
      rcases opening_turn stands with before | ⟨_, turned⟩
      · exact .inl before
      · cases handles with
        | _ => cases turned
  | miss other _ errand _ _ | join other _ _ errand _ _ _ =>
      rcases opening_turn stands with before | ⟨_, turned⟩
      · exact .inl before
      · cases errand with
        | single => cases turned
        | sweep rest reports =>
            cases rest with
            | _ => cases turned
  | ask other _ _ _ asked _ asks =>
      obtain ⟨_, _, same⟩ := map_sessionAfter? asks
      rcases opening_turn stands with before | ⟨_, turned⟩
      · rw [same] at before
        exact .inl before
      · cases turned
  | session _ _ _ happens =>
      obtain ⟨_, _, same⟩ := map_sessionAfter? happens
      rw [same] at stands
      exact .inl stands
  | configure live => exact .inl stands

/-- A session was there before, or it is opened by a thread that was about to. -/
def CameFrom (shared : SharedHost) (slot : Nat) (session : Session ScriptedBroker) : Prop :=
  (∃ first, shared.host.sessions[slot]? = some first ∧ first.session.Reaches session) ∨
    ∃ thread settings handle resources,
      shared.threads thread = .opening settings handle resources ∧
        Session.ofResources settings handle resources = .ok session

theorem cameFrom_sessionAfter? {changed : Nat} {event : SessionEvent} {hosted : HostedSession}
    (happens : shared.sessionAfter? changed event = some next)
    (present : next.host.sessions[slot]? = some hosted) :
    shared.CameFrom slot hosted.session := by
  obtain ⟨first, session, there, becomes, rfl⟩ := sessionAfter?_eq_some happens
  change (shared.host.sessions.modify changed _)[slot]? = some hosted at present
  rw [List.getElem?_modify] at present
  by_cases same : changed = slot
  · subst same
    simp only [there, if_true] at present
    obtain rfl := Option.some.inj present
    exact .inl ⟨first, there, .single becomes⟩
  · simp only [if_neg same] at present
    obtain ⟨known, old, rfl⟩ := Option.map_eq_some_iff.mp present
    exact .inl ⟨known, old, .refl _⟩

theorem Move.cameFrom (move : shared.Move next notes) {hosted : HostedSession}
    (present : next.host.sessions[slot]? = some hosted) :
    shared.CameFrom slot hosted.session := by
  cases move with
  | register thread settings handle resources position host stands registered =>
      obtain ⟨_, _, _, session, made, sessions⟩ := Host.register_eq_ok registered
      change host.sessions[slot]? = some hosted at present
      rw [sessions] at present
      rcases Nat.lt_or_ge slot shared.host.sessions.length with old | new
      · rw [List.getElem?_append_left old] at present
        exact .inl ⟨hosted, present, .refl _⟩
      · rw [List.getElem?_append_right new] at present
        cases List.mem_singleton.mp (List.mem_of_getElem? present)
        exact .inr ⟨thread, settings, handle, resources, stands, made⟩
  | withdraw thread handle errand position host stands taken =>
      change host.sessions[slot]? = some hosted at present
      rw [(Host.withdraw_eq_some taken).2] at present
      exact .inl ⟨hosted, present, .refl _⟩
  | ask thread handle position errand asked stands asks =>
      exact cameFrom_sessionAfter? asks present
  | session position event reached happens => exact cameFrom_sessionAfter? happens present
  | _ => exact .inl ⟨hosted, present, .refl _⟩

end SharedHost

/-! ### Runs -/

namespace WatchedHost

variable {start final : WatchedHost} {events : List HostEvent}

theorem live_run (valid : start.shared.host.live.current.validate = .ok ())
    (run : start.run? events = some final) :
    final.shared.host.live.current.validate = .ok () := by
  have keeps : ∀ (watched : WatchedHost) (event : HostEvent) (next : WatchedHost),
      watched.shared.host.live.current.validate = .ok () → watched.after? event = some next →
        next.shared.host.live.current.validate = .ok () := by
    intro watched event next known happens
    obtain ⟨shared, reached, rfl⟩ := after?_eq_some happens
    exact SharedHost.live_after reached known
  exact run?_induction keeps valid run

/-- A thread that is about to open a session was so from the start, or it has
made the call since. -/
theorem called_of_opening {thread : Nat} {settings : Settings} {handle : Handle}
    {resources : SessionResources} (run : start.run? events = some final)
    (stands : final.shared.threads thread = .opening settings handle resources) :
    start.shared.threads thread = .opening settings handle resources ∨
      ∃ earlier later before,
        events = earlier ++ .call thread (.openSession handle resources) :: later ∧
        start.run? earlier = some before ∧ settings = before.shared.host.live.current := by
  induction events generalizing start with
  | nil =>
      cases run
      exact .inl stands
  | cons event rest ih =>
      simp only [run?, Option.bind_eq_bind, Option.bind_eq_some_iff] at run
      obtain ⟨next, happens, remaining⟩ := run
      rcases ih remaining with already | ⟨earlier, later, before, split, reached, read⟩
      · obtain ⟨shared, moved, rfl⟩ := after?_eq_some happens
        rcases (SharedHost.after?_move moved).opening_cases already with known | ⟨noted, read⟩
        · exact .inl known
        · obtain rfl := SharedHost.eq_call_of_eventNotes noted
          exact .inr ⟨[], rest, start, rfl, rfl, read⟩
      · refine .inr ⟨event :: earlier, later, before, ?_, ?_, read⟩
        · rw [split, List.cons_append]
        · rw [run?, happens]
          exact reached

/-- A session comes from one that was there at the start, or from a thread that
was about to open it in the course of the run. -/
theorem exists_opening {slot : Nat} {hosted : HostedSession}
    (run : start.run? events = some final)
    (present : final.shared.host.sessions[slot]? = some hosted) :
    (∃ first, start.shared.host.sessions[slot]? = some first ∧
        first.session.Reaches hosted.session) ∨
      ∃ earlier later before thread settings handle resources session,
        events = earlier ++ later ∧ start.run? earlier = some before ∧
        before.shared.threads thread = .opening settings handle resources ∧
        Session.ofResources settings handle resources = .ok session ∧
        session.Reaches hosted.session := by
  induction events generalizing start with
  | nil =>
      cases run
      exact .inl ⟨hosted, present, .refl _⟩
  | cons event rest ih =>
      simp only [run?, Option.bind_eq_bind, Option.bind_eq_some_iff] at run
      obtain ⟨next, happens, remaining⟩ := run
      rcases ih remaining with ⟨first, there, reaches⟩ |
        ⟨earlier, later, before, thread, settings, handle, resources, session, split, reached,
          onward⟩
      · obtain ⟨notes, move, _⟩ := after?_move happens
        rcases move.cameFrom there with ⟨old, known, leads⟩ |
          ⟨thread, settings, handle, resources, stands, made⟩
        · exact .inl ⟨old, known, leads.trans reaches⟩
        · exact .inr ⟨[], event :: rest, start, thread, settings, handle, resources, _, rfl, rfl,
            stands, made, reaches⟩
      · refine .inr ⟨event :: earlier, later, before, thread, settings, handle, resources,
          session, ?_, ?_, onward⟩
        · rw [split, List.cons_append]
        · rw [run?, happens]
          exact reached

/-- Every session of a host was opened by a call of some thread, under the
settings that were in force when the call was made. -/
theorem exists_call {hash : Handle → Nat} {settings : Settings} {host : Host} {slot : Nat}
    {hosted : HostedSession} (created : Host.createWith hash settings = .ok host)
    (run : run? { shared := { host } } events = some final)
    (present : final.shared.host.sessions[slot]? = some hosted) :
    ∃ earlier thread handle resources later before session,
      events = earlier ++ .call thread (.openSession handle resources) :: later ∧
      run? { shared := { host } } earlier = some before ∧
      before.shared.host.live.current.validate = .ok () ∧
      Session.ofResources before.shared.host.live.current handle resources = .ok session ∧
      session.Reaches hosted.session := by
  obtain ⟨valid, rfl⟩ := Host.createWith_eq_ok created
  rcases exists_opening run present with ⟨_, there, _⟩ |
    ⟨front, back, middle, thread, chosen, handle, resources, session, split, reached, stands,
      made, onward⟩
  · cases there
  · rcases called_of_opening reached stands with idle |
      ⟨earlier, later, before, called, known, rfl⟩
    · cases idle
    · refine ⟨earlier, thread, handle, resources, later ++ back, before, session, ?_, known, ?_,
        made, onward⟩
      · rw [split, called, List.append_assoc, List.cons_append]
      · exact live_run valid known

end WatchedHost

/-! ### The limit of a session -/

/-- A session, opened with the given limit over the given broker, that never meets
the fault by which it would stop by itself. -/
structure Session.KeepsLimit (mtu : Nat) (broker : ScriptedBroker)
    (session : Session ScriptedBroker) : Prop where
  /-- Whatever a unit holds, no record in it is too large for a frame. -/
  framed : ∀ region clause size limit,
    (session.harvester.frameRegion region).fault ≠ some (.exceedsMtu clause size limit)
  harvester : session.harvester.fault = none
  fault : session.metadata ≠ none → session.fault = none
  /-- Once the tables are exported, no step of the worker raises the exit flag,
  and while the flag is not raised the final cycle does not begin. -/
  goesOn : session.metadata ≠ none → session.exit = false →
    session.phase.finalBegun = false ∧ ∀ moment, (session.step moment).exit = false
  handed : session.HandedWithin ScriptedBroker.calls mtu broker.calls

namespace WatchedHost

/-- Every session of a host keeps the limit that was in force when the call was
made that opened it, whatever the units hold and however the settings and the
tables are changed. -/
theorem sessions_keep_limit {hash : Handle → Nat} {settings : Settings} {host : Host}
    {events : List HostEvent} {final : WatchedHost} {slot : Nat} {hosted : HostedSession}
    (created : Host.createWith hash settings = .ok host)
    (run : run? { shared := { host } } events = some final)
    (present : final.shared.host.sessions[slot]? = some hosted) :
    ∃ earlier thread handle resources later before session,
      events = earlier ++ .call thread (.openSession handle resources) :: later ∧
      run? { shared := { host } } earlier = some before ∧
      Session.ofResources before.shared.host.live.current handle resources = .ok session ∧
      session.Reaches hosted.session ∧
      hosted.session.KeepsLimit before.shared.host.live.current.mtu resources.broker := by
  obtain ⟨earlier, thread, handle, resources, later, before, session, split, reached, valid,
    opened, ⟨row, course⟩⟩ := exists_call created run present
  obtain ⟨within, handed⟩ :=
    Session.run?_within ScriptedBroker.loggedBy_calls opened valid course
  have orderly := (Session.Orderly.opened opened).run course
  refine ⟨earlier, thread, handle, resources, later, before, session, split, reached, opened,
    ⟨row, course⟩, ?_⟩
  constructor
  · exact within.fits.frameRegion_fault
  · exact within.sound
  · exact within.complete
  · intro exported unasked
    constructor
    · cases begun : hosted.session.phase.finalBegun with
      | false => rfl
      | true =>
          rw [orderly.asked begun] at unasked
          cases unasked
    · intro moment
      exact within.exit_work (hosted.session.step_advance moment) exported unasked
  · exact handed

theorem sessions_keep_limit_sample :
    ∃ host final hosted,
      Host.createWith (fun handle => handle.id.toNat) { registryBuckets := 2 } = .ok host ∧
        run? { shared := { host } } HostEvent.sample = some final ∧
        final.shared.host.sessions[0]? = some hosted ∧
        ∃ earlier thread handle resources later before session,
          HostEvent.sample = earlier ++ .call thread (.openSession handle resources) :: later ∧
          run? { shared := { host } } earlier = some before ∧
          Session.ofResources before.shared.host.live.current handle resources = .ok session ∧
          session.Reaches hosted.session ∧
          hosted.session.KeepsLimit before.shared.host.live.current.mtu resources.broker := by
  have ends :
      (match Host.createWith (fun handle => handle.id.toNat) { registryBuckets := 2 } with
        | .ok host =>
            (run? { shared := { host } } HostEvent.sample).map fun final =>
              final.shared.host.sessions.length
        | .error _ => none) = some 2 := by
    decide +kernel
  split at ends
  next host created =>
    obtain ⟨final, run, count⟩ := Option.map_eq_some_iff.mp ends
    have there : 0 < final.shared.host.sessions.length := by omega
    have present := List.getElem?_eq_getElem there
    exact ⟨host, final, _, created, run, present, sessions_keep_limit created run present⟩
  next => cases ends

end WatchedHost
end TraceForward
