/-
The history of a host that many threads use.

A note is taken of every call that a thread makes, of every operation that it
performs with the lock of a bucket held, and of every reply.
-/

import TraceForward.Proofs.Registry.HandleMap
import TraceForward.Proofs.Session.Order
import TraceForward.Session.SharedHost

namespace TraceForward

inductive Note where
  | called (call : RegistryCall)
  | performed (step : Performed)
  | returned (reply : RegistryReply)

namespace SharedHost

def stageNotes (shared : SharedHost) : CallStage → List Note
  | .opening settings handle resources =>
      [.performed (.insert settings handle resources
        ((shared.host.register settings handle resources).map Prod.fst))]
  | .finding handle => [.performed (.find handle (shared.host.table.find? handle))]
  | .closing handle _ =>
      [.performed (.remove handle ((shared.host.withdraw handle).map Prod.fst))]
  | .returning reply => [.returned reply]
  | _ => []

def eventNotes (shared : SharedHost) : HostEvent → List (Nat × Note)
  | .call thread call => [(thread, .called call)]
  | .act thread =>
      (shared.stageNotes (shared.threads thread)).map fun note => (thread, note)
  | _ => []

end SharedHost

/-- A shared host and the notes of its run so far, in order. -/
structure WatchedHost where
  shared : SharedHost
  notes : List (Nat × Note) := []

namespace WatchedHost

def after? (watched : WatchedHost) (event : HostEvent) : Option WatchedHost :=
  (watched.shared.after? event).map fun shared =>
    { shared, notes := watched.notes ++ watched.shared.eventNotes event }

def run? (watched : WatchedHost) : List HostEvent → Option WatchedHost
  | [] => some watched
  | event :: rest => watched.after? event >>= fun watched => watched.run? rest

theorem after?_eq_some {watched next : WatchedHost} {event : HostEvent}
    (happens : watched.after? event = some next) :
    ∃ shared, watched.shared.after? event = some shared ∧
      next = { shared, notes := watched.notes ++ watched.shared.eventNotes event } := by
  rw [after?, Option.map_eq_some_iff] at happens
  obtain ⟨shared, reached, rfl⟩ := happens
  exact ⟨shared, reached, rfl⟩

theorem run?_induction {Holds : WatchedHost → Prop}
    (keeps : ∀ watched event next, Holds watched → watched.after? event = some next →
      Holds next)
    {watched final : WatchedHost} {events : List HostEvent}
    (start : Holds watched) (run : watched.run? events = some final) : Holds final := by
  induction events generalizing watched with
  | nil =>
      cases run
      exact start
  | cons event rest ih =>
      simp only [run?, Option.bind_eq_bind, Option.bind_eq_some_iff] at run
      obtain ⟨next, happens, later⟩ := run
      exact ih (keeps watched event next start happens) later

end WatchedHost

/-! ### What an event can do -/

namespace SharedHost

/-- The ways in which an event changes a shared host, with what is noted. -/
inductive Move (shared : SharedHost) : SharedHost → List (Nat × Note) → Prop
  | call (thread : Nat) (call : RegistryCall) (stands : shared.threads thread = .idle) :
      Move shared (shared.turn thread (shared.begin call)) [(thread, .called call)]
  | refuse (thread : Nat) (settings : Settings) (handle : Handle)
      (resources : SessionResources) (fault : Fault)
      (stands : shared.threads thread = .opening settings handle resources)
      (refused : shared.host.register settings handle resources = .error fault) :
      Move shared (shared.turn thread (.returning (.opened (.error fault))))
        [(thread, .performed (.insert settings handle resources (.error fault)))]
  | register (thread : Nat) (settings : Settings) (handle : Handle)
      (resources : SessionResources) (slot : Nat) (host : Host)
      (stands : shared.threads thread = .opening settings handle resources)
      (registered : shared.host.register settings handle resources = .ok (slot, host)) :
      Move shared ({ shared with host }.turn thread (.returning (.opened (.ok slot))))
        [(thread, .performed (.insert settings handle resources (.ok slot)))]
  | find (thread : Nat) (handle : Handle) (stands : shared.threads thread = .finding handle) :
      Move shared
        (shared.turn thread (.returning (.found (shared.host.table.find? handle))))
        [(thread, .performed (.find handle (shared.host.table.find? handle)))]
  | list (thread position : Nat) (handles : List Handle) (row : List (Handle × Nat))
      (stands : shared.threads thread = .listing position handles)
      (present : shared.host.table.buckets[position]? = some row) :
      Move shared
        (shared.turn thread (.listing (position + 1) (handles ++ row.map Prod.fst))) []
  | listed (thread position : Nat) (handles : List Handle)
      (stands : shared.threads thread = .listing position handles)
      (past : shared.host.table.buckets[position]? = none) :
      Move shared (shared.turn thread (.sweep handles [])) []
  | miss (thread : Nat) (handle : Handle) (errand : Errand)
      (stands : shared.threads thread = .closing handle errand)
      (absent : shared.host.withdraw handle = none) :
      Move shared (shared.turn thread (errand.missing handle))
        [(thread, .performed (.remove handle none))]
  | withdraw (thread : Nat) (handle : Handle) (errand : Errand) (slot : Nat) (host : Host)
      (stands : shared.threads thread = .closing handle errand)
      (taken : shared.host.withdraw handle = some (slot, host)) :
      Move shared ({ shared with host }.turn thread (.stopping handle slot errand))
        [(thread, .performed (.remove handle (some slot)))]
  | ask (thread : Nat) (handle : Handle) (slot : Nat) (errand : Errand) (asked : SharedHost)
      (stands : shared.threads thread = .stopping handle slot errand)
      (asks : shared.sessionAfter? slot .requestStop = some asked) :
      Move shared (asked.turn thread (.joining handle slot errand)) []
  | join (thread : Nat) (handle : Handle) (slot : Nat) (errand : Errand)
      (report : SessionReport)
      (stands : shared.threads thread = .joining handle slot errand)
      (ended : shared.finalReport? slot = some report) :
      Move shared (shared.turn thread (errand.done handle report)) []
  | reply (thread : Nat) (reply : RegistryReply)
      (stands : shared.threads thread = .returning reply) :
      Move shared (shared.turn thread .idle) [(thread, .returned reply)]
  | session (slot : Nat) (event : SessionEvent) (next : SharedHost)
      (happens : shared.sessionAfter? slot event = some next) : Move shared next []
  | configure (live : LiveSettings) :
      Move shared { shared with host := { shared.host with live } } []

theorem after?_move {shared next : SharedHost} {event : HostEvent}
    (happens : shared.after? event = some next) :
    shared.Move next (shared.eventNotes event) := by
  cases event with
  | call thread call =>
      simp only [after?] at happens
      split at happens
      next stands =>
        cases happens
        exact .call thread call stands
      next => cases happens
  | act thread =>
      simp only [after?, act?] at happens
      cases stands : shared.threads thread with
      | idle =>
          rw [stands] at happens
          cases happens
      | opening settings handle resources =>
          cases result : shared.host.register settings handle resources with
          | error fault =>
              simp only [stands, result] at happens
              cases happens
              simp only [eventNotes, stands, stageNotes, result]
              exact Move.refuse thread settings handle resources fault stands result
          | ok opened =>
              simp only [stands, result] at happens
              cases happens
              simp only [eventNotes, stands, stageNotes, result]
              exact Move.register thread settings handle resources _ _ stands result
      | finding handle =>
          simp only [stands] at happens
          cases happens
          simp only [eventNotes, stands]
          exact Move.find thread handle stands
      | listing position handles =>
          cases present : shared.host.table.buckets[position]? with
          | none =>
              simp only [stands, present] at happens
              cases happens
              simp only [eventNotes, stands]
              exact Move.listed thread position handles stands present
          | some row =>
              simp only [stands, present] at happens
              cases happens
              simp only [eventNotes, stands]
              exact Move.list thread position handles row stands present
      | closing handle errand =>
          cases result : shared.host.withdraw handle with
          | none =>
              simp only [stands, result] at happens
              cases happens
              simp only [eventNotes, stands, stageNotes, result]
              exact Move.miss thread handle errand stands result
          | some taken =>
              simp only [stands, result] at happens
              cases happens
              simp only [eventNotes, stands, stageNotes, result]
              exact Move.withdraw thread handle errand _ _ stands result
      | stopping handle slot errand =>
          simp only [stands, Option.map_eq_some_iff] at happens
          obtain ⟨asked, asks, rfl⟩ := happens
          simp only [eventNotes, stands]
          exact Move.ask thread handle slot errand asked stands asks
      | joining handle slot errand =>
          simp only [stands, Option.map_eq_some_iff] at happens
          obtain ⟨report, ended, rfl⟩ := happens
          simp only [eventNotes, stands]
          exact Move.join thread handle slot errand report stands ended
      | returning reply =>
          simp only [stands] at happens
          cases happens
          simp only [eventNotes, stands]
          exact Move.reply thread reply stands
  | session slot event => exact .session slot event next happens
  | configure change =>
      simp only [after?] at happens
      split at happens
      · cases happens
        exact .configure shared.host.live
      · cases happens
        exact .configure _

end SharedHost

theorem WatchedHost.after?_move {watched next : WatchedHost} {event : HostEvent}
    (happens : watched.after? event = some next) :
    ∃ notes, watched.shared.Move next.shared notes ∧ next.notes = watched.notes ++ notes := by
  obtain ⟨shared, reached, rfl⟩ := after?_eq_some happens
  exact ⟨_, SharedHost.after?_move reached, rfl⟩

end TraceForward
