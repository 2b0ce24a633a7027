/-
The registry refines an atomic map.

This holds for every hash and for every number of buckets that settings may ask
for, and however the threads that open, find, close and stop sessions take
turns.  Threads are interleaved at the moments at which they hold the lock of a
bucket; workers start when they are asked to, and end when they are waited for.
-/

import Mathlib.Data.List.Nodup
import TraceForward.Proofs.Registry.Calls
import TraceForward.Proofs.Registry.StopAll
import TraceForward.Proofs.Session.Opening

namespace TraceForward

/-- Thread 0 opens two sessions and closes the second while thread 1 stops all. -/
def HostEvent.sample : List HostEvent :=
  [.call 0 (.openSession ⟨1⟩ SessionResources.sample), .act 0, .act 0,
    .call 0 (.openSession ⟨2⟩ SessionResources.sample), .act 0, .act 0,
    .call 1 .stopAll, .act 1, .act 1, .act 1,
    .call 0 (.close ⟨2⟩), .act 0, .act 0] ++
  List.replicate 20 (.session 1 (.work {})) ++
  [.act 0, .act 0, .act 1, .act 1, .act 1] ++
  List.replicate 20 (.session 0 (.work {})) ++ [.act 1]

namespace WatchedHost

/-- How a run of a host that starts without sessions answers for a map. -/
structure RefinesMap (start : WatchedHost) (events : List HostEvent) (final : WatchedHost) :
    Prop where
  inBounds : ∀ handle,
    final.shared.host.table.position handle < final.shared.host.table.buckets.length
  ownBucket : ∀ position row, final.shared.host.table.buckets[position]? = some row →
    ∀ entry ∈ row, final.shared.host.table.position entry.1 = position
  once : final.shared.host.table.handles.Nodup
  /-- The operations performed so far are a run of the map, from the empty map to
  what the table answers. -/
  atomic : ∃ map, HandleMap.Runs {} (performedSteps final.notes) map ∧
    ∀ handle, final.shared.host.table.find? handle = map.session? handle
  /-- What is answered depends on what was asked, and not on the buckets. -/
  determined : ∀ steps map, HandleMap.Runs {} steps map →
    steps.map Performed.question = (performedSteps final.notes).map Performed.question →
    steps = performedSteps final.notes
  calls : ∀ thread,
    ThreadRecord final.shared.finalReport? (notesOf thread final.notes)
      (final.shared.threads thread)
  /-- A thread goes on with its call unless it waits for a worker to end. -/
  proceeds : ∀ thread, final.shared.threads thread ≠ .idle →
    (∃ next, final.shared.act? thread = some next) ∨
      ∃ slot hosted, (final.shared.threads thread).waitsFor? = some slot ∧
        final.shared.host.sessions[slot]? = some hosted ∧ hosted.hasEnded = false
  /-- A session that was opened is still registered, or was taken out to be closed
  exactly once. -/
  handed : ∀ slot ∈ openedSlots final.notes,
    (removedSlots final.notes).count slot = 0 ∧
        (∃ handle, final.shared.host.table.find? handle = some slot) ∨
      (removedSlots final.notes).count slot = 1 ∧
        ∀ handle, final.shared.host.table.find? handle ≠ some slot
  /-- A thread that has stopped all sessions while nobody opened one leaves none,
  and if nobody else closed one, it has closed those that it found. -/
  stopAll : ∀ thread earlier during before reports added,
    events = earlier ++ .call thread .stopAll :: during →
    start.run? earlier = some before →
    final.shared.threads thread = .returning (.stoppedAll reports) →
    final.notes = before.notes ++ (thread, .called .stopAll) :: added →
    Undisturbed thread added →
    final.shared.host.table.handles = [] ∧
      (removedSlots (notesOfOthers thread added) = [] →
        reports.map Prod.fst = before.shared.host.table.handles ∧
          (reports.map Prod.fst).Nodup)

theorem run?_append {start final : WatchedHost} {earlier later : List HostEvent}
    (run : start.run? (earlier ++ later) = some final) :
    ∃ middle, start.run? earlier = some middle ∧ middle.run? later = some final := by
  induction earlier generalizing start with
  | nil => exact ⟨start, rfl, run⟩
  | cons event rest ih =>
      simp only [List.cons_append, run?, Option.bind_eq_bind, Option.bind_eq_some_iff] at run
      obtain ⟨next, happens, after⟩ := run
      obtain ⟨middle, reached, remaining⟩ := ih after
      refine ⟨middle, ?_, remaining⟩
      rw [run?, happens]
      exact reached

theorem Atomic.run {start final : WatchedHost} {events : List HostEvent}
    (atomic : start.Atomic) (run : start.run? events = some final) : final.Atomic :=
  run?_induction (fun _ _ _ known happens => known.after happens) atomic run

theorem Stopping.begin {before next : WatchedHost} {thread : Nat} (atomic : before.Atomic)
    (happens : before.after? (.call thread .stopAll) = some next) :
    Stopping { before with notes := before.notes ++ [(thread, .called .stopAll)] } thread
      next := by
  have atomicNext := atomic.after happens
  simp only [after?, SharedHost.after?, Option.map_eq_some_iff] at happens
  obtain ⟨shared, turned, rfl⟩ := happens
  split at turned
  next =>
    cases turned
    refine ⟨atomicNext, [], (List.append_nil _).symm, ?_⟩
    intro _
    refine ⟨?_, ?_⟩
    · rw [SharedHost.threads_turn_self]
      exact fun handle _ => .inr (Nat.zero_le _)
    · intro _
      rw [SharedHost.threads_turn_self]
      exact ⟨rfl, rfl⟩
  next => cases turned

theorem Stopping.run {start watched final : WatchedHost} {thread : Nat}
    {events : List HostEvent} (stopping : start.Stopping thread watched)
    (once : start.shared.host.table.handles.Nodup) (run : watched.run? events = some final) :
    start.Stopping thread final :=
  run?_induction (fun _ _ _ known happens => known.after once happens) stopping run

theorem Atomic.registered_iff {watched : WatchedHost} (atomic : watched.Atomic) (slot : Nat) :
    (∃ handle, watched.shared.host.table.find? handle = some slot) ↔
      slot ∈ watched.shared.host.table.entries.map Prod.snd := by
  rw [List.mem_map]
  constructor
  · rintro ⟨handle, found⟩
    exact ⟨_, atomic.sound.find?_eq_some_iff.mp found, rfl⟩
  · rintro ⟨⟨handle, held⟩, member, rfl⟩
    exact ⟨handle, atomic.sound.find?_eq_some_iff.mpr member⟩

theorem Atomic.handed_once {watched : WatchedHost} (atomic : watched.Atomic) {slot : Nat}
    (opened : slot ∈ openedSlots watched.notes) :
    (removedSlots watched.notes).count slot = 0 ∧
        (∃ handle, watched.shared.host.table.find? handle = some slot) ∨
      (removedSlots watched.notes).count slot = 1 ∧
        ∀ handle, watched.shared.host.table.find? handle ≠ some slot := by
  have distinct : (openedSlots watched.notes).Nodup := by
    rw [atomic.opened]
    exact List.nodup_range
  have once := List.count_eq_one_of_mem distinct opened
  have handed := atomic.handed slot
  by_cases member : slot ∈ watched.shared.host.table.entries.map Prod.snd
  · have registered := List.count_pos_iff.mpr member
    exact .inl ⟨by omega, (atomic.registered_iff slot).mpr member⟩
  · have absent := List.count_eq_zero_of_not_mem member
    refine .inr ⟨by omega, ?_⟩
    intro handle found
    exact member ((atomic.registered_iff slot).mp ⟨handle, found⟩)

/-! ### Threads go on -/

theorem Records.waits_for {watched : WatchedHost} (records : watched.Records)
    (atomic : watched.Atomic) {thread slot : Nat}
    (waits : (watched.shared.threads thread).waitsFor? = some slot) :
    ∃ hosted, watched.shared.host.sessions[slot]? = some hosted := by
  have busy : watched.shared.threads thread ≠ .idle := by
    intro stands
    rw [stands] at waits
    cases waits
  obtain ⟨earlier, call, steps, _, underway, same⟩ := (records thread).exists_call busy
  obtain ⟨handle, step⟩ := underway.removed waits
  have noted : Note.performed (.remove handle (some slot)) ∈ notesOf thread watched.notes := by
    rw [same]
    exact List.mem_append_right _ (List.mem_cons_of_mem _ (List.mem_map_of_mem step))
  have handed := atomic.handed slot
  have removed := List.count_pos_iff.mpr (mem_removedSlots noted)
  have opened : slot ∈ openedSlots watched.notes := List.count_pos_iff.mp (by omega)
  rw [atomic.opened, List.mem_range] at opened
  exact ⟨_, List.getElem?_eq_getElem opened⟩

theorem proceeds {shared : SharedHost} {thread : Nat} (busy : shared.threads thread ≠ .idle)
    (present : ∀ slot, (shared.threads thread).waitsFor? = some slot →
      ∃ hosted, shared.host.sessions[slot]? = some hosted) :
    (∃ next, shared.act? thread = some next) ∨
      ∃ slot hosted, (shared.threads thread).waitsFor? = some slot ∧
        shared.host.sessions[slot]? = some hosted ∧ hosted.hasEnded = false := by
  unfold SharedHost.act?
  cases stands : shared.threads thread with
  | idle => exact (busy stands).elim
  | opening settings handle resources =>
      dsimp only
      split
      · exact .inl ⟨_, rfl⟩
      · exact .inl ⟨_, rfl⟩
  | finding handle => exact .inl ⟨_, rfl⟩
  | listing position handles =>
      dsimp only
      split
      · exact .inl ⟨_, rfl⟩
      · exact .inl ⟨_, rfl⟩
  | closing handle errand =>
      dsimp only
      split
      · exact .inl ⟨_, rfl⟩
      · exact .inl ⟨_, rfl⟩
  | stopping handle slot errand =>
      obtain ⟨hosted, there⟩ := present slot (by rw [stands]; rfl)
      cases ended : hosted.hasEnded with
      | false => exact .inr ⟨slot, hosted, rfl, there, ended⟩
      | true =>
          have finished : hosted.session.phase = .finished := by
            simpa only [HostedSession.hasEnded, beq_iff_eq] using ended
          refine .inl (Option.isSome_iff_exists.mp ?_)
          simp [SharedHost.sessionAfter?, there, Session.after?, Session.lockHeld, finished]
  | joining handle slot errand =>
      obtain ⟨hosted, there⟩ := present slot (by rw [stands]; rfl)
      cases ended : hosted.hasEnded with
      | false => exact .inr ⟨slot, hosted, rfl, there, ended⟩
      | true =>
          refine .inl (Option.isSome_iff_exists.mp ?_)
          simp [SharedHost.finalReport?, there, ended]
  | returning reply => exact .inl ⟨_, rfl⟩

/-- Every run of a created host refines an atomic map. -/
theorem refines_map {hash : Handle → Nat} {settings : Settings} {host : Host}
    {events : List HostEvent} {final : WatchedHost}
    (created : Host.createWith hash settings = .ok host)
    (run : run? { shared := { host } } events = some final) :
    RefinesMap { shared := { host } } events final := by
  have start := Atomic.created created
  have atomic := start.run run
  have records : final.Records :=
    run?_induction (fun _ _ _ known happens => known.after happens) (Records.created host) run
  refine ⟨atomic.sound.position_lt, atomic.sound.own, atomic.sound.once,
    ⟨_, atomic.runs, fun _ => rfl⟩, ?_, records, ?_, ?_, ?_⟩
  · exact fun steps map runs same => (runs.unique atomic.runs same).1
  · intro thread busy
    exact proceeds busy fun slot waits => records.waits_for atomic waits
  · exact fun slot opened => atomic.handed_once opened
  · intro thread earlier during before reports added split reached stands noted undisturbed
    rw [split] at run
    obtain ⟨middle, same, remaining⟩ := run?_append run
    obtain rfl := Option.some.inj (reached.symm.trans same)
    simp only [run?, Option.bind_eq_bind, Option.bind_eq_some_iff] at remaining
    obtain ⟨began, happens, later⟩ := remaining
    have atomicBefore := start.run reached
    have stopping := (Stopping.begin atomicBefore happens).run atomicBefore.sound.once later
    obtain ⟨_, since, noted', sweeps⟩ := stopping
    -- Both count the same notes, from the call on.
    rw [noted, List.append_cons] at noted'
    obtain rfl := List.append_cancel_left noted'
    obtain ⟨covers, follows⟩ := sweeps undisturbed
    rw [stands] at covers follows
    refine ⟨covers, ?_⟩
    intro calm
    have all := follows calm
    refine ⟨all, ?_⟩
    rw [all]
    exact atomicBefore.sound.once

/-- The host with two buckets ends with nothing registered: thread 1 has listed
both sessions, and thread 0 has closed one of them first. -/
theorem refines_map_sample :
    ∃ host final,
      Host.createWith (fun handle => handle.id.toNat) { registryBuckets := 2 } = .ok host ∧
        run? { shared := { host } } HostEvent.sample = some final ∧
        final.shared.host.table.handles = [] ∧
        RefinesMap { shared := { host } } HostEvent.sample final := by
  have ends :
      (match Host.createWith (fun handle => handle.id.toNat) { registryBuckets := 2 } with
        | .ok host =>
            (run? { shared := { host } } HostEvent.sample).map fun final =>
              final.shared.host.table.handles
        | .error _ => none) = some [] := by
    decide +kernel
  split at ends
  next host created =>
    obtain ⟨final, run, empty⟩ := Option.map_eq_some_iff.mp ends
    exact ⟨host, final, created, run, empty, refines_map created run⟩
  next => cases ends

end WatchedHost
end TraceForward
