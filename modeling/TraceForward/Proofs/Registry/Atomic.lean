/-
A shared host answers as an atomic map.

The operations that threads perform, in the order in which they hold the locks,
are a run of the map, whatever the hash is and however many buckets there are.
And a session that was opened is in the table until it is taken out, once.
-/

import TraceForward.Proofs.Registry.History
import TraceForward.Proofs.Settings.Bounds

namespace TraceForward

/-! ### Reading the notes -/

def Note.step? : Note → Option Performed
  | .performed step => some step
  | _ => none

namespace Performed

def opened? : Performed → Option Nat
  | .insert _ _ _ (.ok slot) => some slot
  | _ => none

def removed? : Performed → Option Nat
  | .remove _ slot => slot
  | _ => none

end Performed

def performedSteps (notes : List (Nat × Note)) : List Performed :=
  notes.filterMap fun entry => entry.2.step?

def openedSlots (notes : List (Nat × Note)) : List Nat :=
  (performedSteps notes).filterMap Performed.opened?

def removedSlots (notes : List (Nat × Note)) : List Nat :=
  (performedSteps notes).filterMap Performed.removed?

theorem performedSteps_append (earlier later : List (Nat × Note)) :
    performedSteps (earlier ++ later) = performedSteps earlier ++ performedSteps later :=
  List.filterMap_append

theorem openedSlots_append (earlier later : List (Nat × Note)) :
    openedSlots (earlier ++ later) = openedSlots earlier ++ openedSlots later := by
  rw [openedSlots, performedSteps_append, List.filterMap_append]
  rfl

theorem removedSlots_append (earlier later : List (Nat × Note)) :
    removedSlots (earlier ++ later) = removedSlots earlier ++ removedSlots later := by
  rw [removedSlots, performedSteps_append, List.filterMap_append]
  rfl

/-! ### Sessions -/

namespace SharedHost

variable {shared next : SharedHost} {slot : Nat} {event : SessionEvent}

theorem sessionAfter?_eq_some (happens : shared.sessionAfter? slot event = some next) :
    ∃ hosted session, shared.host.sessions[slot]? = some hosted ∧
      hosted.session.after? event = some session ∧
      next =
        { shared with host := shared.host.modifySession slot fun _ => { hosted with session } } := by
  simp only [sessionAfter?, Option.bind_eq_bind, Option.bind_eq_some_iff] at happens
  obtain ⟨hosted, present, session, changed, same⟩ := happens
  exact ⟨hosted, session, present, changed, (Option.some.inj same).symm⟩

theorem map_sessionAfter? (happens : shared.sessionAfter? slot event = some next) :
    next.host.map = shared.host.map ∧ next.host.table = shared.host.table ∧
      next.threads = shared.threads := by
  obtain ⟨hosted, session, _, _, rfl⟩ := sessionAfter?_eq_some happens
  refine ⟨?_, rfl, rfl⟩
  simp [Host.map, Host.modifySession]

end SharedHost

/-! ### One step of the map for each step of the host -/

structure WatchedHost.Atomic (watched : WatchedHost) : Prop where
  sound : watched.shared.host.table.Sound
  runs : HandleMap.Runs {} (performedSteps watched.notes) watched.shared.host.map
  opened : openedSlots watched.notes = List.range watched.shared.host.sessions.length
  handed : ∀ slot,
    (removedSlots watched.notes).count slot +
        (watched.shared.host.table.entries.map Prod.snd).count slot =
      (openedSlots watched.notes).count slot

namespace WatchedHost

variable {watched next : WatchedHost} {notes : List (Nat × Note)}

theorem Atomic.of_same (atomic : watched.Atomic)
    (table : next.shared.host.table = watched.shared.host.table)
    (same : next.shared.host.map = watched.shared.host.map)
    (noted : next.notes = watched.notes ++ notes)
    (silent : performedSteps notes = [] ∨
      ∃ step, performedSteps notes = [step] ∧ step.opened? = none ∧ step.removed? = none ∧
        watched.shared.host.map.Performs step watched.shared.host.map) :
    next.Atomic := by
  have sessions : next.shared.host.sessions.length =
      watched.shared.host.sessions.length := congrArg HandleMap.opened same
  have slots : openedSlots notes = [] ∧ removedSlots notes = [] := by
    rcases silent with none | ⟨step, one, closed, kept, _⟩
    · simp [openedSlots, removedSlots, none]
    · simp [openedSlots, removedSlots, one, closed, kept]
  refine ⟨?_, ?_, ?_, ?_⟩
  · rw [table]
    exact atomic.sound
  · rw [noted, performedSteps_append, same]
    rcases silent with none | ⟨step, one, _, _, performs⟩
    · rw [none, List.append_nil]
      exact atomic.runs
    · rw [one]
      exact atomic.runs.snoc performs
  · rw [noted, openedSlots_append, slots.1, List.append_nil, sessions]
    exact atomic.opened
  · intro slot
    rw [noted, openedSlots_append, removedSlots_append, slots.1, slots.2, List.append_nil,
      List.append_nil, table]
    exact atomic.handed slot

theorem Atomic.register (atomic : watched.Atomic) {thread slot : Nat} {settings : Settings}
    {handle : Handle} {resources : SessionResources}
    (registered : watched.shared.host.register settings handle resources =
      .ok (slot, next.shared.host))
    (noted : next.notes = watched.notes ++
      [(thread, .performed (.insert settings handle resources (.ok slot)))]) :
    next.Atomic := by
  have performs := Host.performs_of_registered atomic.sound registered
  obtain ⟨free, rfl, table, session, _, sessions⟩ := Host.register_eq_ok registered
  have opened : openedSlots next.notes =
      openedSlots watched.notes ++ [watched.shared.host.sessions.length] := by
    rw [noted, openedSlots_append]
    rfl
  refine ⟨?_, ?_, ?_, ?_⟩
  · rw [table]
    exact atomic.sound.insert free _
  · rw [noted, performedSteps_append]
    exact atomic.runs.snoc performs
  · rw [opened, atomic.opened, sessions, List.length_append]
    exact List.range_succ.symm
  · intro other
    have entries := (atomic.sound.insert_entries handle watched.shared.host.sessions.length).map
      Prod.snd
    have before := atomic.handed other
    rw [table, entries.count_eq, opened, List.count_append, noted, removedSlots_append,
      List.count_append, List.map_cons, List.count_cons, List.count_singleton]
    change _ + List.count other [] + _ = _
    rw [List.count_nil]
    dsimp only
    omega

theorem Atomic.withdraw (atomic : watched.Atomic) {thread slot : Nat} {handle : Handle}
    (taken : watched.shared.host.withdraw handle = some (slot, next.shared.host))
    (noted : next.notes = watched.notes ++ [(thread, .performed (.remove handle (some slot)))]) :
    next.Atomic := by
  have performs := Host.performs_of_withdrawn atomic.sound taken
  obtain ⟨unlinked, same⟩ := Host.withdraw_eq_some taken
  obtain ⟨split, sound⟩ := atomic.sound.unlink unlinked
  have opened : openedSlots next.notes = openedSlots watched.notes := by
    rw [noted, openedSlots_append]
    exact List.append_nil _
  refine ⟨sound, ?_, ?_, ?_⟩
  · rw [noted, performedSteps_append]
    exact atomic.runs.snoc performs
  · rw [opened, atomic.opened, same]
  · intro other
    have before := atomic.handed other
    rw [(split.map Prod.snd).count_eq, List.map_cons, List.count_cons] at before
    rw [opened, noted, removedSlots_append, List.count_append]
    change _ + List.count other [slot] + _ = _
    rw [List.count_singleton]
    dsimp only at before
    omega

theorem Atomic.after {event : HostEvent} (atomic : watched.Atomic)
    (happens : watched.after? event = some next) : next.Atomic := by
  obtain ⟨notes, move, noted⟩ := after?_move happens
  obtain ⟨shared, later⟩ := next
  dsimp only at move noted
  cases move with
  | register thread settings handle resources slot host stands registered =>
      exact atomic.register registered noted
  | withdraw thread handle errand slot host stands taken =>
      exact atomic.withdraw taken noted
  | refuse thread settings handle resources fault stands refused =>
      exact atomic.of_same rfl rfl noted
        (.inr ⟨_, rfl, rfl, rfl, Host.performs_of_refused refused⟩)
  | find thread handle stands =>
      exact atomic.of_same rfl rfl noted (.inr ⟨_, rfl, rfl, rfl, .found handle⟩)
  | miss thread handle errand stands absent =>
      exact atomic.of_same rfl rfl noted
        (.inr ⟨_, rfl, rfl, rfl, Host.performs_of_missing absent⟩)
  | ask thread handle slot errand asked stands asks =>
      obtain ⟨same, table, _⟩ := SharedHost.map_sessionAfter? asks
      exact atomic.of_same table same noted (.inl rfl)
  | session slot event reached happens =>
      obtain ⟨same, table, _⟩ := SharedHost.map_sessionAfter? happens
      exact atomic.of_same table same noted (.inl rfl)
  | call thread call stands => exact atomic.of_same rfl rfl noted (.inl rfl)
  | list thread position handles row stands present =>
      exact atomic.of_same rfl rfl noted (.inl rfl)
  | listed thread position handles stands past =>
      exact atomic.of_same rfl rfl noted (.inl rfl)
  | join thread handle slot errand report stands ended =>
      exact atomic.of_same rfl rfl noted (.inl rfl)
  | reply thread reply stands => exact atomic.of_same rfl rfl noted (.inl rfl)
  | configure live => exact atomic.of_same rfl rfl noted (.inl rfl)

end WatchedHost

/-! ### Hosts as they are created -/

theorem Host.createWith_eq_ok {hash : Handle → Nat} {settings : Settings} {host : Host}
    (created : Host.createWith hash settings = .ok host) :
    settings.validate = .ok () ∧
      host =
        { live := { current := settings }
          table := HandleTable.create hash settings.registryBuckets } := by
  rw [createWith] at created
  split at created
  next => cases created
  next valid =>
    cases created
    exact ⟨valid, rfl⟩

theorem WatchedHost.Atomic.created {hash : Handle → Nat} {settings : Settings} {host : Host}
    (created : Host.createWith hash settings = .ok host) :
    WatchedHost.Atomic { shared := { host } } := by
  obtain ⟨valid, rfl⟩ := Host.createWith_eq_ok created
  have sound : (HandleTable.create hash settings.registryBuckets : HandleTable Nat).Sound :=
    HandleTable.create_sound hash
      (Settings.pos_of_isPowerOfTwo (settings.validate_eq_ok_iff.mp valid).registryBuckets)
  have empty : (HandleTable.create hash settings.registryBuckets : HandleTable Nat).entries =
      [] := by
    simp [HandleTable.entries, HandleTable.create]
  refine ⟨sound, ?_, rfl, ?_⟩
  · have blank : Host.map
        { live := { current := settings }
          table := HandleTable.create hash settings.registryBuckets } = {} := by
      simp only [Host.map, HandleMap.mk.injEq]
      refine ⟨?_, rfl⟩
      funext handle
      rw [sound.find?_eq_none_iff, HandleTable.handles_eq, empty]
      exact List.not_mem_nil
    rw [blank]
    exact .nil
  · intro slot
    change 0 + List.count slot (List.map Prod.snd _) = 0
    rw [empty]
    rfl

end TraceForward
