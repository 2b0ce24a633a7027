/-
Stopping all sessions while other threads go on.

A thread that stops all sessions holds no lock between listing a handle and
closing it.  If nobody opens a session meanwhile, what is still registered was
listed, or is in a bucket that is yet to be listed; so nothing is registered in
the end.  If nobody else closes one either, the thread closes exactly what it
has found at the start, in the order of the buckets.
-/

import TraceForward.Proofs.Registry.Atomic

namespace TraceForward
namespace CallStage

/-- Every registered handle is one that a thread that stops all sessions is yet
to list or to close. -/
def Covers (table : HandleTable Nat) : CallStage → Prop
  | .listing position handles =>
      ∀ handle ∈ table.handles, handle ∈ handles ∨ position ≤ table.position handle
  | .closing handle (.sweep rest _) =>
      ∀ other ∈ table.handles, other = handle ∨ other ∈ rest
  | .stopping _ _ (.sweep rest _) | .joining _ _ (.sweep rest _) =>
      ∀ other ∈ table.handles, other ∈ rest
  | .returning (.stoppedAll _) => table.handles = []
  | _ => False

/-- A thread that stops all sessions has listed just those of the table that it
found, `first`, and those that it is yet to close are just those registered. -/
def Follows (first table : HandleTable Nat) : CallStage → Prop
  | .listing position handles =>
      table = first ∧
        handles = (first.buckets.take position).flatMap fun row => row.map Prod.fst
  | .closing handle (.sweep rest reports) =>
      first.handles = reports.map Prod.fst ++ handle :: rest ∧
        ∀ other, other ∈ table.handles ↔ other = handle ∨ other ∈ rest
  | .stopping handle _ (.sweep rest reports) | .joining handle _ (.sweep rest reports) =>
      first.handles = reports.map Prod.fst ++ handle :: rest ∧
        ∀ other, other ∈ table.handles ↔ other ∈ rest
  | .returning (.stoppedAll reports) => reports.map Prod.fst = first.handles
  | _ => False

variable {first table changed : HandleTable Nat} {stage : CallStage}

theorem Covers.antitone (covers : stage.Covers table)
    (fewer : ∀ handle ∈ changed.handles, handle ∈ table.handles)
    (positions : ∀ handle, changed.position handle = table.position handle) :
    stage.Covers changed := by
  unfold Covers at covers ⊢
  split at covers
  · intro handle member
    rw [positions]
    exact covers handle (fewer handle member)
  · exact fun other member => covers other (fewer other member)
  · exact fun other member => covers other (fewer other member)
  · exact fun other member => covers other (fewer other member)
  · refine List.eq_nil_iff_forall_not_mem.mpr ?_
    intro handle member
    have still := fewer handle member
    rw [covers] at still
    cases still
  · exact covers

theorem covers_sweep {rest : List Handle} (reports : List (Handle × SessionReport))
    (listed : ∀ other ∈ table.handles, other ∈ rest) : (sweep rest reports).Covers table := by
  cases rest with
  | nil => exact List.eq_nil_iff_forall_not_mem.mpr fun other member => nomatch listed other member
  | cons handle rest => exact fun other member => List.mem_cons.mp (listed other member)

theorem follows_sweep {rest : List Handle} {reports : List (Handle × SessionReport)}
    (found : first.handles = reports.map Prod.fst ++ rest)
    (listed : ∀ other, other ∈ table.handles ↔ other ∈ rest) :
    (sweep rest reports).Follows first table := by
  cases rest with
  | nil =>
      rw [List.append_nil] at found
      exact found.symm
  | cons handle rest =>
      refine ⟨found, ?_⟩
      intro other
      rw [listed, List.mem_cons]

/-! ### Steps of the thread itself -/

theorem Covers.list {position : Nat} {handles : List Handle} {row : List (Handle × Nat)}
    (sound : table.Sound) (covers : (listing position handles).Covers table)
    (present : table.buckets[position]? = some row) :
    (listing (position + 1) (handles ++ row.map Prod.fst)).Covers table := by
  intro handle member
  rcases covers handle member with known | later
  · exact .inl (List.mem_append_left _ known)
  · by_cases here : table.position handle = position
    · subst here
      have same := (sound.bucket_present handle).symm.trans present
      rw [sound.mem_handles_iff, Option.some.inj same] at member
      exact .inl (List.mem_append_right _ member)
    · exact .inr (by omega)

theorem Covers.listed {position : Nat} {handles : List Handle} (sound : table.Sound)
    (covers : (listing position handles).Covers table)
    (past : table.buckets[position]? = none) : (sweep handles []).Covers table := by
  refine covers_sweep [] ?_
  intro handle member
  rcases covers handle member with known | later
  · exact known
  · have inside := sound.position_lt handle
    have outside := List.getElem?_eq_none_iff.mp past
    omega

theorem Follows.list {position : Nat} {handles : List Handle} {row : List (Handle × Nat)}
    (follows : (listing position handles).Follows first table)
    (present : table.buckets[position]? = some row) :
    (listing (position + 1) (handles ++ row.map Prod.fst)).Follows first table := by
  obtain ⟨rfl, known⟩ := follows
  refine ⟨rfl, ?_⟩
  rw [known, List.take_add_one, present, List.flatMap_append]
  simp

theorem Follows.listed {position : Nat} {handles : List Handle}
    (follows : (listing position handles).Follows first table)
    (past : table.buckets[position]? = none) : (sweep handles []).Follows first table := by
  obtain ⟨rfl, known⟩ := follows
  have outside := List.getElem?_eq_none_iff.mp past
  have all : handles = table.handles := by
    rw [known, List.take_of_length_le outside]
    rfl
  exact follows_sweep (by rw [all]; rfl) fun other => by rw [all]

theorem Covers.missing {handle : Handle} {rest : List Handle}
    {reports : List (Handle × SessionReport)} (sound : table.Sound)
    (covers : (closing handle (.sweep rest reports)).Covers table)
    (absent : table.find? handle = none) : (sweep rest reports).Covers table := by
  refine covers_sweep reports ?_
  intro other member
  rcases covers other member with same | listed
  · subst same
    exact (sound.find?_eq_none_iff.mp absent member).elim
  · exact listed

theorem Follows.not_missing {handle : Handle} {rest : List Handle}
    {reports : List (Handle × SessionReport)} (sound : table.Sound)
    (follows : (closing handle (.sweep rest reports)).Follows first table) :
    table.find? handle ≠ none := by
  intro absent
  exact sound.find?_eq_none_iff.mp absent ((follows.2 handle).mpr (.inl rfl))

theorem Covers.withdraw {handle : Handle} {rest : List Handle} {slot : Nat}
    {reports : List (Handle × SessionReport)} (sound : table.Sound)
    (covers : (closing handle (.sweep rest reports)).Covers table)
    (taken : table.unlink handle = some (slot, changed)) :
    (stopping handle slot (.sweep rest reports)).Covers changed := by
  intro other member
  obtain ⟨different, still⟩ := (sound.mem_handles_unlink taken other).mp member
  exact (covers other still).resolve_left different

theorem Follows.withdraw {handle : Handle} {rest : List Handle} {slot : Nat}
    {reports : List (Handle × SessionReport)} (sound : table.Sound)
    (once : first.handles.Nodup)
    (follows : (closing handle (.sweep rest reports)).Follows first table)
    (taken : table.unlink handle = some (slot, changed)) :
    (stopping handle slot (.sweep rest reports)).Follows first changed := by
  obtain ⟨found, listed⟩ := follows
  refine ⟨found, ?_⟩
  rw [found, List.nodup_append, List.nodup_cons] at once
  have fresh : handle ∉ rest := once.2.1.1
  intro other
  rw [sound.mem_handles_unlink taken, listed]
  constructor
  · rintro ⟨different, same | member⟩
    · exact (different same).elim
    · exact member
  · intro member
    refine ⟨?_, .inr member⟩
    intro same
    rw [same] at member
    exact fresh member

theorem Covers.done {handle : Handle} {rest : List Handle} {slot : Nat}
    {reports : List (Handle × SessionReport)} {report : SessionReport}
    (covers : (joining handle slot (.sweep rest reports)).Covers table) :
    (sweep rest (reports ++ [(handle, report)])).Covers table :=
  covers_sweep _ covers

theorem Follows.done {handle : Handle} {rest : List Handle} {slot : Nat}
    {reports : List (Handle × SessionReport)} {report : SessionReport}
    (follows : (joining handle slot (.sweep rest reports)).Follows first table) :
    (sweep rest (reports ++ [(handle, report)])).Follows first table := by
  obtain ⟨found, listed⟩ := follows
  refine follows_sweep ?_ listed
  rw [found]
  simp

end CallStage

/-! ### Steps of a host -/

theorem SharedHost.threads_turn_self (shared : SharedHost) (thread : Nat) (stage : CallStage) :
    (shared.turn thread stage).threads thread = stage := by
  simp [turn]

theorem SharedHost.threads_turn_other (shared : SharedHost) {thread other : Nat}
    (different : other ≠ thread) (stage : CallStage) :
    (shared.turn thread stage).threads other = shared.threads other := by
  simp [turn, different]

def notesOfOthers (thread : Nat) (notes : List (Nat × Note)) : List (Nat × Note) :=
  notes.filter fun entry => entry.1 != thread

/-- How a thread that stops all sessions stands to the table, `first` being the
table that it found. -/
structure SharedHost.Sweeps (first : HandleTable Nat) (thread : Nat) (calm : Prop)
    (shared : SharedHost) : Prop where
  covers : (shared.threads thread).Covers shared.host.table
  follows : calm → (shared.threads thread).Follows first shared.host.table

namespace SharedHost.Sweeps

variable {first : HandleTable Nat} {thread : Nat} {calm calmer : Prop}
  {shared next : SharedHost}

theorem of_same (sweeps : shared.Sweeps first thread calm)
    (stage : next.threads thread = shared.threads thread)
    (table : next.host.table = shared.host.table) (weaker : calmer → calm) :
    next.Sweeps first thread calmer := by
  refine ⟨?_, ?_⟩
  · rw [stage, table]
    exact sweeps.covers
  · intro still
    rw [stage, table]
    exact sweeps.follows (weaker still)

theorem of_turn (sweeps : shared.Sweeps first thread calm) (weaker : calmer → calm)
    {actor : Nat} {old stage : CallStage} (stands : shared.threads actor = old)
    (turned : next.threads =
      fun other => if other = actor then stage else shared.threads other)
    (table : next.host.table = shared.host.table)
    (covers : old.Covers shared.host.table → stage.Covers shared.host.table)
    (follows : old.Covers shared.host.table → old.Follows first shared.host.table →
      stage.Follows first shared.host.table) :
    next.Sweeps first thread calmer := by
  by_cases own : thread = actor
  · subst own
    have now : next.threads thread = stage := by simp [turned]
    obtain ⟨covered, followed⟩ := sweeps
    rw [stands] at covered followed
    refine ⟨?_, ?_⟩
    · rw [now, table]
      exact covers covered
    · intro still
      rw [now, table]
      exact follows covered (followed (weaker still))
  · refine sweeps.of_same ?_ table weaker
    simp [turned, own]

/-- While nobody opens a session, every step keeps a sweep on its way; and it
follows the table that it found as long as nobody else takes a session out. -/
theorem move {notes : List (Nat × Note)} (sweeps : shared.Sweeps first thread calm)
    (move : shared.Move next notes) (sound : shared.host.table.Sound)
    (once : first.handles.Nodup) (unreturned : ∀ reply, (thread, Note.returned reply) ∉ notes)
    (unopened : openedSlots notes = [])
    (weaker : calmer → calm ∧ removedSlots (notesOfOthers thread notes) = []) :
    next.Sweeps first thread calmer := by
  have calm' : calmer → calm := fun still => (weaker still).1
  cases move with
  | call actor call stands =>
      exact sweeps.of_turn calm' stands rfl rfl (fun covers => covers.elim)
        fun covers _ => covers.elim
  | refuse actor settings handle resources fault stands refused =>
      exact sweeps.of_turn calm' stands rfl rfl (fun covers => covers.elim)
        fun covers _ => covers.elim
  | register actor settings handle resources slot host stands registered =>
      cases unopened
  | find actor handle stands =>
      exact sweeps.of_turn calm' stands rfl rfl (fun covers => covers.elim)
        fun covers _ => covers.elim
  | list actor position handles row stands present =>
      exact sweeps.of_turn calm' stands rfl rfl (fun covers => covers.list sound present)
        fun _ follows => follows.list present
  | listed actor position handles stands past =>
      exact sweeps.of_turn calm' stands rfl rfl (fun covers => covers.listed sound past)
        fun _ follows => follows.listed past
  | miss actor handle errand stands absent =>
      have free := Host.withdraw_eq_none absent
      cases errand with
      | single =>
          exact sweeps.of_turn calm' stands rfl rfl (fun covers => covers.elim)
            fun covers _ => covers.elim
      | sweep rest reports =>
          exact sweeps.of_turn calm' stands rfl rfl (fun covers => covers.missing sound free)
            fun _ follows => (follows.not_missing sound free).elim
  | withdraw actor handle errand slot host stands taken =>
      obtain ⟨unlinked, _⟩ := Host.withdraw_eq_some taken
      by_cases own : actor = thread
      · subst own
        obtain ⟨covers, follows⟩ := sweeps
        rw [stands] at covers follows
        cases errand with
        | single => exact covers.elim
        | sweep rest reports =>
            refine ⟨?_, ?_⟩
            · rw [threads_turn_self]
              exact covers.withdraw sound unlinked
            · intro still
              rw [threads_turn_self]
              exact (follows (calm' still)).withdraw sound once unlinked
      · -- Somebody else takes a session out: fewer are registered, and the run is not calm.
        refine ⟨?_, ?_⟩
        · rw [threads_turn_other _ (Ne.symm own)]
          refine sweeps.covers.antitone ?_ (HandleTable.position_unlink unlinked)
          exact fun other member => ((sound.mem_handles_unlink unlinked other).mp member).2
        · intro still
          have disturbed := (weaker still).2
          simp [notesOfOthers, own, removedSlots, performedSteps, Note.step?,
            Performed.removed?] at disturbed
  | ask actor handle slot errand asked stands asks =>
      obtain ⟨_, table, threads⟩ := map_sessionAfter? asks
      have turned : (asked.turn actor (.joining handle slot errand)).threads =
          fun other =>
            if other = actor then .joining handle slot errand else shared.threads other := by
        rw [turn, threads]
      cases errand with
      | single =>
          exact sweeps.of_turn calm' stands turned table (fun covers => covers.elim)
            fun covers _ => covers.elim
      | sweep rest reports =>
          exact sweeps.of_turn calm' stands turned table (fun covers => covers)
            fun _ follows => follows
  | join actor handle slot errand report stands ended =>
      cases errand with
      | single =>
          exact sweeps.of_turn calm' stands rfl rfl (fun covers => covers.elim)
            fun covers _ => covers.elim
      | sweep rest reports =>
          exact sweeps.of_turn calm' stands rfl rfl (fun covers => covers.done)
            fun _ follows => follows.done
  | reply actor reply stands =>
      by_cases own : actor = thread
      · subst own
        exact (unreturned reply List.mem_cons_self).elim
      · exact sweeps.of_same (shared.threads_turn_other (Ne.symm own) _) rfl calm'
  | session slot event reached happens =>
      obtain ⟨_, table, threads⟩ := map_sessionAfter? happens
      exact sweeps.of_same (by rw [threads]) table calm'
  | configure live => exact sweeps.of_same rfl rfl calm'

end SharedHost.Sweeps

/-! ### Runs of a host -/

namespace WatchedHost

/-- A run in which a thread goes on with one call, and nobody opens a session. -/
structure Undisturbed (thread : Nat) (added : List (Nat × Note)) : Prop where
  unreturned : ∀ reply, (thread, Note.returned reply) ∉ added
  unopened : openedSlots added = []

theorem Undisturbed.of_append {thread : Nat} {earlier later : List (Nat × Note)}
    (undisturbed : Undisturbed thread (earlier ++ later)) :
    Undisturbed thread earlier ∧ Undisturbed thread later := by
  obtain ⟨unreturned, unopened⟩ := undisturbed
  rw [openedSlots_append, List.append_eq_nil_iff] at unopened
  refine ⟨⟨?_, unopened.1⟩, ⟨?_, unopened.2⟩⟩
  · exact fun reply member => unreturned reply (List.mem_append_left _ member)
  · exact fun reply member => unreturned reply (List.mem_append_right _ member)

/-- What is known of a thread that began to stop all sessions at `start`. -/
structure Stopping (start : WatchedHost) (thread : Nat) (watched : WatchedHost) : Prop where
  atomic : watched.Atomic
  sweeps : ∃ added, watched.notes = start.notes ++ added ∧
    (Undisturbed thread added →
      watched.shared.Sweeps start.shared.host.table thread
        (removedSlots (notesOfOthers thread added) = []))

theorem Stopping.after {start watched next : WatchedHost} {thread : Nat} {event : HostEvent}
    (once : start.shared.host.table.handles.Nodup) (stopping : start.Stopping thread watched)
    (happens : watched.after? event = some next) : start.Stopping thread next := by
  obtain ⟨atomic, added, noted, sweeps⟩ := stopping
  obtain ⟨notes, move, later⟩ := after?_move happens
  refine ⟨atomic.after happens, added ++ notes, ?_, ?_⟩
  · rw [later, noted, List.append_assoc]
  · intro undisturbed
    obtain ⟨before, now⟩ := undisturbed.of_append
    refine (sweeps before).move move atomic.sound once now.unreturned now.unopened ?_
    intro calm
    rw [notesOfOthers, List.filter_append, removedSlots_append,
      List.append_eq_nil_iff] at calm
    exact calm

end WatchedHost
end TraceForward
