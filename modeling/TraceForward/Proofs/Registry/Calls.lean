/-
What a thread's calls come to.

A call to open, to find or to close performs one operation on the map, and its
reply is the answer to it.  A call to stop all sessions performs one operation
for each handle that it has listed.  Between its operation and its reply a
thread that closes a session waits for the account of the session it has taken
out, and nobody else can have taken out the same one.
-/

import TraceForward.Proofs.Registry.Atomic

namespace TraceForward

def notesOf (thread : Nat) (notes : List (Nat × Note)) : List Note :=
  (notes.filter fun entry => entry.1 == thread).map Prod.snd

theorem notesOf_append_self (thread : Nat) (notes : List (Nat × Note)) (added : List Note) :
    notesOf thread (notes ++ added.map fun note => (thread, note)) =
      notesOf thread notes ++ added := by
  simp [notesOf, List.filter_append, List.filter_map, Function.comp_def]

theorem notesOf_append_other {thread other : Nat} (different : other ≠ thread)
    (notes : List (Nat × Note)) (added : List Note) :
    notesOf other (notes ++ added.map fun note => (thread, note)) = notesOf other notes := by
  simp [notesOf, List.filter_append, List.filter_map, Function.comp_def, different.symm]

theorem mem_removedSlots {thread slot : Nat} {handle : Handle} {notes : List (Nat × Note)}
    (noted : Note.performed (.remove handle (some slot)) ∈ notesOf thread notes) :
    slot ∈ removedSlots notes := by
  rw [notesOf, List.mem_map] at noted
  obtain ⟨entry, kept, same⟩ := noted
  have member := List.mem_of_mem_filter kept
  refine List.mem_filterMap.mpr ⟨.remove handle (some slot), ?_, rfl⟩
  refine List.mem_filterMap.mpr ⟨entry, member, ?_⟩
  rw [same]
  rfl

/-- The session whose worker a thread waits for: to have its lock, or to end. -/
def CallStage.waitsFor? : CallStage → Option Nat
  | .stopping _ slot _ | .joining _ slot _ => some slot
  | _ => none

def Performed.ofRemoval (entry : Handle × Option Nat) : Performed :=
  .remove entry.1 entry.2

section Reports

variable (report? : Nat → Option SessionReport)

/-- A sweep that took out these sessions, where they were registered, has these
reports. -/
inductive Swept : List (Handle × Option Nat) → List (Handle × SessionReport) → Prop
  | nil : Swept [] []
  | missed {removals : List (Handle × Option Nat)} {reports : List (Handle × SessionReport)}
      (earlier : Swept removals reports) (handle : Handle) :
      Swept (removals ++ [(handle, none)]) reports
  | closed {removals : List (Handle × Option Nat)} {reports : List (Handle × SessionReport)}
      (earlier : Swept removals reports) (handle : Handle) {slot : Nat}
      {report : SessionReport} (final : report? slot = some report) :
      Swept (removals ++ [(handle, some slot)]) (reports ++ [(handle, report)])

inductive Settles : RegistryCall → List Performed → RegistryReply → Prop
  | opened (settings : Settings) (handle : Handle) (resources : SessionResources)
      (answer : Except Fault Nat) :
      Settles (.openSession handle resources) [.insert settings handle resources answer]
        (.opened answer)
  | found (handle : Handle) (answer : Option Nat) :
      Settles (.find handle) [.find handle answer] (.found answer)
  | unknown (handle : Handle) :
      Settles (.close handle) [.remove handle none] (.closed (.error (.unknownSession handle)))
  | closed (handle : Handle) (slot : Nat) (report : SessionReport)
      (final : report? slot = some report) :
      Settles (.close handle) [.remove handle (some slot)] (.closed (.ok report))
  | stoppedAll {removals : List (Handle × Option Nat)}
      {reports : List (Handle × SessionReport)} (swept : Swept report? removals reports) :
      Settles .stopAll (removals.map Performed.ofRemoval) (.stoppedAll reports)

inductive Underway : RegistryCall → List Performed → CallStage → Prop
  | opening (settings : Settings) (handle : Handle) (resources : SessionResources) :
      Underway (.openSession handle resources) [] (.opening settings handle resources)
  | finding (handle : Handle) : Underway (.find handle) [] (.finding handle)
  | listing (position : Nat) (handles : List Handle) :
      Underway .stopAll [] (.listing position handles)
  | closing (handle : Handle) : Underway (.close handle) [] (.closing handle .single)
  | stopping (handle : Handle) (slot : Nat) :
      Underway (.close handle) [.remove handle (some slot)] (.stopping handle slot .single)
  | joining (handle : Handle) (slot : Nat) :
      Underway (.close handle) [.remove handle (some slot)] (.joining handle slot .single)
  | sweepClosing {removals : List (Handle × Option Nat)}
      {reports : List (Handle × SessionReport)} (swept : Swept report? removals reports)
      (handle : Handle) (rest : List Handle) :
      Underway .stopAll (removals.map Performed.ofRemoval)
        (.closing handle (.sweep rest reports))
  | sweepStopping {removals : List (Handle × Option Nat)}
      {reports : List (Handle × SessionReport)} (swept : Swept report? removals reports)
      (handle : Handle) (slot : Nat) (rest : List Handle) :
      Underway .stopAll ((removals ++ [(handle, some slot)]).map Performed.ofRemoval)
        (.stopping handle slot (.sweep rest reports))
  | sweepJoining {removals : List (Handle × Option Nat)}
      {reports : List (Handle × SessionReport)} (swept : Swept report? removals reports)
      (handle : Handle) (slot : Nat) (rest : List Handle) :
      Underway .stopAll ((removals ++ [(handle, some slot)]).map Performed.ofRemoval)
        (.joining handle slot (.sweep rest reports))
  | returning {call : RegistryCall} {steps : List Performed} {reply : RegistryReply}
      (settles : Settles report? call steps reply) : Underway call steps (.returning reply)

inductive Conducted : List Note → Prop
  | nil : Conducted []
  | call {earlier : List Note} {call : RegistryCall} {steps : List Performed}
      {reply : RegistryReply} (before : Conducted earlier)
      (settles : Settles report? call steps reply) :
      Conducted (earlier ++ .called call :: (steps.map Note.performed ++ [.returned reply]))

inductive ThreadRecord : List Note → CallStage → Prop
  | idle {notes : List Note} (conducted : Conducted report? notes) : ThreadRecord notes .idle
  | underway {earlier : List Note} {call : RegistryCall} {steps : List Performed}
      {stage : CallStage} (conducted : Conducted report? earlier)
      (underway : Underway report? call steps stage) :
      ThreadRecord (earlier ++ .called call :: steps.map Note.performed) stage

end Reports

/-! ### Accounts stay final -/

section Kept

variable {old new : Nat → Option SessionReport}
  (kept : ∀ slot report, old slot = some report → new slot = some report)

include kept

theorem Swept.mono {removals : List (Handle × Option Nat)}
    {reports : List (Handle × SessionReport)} (swept : Swept old removals reports) :
    Swept new removals reports := by
  induction swept with
  | nil => exact .nil
  | missed _ handle ih => exact ih.missed handle
  | closed _ handle final ih => exact ih.closed handle (kept _ _ final)

theorem Settles.mono {call : RegistryCall} {steps : List Performed} {reply : RegistryReply}
    (settles : Settles old call steps reply) : Settles new call steps reply := by
  cases settles with
  | opened settings handle resources answer => exact .opened settings handle resources answer
  | found handle answer => exact .found handle answer
  | unknown handle => exact .unknown handle
  | closed handle slot report final => exact .closed handle slot report (kept _ _ final)
  | stoppedAll swept => exact .stoppedAll (swept.mono kept)

theorem Underway.mono {call : RegistryCall} {steps : List Performed} {stage : CallStage}
    (underway : Underway old call steps stage) : Underway new call steps stage := by
  cases underway with
  | opening settings handle resources => exact .opening settings handle resources
  | finding handle => exact .finding handle
  | listing position handles => exact .listing position handles
  | closing handle => exact .closing handle
  | stopping handle slot => exact .stopping handle slot
  | joining handle slot => exact .joining handle slot
  | sweepClosing swept handle rest => exact .sweepClosing (swept.mono kept) handle rest
  | sweepStopping swept handle slot rest =>
      exact .sweepStopping (swept.mono kept) handle slot rest
  | sweepJoining swept handle slot rest =>
      exact .sweepJoining (swept.mono kept) handle slot rest
  | returning settles => exact .returning (settles.mono kept)

theorem Conducted.mono {notes : List Note} (conducted : Conducted old notes) :
    Conducted new notes := by
  induction conducted with
  | nil => exact .nil
  | call _ settles ih => exact ih.call (settles.mono kept)

theorem ThreadRecord.mono {notes : List Note} {stage : CallStage}
    (record : ThreadRecord old notes stage) : ThreadRecord new notes stage := by
  cases record with
  | idle conducted => exact .idle (conducted.mono kept)
  | underway conducted underway => exact .underway (conducted.mono kept) (underway.mono kept)

end Kept

namespace SharedHost

variable {shared next : SharedHost} {notes : List (Nat × Note)}

theorem finalReport?_eq_some_iff {slot : Nat} {report : SessionReport} :
    shared.finalReport? slot = some report ↔
      ∃ hosted, shared.host.sessions[slot]? = some hosted ∧
        hosted.session.phase = .finished ∧ hosted.session.report = report := by
  simp only [finalReport?, Option.bind_eq_bind, Option.bind_eq_some_iff,
    HostedSession.hasEnded, Option.ite_none_right_eq_some, Option.some.injEq, beq_iff_eq]

theorem finalReport?_sessionAfter? {changed : Nat} {event : SessionEvent}
    (happens : shared.sessionAfter? changed event = some next) (slot : Nat)
    (report : SessionReport) (final : shared.finalReport? slot = some report) :
    next.finalReport? slot = some report := by
  obtain ⟨hosted, session, present, becomes, rfl⟩ := sessionAfter?_eq_some happens
  obtain ⟨known, there, ended, account⟩ := finalReport?_eq_some_iff.mp final
  rw [finalReport?_eq_some_iff]
  change ∃ hosted, (shared.host.sessions.modify changed _)[slot]? = some hosted ∧ _
  rw [List.getElem?_modify]
  by_cases same : changed = slot
  · subst same
    have one : hosted = known := Option.some.inj (present.symm.trans there)
    subst one
    obtain ⟨still, unchanged⟩ := Session.report_after_finished becomes ended
    refine ⟨{ hosted with session }, ?_, still, unchanged.trans account⟩
    simp [there]
  · exact ⟨known, by simp [same, there], ended, account⟩

theorem Move.finalReport? (move : shared.Move next notes) (slot : Nat)
    (report : SessionReport) (final : shared.finalReport? slot = some report) :
    next.finalReport? slot = some report := by
  cases move with
  | register thread settings handle resources opened host stands registered =>
      obtain ⟨_, _, _, session, _, sessions⟩ := Host.register_eq_ok registered
      obtain ⟨known, there, ended, account⟩ := finalReport?_eq_some_iff.mp final
      rw [finalReport?_eq_some_iff]
      refine ⟨known, ?_, ended, account⟩
      change host.sessions[slot]? = some known
      rw [sessions, List.getElem?_append_left (List.getElem?_eq_some_iff.mp there).1]
      exact there
  | withdraw thread handle errand taken host stands withdrawn =>
      obtain ⟨_, same⟩ := Host.withdraw_eq_some withdrawn
      rw [finalReport?_eq_some_iff] at final ⊢
      change ∃ hosted, host.sessions[slot]? = some hosted ∧ _
      rw [same]
      exact final
  | ask thread handle asking errand asked stands asks =>
      exact finalReport?_sessionAfter? asks slot report final
  | session changed event reached happens =>
      exact finalReport?_sessionAfter? happens slot report final
  | _ => exact final

end SharedHost

/-! ### The notes of every thread -/

section Stages

variable {report? : Nat → Option SessionReport} {notes earlier : List Note}
  {call : RegistryCall} {steps : List Performed} {step : Performed} {stage : CallStage}

theorem ThreadRecord.exists_call (record : ThreadRecord report? notes stage)
    (busy : stage ≠ .idle) :
    ∃ earlier call steps, Conducted report? earlier ∧ Underway report? call steps stage ∧
      notes = earlier ++ .called call :: steps.map Note.performed := by
  cases record with
  | idle => exact (busy rfl).elim
  | underway conducted underway => exact ⟨_, _, _, conducted, underway, rfl⟩

theorem ThreadRecord.perform {performed : List Performed} (conducted : Conducted report? earlier)
    (underway : Underway report? call (steps ++ performed) stage) :
    ThreadRecord report?
      (earlier ++ .called call :: steps.map Note.performed ++ performed.map Note.performed)
      stage := by
  have record := ThreadRecord.underway conducted underway
  rw [List.map_append] at record
  simpa only [List.append_assoc, List.cons_append] using record

theorem Underway.begin (shared : SharedHost) (call : RegistryCall) :
    Underway report? call [] (shared.begin call) := by
  cases call with
  | openSession handle resources => exact .opening _ handle resources
  | find handle => exact .finding handle
  | close handle => exact .closing handle
  | stopAll => exact .listing 0 []

theorem Underway.sweep {removals : List (Handle × Option Nat)}
    {reports : List (Handle × SessionReport)} (swept : Swept report? removals reports)
    (rest : List Handle) :
    Underway report? .stopAll (removals.map Performed.ofRemoval) (.sweep rest reports) := by
  cases rest with
  | nil => exact .returning (.stoppedAll swept)
  | cons handle rest => exact .sweepClosing swept handle rest

theorem Underway.missing {handle : Handle} {errand : Errand}
    (underway : Underway report? call steps (.closing handle errand)) :
    Underway report? call (steps ++ [.remove handle none]) (errand.missing handle) := by
  cases underway with
  | closing => exact .returning (.unknown handle)
  | sweepClosing swept handle rest =>
      have later := Underway.sweep (swept.missed handle) rest
      rw [List.map_append] at later
      exact later

theorem Underway.withdrawn {handle : Handle} {errand : Errand} (slot : Nat)
    (underway : Underway report? call steps (.closing handle errand)) :
    Underway report? call (steps ++ [.remove handle (some slot)])
      (.stopping handle slot errand) := by
  cases underway with
  | closing => exact .stopping handle slot
  | sweepClosing swept handle rest =>
      have later := Underway.sweepStopping swept handle slot rest
      rw [List.map_append] at later
      exact later

theorem Underway.removed {slot : Nat} (underway : Underway report? call steps stage)
    (waits : stage.waitsFor? = some slot) :
    ∃ handle, Performed.remove handle (some slot) ∈ steps := by
  cases underway with
  | stopping handle taken =>
      cases waits
      exact ⟨handle, List.mem_singleton_self _⟩
  | joining handle taken =>
      cases waits
      exact ⟨handle, List.mem_singleton_self _⟩
  | sweepStopping swept handle taken rest =>
      cases waits
      exact ⟨handle, List.mem_map.mpr ⟨_, List.mem_concat_self, rfl⟩⟩
  | sweepJoining swept handle taken rest =>
      cases waits
      exact ⟨handle, List.mem_map.mpr ⟨_, List.mem_concat_self, rfl⟩⟩
  | _ => cases waits

theorem Underway.asked {handle : Handle} {slot : Nat} {errand : Errand}
    (underway : Underway report? call steps (.stopping handle slot errand)) :
    Underway report? call steps (.joining handle slot errand) := by
  cases underway with
  | stopping => exact .joining handle slot
  | sweepStopping swept handle slot rest => exact .sweepJoining swept handle slot rest

theorem Underway.joined {handle : Handle} {slot : Nat} {errand : Errand}
    {report : SessionReport} (final : report? slot = some report)
    (underway : Underway report? call steps (.joining handle slot errand)) :
    Underway report? call steps (errand.done handle report) := by
  cases underway with
  | joining => exact .returning (.closed handle slot report final)
  | sweepJoining swept handle slot rest =>
      exact .sweep (swept.closed handle final) rest

end Stages

namespace WatchedHost

/-- The notes of every thread are those of calls that are over, and of the one
that it is about. -/
def Records (watched : WatchedHost) : Prop :=
  ∀ thread, ThreadRecord watched.shared.finalReport? (notesOf thread watched.notes)
    (watched.shared.threads thread)

variable {watched next : WatchedHost}

section Turns

variable {report? : Nat → Option SessionReport} {thread : Nat} {stage : CallStage}
  {threads : Nat → CallStage} {notes : List (Nat × Note)}
  (before : ∀ thread, ThreadRecord report? (notesOf thread watched.notes)
    (watched.shared.threads thread))
  (turned : threads =
    fun other => if other = thread then stage else watched.shared.threads other)

include before turned

theorem Records.turn (added : List Note)
    (noted : notes = watched.notes ++ added.map fun note => (thread, note))
    (own : ThreadRecord report? (notesOf thread watched.notes ++ added) stage) (other : Nat) :
    ThreadRecord report? (notesOf other notes) (threads other) := by
  rw [noted, turned]
  by_cases same : other = thread
  · subst same
    rw [notesOf_append_self]
    simpa using own
  · rw [notesOf_append_other same]
    simpa only [same, if_false] using before other

theorem Records.goOn {old : CallStage} (performed : List Performed)
    (noted : notes =
      watched.notes ++ (performed.map Note.performed).map fun note => (thread, note))
    (stands : watched.shared.threads thread = old) (busy : old ≠ .idle)
    (goes : ∀ call steps, Underway report? call steps old →
      Underway report? call (steps ++ performed) stage) (other : Nat) :
    ThreadRecord report? (notesOf other notes) (threads other) := by
  have record := before thread
  rw [stands] at record
  obtain ⟨earlier, call, steps, conducted, underway, same⟩ := record.exists_call busy
  refine Records.turn before turned _ noted ?_ other
  rw [same]
  exact .perform conducted (goes call steps underway)

end Turns

theorem Records.after {event : HostEvent} (records : watched.Records)
    (happens : watched.after? event = some next) : next.Records := by
  obtain ⟨notes, move, noted⟩ := after?_move happens
  obtain ⟨shared, later⟩ := next
  dsimp only at move noted
  -- A reply given earlier stays right, since the account in it was final.
  have before : ∀ thread, ThreadRecord shared.finalReport? (notesOf thread watched.notes)
      (watched.shared.threads thread) :=
    fun thread => (records thread).mono move.finalReport?
  unfold Records
  dsimp only
  cases move with
  | call thread call stands =>
      refine Records.turn before rfl [.called call] noted ?_
      have record := before thread
      rw [stands] at record
      generalize notesOf thread watched.notes = own at record ⊢
      cases record with
      | idle conducted => exact .underway conducted (.begin watched.shared call)
      | underway _ underway => cases underway
  | refuse thread settings handle resources fault stands refused =>
      refine Records.goOn before rfl [_] noted stands nofun ?_
      intro call steps underway
      cases underway
      exact .returning (.opened settings handle resources _)
  | register thread settings handle resources slot host stands registered =>
      refine Records.goOn before rfl [_] noted stands nofun ?_
      intro call steps underway
      cases underway
      exact .returning (.opened settings handle resources _)
  | find thread handle stands =>
      refine Records.goOn before rfl [_] noted stands nofun ?_
      intro call steps underway
      cases underway
      exact .returning (.found handle _)
  | list thread position handles row stands present =>
      refine Records.goOn before rfl [] noted stands nofun ?_
      intro call steps underway
      cases underway
      exact .listing _ _
  | listed thread position handles stands past =>
      refine Records.goOn before rfl [] noted stands nofun ?_
      intro call steps underway
      cases underway
      exact .sweep .nil handles
  | miss thread handle errand stands absent =>
      refine Records.goOn before rfl [_] noted stands nofun ?_
      exact fun _ _ underway => underway.missing
  | withdraw thread handle errand slot host stands taken =>
      refine Records.goOn before rfl [_] noted stands nofun ?_
      exact fun _ _ underway => underway.withdrawn slot
  | ask thread handle slot errand asked stands asks =>
      obtain ⟨_, _, threads⟩ := SharedHost.map_sessionAfter? asks
      have turned : (asked.turn thread (.joining handle slot errand)).threads =
          fun other =>
            if other = thread then .joining handle slot errand
            else watched.shared.threads other := by
        rw [SharedHost.turn, threads]
      refine Records.goOn before turned [] noted stands nofun ?_
      intro call steps underway
      rw [List.append_nil]
      exact underway.asked
  | join thread handle slot errand report stands ended =>
      refine Records.goOn before rfl [] noted stands nofun ?_
      intro call steps underway
      rw [List.append_nil]
      exact underway.joined ended
  | reply thread reply stands =>
      have record := before thread
      rw [stands] at record
      obtain ⟨earlier, call, steps, conducted, underway, same⟩ := record.exists_call nofun
      cases underway with
      | returning settles =>
          refine Records.turn before rfl [.returned reply] noted ?_
          have conductedAll := conducted.call settles
          rw [same]
          refine .idle ?_
          simpa only [List.append_assoc, List.cons_append] using conductedAll
  | session slot event reached happens =>
      obtain ⟨_, _, threads⟩ := SharedHost.map_sessionAfter? happens
      rw [noted, threads, List.append_nil]
      exact before
  | configure live =>
      rw [noted, List.append_nil]
      exact before

theorem Records.created (host : Host) : Records { shared := { host } } :=
  fun _ => .idle .nil

end WatchedHost
end TraceForward
