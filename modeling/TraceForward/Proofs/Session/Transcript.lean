/-
Runs of a session as they look from outside.

A transcript gathers what a run shows besides the calls of the broker: what
producers wrote, what was harvested, what was given up, and which tables were
copied.  Observing a session changes nothing about it, so an invariant of all
observed runs is a fact about all runs.
-/

import TraceForward.Proofs.Session.Transition

namespace TraceForward

/-- What a run has shown so far. -/
structure Transcript where
  /-- The records that producers could write, with the positions of their units. -/
  written : List (Nat × Bytes) := []
  /-- The frames taken out of the units, with the positions of their units. -/
  harvested : List (Nat × Frame) := []
  givenUp : List Frame := []
  exported : Option Catalog := none

namespace Transcript

variable {Client : Type}

def extendWork (transcript : Transcript) (session : Session Client) : Transcript :=
  match session.phase with
  | .starting => { transcript with exported := some session.catalog }
  | .harvesting _ position _ =>
      let frames := (session.harvester.harvestUnit position).1
      { transcript with
        harvested := transcript.harvested ++ frames.map fun frame => (position, frame) }
  | .publishing true (.ended pending) =>
      { transcript with givenUp := transcript.givenUp ++ pending }
  | _ => transcript

def extendWrite (transcript : Transcript) (session : Session Client) (unit : Nat)
    (record : Bytes) : Transcript :=
  match session.harvester.units[unit]? with
  | none => transcript
  | some pair =>
      if (pair.write record).1 then
        { transcript with written := transcript.written ++ [(unit, record)] }
      else
        transcript

theorem extendWrite_eq (transcript : Transcript) (session : Session Client) (unit : Nat)
    (record : Bytes) :
    transcript.extendWrite session unit record =
      { transcript with written := (transcript.extendWrite session unit record).written } := by
  unfold extendWrite
  split
  · rfl
  · split
    · rfl
    · rfl

theorem harvested_extendWork {transcript : Transcript} {session : Session Client}
    (elsewhere : ∀ final position frames, session.phase ≠ .harvesting final position frames) :
    (transcript.extendWork session).harvested = transcript.harvested := by
  unfold extendWork
  split
  · rfl
  next final position frames stands => exact (elsewhere _ _ _ stands).elim
  · rfl
  · rfl

theorem harvested_extendWork_visit (transcript : Transcript) {session : Session Client}
    {final : Bool} {position : Nat} {frames : List Frame}
    (stands : session.phase = .harvesting final position frames) :
    (transcript.extendWork session).harvested =
      transcript.harvested ++
        (session.harvester.harvestUnit position).1.map fun frame => (position, frame) := by
  simp only [extendWork, stands]

theorem written_extendWork (transcript : Transcript) (session : Session Client) :
    (transcript.extendWork session).written = transcript.written := by
  unfold extendWork
  split <;> rfl

def extend (transcript : Transcript) (session : Session Client) : SessionEvent → Transcript
  | .work _ => transcript.extendWork session
  | .write unit record => transcript.extendWrite session unit record
  | _ => transcript

def writtenTo (transcript : Transcript) (unit : Nat) : Bytes :=
  (transcript.written.filter fun entry => entry.1 == unit).flatMap Prod.snd

def harvestedFrom (transcript : Transcript) (unit : Nat) : List Bytes :=
  (transcript.harvested.filter fun entry => entry.1 == unit).map fun entry => entry.2.payload

theorem writtenTo_extendWrite (transcript : Transcript) {session : Session Client}
    {unit : Nat} {record : Bytes} {pair : BufferPair}
    (present : session.harvester.units[unit]? = some pair) (position : Nat) :
    (transcript.extendWrite session unit record).writtenTo position =
      transcript.writtenTo position ++
        (if unit = position ∧ (pair.write record).1 = true then record else []) := by
  unfold extendWrite writtenTo
  rw [present]
  cases taken : (pair.write record).1 with
  | false => simp [taken]
  | true =>
      by_cases same : unit = position
      · simp [taken, same, List.filter_append]
      · simp [taken, same, List.filter_append]

theorem harvestedFrom_append {transcript changed : Transcript} {unit : Nat}
    {frames : List Frame}
    (yielded : changed.harvested =
      transcript.harvested ++ frames.map fun frame => (unit, frame)) (position : Nat) :
    changed.harvestedFrom position =
      transcript.harvestedFrom position ++
        (if unit = position then frames.map Frame.payload else []) := by
  have chosen :
      ((frames.map fun frame => (unit, frame)).filter fun entry => entry.1 == position) =
        if unit = position then frames.map fun frame => (unit, frame) else [] := by
    rw [List.filter_map]
    by_cases same : unit = position
    · rw [if_pos same, List.filter_eq_self.mpr (by simp [same])]
    · rw [if_neg same, List.filter_eq_nil_iff.mpr (by simp [same]), List.map_nil]
  unfold harvestedFrom
  rw [yielded, List.filter_append, List.map_append, chosen]
  split
  · rw [List.map_map]
    rfl
  · rfl

end Transcript

/-- A session and what its run has shown so far. -/
structure Observed (Client : Type) where
  session : Session Client
  transcript : Transcript := {}

namespace Observed

variable {Client : Type} [BrokerClient Client]

def after? (observed : Observed Client) (event : SessionEvent) : Option (Observed Client) :=
  (observed.session.after? event).map fun session =>
    { session, transcript := observed.transcript.extend observed.session event }

def run? (observed : Observed Client) : List SessionEvent → Option (Observed Client)
  | [] => some observed
  | event :: rest => observed.after? event >>= fun observed => observed.run? rest

theorem after?_eq_some {observed next : Observed Client} {event : SessionEvent}
    (happens : observed.after? event = some next) :
    ∃ session, observed.session.after? event = some session ∧
      next = { session, transcript := observed.transcript.extend observed.session event } := by
  rw [after?, Option.map_eq_some_iff] at happens
  obtain ⟨session, reached, rfl⟩ := happens
  exact ⟨session, reached, rfl⟩

theorem map_session_run? (observed : Observed Client) (events : List SessionEvent) :
    (observed.run? events).map Observed.session = observed.session.run? events := by
  induction events generalizing observed with
  | nil => rfl
  | cons event rest ih =>
      simp only [run?, Session.run?, after?]
      cases observed.session.after? event with
      | none => rfl
      | some session => exact ih _

theorem exists_run? {session final : Session Client} {events : List SessionEvent}
    (run : session.run? events = some final) :
    ∃ transcript, Observed.run? { session } events = some { session := final, transcript } := by
  have observed := map_session_run? { session } events
  rw [run, Option.map_eq_some_iff] at observed
  obtain ⟨⟨reached, transcript⟩, observedRun, rfl⟩ := observed
  exact ⟨transcript, observedRun⟩

theorem run?_induction {Holds : Observed Client → Prop} {events : List SessionEvent}
    (keeps : ∀ observed event next, event ∈ events → Holds observed →
      observed.after? event = some next → Holds next)
    {observed final : Observed Client}
    (start : Holds observed) (run : observed.run? events = some final) : Holds final := by
  induction events generalizing observed with
  | nil =>
      cases run
      exact start
  | cons event rest ih =>
      simp only [run?, Option.bind_eq_bind, Option.bind_eq_some_iff] at run
      obtain ⟨next, happens, later⟩ := run
      have known := keeps observed event next List.mem_cons_self start happens
      refine ih ?_ known later
      intro before other after member
      exact keeps before other after (List.mem_cons_of_mem _ member)

/-- The ways in which an event changes an observed session: a step of the
worker, a write, another change of a unit, new tables, or a request to stop. -/
theorem after?_cases {observed next : Observed Client} {event : SessionEvent}
    (happens : observed.after? event = some next) :
    (∃ moment, event = .work moment ∧
      observed.session.Advance moment next.session ∧
      next.transcript = observed.transcript.extendWork observed.session) ∨
    (∃ unit record, event = .write unit record ∧
      next =
        { session := observed.session.modifyUnit unit fun pair => (pair.write record).2
          transcript := observed.transcript.extendWrite observed.session unit record }) ∨
    (∃ unit change,
      ((event = .recordError unit ∧ change = BufferPair.recordError) ∨
        (event = .armFailedSwitch unit ∧ change = BufferPair.armFailedSwitch) ∨
        (event = .armForeignDrain unit ∧ change = BufferPair.armForeignDrain)) ∧
      next = { observed with session := observed.session.modifyUnit unit change }) ∨
    (∃ catalog, next = { observed with session := { observed.session with catalog } }) ∨
    (event = .requestStop ∧ observed.session.lockHeld = false ∧
      next = { observed with session := observed.session.requestStop }) := by
  obtain ⟨session, reached, rfl⟩ := after?_eq_some happens
  cases event with
  | work moment =>
      cases reached
      exact .inl ⟨moment, rfl, Session.step_advance _ _, rfl⟩
  | write unit record =>
      cases reached
      exact .inr (.inl ⟨unit, record, rfl, rfl⟩)
  | recordError unit =>
      cases reached
      exact .inr (.inr (.inl ⟨unit, _, .inl ⟨rfl, rfl⟩, rfl⟩))
  | armFailedSwitch unit =>
      cases reached
      exact .inr (.inr (.inl ⟨unit, _, .inr (.inl ⟨rfl, rfl⟩), rfl⟩))
  | armForeignDrain unit =>
      cases reached
      exact .inr (.inr (.inl ⟨unit, _, .inr (.inr ⟨rfl, rfl⟩), rfl⟩))
  | addFormat format =>
      cases reached
      exact .inr (.inr (.inr (.inl ⟨_, rfl⟩)))
  | addClause clause =>
      cases reached
      exact .inr (.inr (.inr (.inl ⟨_, rfl⟩)))
  | requestStop =>
      simp only [Session.after?] at reached
      split at reached
      · cases reached
      next free =>
        cases reached
        exact .inr (.inr (.inr (.inr ⟨rfl, by simpa using free, rfl⟩)))

end Observed
end TraceForward
