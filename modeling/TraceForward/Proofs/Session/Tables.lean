/-
The tables of a session.

The tables are copied twice: by the opening, for the sizes that frames are cut by,
and by the worker, for the messages that describe them.  Others may append to the
tables in between, so the second copy has grown from the first.  What both copies
hold they agree on; what was appended is described without being sized.
-/

import TraceForward.Proofs.Catalog.Growth
import TraceForward.Proofs.Catalog.Records
import TraceForward.Proofs.Session.Accounts
import TraceForward.Proofs.Session.Offers

namespace TraceForward

variable {Client : Type} [BrokerClient Client]

namespace Session

variable {session next : Session Client}

theorem Advance.catalog {moment : Moment} (advance : session.Advance moment next) :
    next.catalog = session.catalog := by
  cases advance with
  | _ => rfl

theorem catalog_after {event : SessionEvent} (happens : session.after? event = some next) :
    session.catalog.Grows next.catalog := by
  cases event with
  | work moment =>
      cases happens
      rw [(session.step_advance moment).catalog]
      exact .refl _
  | addFormat format =>
      cases happens
      exact .addFormat _ format
  | addClause clause =>
      cases happens
      exact .addClause _ clause
  | requestStop =>
      simp only [after?] at happens
      split at happens
      · cases happens
      · cases happens
        exact .refl _
  | _ =>
      cases happens
      exact .refl _

theorem sizes_after {event : SessionEvent} (happens : session.after? event = some next) :
    next.harvester.sizes = session.harvester.sizes := by
  rcases after?_cases happens with
    ⟨moment, rfl, advance⟩ | ⟨unit, change, rfl⟩ | ⟨catalog, rfl⟩ | ⟨rfl, free, rfl⟩
  · rcases advance.harvester_cases with
      ⟨_, same⟩ | ⟨_, position, _, _, _, same⟩ | ⟨_, _, _, _, _, same⟩
    · rw [same]
    · rw [same, Harvester.harvestUnit_sizes]
    · rw [same]
      rfl
  · rfl
  · rfl
  · rfl

end Session

omit [BrokerClient Client] in
theorem Transcript.exported_extend (transcript : Transcript) (session : Session Client)
    (event : SessionEvent) :
    (transcript.extend session event).exported = transcript.exported ∨
      session.phase = .starting ∧
        (transcript.extend session event).exported = some session.catalog := by
  cases event with
  | work moment =>
      simp only [extend, extendWork]
      split
      next stands => exact .inr ⟨stands, rfl⟩
      next => exact .inl rfl
      next => exact .inl rfl
      next => exact .inl rfl
  | write unit record =>
      refine .inl ?_
      rw [extend, extendWrite_eq]
  | _ => exact .inl rfl

/-! ### The two copies -/

namespace Observed

/-- The sizes are those of the tables of the opening, and the worker copies tables
that have grown from these. -/
structure Follows (tables : Catalog) (observed : Observed Client) : Prop where
  sizes : observed.session.harvester.sizes = tables.sizeTable
  grows : tables.Grows observed.session.catalog
  copied : ∀ copy, observed.transcript.exported = some copy → tables.Grows copy

omit [BrokerClient Client] in
theorem Follows.opened {settings : Settings} {handle : Handle}
    {resources : SessionResources Client} {session : Session Client}
    (opened : Session.ofResources settings handle resources = .ok session) :
    Follows resources.catalog { session } := by
  obtain ⟨_, _, rfl⟩ := Session.ofResources_eq_ok opened
  exact ⟨rfl, .refl _, nofun⟩

theorem Follows.after {tables : Catalog} {observed next : Observed Client}
    {event : SessionEvent} (follows : observed.Follows tables)
    (happens : observed.after? event = some next) : next.Follows tables := by
  obtain ⟨session, reached, rfl⟩ := after?_eq_some happens
  refine ⟨(Session.sizes_after reached).trans follows.sizes,
    follows.grows.trans (Session.catalog_after reached), ?_⟩
  intro copy copied
  rcases observed.transcript.exported_extend observed.session event with same | ⟨_, taken⟩
  · exact follows.copied copy (same.symm.trans copied)
  · obtain rfl := Option.some.inj (taken.symm.trans copied)
    exact follows.grows

/-! ### What is handed over -/

def Describes (observed : Observed (Recorded Client)) : Prop :=
  ∀ message answer, .publish message answer ∈ observed.session.publisher.broker.calls →
    message.isTrace = false →
      ∃ copy, observed.transcript.exported = some copy ∧
        ∃ descriptor ∈ copy.descriptors, message = descriptor.frame.message

theorem Describes.after {observed next : Observed (Recorded Client)} {event : SessionEvent}
    (describes : observed.Describes) (exports : observed.Exports) (flows : observed.Flows)
    (happens : observed.after? event = some next) : next.Describes := by
  obtain ⟨session, reached, rfl⟩ := after?_eq_some happens
  obtain ⟨added, same, due⟩ := Session.after?_logged Recorded.loggedBy_calls reached
  have kept : ∀ copy, observed.transcript.exported = some copy →
      (observed.transcript.extend observed.session event).exported = some copy := by
    intro copy copied
    rcases observed.transcript.exported_extend observed.session event with kept | ⟨stands, _⟩
    · exact kept.trans copied
    · simp only [Exports, stands] at exports
      rw [exports.1] at copied
      cases copied
  intro message answer member other
  rw [same] at member
  rcases List.mem_append.mp member with old | new
  · obtain ⟨copy, copied, descriptor, present, named⟩ := describes message answer old other
    exact ⟨copy, kept copy copied, descriptor, present, named⟩
  · rcases Session.nextMessage?_cases (due message answer new) with
      ⟨done, descriptor, rest, stands, rfl⟩ | ⟨final, frame, rest, stands, rfl⟩
    · simp only [Exports, stands] at exports
      obtain ⟨copy, sent, copied, split, _⟩ := exports
      refine ⟨copy, kept copy copied, descriptor, ?_, rfl⟩
      rw [split]
      exact List.mem_append_right _ List.mem_cons_self
    · rw [flows.held_trace (by simp [Session.held, Batch.frames, stands])] at other
      cases other

omit [BrokerClient Client] in
theorem Exports.exportOver {observed : Observed (Recorded Client)} (exports : observed.Exports)
    (past : observed.session.phase.isExport = false) : observed.ExportOver := by
  unfold Exports at exports
  split at exports
  next stands =>
    rw [stands] at past
    cases past
  next stands =>
    rw [stands] at past
    cases past
  next stands =>
    rw [stands] at past
    cases past
  next => exact exports

omit [BrokerClient Client] in
theorem Exports.isExport_of_metadata {observed : Observed (Recorded Client)}
    (exports : observed.Exports) (done : observed.session.metadata ≠ none) :
    observed.session.phase.isExport = false := by
  unfold Exports at exports
  split at exports
  next => exact (done exports.2.2.1).elim
  next =>
    obtain ⟨_, _, _, _, _, _, unfinished, _⟩ := exports
    exact (done unfinished).elim
  next =>
    obtain ⟨_, _, _, _, _, _, unfinished, _⟩ := exports
    exact (done unfinished).elim
  next starting exporting blocked =>
    cases stands : observed.session.phase with
    | starting => exact (starting stands).elim
    | exporting done rest => exact (exporting done rest stands).elim
    | exportBlocked done next rest => exact (blocked done next rest stands).elim
    | _ => rfl

omit [BrokerClient Client] in
theorem mem_calls_of_taken {observed : Observed (Recorded Client)} {sent : List Descriptor}
    (log : Descriptor.taken sent ⊆ observed.session.publisher.broker.settledDescriptors)
    {descriptor : Descriptor} (member : descriptor ∈ sent) :
    .publish descriptor.frame.message .accepted ∈ observed.session.publisher.broker.calls := by
  have settled := log (List.mem_map_of_mem member)
  have entry := (List.mem_filter.mp settled).1
  obtain ⟨call, present, last⟩ := List.mem_filterMap.mp entry
  rcases call with ⟨message, _ | _ | reason⟩ | ⟨milliseconds, served⟩ | milliseconds
  all_goals
    cases last
  exact present

structure Accords (tables : Catalog) (observed : Observed (Recorded Client)) : Prop where
  flows : observed.Flows
  exports : observed.Exports
  follows : observed.Follows tables
  describes : observed.Describes

omit [BrokerClient Client] in
theorem Accords.opened {settings : Settings} {handle : Handle}
    {resources : SessionResources Client} {session : Session (Recorded Client)}
    (opened : Session.ofResources settings handle resources.recorded = .ok session) :
    Accords resources.catalog { session } := by
  have ledger := Ledger.opened opened
  have follows := Follows.opened opened
  obtain ⟨_, _, rfl⟩ := Session.ofResources_eq_ok opened
  exact ⟨ledger.flows, ledger.exports, follows, nofun⟩

theorem Accords.after {tables : Catalog} {observed next : Observed (Recorded Client)}
    {event : SessionEvent} (accords : observed.Accords tables)
    (happens : observed.after? event = some next) : next.Accords tables := by
  constructor
  · exact accords.flows.after happens
  · exact accords.exports.after accords.flows happens
  · exact accords.follows.after happens
  · exact accords.describes.after accords.exports accords.flows happens

theorem Accords.run {tables : Catalog} {observed final : Observed (Recorded Client)}
    {events : List SessionEvent} (accords : observed.Accords tables)
    (run : observed.run? events = some final) : final.Accords tables :=
  run?_induction (fun _ _ _ _ known happens => known.after happens) accords run

/-! ### How the two copies agree -/

/-- How the messages about the tables agree with the sizes that frames are cut by,
in a session with this limit that was opened with these tables. -/
structure TablesAgree (tables : Catalog) (mtu : Nat) (observed : Observed (Recorded Client)) :
    Prop where
  /-- Whatever has a size is a clause of the tables, of this size. -/
  sized : ∀ id, Sizer.ofTable observed.session.harvester.sizes id ≠ 0 →
    ∃ clause, tables.clause? id = some clause ∧
      clause.size = Sizer.ofTable observed.session.harvester.sizes id ∧ clause.size ≤ mtu
  /-- A complete export has published every clause of the tables that has a probe. -/
  exported : observed.session.metadata ≠ none → ∀ id clause probe,
    tables.clause? id = some clause → clause.probe = some probe →
      .publish (Catalog.describe id clause probe).frame.message .accepted ∈
          observed.session.publisher.broker.calls ∧
        Sizer.ofTable observed.session.harvester.sizes id = clause.size
  /-- An export that has ended otherwise failed at a descriptor of tables that have
  grown from these, and has published those before it. -/
  failed : observed.session.phase.isExport = false → observed.session.metadata = none →
    ∃ copy sent next rest, observed.transcript.exported = some copy ∧ tables.Grows copy ∧
      copy.descriptors = sent ++ next :: rest ∧ observed.ExportFailed sent next
  /-- A message about a clause describes one of the copied tables.  If the tables
  of the opening have it already, it is sized alike; if not, it has no size. -/
  published : ∀ message answer,
    .publish message answer ∈ observed.session.publisher.broker.calls →
      message.key = some Kind.clause.keyBytes →
      ∃ copy id clause probe, observed.transcript.exported = some copy ∧ tables.Grows copy ∧
        copy.clause? id = some clause ∧ clause.probe = some probe ∧
        message = (Catalog.describe id clause probe).frame.message ∧
        (id ≤ tables.clauses.length →
          Sizer.ofTable observed.session.harvester.sizes id = clause.size ∧
            clause.size ≤ mtu) ∧
        (tables.clauses.length < id →
          Sizer.ofTable observed.session.harvester.sizes id = 0)

omit [BrokerClient Client] in
theorem Follows.size_eq {tables : Catalog} {observed : Observed Client}
    (follows : observed.Follows tables) {id : Nat} {clause : Clause}
    (found : tables.clause? id = some clause) :
    Sizer.ofTable observed.session.harvester.sizes id = clause.size := by
  rw [follows.sizes, Catalog.ofTable_sizeTable, found]
  rfl

/-- Every run of an opened session keeps its tables and its sizes in agreement. -/
theorem tables_agree {settings : Settings} {handle : Handle}
    {resources : SessionResources Client} {session : Session (Recorded Client)}
    {events : List SessionEvent} {final : Observed (Recorded Client)}
    (opened : Session.ofResources settings handle resources.recorded = .ok session)
    (run : Observed.run? { session } events = some final) :
    final.TablesAgree resources.catalog settings.mtu := by
  obtain ⟨flows, exports, follows, describes⟩ := (Accords.opened opened).run run
  obtain ⟨fits, _, _⟩ := Session.ofResources_eq_ok opened
  constructor
  · intro id sized
    rw [follows.sizes, Catalog.ofTable_sizeTable] at sized ⊢
    cases found : resources.catalog.clause? id with
    | none =>
        rw [found] at sized
        exact (sized rfl).elim
    | some clause => exact ⟨clause, rfl, rfl, Catalog.size_le_of_checkMtu fits found⟩
  · intro done id clause probe found bound
    obtain ⟨copy, copied, ⟨_, log, _⟩ | ⟨_, _, _, _, unfinished, _⟩⟩ :=
      exports.exportOver (exports.isExport_of_metadata done)
    · have member : Catalog.describe id clause probe ∈ copy.descriptors :=
        (follows.copied copy copied).mem_descriptors
          (Catalog.mem_descriptors_iff.mpr (.inr ⟨id, clause, probe, found, bound, .inr rfl⟩))
      refine ⟨mem_calls_of_taken ?_ member, follows.size_eq found⟩
      rw [log]
      exact List.Subset.refl _
    · exact (done unfinished).elim
  · intro past unfinished
    obtain ⟨copy, copied, ⟨completed, _⟩ | ⟨sent, next, rest, split, failed⟩⟩ := exports.exportOver past
    · rw [unfinished] at completed
      cases completed
    · exact ⟨copy, sent, next, rest, copied, follows.copied copy copied, split, failed⟩
  · intro message answer member keyed
    have other : message.isTrace = false := by
      rw [Message.isTrace, keyed]
      decide +kernel
    obtain ⟨copy, copied, descriptor, present, rfl⟩ := describes message answer member other
    have grows := follows.copied copy copied
    have kind : descriptor.kind = .clause := Kind.keyBytes_injective (Option.some.inj keyed)
    rcases Catalog.mem_descriptors_iff.mp present with
      ⟨position, text, _, rfl⟩ | ⟨id, clause, probe, found, bound, rfl | rfl⟩
    · cases kind
    · cases kind
    · refine ⟨copy, id, clause, probe, copied, grows, found, bound, rfl, ?_, ?_⟩
      · intro old
        rw [grows.clause?_of_le old] at found
        exact ⟨follows.size_eq found, Catalog.size_le_of_checkMtu fits found⟩
      · intro new
        rw [follows.sizes, Catalog.ofTable_sizeTable, Catalog.clause?_eq_none new]
        rfl

theorem tables_agree_sample :
    ∃ session final,
      Session.ofResources {} ⟨1⟩ SessionResources.sample.recorded = .ok session ∧
      Observed.run? { session } SessionEvent.sample = some final ∧
      final.TablesAgree SessionResources.sample.catalog ({} : Settings).mtu := by
  obtain ⟨session, final, opened, run, _⟩ := Session.sample_ends
  exact ⟨session, final, opened, run, tables_agree opened run⟩

end Observed

/-! ### Exports that fail, and tables that grow in between -/

def Clause.sample : Clause :=
  { probe := some { id := 5, provider := "p", moduleName := "m", function := "f", name := "n" }
    userArg := 0
    size := 8
    actions := [] }

def Clause.large : Clause :=
  { Clause.sample with size := 100 }

def SessionResources.refused : SessionResources :=
  { units := [{ capacity := 64, front := { id := .own 0, data := [1, 0, 0, 0, 7, 7, 7, 7] } }]
    catalog := { clauses := [some .sample] }
    broker := { script := [.fatal "no"] }
    topic := default }

def SessionResources.bare : SessionResources :=
  { units := [], catalog := {}, broker := {}, topic := default }

namespace Session

/-- Its worker ends without the message about the clause, and hands over the
record in its final cycle. -/
theorem refused_ends :
    ∃ session final,
      ofResources {} ⟨1⟩ SessionResources.refused.recorded = .ok session ∧
      Observed.run? { session } (List.replicate 9 (.work {})) = some final ∧
      final.session.phase = .finished ∧
      ∃ probe, Clause.sample.probe = some probe ∧
        final.session.publisher.broker.calls =
          [.publish (Descriptor.probe probe).frame.message (.fatal "no"),
            .publish (Frame.trace [1, 0, 0, 0, 7, 7, 7, 7]).message .accepted,
            .pump 0 1, .flush Limits.defaultFlushMs] := by
  have ends :
      (match ofResources {} ⟨1⟩ SessionResources.refused.recorded with
        | .ok session =>
            (Observed.run? { session } (List.replicate 9 (.work {}))).map fun final =>
              (final.session.phase, final.session.publisher.broker.calls)
        | .error _ => none) =
        some (.finished,
          [.publish
              (Descriptor.probe
                { id := 5, provider := "p", moduleName := "m", function := "f"
                  name := "n" }).frame.message (.fatal "no"),
            .publish (Frame.trace [1, 0, 0, 0, 7, 7, 7, 7]).message .accepted,
            .pump 0 1, .flush Limits.defaultFlushMs]) := by
    decide +kernel
  split at ends
  next session opened =>
    obtain ⟨final, run, ended⟩ := Option.map_eq_some_iff.mp ends
    obtain ⟨phase, calls⟩ := Prod.mk.inj ended
    exact ⟨session, final, opened, run, phase, _, rfl, calls⟩
  next => cases ends

/-- A clause with records above the limit is appended before the worker copies the
tables, and published. -/
theorem appended_published :
    ∃ session final,
      ofResources { mtu := 64 } ⟨1⟩ SessionResources.bare.recorded = .ok session ∧
      Observed.run? { session } (.addClause (some .large) :: List.replicate 3 (.work {})) =
        some final ∧
      final.transcript.exported = some { clauses := [some .large] } ∧
      ∃ probe, Clause.large.probe = some probe ∧
        .publish (Catalog.describe 1 .large probe).frame.message .accepted ∈
          final.session.publisher.broker.calls := by
  have ends :
      (match ofResources { mtu := 64 } ⟨1⟩ SessionResources.bare.recorded with
        | .ok session =>
            (Observed.run? { session }
              (.addClause (some .large) :: List.replicate 3 (.work {}))).map fun final =>
                (final.transcript.exported, final.session.publisher.broker.calls.getLast?)
        | .error _ => none) =
        some (some { clauses := [some .large] },
          some (.publish
            (Catalog.describe 1 .large
              { id := 5, provider := "p", moduleName := "m", function := "f"
                name := "n" }).frame.message .accepted)) := by
    decide +kernel
  split at ends
  next session opened =>
    obtain ⟨final, run, ended⟩ := Option.map_eq_some_iff.mp ends
    obtain ⟨copied, last⟩ := Prod.mk.inj ended
    exact ⟨session, final, opened, run, copied, _, rfl, List.mem_of_getLast? last⟩
  next => cases ends

end Session

namespace Observed

/-- A failed export leaves out a clause that has a size, and a clause that is
appended in between is published with a size that frames are not cut by. -/
theorem not_every_clause_agrees :
    (¬ ∀ (settings : Settings) (handle : Handle) (resources : SessionResources)
        (session : Session (Recorded ScriptedBroker)) (events : List SessionEvent)
        (final : Observed (Recorded ScriptedBroker)),
        Session.ofResources settings handle resources.recorded = .ok session →
        Observed.run? { session } events = some final → final.session.phase = .finished →
        ∀ id clause probe, resources.catalog.clause? id = some clause →
          clause.probe = some probe →
          Sizer.ofTable final.session.harvester.sizes id ≠ 0 →
          .publish (Catalog.describe id clause probe).frame.message .accepted ∈
            final.session.publisher.broker.calls) ∧
      ¬ ∀ (settings : Settings) (handle : Handle) (resources : SessionResources)
        (session : Session (Recorded ScriptedBroker)) (events : List SessionEvent)
        (final : Observed (Recorded ScriptedBroker)),
        Session.ofResources settings handle resources.recorded = .ok session →
        Observed.run? { session } events = some final →
        ∀ copy id clause probe, final.transcript.exported = some copy →
          copy.clause? id = some clause → clause.probe = some probe →
          .publish (Catalog.describe id clause probe).frame.message .accepted ∈
            final.session.publisher.broker.calls →
          Sizer.ofTable final.session.harvester.sizes id = clause.size ∧
            clause.size ≤ settings.mtu := by
  constructor
  · intro every
    obtain ⟨session, final, opened, run, ended, probe, bound, calls⟩ := Session.refused_ends
    have follows := ((Accords.opened opened).run run).follows
    have found : SessionResources.refused.catalog.clause? 1 = some .sample := rfl
    have published := every _ _ _ session _ final opened run ended 1 .sample probe found bound
      (by rw [follows.size_eq found]; decide)
    rw [calls] at published
    have other := (Catalog.describe 1 .sample probe).isTrace_message
    simp only [List.mem_cons, BrokerCall.publish.injEq, List.not_mem_nil, reduceCtorEq, and_false,
      and_true, or_false, false_or] at published
    rw [published, (Frame.isTrace_message _).mpr rfl] at other
    cases other
  · intro every
    obtain ⟨session, final, opened, run, copied, probe, bound, published⟩ :=
      Session.appended_published
    have agrees := every _ _ _ session _ final opened run _ 1 _ probe copied rfl bound published
    exact absurd agrees.2 (by decide)

end Observed
end TraceForward
