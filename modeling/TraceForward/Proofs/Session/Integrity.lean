/-
What producers write is what the broker is given.

As long as producers write whole records, no byte of a unit is lost between two
switches: what was harvested from the unit, followed by what its active region
holds, is what was written to it.  And what was harvested reaches the broker in
the order of the harvest, except for what the broker turned down and for the
tail that the final cycle gave up.
-/

import TraceForward.Proofs.Catalog.Records
import TraceForward.Proofs.Session.Flow
import TraceForward.Proofs.Session.Opening

namespace TraceForward

variable {Client : Type}

def activeBytes (units : List BufferPair) (position : Nat) : Bytes :=
  match units[position]? with
  | none => []
  | some pair => pair.front.data

theorem activeBytes_of_unit {units : List BufferPair} {position : Nat} {pair : BufferPair}
    (present : units[position]? = some pair) : activeBytes units position = pair.front.data := by
  rw [activeBytes, present]

theorem activeBytes_modify {units : List BufferPair} {changed : Nat} {pair : BufferPair}
    (present : units[changed]? = some pair) (change : BufferPair → BufferPair)
    (position : Nat) :
    activeBytes (units.modify changed change) position =
      if changed = position then (change pair).front.data else activeBytes units position := by
  unfold activeBytes
  rw [List.getElem?_modify]
  by_cases same : changed = position
  · subst same
    simp [present]
  · simp [same]

theorem modify_of_absent {units : List BufferPair} {changed : Nat}
    (absent : units[changed]? = none) (change : BufferPair → BufferPair) :
    units.modify changed change = units :=
  List.modify_eq_self (List.getElem?_eq_none_iff.mp absent)

theorem fedBy_modify {units : List BufferPair} {allowed : Bytes → Prop}
    {change : BufferPair → BufferPair} (changed : Nat)
    (fed : ∀ pair ∈ units, pair.FedBy allowed)
    (keeps : ∀ pair, pair.FedBy allowed → (change pair).FedBy allowed) :
    ∀ pair ∈ units.modify changed change, pair.FedBy allowed := by
  intro pair member
  obtain ⟨position, present⟩ := List.mem_iff_getElem?.mp member
  rw [List.getElem?_modify, Option.map_eq_map, Option.map_eq_some_iff] at present
  obtain ⟨before, known, rfl⟩ := present
  have fedBefore := fed before (List.mem_of_getElem? known)
  split
  · exact keeps before fedBefore
  · exact fedBefore

/-- An event of producers that write such records only, and of units whose
drains answer for their own regions; or one that is none of theirs. -/
def SessionEvent.Keeps (allowed : Bytes → Prop) : SessionEvent → Prop
  | .write _ record => allowed record
  | .armForeignDrain _ => False
  | _ => True

namespace Observed

structure Streams (catalog : Catalog) (mtu : Nat) (start : List BufferPair)
    (observed : Observed Client) : Prop where
  sizes : observed.session.harvester.sizes = catalog.sizeTable
  mtu : observed.session.harvester.mtu = mtu
  fed : ∀ pair ∈ observed.session.harvester.units, pair.FedBy catalog.IsRecord
  stream : ∀ position,
    (observed.transcript.harvestedFrom position).flatten ++
        activeBytes observed.session.harvester.units position =
      activeBytes start position ++ observed.transcript.writtenTo position
  framingAborts : observed.session.harvester.stats.framingAborts = 0
  bytesDiscarded : observed.session.harvester.stats.bytesDiscarded = 0

variable {catalog : Catalog} {mtu : Nat} {start : List BufferPair}
  {observed next : Observed Client}

theorem Streams.visit (streams : observed.Streams catalog mtu start)
    (fits : catalog.checkMtu mtu = .ok ()) (room : Limits.headerSize ≤ mtu)
    {final : Bool} {position : Nat} {frames : List Frame}
    (stands : observed.session.phase = .harvesting final position frames)
    (inside : position < observed.session.harvester.units.length)
    (visited : next.session.harvester = (observed.session.harvester.harvestUnit position).2)
    (seen : next.transcript = observed.transcript.extendWork observed.session) :
    next.Streams catalog mtu start := by
  have present := List.getElem?_eq_getElem inside
  generalize observed.session.harvester.units[position] = pair at present
  have fed := streams.fed pair (List.mem_of_getElem? present)
  obtain ⟨records, row, all⟩ := fed.row
  have whole : ∀ record ∈ records, Record.Whole observed.session.harvester.mtu
      (Sizer.ofTable observed.session.harvester.sizes) record := by
    rw [streams.mtu, streams.sizes]
    exact fun record member => (all record member).whole fits room
  obtain ⟨moved, _, aborts, discarded⟩ :=
    Harvester.harvestUnit_clean present fed.clean row whole
  have yielded :
      next.transcript.harvested = observed.transcript.harvested ++
        (observed.session.harvester.harvestUnit position).1.map
          fun frame => (position, frame) := by
    rw [seen, Transcript.harvested_extendWork_visit observed.transcript stands]
  have written : ∀ unit,
      next.transcript.writtenTo unit = observed.transcript.writtenTo unit := by
    intro unit
    rw [seen, Transcript.writtenTo, Transcript.written_extendWork]
    rfl
  refine ⟨?_, ?_, ?_, ?_, ?_, ?_⟩
  · rw [visited, Harvester.harvestUnit_sizes, streams.sizes]
  · rw [visited, Harvester.harvestUnit_mtu, streams.mtu]
  · rw [visited, Harvester.harvestUnit_units]
    exact fedBy_modify position streams.fed fun _ fed => fed.visit
  · intro unit
    have before := streams.stream unit
    rw [visited, Harvester.harvestUnit_units, written,
      Transcript.harvestedFrom_append yielded, activeBytes_modify present, ← before]
    by_cases same : position = unit
    · subst same
      rw [if_pos rfl, if_pos rfl, List.flatten_append, List.append_assoc, moved,
        activeBytes_of_unit present]
    · rw [if_neg same, if_neg same, List.append_nil]
  · rw [visited, aborts, streams.framingAborts]
  · rw [visited, discarded, streams.bytesDiscarded]

/-- Streams depend on the units, on what the harvester counts amiss, and on what
was harvested and written. -/
theorem Streams.of_same (streams : observed.Streams catalog mtu start)
    (sizes : next.session.harvester.sizes = observed.session.harvester.sizes)
    (sameMtu : next.session.harvester.mtu = observed.session.harvester.mtu)
    (units : next.session.harvester.units = observed.session.harvester.units)
    (aborts : next.session.harvester.stats.framingAborts =
      observed.session.harvester.stats.framingAborts)
    (discarded : next.session.harvester.stats.bytesDiscarded =
      observed.session.harvester.stats.bytesDiscarded)
    (harvested : next.transcript.harvested = observed.transcript.harvested)
    (written : next.transcript.written = observed.transcript.written) :
    next.Streams catalog mtu start := by
  refine ⟨sizes.trans streams.sizes, sameMtu.trans streams.mtu, ?_, ?_,
    aborts.trans streams.framingAborts, discarded.trans streams.bytesDiscarded⟩
  · rw [units]
    exact streams.fed
  · intro position
    rw [units, Transcript.harvestedFrom, Transcript.writtenTo, harvested, written]
    exact streams.stream position

/-- A change of a unit that leaves the bytes of its active region alone. -/
theorem Streams.change (streams : observed.Streams catalog mtu start) (unit : Nat)
    {change : BufferPair → BufferPair}
    (keeps : ∀ pair, pair.FedBy catalog.IsRecord → (change pair).FedBy catalog.IsRecord)
    (silent : ∀ pair, (change pair).front.data = pair.front.data) :
    Streams catalog mtu start
      { observed with session := observed.session.modifyUnit unit change } := by
  refine ⟨streams.sizes, streams.mtu, fedBy_modify unit streams.fed keeps, ?_,
    streams.framingAborts, streams.bytesDiscarded⟩
  intro position
  have before := streams.stream position
  have same : activeBytes (observed.session.harvester.units.modify unit change) position =
      activeBytes observed.session.harvester.units position := by
    cases present : observed.session.harvester.units[unit]? with
    | none => rw [modify_of_absent present]
    | some pair =>
        rw [activeBytes_modify present, silent]
        split
        next here => rw [← here, activeBytes_of_unit present]
        next => rfl
  change _ ++ activeBytes (observed.session.harvester.units.modify unit change) position = _
  rw [same]
  exact before

/-- A record that is taken comes last in its unit, both among what was written
and among what is not harvested. -/
theorem Streams.write (streams : observed.Streams catalog mtu start) (unit : Nat)
    {record : Bytes} (isRecord : catalog.IsRecord record) :
    Streams catalog mtu start
      { session := observed.session.modifyUnit unit fun pair => (pair.write record).2
        transcript := observed.transcript.extendWrite observed.session unit record } := by
  have harvested : ∀ position,
      (observed.transcript.extendWrite observed.session unit record).harvestedFrom position =
        observed.transcript.harvestedFrom position := by
    intro position
    rw [Transcript.extendWrite_eq]
    rfl
  refine ⟨streams.sizes, streams.mtu,
    fedBy_modify unit streams.fed fun _ fed => fed.write isRecord, ?_,
    streams.framingAborts, streams.bytesDiscarded⟩
  intro position
  have before := streams.stream position
  change _ ++ activeBytes (observed.session.harvester.units.modify unit _) position = _
  rw [harvested]
  cases present : observed.session.harvester.units[unit]? with
  | none =>
      rw [modify_of_absent present, Transcript.extendWrite, present]
      exact before
  | some pair =>
      rw [activeBytes_modify present, Transcript.writtenTo_extendWrite _ present,
        ← List.append_assoc, ← before]
      by_cases same : unit = position
      · subst same
        rw [if_pos rfl, BufferPair.write_data, activeBytes_of_unit present,
          List.append_assoc]
        simp
      · simp [same]

variable [BrokerClient Client]

theorem Streams.work {moment : Moment} (streams : observed.Streams catalog mtu start)
    (fits : catalog.checkMtu mtu = .ok ()) (room : Limits.headerSize ≤ mtu)
    (advance : observed.session.Advance moment next.session)
    (seen : next.transcript = observed.transcript.extendWork observed.session) :
    next.Streams catalog mtu start := by
  have written : next.transcript.written = observed.transcript.written := by
    rw [seen, Transcript.written_extendWork]
  rcases advance.harvester_cases with
    ⟨elsewhere, same⟩ | ⟨final, position, frames, stands, inside, visited⟩ |
      ⟨final, position, frames, stands, past, ended⟩
  · have harvested : next.transcript.harvested = observed.transcript.harvested := by
      rw [seen, Transcript.harvested_extendWork elsewhere]
    refine streams.of_same ?_ ?_ ?_ ?_ ?_ harvested written
    all_goals rw [same]
  · exact streams.visit fits room stands inside visited seen
  · have absent : observed.session.harvester.units[position]? = none :=
      List.getElem?_eq_none_iff.mpr past
    have harvested : next.transcript.harvested = observed.transcript.harvested := by
      rw [seen, Transcript.harvested_extendWork_visit _ stands,
        Harvester.harvestUnit_past absent]
      exact List.append_nil _
    refine streams.of_same ?_ ?_ ?_ ?_ ?_ harvested written
    all_goals
      rw [ended]
      rfl

theorem Streams.after {event : SessionEvent} (streams : observed.Streams catalog mtu start)
    (fits : catalog.checkMtu mtu = .ok ()) (room : Limits.headerSize ≤ mtu)
    (kept : event.Keeps catalog.IsRecord) (happens : observed.after? event = some next) :
    next.Streams catalog mtu start := by
  rcases after?_cases happens with
    ⟨moment, rfl, advance, seen⟩ | ⟨unit, record, rfl, rfl⟩ |
      ⟨unit, change, ⟨rfl, rfl⟩ | ⟨rfl, rfl⟩ | ⟨rfl, rfl⟩, rfl⟩ | ⟨tables, rfl⟩ |
      ⟨rfl, _, rfl⟩
  · exact streams.work fits room advance seen
  · exact streams.write unit kept
  · exact streams.change unit (fun _ fed => fed.recordError) fun _ => rfl
  · exact streams.change unit (fun _ fed => fed.armFailedSwitch) fun _ => rfl
  · exact kept.elim
  · exact streams.of_same rfl rfl rfl rfl rfl rfl rfl
  · exact streams.of_same rfl rfl rfl rfl rfl rfl rfl

/-! ### What the broker was given -/

/-- The trace data of a run that has ended, as it was delivered: each harvested
frame was taken or turned down for good, in the order of the harvest, except for
a tail that the final cycle gave up. -/
def Delivered (observed : Observed (Recorded Client)) : Prop :=
  ∃ settled : List (Frame × Answer),
    (∀ entry ∈ settled, entry.2 ≠ .queueFull) ∧
    observed.transcript.harvested.map Prod.snd =
      settled.map Prod.fst ++ observed.transcript.givenUp ∧
    observed.session.publisher.broker.settledTraces =
      settled.map (fun entry => (entry.1.message, entry.2)) ∧
    observed.session.publisher.broker.acceptedTraces =
      (settled.filter fun entry => entry.2 == .accepted).map fun entry => entry.1.payload

omit [BrokerClient Client] in
theorem Flows.delivered {observed : Observed (Recorded Client)} (flows : observed.Flows)
    (nothingHeld : observed.session.held = []) : observed.Delivered := by
  obtain ⟨_, order, _⟩ := flows
  rw [nothingHeld, List.nil_append] at order
  unfold Delivered Recorded.acceptedTraces
  have answers : ∀ entry ∈ observed.session.publisher.broker.settledTraces,
      entry.2 ≠ .queueFull :=
    fun entry member => Recorded.settled_answer (List.mem_filter.mp member).1
  generalize observed.session.publisher.broker.settledTraces = log at order answers ⊢
  have messages :
      (observed.transcript.harvested.map Prod.snd).map Frame.message =
        log.map Prod.fst ++ observed.transcript.givenUp.map Frame.message := by
    rw [List.map_map]
    exact order
  obtain ⟨taken, left, split, first, last⟩ := List.map_eq_append_iff.mp messages
  have givenUp : left = observed.transcript.givenUp :=
    Frame.message_injective.list_map last
  have measured : taken.length = (log.map Prod.snd).length := by
    have lengths := congrArg List.length first
    simpa only [List.length_map] using lengths
  have rows : log =
      (taken.zip (log.map Prod.snd)).map fun entry => (entry.1.message, entry.2) := by
    have zipped := List.zip_of_prod first.symm (Eq.refl (log.map Prod.snd))
    rw [List.zip_map_left] at zipped
    exact zipped
  refine ⟨taken.zip (log.map Prod.snd), ?_, ?_, rows, ?_⟩
  · intro entry member
    obtain ⟨_, answered⟩ := List.of_mem_zip member
    obtain ⟨known, present, same⟩ := List.mem_map.mp answered
    rw [← same]
    exact answers known present
  · rw [List.map_fst_zip (Nat.le_of_eq measured), split, givenUp]
  · conv_lhs => rw [rows, List.filter_map, List.map_map]
    rfl

/-- What a run shows of the integrity of its streams, whose units held what
`start` holds when the session was opened. -/
structure Intact (start : List BufferPair) (observed : Observed (Recorded Client)) : Prop where
  stream : ∀ position,
    (observed.transcript.harvestedFrom position).flatten ++
        activeBytes observed.session.harvester.units position =
      activeBytes start position ++ observed.transcript.writtenTo position
  framingAborts : observed.session.report.harvest.framingAborts = 0
  bytesDiscarded : observed.session.report.harvest.bytesDiscarded = 0
  delivered : observed.session.phase = .finished → observed.Delivered

/-- Producers that write whole records have all of their bytes delivered in the
order of their writes, but for frames that the broker turned down and a tail that
the final cycle gave up. -/
theorem streams_intact {settings : Settings} {handle : Handle}
    {resources : SessionResources Client} {session : Session (Recorded Client)}
    {events : List SessionEvent} {final : Observed (Recorded Client)}
    (valid : settings.validate = .ok ())
    (opened : Session.ofResources settings handle resources.recorded = .ok session)
    (fed : ∀ unit ∈ resources.units, unit.FedBy resources.catalog.IsRecord)
    (kept : ∀ event ∈ events, event.Keeps resources.catalog.IsRecord)
    (run : Observed.run? { session } events = some final) :
    final.Intact resources.units := by
  obtain ⟨fits, _, rfl⟩ := Session.ofResources_eq_ok opened
  have room := Settings.headerSize_le_mtu valid
  have streams : final.Streams resources.catalog settings.mtu resources.units := by
    refine run?_induction ?_ ?_ run
    · intro before event after member known happens
      exact known.after fits room (kept event member) happens
    · refine ⟨rfl, rfl, fed, ?_, rfl, rfl⟩
      intro position
      exact (List.append_nil _).symm
  have flows : final.Flows := by
    refine run?_induction ?_ ?_ run
    · intro before event after _ known happens
      exact known.after happens
    · refine ⟨?_, rfl, fun _ _ => rfl⟩
      intro entry member
      cases member
  refine ⟨streams.stream, streams.framingAborts, streams.bytesDiscarded, ?_⟩
  intro ended
  refine flows.delivered ?_
  rw [Session.held, ended]

theorem streams_intact_sample :
    (∀ unit ∈ SessionResources.sample.units,
        unit.FedBy SessionResources.sample.catalog.IsRecord) ∧
      (∀ event ∈ SessionEvent.sample,
        event.Keeps SessionResources.sample.catalog.IsRecord) ∧
      ∃ session final,
        Session.ofResources {} ⟨1⟩ SessionResources.sample.recorded = .ok session ∧
        Observed.run? { session } SessionEvent.sample = some final ∧
        final.session.phase = .finished ∧ final.Intact SessionResources.sample.units := by
  have isRecord : ∀ fill : UInt8,
      SessionResources.sample.catalog.IsRecord [1, 0, 0, 0, fill, fill, fill, fill] := by
    intro fill
    exact .inr ⟨1, _, [fill, fill, fill, fill], rfl, by decide, rfl, rfl⟩
  have fed : ∀ unit ∈ SessionResources.sample.units,
      unit.FedBy SessionResources.sample.catalog.IsRecord := by
    intro unit member
    rw [List.mem_singleton.mp member]
    refine ⟨⟨nofun, rfl, rfl⟩, [[1, 0, 0, 0, 7, 7, 7, 7]], rfl, ?_⟩
    intro record present
    rw [List.mem_singleton.mp present]
    exact isRecord 7
  have kept : ∀ event ∈ SessionEvent.sample,
      event.Keeps SessionResources.sample.catalog.IsRecord := by
    intro event member
    simp only [SessionEvent.sample, List.mem_append, List.mem_replicate, List.mem_cons,
      List.not_mem_nil, or_false] at member
    rcases member with (((⟨_, rfl⟩ | rfl | rfl) | ⟨_, rfl⟩) | rfl) | ⟨_, rfl⟩
    · trivial
    · exact isRecord 8
    · trivial
    · trivial
    · trivial
    · trivial
  obtain ⟨session, final, opened, run, ended⟩ := Session.sample_ends
  exact ⟨fed, kept, session, final, opened, run, ended,
    streams_intact (by decide) opened fed kept run⟩

end Observed
end TraceForward
