/-
A session as the readers of its topic see it.

Whatever the units held, whatever the broker answered and whenever the session
was asked to stop, no visit yields an empty frame, so every frame that a session
gets accepted is one that a consumer hands on.  The descriptors stay behind: the
consumer passes over them for their keys.
-/

import TraceForward.Proofs.Framing.Boundaries
import TraceForward.Proofs.Framing.Sources
import TraceForward.Proofs.Session.Tables

namespace TraceForward

/-! ### No frame is empty -/

namespace Harvester

theorem frameRegion_filled {harvester : Harvester} {region : Drained} {payload : Bytes}
    (member : payload ∈ (harvester.frameRegion region).frames) : payload ≠ [] := by
  unfold frameRegion at member
  split at member
  · cases member
  · obtain ⟨before, after, split⟩ := List.append_of_mem member
    exact (Record.frame_between split).1

theorem harvestUnit_filled {harvester : Harvester} {position : Nat} {frame : Frame}
    (member : frame ∈ (harvester.harvestUnit position).1) : frame.payload ≠ [] := by
  cases present : harvester.units[position]? with
  | none =>
      rw [harvestUnit_past present] at member
      cases member
  | some unit =>
      rw [harvestUnit_of_unit present] at member
      cases outcome : (visit unit).1 with
      | drained region =>
          rw [outcome] at member
          obtain ⟨payload, framed, rfl⟩ := List.mem_map.mp member
          exact frameRegion_filled framed
      | absent | failedSwap | inconsistent =>
          rw [outcome] at member
          cases member

end Harvester

variable {Client : Type} [BrokerClient Client]

theorem Descriptor.frame_kind_ne (descriptor : Descriptor) : descriptor.frame.kind ≠ .trace := by
  cases descriptor <;> nofun

theorem Recorded.acceptedDescriptors_eq {Client : Type} (recorded : Recorded Client) :
    recorded.acceptedDescriptors =
      recorded.taken.filter fun message => !message.isTrace := by
  rw [taken_eq_settled]
  unfold acceptedDescriptors settledDescriptors
  rw [List.filter_map, List.filter_filter, List.filter_filter]
  congr 1
  apply List.filter_congr
  intro entry _
  exact Bool.and_comm _ _

namespace Observed

def Filled (observed : Observed Client) : Prop :=
  ∀ entry ∈ observed.transcript.harvested, entry.2.payload ≠ []

theorem Filled.after {observed next : Observed Client} {event : SessionEvent}
    (filled : observed.Filled) (happens : observed.after? event = some next) : next.Filled := by
  rcases after?_cases happens with
    ⟨moment, rfl, advance, seen⟩ | ⟨unit, record, rfl, rfl⟩ | ⟨unit, change, _, rfl⟩ |
      ⟨catalog, rfl⟩ | ⟨rfl, _, rfl⟩
  · unfold Filled
    rw [seen]
    by_cases harvesting : ∃ final position frames,
        observed.session.phase = .harvesting final position frames
    · obtain ⟨final, position, frames, stands⟩ := harvesting
      rw [Transcript.harvested_extendWork_visit _ stands]
      intro entry member
      rcases List.mem_append.mp member with old | new
      · exact filled entry old
      · obtain ⟨frame, yielded, rfl⟩ := List.mem_map.mp new
        exact Harvester.harvestUnit_filled yielded
    · rw [Transcript.harvested_extendWork fun final position frames stands =>
        harvesting ⟨final, position, frames, stands⟩]
      exact filled
  · unfold Filled
    rw [Transcript.extendWrite_eq]
    exact filled
  · exact filled
  · exact filled
  · exact filled

/-! ### What was accepted, and what is made of it -/

variable {observed : Observed (Recorded Client)}

omit [BrokerClient Client] in
theorem Flows.harvested_of_settled (flows : observed.Flows) {message : Message}
    {answer : Answer} (settled : (message, answer) ∈ observed.session.publisher.broker.settled)
    (trace : message.isTrace = true) :
    ∃ entry ∈ observed.transcript.harvested, entry.2.message = message := by
  have member : message ∈
      observed.transcript.harvested.map fun entry => entry.2.message := by
    rw [flows.order]
    apply List.mem_append_left
    exact List.mem_map_of_mem (f := Prod.fst) (List.mem_filter.mpr ⟨settled, trace⟩)
  exact List.mem_map.mp member

/-- What a message of the session is, and what a reader makes of it. -/
inductive TakenFor (observed : Observed (Recorded Client)) (message : Message) : Prop where
  | frame (entry : Nat × Frame) (harvested : entry ∈ observed.transcript.harvested)
      (carried : message = entry.2.message) (read : message.read = .trace entry.2.payload)
  | descriptor (copy : Catalog) (copied : observed.transcript.exported = some copy)
      (descriptor : Descriptor) (present : descriptor ∈ copy.descriptors)
      (carried : message = descriptor.frame.message)
      (read : message.read = .ignored .foreignKey)

omit [BrokerClient Client] in
theorem takenFor_of_settled {observed : Observed (Recorded Client)} (flows : observed.Flows)
    (describes : observed.Describes) (filled : observed.Filled) {message : Message}
    (member : message ∈ observed.session.publisher.broker.taken) :
    observed.TakenFor message := by
  have call := Recorded.mem_taken_iff.mp member
  rw [Recorded.taken_eq_settled] at member
  obtain ⟨settled, kept, rfl⟩ := List.mem_map.mp member
  by_cases trace : settled.1.isTrace = true
  · obtain ⟨entry, present, same⟩ := flows.harvested_of_settled (List.mem_filter.mp kept).1 trace
    refine .frame entry present same.symm ?_
    rw [← same]
    exact Frame.read_message_of_trace (flows.traces entry present) (filled entry present)
  · rw [Bool.not_eq_true] at trace
    obtain ⟨copy, copied, descriptor, present, named⟩ := describes _ _ call trace
    refine .descriptor copy copied descriptor present named ?_
    rw [named]
    exact Frame.read_message_of_other descriptor.frame_kind_ne

omit [BrokerClient Client] in
theorem TakenFor.understood {observed : Observed (Recorded Client)} {message : Message}
    (takenFor : observed.TakenFor message) (filled : observed.Filled) : message.Understood := by
  cases takenFor with
  | frame entry harvested carried read =>
      rw [carried]
      exact Frame.understood_message fun _ => filled entry harvested
  | descriptor copy copied descriptor present carried read =>
      rw [carried]
      exact Frame.understood_message fun trace => (descriptor.frame_kind_ne trace).elim

/-- How the readers of a topic take the messages that a session got accepted. -/
structure ReadBack (observed : Observed (Recorded Client)) : Prop where
  taken : ∀ message ∈ observed.session.publisher.broker.taken, observed.TakenFor message
  handedOn :
    (Intake.run {}
        (observed.session.publisher.broker.taken.map fun message =>
          .ok message.read)).forwarded =
      observed.session.publisher.broker.acceptedTraces
  /-- Everything that the session counts as published is handed on or describes
  the tables. -/
  counted :
    observed.session.publisher.stats.enqueued =
      observed.session.publisher.broker.acceptedTraces.length +
        observed.session.publisher.broker.acceptedDescriptors.length

omit [BrokerClient Client] in
theorem ReadBack.of_books {observed : Observed (Recorded Client)} (books : observed.Books)
    (flows : observed.Flows) (describes : observed.Describes) (filled : observed.Filled) :
    observed.ReadBack := by
  constructor
  · intro message member
    exact takenFor_of_settled flows describes filled member
  · rw [Recorded.acceptedTraces_eq]
    apply Intake.run_read
    intro message member
    exact (takenFor_of_settled flows describes filled member).understood filled
  · rw [books.balanced.enqueued, ← Recorded.length_taken]
    rw [Recorded.acceptedTraces_eq, Recorded.acceptedDescriptors_eq, List.length_map]
    exact List.length_eq_length_filter_add _

end Observed

/-! ### Both faces -/

structure FacesAgree : Prop where
  /-- What a session got accepted at any moment of any run is read for what it is. -/
  sessions : ∀ (Client : Type) [BrokerClient Client] (settings : Settings) (handle : Handle)
    (resources : SessionResources Client) (session : Session (Recorded Client))
    (events : List SessionEvent) (final : Observed (Recorded Client)),
    Session.ofResources settings handle resources.recorded = .ok session →
      Observed.run? { session } events = some final → final.ReadBack
  fragments : ∀ (uses : List FragmentSource.Use),
    ∀ frame ∈ FragmentSource.emitted {} uses, frame.Readable
  /-- Every buffer that a guest's stream gives out is handed on, whole. -/
  guests : ∀ (limit : Nat) (stream : ScriptedStream) (uses : List GuestStream.Use),
    ∀ frame ∈ (GuestStream.create limit stream).emitted uses, frame.Readable
  forwarded : ∀ (limit : Nat) (stream : ScriptedStream) (shutdown alive : Bool),
    ∀ frame ∈ ((GuestStream.create limit stream).forward shutdown alive).frames,
      frame.Readable

theorem faces_agree : FacesAgree := by
  constructor
  · intro Client _ settings handle resources session events final opened run
    have ledger := (Observed.Ledger.opened opened).run run
    have accords := (Observed.Accords.opened opened).run run
    have filled : final.Filled := by
      apply Observed.run?_induction (fun _ _ _ _ known happens => known.after happens) _ run
      intro entry member
      cases member
    exact .of_books ledger.books ledger.flows accords.describes filled
  · intro uses frame member
    apply FragmentSource.Sound.emitted _ member
    intro other waiting
    cases waiting
  · intro limit stream uses frame member
    apply GuestStream.Sound.emitted _ member
    intro other waiting
    cases waiting
  · intro limit stream shutdown alive frame member
    apply GuestStream.Sound.forward _ member
    intro other waiting
    cases waiting

theorem faces_agree_sample :
    ∃ session final,
      Session.ofResources {} ⟨1⟩ SessionResources.sample.recorded = .ok session ∧
      Observed.run? { session } SessionEvent.sample = some final ∧
      final.session.phase = .finished ∧ final.ReadBack := by
  obtain ⟨session, final, opened, run, ended⟩ := Session.sample_ends
  exact ⟨session, final, opened, run, ended, faces_agree.sessions _ _ _ _ _ _ _ opened run⟩

end TraceForward
