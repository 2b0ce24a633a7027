/-
The size limit of a session.

The limit is read once, when the session is opened, and the tables of that
moment fit it: no clause asks for records that exceed it.  So nothing that the
units hold can lead to the fault that would stop a session by itself, and no
frame is larger than the limit, whatever becomes of the settings and of the
tables later.
-/

import TraceForward.Proofs.Catalog.Records
import TraceForward.Proofs.Framing.Walk
import TraceForward.Proofs.Session.Offers
import TraceForward.Proofs.Session.Order

namespace TraceForward

/-! ### Harvesters -/

namespace Harvester

/-- No clause asks for records that exceed the limit. -/
def FitsMtu (harvester : Harvester) : Prop :=
  ∀ clause, Record.sizeOf (Sizer.ofTable harvester.sizes) clause ≤ harvester.mtu

theorem FitsMtu.frameRegion_fault {harvester : Harvester} (fits : harvester.FitsMtu)
    (region : Drained) (clause size limit : Nat) :
    (harvester.frameRegion region).fault ≠ some (.exceedsMtu clause size limit) := by
  unfold frameRegion
  split
  next => nofun
  next =>
    intro stopped
    exact Nat.not_lt.mpr (fits clause) (Record.cutFrom_exceedsMtu stopped)

theorem FitsMtu.isFatal {harvester : Harvester} (fits : harvester.FitsMtu)
    (region : Drained) :
    (harvester.frameRegion region).fault.filter FramingFault.isFatal = none := by
  rw [Option.filter_eq_none_iff]
  intro fault stopped
  cases fault with
  | exceedsMtu clause size limit =>
      exact (fits.frameRegion_fault region clause size limit stopped).elim
  | unknownSize clause offset => exact Bool.false_ne_true
  | truncated offset needed available => exact Bool.false_ne_true

theorem length_le_of_frameRegion {harvester : Harvester} {region : Drained} {frame : Bytes}
    (member : frame ∈ (harvester.frameRegion region).frames) :
    frame.length ≤ harvester.mtu := by
  unfold frameRegion at member
  split at member
  next => cases member
  next => exact Record.length_le_of_cut member

theorem FitsMtu.book_fault {harvester : Harvester} (fits : harvester.FitsMtu)
    (visit : Visit) : (harvester.book visit).2.fault = harvester.fault := by
  cases visit with
  | drained region =>
      simp only [book, bookRegion, fits.isFatal region]
      cases harvester.fault <;> rfl
  | _ => rfl

theorem length_le_of_book {harvester : Harvester} {visit : Visit} {frame : Frame}
    (member : frame ∈ (harvester.book visit).1) : frame.payload.length ≤ harvester.mtu := by
  cases visit with
  | drained region =>
      obtain ⟨payload, present, rfl⟩ := List.mem_map.mp member
      exact length_le_of_frameRegion present
  | _ => cases member

theorem FitsMtu.harvestUnit_fault {harvester : Harvester} (fits : harvester.FitsMtu)
    (position : Nat) : (harvester.harvestUnit position).2.fault = harvester.fault := by
  cases present : harvester.units[position]? with
  | none => rw [harvestUnit_past present]
  | some unit =>
      have visited : FitsMtu
          { harvester with units := harvester.units.set position (visit unit).2 } := fits
      rw [harvestUnit_of_unit present, visited.book_fault]

theorem length_le_of_harvestUnit {harvester : Harvester} {position : Nat} {frame : Frame}
    (member : frame ∈ (harvester.harvestUnit position).1) :
    frame.payload.length ≤ harvester.mtu := by
  cases present : harvester.units[position]? with
  | none =>
      rw [harvestUnit_past present] at member
      cases member
  | some unit =>
      rw [harvestUnit_of_unit present] at member
      have short := length_le_of_book member
      exact short

end Harvester

/-! ### Sessions -/

namespace Session

variable {Client : Type}

/-- A session that works within a limit, and that has no fault of its own unless
the export of its tables failed. -/
structure Within (mtu : Nat) (session : Session Client) : Prop where
  limit : session.harvester.mtu = mtu
  fits : session.harvester.FitsMtu
  sound : session.harvester.fault = none
  held : ∀ frame ∈ session.held, frame.payload.length ≤ mtu
  underway : session.phase.isExport = true → session.metadata = none ∧ session.fault = none
  complete : session.metadata ≠ none → session.fault = none

theorem Within.opened {settings : Settings} {handle : Handle}
    {resources : SessionResources Client} {session : Session Client}
    (opened : ofResources settings handle resources = .ok session)
    (valid : settings.validate = .ok ()) : session.Within settings.mtu := by
  obtain ⟨fits, _, rfl⟩ := ofResources_eq_ok opened
  constructor
  · rfl
  · exact resources.catalog.sizeOf_le fits (Settings.headerSize_le_mtu valid)
  · rfl
  · intro frame member
    cases member
  · intro _
    exact ⟨rfl, rfl⟩
  · intro done
    exact (done rfl).elim

variable [BrokerClient Client] {mtu : Nat} {session next : Session Client} {moment : Moment}

theorem Within.harvester_work (within : session.Within mtu)
    (advance : session.Advance moment next) :
    next.harvester.mtu = mtu ∧ next.harvester.FitsMtu ∧ next.harvester.fault = none := by
  rcases advance.harvester_cases with
    ⟨_, same⟩ | ⟨_, position, _, _, _, same⟩ | ⟨_, _, _, _, _, same⟩
  · rw [same]
    exact ⟨within.limit, within.fits, within.sound⟩
  · rw [same]
    refine ⟨?_, ?_, ?_⟩
    · rw [Harvester.harvestUnit_mtu]
      exact within.limit
    · intro clause
      rw [Harvester.harvestUnit_sizes, Harvester.harvestUnit_mtu]
      exact within.fits clause
    · rw [within.fits.harvestUnit_fault]
      exact within.sound
  · rw [same]
    exact ⟨within.limit, within.fits, within.sound⟩

theorem Within.held_work (within : session.Within mtu) (advance : session.Advance moment next)
    (frame : Frame) (member : frame ∈ next.held) : frame.payload.length ≤ mtu := by
  rcases advance.held_cases member with before | ⟨position, taken⟩
  · exact within.held frame before
  · have short := Harvester.length_le_of_harvestUnit taken
    rw [within.limit] at short
    exact short

theorem Within.work (within : session.Within mtu) (advance : session.Advance moment next) :
    next.Within mtu := by
  obtain ⟨limit, fits, sound⟩ := within.harvester_work advance
  have held := within.held_work advance
  have underway := within.underway
  have complete := within.complete
  cases advance with
  | copyTables stands | takeDescriptor _ _ _ _ stands _ | blockDescriptor _ _ _ _ stands _
  | retryDescriptor _ _ _ stands _ =>
      rw [stands] at underway
      exact ⟨limit, fits, sound, held, fun _ => underway rfl, complete⟩
  | completeExport done stands =>
      rw [stands] at underway
      exact ⟨limit, fits, sound, held, nofun, fun _ => (underway rfl).2⟩
  | rejectDescriptor _ _ _ _ _ stands _ | abandonDescriptor _ _ _ stands _ =>
      rw [stands] at underway
      exact ⟨limit, fits, sound, held, nofun, fun done => (done (underway rfl).1).elim⟩
  | endFaultedCycle pending fault stands first faulted =>
      rw [within.sound] at faulted
      cases faulted
  | rest stands => exact within
  | _ => exact ⟨limit, fits, sound, held, nofun, complete⟩

theorem Within.after {event : SessionEvent} (within : session.Within mtu)
    (happens : session.after? event = some next) : next.Within mtu := by
  rcases after?_cases happens with
    ⟨moment, rfl, advance⟩ | ⟨unit, change, rfl⟩ | ⟨catalog, rfl⟩ | ⟨rfl, free, rfl⟩
  · exact within.work advance
  all_goals
    exact ⟨within.limit, within.fits, within.sound, within.held, within.underway,
      within.complete⟩

/-- No step of a worker that has exported its tables raises the exit flag. -/
theorem Within.exit_work (within : session.Within mtu) (advance : session.Advance moment next)
    (exported : session.metadata ≠ none) (unasked : session.exit = false) :
    next.exit = false := by
  cases advance with
  | rejectDescriptor done next rest reason publisher stands offered =>
      have underway := within.underway
      rw [stands] at underway
      exact (exported (underway rfl).1).elim
  | abandonDescriptor done next rest stands asked =>
      rw [asked] at unasked
      cases unasked
  | endFaultedCycle pending fault stands first faulted =>
      rw [within.sound] at faulted
      cases faulted
  | _ => exact unasked

/-! ### Messages -/

/-- The trace messages handed over since the log showed these calls are within
the limit. -/
def HandedWithin {Client : Type} (log : Client → List BrokerCall) (mtu : Nat)
    (before : List BrokerCall) (session : Session Client) : Prop :=
  ∃ calls, log session.publisher.broker = before ++ calls ∧
    ∀ message answer, .publish message answer ∈ calls → message.isTrace = true →
      message.payload.length ≤ mtu

theorem HandedWithin.after {log : Client → List BrokerCall} {before : List BrokerCall}
    {event : SessionEvent} (logged : BrokerClient.LoggedBy log)
    (handed : session.HandedWithin log mtu before) (within : session.Within mtu)
    (happens : session.after? event = some next) : next.HandedWithin log mtu before := by
  obtain ⟨calls, shown, small⟩ := handed
  obtain ⟨added, same, offered⟩ := after?_logged logged happens
  refine ⟨calls ++ added, ?_, ?_⟩
  · rw [same, shown, List.append_assoc]
  · intro message answer member trace
    rcases List.mem_append.mp member with old | new
    · exact small message answer old trace
    · rcases nextMessage?_cases (offered message answer new) with
        ⟨done, next, rest, stands, rfl⟩ | ⟨final, next, rest, stands, rfl⟩
      · rw [next.isTrace_message] at trace
        cases trace
      · exact within.held next (by simp [held, Batch.frames, stands])

theorem run?_within {log : Client → List BrokerCall} (logged : BrokerClient.LoggedBy log)
    {settings : Settings} {handle : Handle} {resources : SessionResources Client}
    {session final : Session Client} {events : List SessionEvent}
    (opened : ofResources settings handle resources = .ok session)
    (valid : settings.validate = .ok ()) (run : session.run? events = some final) :
    final.Within settings.mtu ∧ final.HandedWithin log settings.mtu (log resources.broker) := by
  have start := Within.opened opened valid
  have nothing : session.HandedWithin log settings.mtu (log resources.broker) := by
    obtain ⟨_, _, rfl⟩ := ofResources_eq_ok opened
    exact ⟨[], (List.append_nil _).symm, nofun⟩
  have keeps : ∀ (session : Session Client) (event : SessionEvent) (next : Session Client),
      session.Within settings.mtu ∧
          session.HandedWithin log settings.mtu (log resources.broker) →
        session.after? event = some next →
          next.Within settings.mtu ∧
            next.HandedWithin log settings.mtu (log resources.broker) := by
    rintro session event next ⟨within, handed⟩ happens
    exact ⟨within.after happens, handed.after logged within happens⟩
  exact run?_induction keeps ⟨start, nothing⟩ run

end Session
end TraceForward
