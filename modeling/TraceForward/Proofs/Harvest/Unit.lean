/-
One visit of the harvest to one unit.

A visit books what it gives: the frames it counts are the frames it yields, and
the bytes it counts are in those frames or given up.  A unit whose standby
region was drained before gives exactly the bytes of its active region, or none
if the switch fails, and no other unit is touched.
-/

import TraceForward.Harvest
import TraceForward.Proofs.Framing.Cut

namespace TraceForward

def payloadBytes (frames : List Frame) : Nat :=
  (frames.flatMap Frame.payload).length

@[simp]
theorem payloadBytes_append (left right : List Frame) :
    payloadBytes (left ++ right) = payloadBytes left + payloadBytes right := by
  simp [payloadBytes]

theorem payloadBytes_trace (payloads : List Bytes) :
    payloadBytes (payloads.map Frame.trace) = payloads.flatten.length := by
  rw [payloadBytes, List.flatMap_map]
  exact congrArg List.length List.flatMap_id

namespace Harvester

theorem frameRegion_flatten (harvester : Harvester) (region : Drained) :
    (harvester.frameRegion region).consumed ≤ region.data.length ∧
      (harvester.frameRegion region).frames.flatten =
        region.data.take (harvester.frameRegion region).consumed ∧
      ((harvester.frameRegion region).fault = none ↔
        (harvester.frameRegion region).consumed = region.data.length) := by
  unfold frameRegion
  split
  next empty =>
    have nothing : region.data = [] := List.isEmpty_iff.mp empty
    simp [nothing]
  next => exact Record.cut_flatten _ _ _

/-! ### What a visit leaves alone -/

@[simp]
theorem book_units (harvester : Harvester) (visit : Visit) :
    (harvester.book visit).2.units = harvester.units := by
  cases visit <;> rfl

@[simp]
theorem book_sizes (harvester : Harvester) (visit : Visit) :
    (harvester.book visit).2.sizes = harvester.sizes := by
  cases visit <;> rfl

@[simp]
theorem book_mtu (harvester : Harvester) (visit : Visit) :
    (harvester.book visit).2.mtu = harvester.mtu := by
  cases visit <;> rfl

@[simp]
theorem book_cycles (harvester : Harvester) (visit : Visit) :
    (harvester.book visit).2.stats.cycles = harvester.stats.cycles := by
  cases visit <;> rfl

theorem harvestUnit_of_unit {harvester : Harvester} {position : Nat} {unit : BufferPair}
    (present : harvester.units[position]? = some unit) :
    harvester.harvestUnit position =
      book { harvester with units := harvester.units.set position (visit unit).2 }
        (visit unit).1 := by
  unfold harvestUnit
  rw [present]

theorem harvestUnit_past {harvester : Harvester} {position : Nat}
    (absent : harvester.units[position]? = none) :
    harvester.harvestUnit position = ([], harvester) := by
  unfold harvestUnit
  rw [absent]

theorem harvestUnit_units (harvester : Harvester) (position : Nat) :
    (harvester.harvestUnit position).2.units =
      harvester.units.modify position fun unit => (visit unit).2 := by
  cases present : harvester.units[position]? with
  | none =>
      rw [harvestUnit_past present]
      rw [List.getElem?_eq_none_iff] at present
      exact (List.modify_eq_self present).symm
  | some unit =>
      have : Inhabited BufferPair := ⟨unit⟩
      rw [harvestUnit_of_unit present, book_units, List.modify_eq_set, present]
      rfl

@[simp]
theorem harvestUnit_sizes (harvester : Harvester) (position : Nat) :
    (harvester.harvestUnit position).2.sizes = harvester.sizes := by
  cases present : harvester.units[position]? with
  | none => rw [harvestUnit_past present]
  | some unit => rw [harvestUnit_of_unit present, book_sizes]

@[simp]
theorem harvestUnit_mtu (harvester : Harvester) (position : Nat) :
    (harvester.harvestUnit position).2.mtu = harvester.mtu := by
  cases present : harvester.units[position]? with
  | none => rw [harvestUnit_past present]
  | some unit => rw [harvestUnit_of_unit present, book_mtu]

@[simp]
theorem harvestUnit_cycles (harvester : Harvester) (position : Nat) :
    (harvester.harvestUnit position).2.stats.cycles = harvester.stats.cycles := by
  cases present : harvester.units[position]? with
  | none => rw [harvestUnit_past present]
  | some unit => rw [harvestUnit_of_unit present, book_cycles]

/-! ### What a visit books -/

/-- The frames of a visit carry trace data and are counted, and every byte
counted is in them or given up. -/
theorem book_stats (harvester : Harvester) (visit : Visit) :
    (∀ frame ∈ (harvester.book visit).1, frame.kind = .trace) ∧
      (harvester.book visit).2.stats.frames =
        harvester.stats.frames + (harvester.book visit).1.length ∧
      (harvester.book visit).2.stats.bytes + harvester.stats.bytesDiscarded =
        harvester.stats.bytes + payloadBytes (harvester.book visit).1 +
          (harvester.book visit).2.stats.bytesDiscarded := by
  cases visit with
  | absent => simp [book, payloadBytes]
  | failedSwap => simp [book, payloadBytes]
  | inconsistent => simp [book, payloadBytes]
  | drained region =>
      obtain ⟨within, frames, complete⟩ := harvester.frameRegion_flatten region
      have total :
          payloadBytes ((harvester.frameRegion region).frames.map Frame.trace) =
            (harvester.frameRegion region).consumed := by
        rw [payloadBytes_trace, frames, List.length_take, Nat.min_eq_left within]
      refine ⟨?_, ?_, ?_⟩
      · intro frame member
        obtain ⟨payload, _, rfl⟩ := List.mem_map.mp member
        rfl
      · simp [book, bookRegion]
      · simp only [book, bookRegion, total, Framed.dropped]
        cases stopped : (harvester.frameRegion region).fault with
        | none =>
            have whole := complete.mp stopped
            simp only [Option.isSome_none, Bool.false_eq_true, if_false]
            omega
        | some fault =>
            simp only [Option.isSome_some, if_true]
            omega

theorem harvestUnit_stats (harvester : Harvester) (position : Nat) :
    (∀ frame ∈ (harvester.harvestUnit position).1, frame.kind = .trace) ∧
      (harvester.harvestUnit position).2.stats.frames =
        harvester.stats.frames + (harvester.harvestUnit position).1.length ∧
      (harvester.harvestUnit position).2.stats.bytes + harvester.stats.bytesDiscarded =
        harvester.stats.bytes + payloadBytes (harvester.harvestUnit position).1 +
          (harvester.harvestUnit position).2.stats.bytesDiscarded := by
  cases present : harvester.units[position]? with
  | none =>
      rw [harvestUnit_past present]
      simp [payloadBytes]
  | some unit =>
      rw [harvestUnit_of_unit present]
      exact book_stats _ _

end Harvester

/-! ### Units whose bytes are all in the active region -/

structure BufferPair.Clean (pair : BufferPair) : Prop where
  distinct : pair.front.id ≠ pair.back.id
  drained : pair.back.data = []
  own : pair.foreignNext = false

namespace BufferPair

variable {pair : BufferPair}

theorem Clean.write (clean : pair.Clean) (record : Bytes) : (pair.write record).2.Clean := by
  obtain ⟨distinct, drained, own⟩ := clean
  unfold BufferPair.write
  split
  · exact ⟨distinct, drained, own⟩
  · exact ⟨distinct, drained, own⟩

theorem Clean.recordError (clean : pair.Clean) : pair.recordError.Clean :=
  ⟨clean.distinct, clean.drained, clean.own⟩

theorem Clean.armFailedSwitch (clean : pair.Clean) : pair.armFailedSwitch.Clean :=
  ⟨clean.distinct, clean.drained, clean.own⟩

theorem write_data (pair : BufferPair) (record : Bytes) :
    (pair.write record).2.front.data =
      pair.front.data ++ (if (pair.write record).1 then record else []) := by
  unfold write
  split
  · simp
  · simp

end BufferPair

namespace Harvester

/-- A visit takes all that the active region of a clean unit holds, or leaves
it there. -/
theorem visit_clean {unit : BufferPair} (clean : unit.Clean) :
    (visit unit).2.Clean ∧
      ((visit unit).2.front.data = unit.front.data ∧
          ((visit unit).1 = .absent ∨ (visit unit).1 = .failedSwap) ∨
        (visit unit).2.front.data = [] ∧
          ∃ region, (visit unit).1 = .drained region ∧ region.data = unit.front.data) := by
  obtain ⟨distinct, drained, own⟩ := clean
  cases memory : unit.allocated with
  | false =>
      have unchanged : visit unit = (.absent, unit) := by
        simp [visit, BufferPair.active, memory]
      rw [unchanged]
      exact ⟨⟨distinct, drained, own⟩, .inl ⟨rfl, .inl rfl⟩⟩
  | true =>
      cases armed : unit.failNext with
      | true =>
          have failed : visit unit = (.failedSwap, { unit with failNext := false }) := by
            simp [visit, BufferPair.active, BufferPair.switch, memory, armed]
          rw [failed]
          exact ⟨⟨distinct, drained, own⟩, .inl ⟨rfl, .inr rfl⟩⟩
      | false =>
          have reached :
              visit unit =
                (.drained
                  { unit := unit.unit, region := unit.front.id, data := unit.front.data
                    drops := unit.front.drops, errors := unit.front.errors },
                { unit with
                  front := unit.back.cleared, back := unit.front.cleared, everSwitched := true
                  foreignNext := false }) := by
            have apart : unit.back.id ≠ unit.front.id := fun same => distinct same.symm
            simp [visit, BufferPair.active, BufferPair.switch, BufferPair.drain, memory, armed,
              own, Region.cleared, apart]
          rw [reached]
          refine ⟨⟨?_, rfl, rfl⟩, .inr ⟨rfl, _, rfl, rfl⟩⟩
          exact fun same => distinct same.symm

end Harvester

/-- A unit to which producers wrote such records only: whatever was not taken
out of it is a row of them. -/
structure BufferPair.FedBy (allowed : Bytes → Prop) (pair : BufferPair) : Prop where
  clean : pair.Clean
  row : ∃ records : List Bytes,
    pair.front.data = records.flatten ∧ ∀ record ∈ records, allowed record

namespace BufferPair

variable {allowed : Bytes → Prop} {pair : BufferPair}

theorem FedBy.write (fed : pair.FedBy allowed) {record : Bytes} (good : allowed record) :
    (pair.write record).2.FedBy allowed := by
  obtain ⟨clean, records, row, all⟩ := fed
  refine ⟨clean.write record, ?_⟩
  rw [write_data, row]
  cases (pair.write record).1 with
  | false => exact ⟨records, by simp, all⟩
  | true =>
      refine ⟨records ++ [record], by simp, ?_⟩
      intro other member
      rcases List.mem_append.mp member with old | last
      · exact all other old
      · rw [List.mem_singleton.mp last]
        exact good

theorem FedBy.recordError (fed : pair.FedBy allowed) : pair.recordError.FedBy allowed :=
  ⟨fed.clean.recordError, fed.row⟩

theorem FedBy.armFailedSwitch (fed : pair.FedBy allowed) :
    pair.armFailedSwitch.FedBy allowed :=
  ⟨fed.clean.armFailedSwitch, fed.row⟩

theorem FedBy.visit (fed : pair.FedBy allowed) : (Harvester.visit pair).2.FedBy allowed := by
  obtain ⟨clean, records, row, all⟩ := fed
  obtain ⟨after, ⟨kept, _⟩ | ⟨taken, _⟩⟩ := Harvester.visit_clean clean
  · exact ⟨after, records, kept.trans row, all⟩
  · exact ⟨after, [], taken, nofun⟩

end BufferPair

namespace Harvester

/-- A visit to a clean unit that holds whole records yields what is gone from
its active region, and gives up nothing. -/
theorem harvestUnit_clean {harvester : Harvester} {position : Nat} {unit : BufferPair}
    {records : List Bytes} (present : harvester.units[position]? = some unit)
    (clean : unit.Clean) (row : unit.front.data = records.flatten)
    (whole : ∀ record ∈ records,
      Record.Whole harvester.mtu (Sizer.ofTable harvester.sizes) record) :
    ((harvester.harvestUnit position).1.map Frame.payload).flatten ++
          (visit unit).2.front.data = unit.front.data ∧
      ((visit unit).2.front.data = unit.front.data ∨ (visit unit).2.front.data = []) ∧
      (harvester.harvestUnit position).2.stats.framingAborts = harvester.stats.framingAborts ∧
      (harvester.harvestUnit position).2.stats.bytesDiscarded =
        harvester.stats.bytesDiscarded := by
  rw [harvestUnit_of_unit present]
  obtain ⟨_, ⟨kept, outcome⟩ | ⟨taken, region, outcome, data⟩⟩ := visit_clean clean
  · refine ⟨?_, .inl kept, ?_⟩
    · rcases outcome with outcome | outcome
      · rw [outcome, kept]
        rfl
      · rw [outcome, kept]
        rfl
    · rcases outcome with outcome | outcome
      · rw [outcome]
        exact ⟨rfl, rfl⟩
      · rw [outcome]
        exact ⟨rfl, rfl⟩
  · have framed :
        (harvester.frameRegion region).fault = none ∧
          (harvester.frameRegion region).frames.flatten = region.data := by
      unfold frameRegion
      split
      next empty =>
        have nothing : region.data = [] := List.isEmpty_iff.mp empty
        exact ⟨rfl, by rw [nothing]; rfl⟩
      next =>
        rw [data, row]
        exact Record.cut_whole records whole
    have payloads :
        ((harvester.frameRegion region).frames.map Frame.trace).map Frame.payload =
          (harvester.frameRegion region).frames := by
      rw [List.map_map]
      exact List.map_id _
    refine ⟨?_, .inr taken, ?_⟩
    · rw [outcome, taken, List.append_nil, ← data, ← framed.2]
      exact congrArg List.flatten payloads
    · rw [outcome]
      have sound := framed.1
      refine ⟨?_, ?_⟩
      · change harvester.stats.framingAborts +
          (if (harvester.frameRegion region).fault.isSome then 1 else 0) = _
        rw [sound]
        rfl
      · change harvester.stats.bytesDiscarded +
          (if (harvester.frameRegion region).fault.isSome then
            (harvester.frameRegion region).dropped region.data.length else 0) = _
        rw [sound]
        rfl

end Harvester
end TraceForward
