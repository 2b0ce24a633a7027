/-
What a receiver makes of one frame of a session.

The tables say how long the records of a clause are.  Where the sizes that they
give leave room for the clause id, every frame is decoded by itself.  Nothing
keeps a table from giving less, and then it depends on how a frame ends.
-/

import TraceForward.Proofs.Catalog.Records
import TraceForward.Proofs.Framing.Walk

namespace TraceForward
namespace Catalog

/-- The records of every enabled clause have room for the clause id, or there
are none. -/
def HoldsIds (catalog : Catalog) : Prop :=
  ∀ id clause, catalog.clause? id = some clause →
    clause.size = 0 ∨ Limits.headerSize ≤ clause.size

theorem HoldsIds.header_le {catalog : Catalog} {mtu : Nat} {record after : Bytes}
    (holdsIds : catalog.HoldsIds)
    (reads : Record.Reads mtu (Sizer.ofTable catalog.sizeTable) record after) :
    Limits.headerSize ≤ record.length := by
  obtain ⟨clause, _, sized, positive, _⟩ := Record.reads_iff.mp reads
  by_cases filler : clause = Limits.fillerClause
  · have header : record.length = Limits.headerSize := by
      rw [sized, Record.sizeOf, if_pos filler]
    omega
  · rw [Record.sizeOf, if_neg filler, ofTable_sizeTable] at sized
    cases known : catalog.clause? clause with
    | none =>
        rw [known] at sized
        change record.length = 0 at sized
        omega
    | some entry =>
        rw [known] at sized
        change record.length = entry.size at sized
        rcases holdsIds clause entry known with empty | headed
        · omega
        · omega

/-- Every frame is a group of the records of its region.  A receiver of that
frame alone finds one frame, without a fault, and these records, if and only if
the last of them holds its clause id; and all of them hold theirs if the tables
leave room for it. -/
theorem frames_stand_alone (catalog : Catalog) (mtu : Nat) (region : Bytes) :
    ∃ groups : List (List Bytes),
      (Record.cut region mtu (Sizer.ofTable catalog.sizeTable)).frames =
        groups.map List.flatten ∧
      groups.flatten = Record.walk mtu (Sizer.ofTable catalog.sizeTable) region ∧
      ∀ group ∈ groups,
        (Record.StandsAlone mtu (Sizer.ofTable catalog.sizeTable) group ↔
          Record.EndsWhole group) ∧
        (catalog.HoldsIds →
          Record.StandsAlone mtu (Sizer.ofTable catalog.sizeTable) group ∧
          ∀ record ∈ group, Record.Whole mtu (Sizer.ofTable catalog.sizeTable) record) := by
  obtain ⟨groups, frames, all, bounds⟩ :=
    Record.cut_groups region mtu (Sizer.ofTable catalog.sizeTable)
  refine ⟨groups, frames, all, ?_⟩
  intro group member
  obtain ⟨left, _, row⟩ := Record.walk_readsRow mtu (Sizer.ofTable catalog.sizeTable) region
  rw [← all] at row
  obtain ⟨beyond, reads⟩ := row.of_mem_groups member
  obtain ⟨nonempty, fits⟩ := bounds group member
  have alone := reads.standsAlone_iff nonempty fits
  refine ⟨alone, ?_⟩
  intro holdsIds
  have headed : ∀ record ∈ group, Limits.headerSize ≤ record.length := by
    intro record present
    obtain ⟨after, read⟩ := reads.exists_reads present
    exact holdsIds.header_le read
  constructor
  · rw [alone]
    intro last ends
    exact headed last (List.mem_of_mem_getLast? ends)
  · intro record present
    obtain ⟨after, read⟩ := reads.exists_reads present
    exact read.whole (headed record present)

/-- Tables with records of two bytes, which the checks of an opening let pass. -/
def shortRecords : Catalog :=
  { clauses := [some { probe := none, userArg := 0, size := 2, actions := [] }] }

/-- A frame with one record of two bytes has no whole header. -/
theorem not_every_frame_stands_alone :
    ¬ ∀ (catalog : Catalog) (mtu : Nat) (region : Bytes),
        Limits.minMtu ≤ mtu → catalog.checkMtu mtu = .ok () →
        ∀ frame ∈ (Record.cut region mtu (Sizer.ofTable catalog.sizeTable)).frames,
          Record.cut frame mtu (Sizer.ofTable catalog.sizeTable) =
            { frames := [frame], consumed := frame.length, fault := none } := by
  intro every
  have cut : [1, 0] ∈ (Record.cut [1, 0, 0, 0] 64 (Sizer.ofTable shortRecords.sizeTable)).frames := by
    decide +kernel
  have alone := every shortRecords 64 [1, 0, 0, 0] (by decide) rfl [1, 0] cut
  revert alone
  decide +kernel

end Catalog
end TraceForward
