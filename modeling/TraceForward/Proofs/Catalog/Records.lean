/-
The records that the tables of a session ask for.

A clause's records have the size that the clause asks for, and an opening makes
sure that this size fits a frame.
-/

import TraceForward.Proofs.Catalog.Descriptors
import TraceForward.Proofs.Framing.Cut
import TraceForward.Proofs.Settings.Bounds

namespace TraceForward
namespace Catalog

/-- A whole record: filler, which is its header alone, or the id of an enabled
clause and data up to the clause's size. -/
def IsRecord (catalog : Catalog) (record : Bytes) : Prop :=
  record = Bytes.ofLittleEndian Limits.headerSize Limits.fillerClause ∨
    ∃ id clause payload, catalog.clause? id = some clause ∧
      id < Bytes.wordLimit Limits.headerSize ∧
      record = Bytes.ofLittleEndian Limits.headerSize id ++ payload ∧
      record.length = clause.size

theorem size_le_of_checkMtu {catalog : Catalog} {mtu : Nat}
    (fits : catalog.checkMtu mtu = .ok ()) {id : Nat} {clause : Clause}
    (found : catalog.clause? id = some clause) : clause.size ≤ mtu := by
  unfold checkMtu at fits
  split at fits
  next small =>
    simpa using List.find?_eq_none.mp small (id, clause) (mem_enabled_iff.mpr found)
  next => cases fits

theorem checkMtu_eq_ok_iff {catalog : Catalog} {mtu : Nat} :
    catalog.checkMtu mtu = .ok () ↔
      ∀ id clause, catalog.clause? id = some clause → clause.size ≤ mtu := by
  constructor
  · intro fits id clause found
    exact size_le_of_checkMtu fits found
  · intro small
    have fits : (catalog.enabled.find? fun entry => decide (mtu < entry.2.size)) = none := by
      rw [List.find?_eq_none]
      rintro ⟨id, clause⟩ member
      simpa using small id clause (mem_enabled_iff.mp member)
    rw [checkMtu, fits]

theorem enabled_pairwise (catalog : Catalog) :
    catalog.enabled.Pairwise fun left right => left.1 < right.1 := by
  have positions : (catalog.clauses.zipIdx.map Prod.snd).Pairwise (· < ·) := by
    rw [List.zipIdx_map_snd]
    exact List.pairwise_lt_range'
  refine List.pairwise_filterMap.mpr ((List.pairwise_map.mp positions).imp ?_)
  rintro ⟨slot, position⟩ ⟨slot', position'⟩ before entry made entry' made'
  obtain ⟨_, _, rfl⟩ := Option.map_eq_some_iff.mp made
  obtain ⟨_, _, rfl⟩ := Option.map_eq_some_iff.mp made'
  exact Nat.succ_lt_succ before

/-- The clause with the lowest id among those whose records exceed a limit. -/
structure FirstAbove (catalog : Catalog) (mtu id : Nat) (clause : Clause) : Prop where
  found : catalog.clause? id = some clause
  above : mtu < clause.size
  lowest : ∀ earlier < id, ∀ other, catalog.clause? earlier = some other → other.size ≤ mtu

theorem FirstAbove.not_fits {catalog : Catalog} {mtu id : Nat} {clause : Clause}
    (first : catalog.FirstAbove mtu id clause) :
    ¬ ∀ id clause, catalog.clause? id = some clause → clause.size ≤ mtu := by
  intro fits
  exact Nat.not_le_of_lt first.above (fits id clause first.found)

theorem FirstAbove.unique {catalog : Catalog} {mtu id id' : Nat} {clause clause' : Clause}
    (one : catalog.FirstAbove mtu id clause) (other : catalog.FirstAbove mtu id' clause') :
    id = id' ∧ clause = clause' := by
  have same : id = id' := by
    rcases Nat.lt_trichotomy id id' with lower | same | higher
    · exact absurd (other.lowest id lower clause one.found) (Nat.not_le_of_lt one.above)
    · exact same
    · exact absurd (one.lowest id' higher clause' other.found) (Nat.not_le_of_lt other.above)
  subst same
  exact ⟨rfl, Option.some.inj (one.found.symm.trans other.found)⟩

theorem exists_firstAbove {catalog : Catalog} {mtu : Nat} {fault : Fault}
    (exceeds : catalog.checkMtu mtu = .error fault) :
    ∃ id clause, catalog.FirstAbove mtu id clause ∧
      fault = .recordExceedsMtu id clause.size mtu := by
  unfold checkMtu at exceeds
  split at exceeds
  next => cases exceeds
  next id clause first =>
    cases exceeds
    obtain ⟨above, before, after, split, small⟩ := List.find?_eq_some_iff_append.mp first
    have member : (id, clause) ∈ catalog.enabled := List.mem_of_find?_eq_some first
    refine ⟨id, clause, ⟨mem_enabled_iff.mp member, of_decide_eq_true above, ?_⟩, rfl⟩
    intro earlier lower other found
    have ordered := catalog.enabled_pairwise
    have there := mem_enabled_iff.mpr found
    rw [split] at ordered there
    rcases List.mem_append.mp there with inFront | behind
    · simpa using small _ inFront
    -- Behind the clause that was found, ids are higher.
    · have order := (List.pairwise_append.mp ordered).2.1
      rcases List.mem_cons.mp behind with same | later
      · cases same
        exact absurd lower (Nat.lt_irrefl _)
      · exact absurd ((List.pairwise_cons.mp order).1 _ later) (Nat.lt_asymm lower)

/-- A limit that is too small is answered with the lowest clause that exceeds it. -/
theorem checkMtu_eq_error_iff {catalog : Catalog} {mtu : Nat} {fault : Fault} :
    catalog.checkMtu mtu = .error fault ↔
      ∃ id clause, catalog.FirstAbove mtu id clause ∧
        fault = .recordExceedsMtu id clause.size mtu := by
  constructor
  · exact exists_firstAbove
  · rintro ⟨id, clause, first, rfl⟩
    cases checked : catalog.checkMtu mtu with
    | ok done => exact absurd (checkMtu_eq_ok_iff.mp checked) first.not_fits
    | error fault =>
        obtain ⟨id', clause', other, rfl⟩ := exists_firstAbove checked
        obtain ⟨rfl, rfl⟩ := first.unique other
        rfl

theorem ofTable_sizeTable (catalog : Catalog) (id : Nat) :
    Sizer.ofTable catalog.sizeTable id = ((catalog.clause? id).map Clause.size).getD 0 := by
  cases id with
  | zero => rfl
  | succ position =>
      simp only [Sizer.ofTable, sizeTable, List.getElem?_cons_succ, List.getElem?_map, clause?]
      cases catalog.clauses[position]? with
      | none => rfl
      | some slot => cases slot <;> rfl

theorem sizeOf_sizeTable {catalog : Catalog} {id : Nat} {clause : Clause}
    (found : catalog.clause? id = some clause) :
    Record.sizeOf (Sizer.ofTable catalog.sizeTable) id = clause.size := by
  have named : id ≠ Limits.fillerClause := by
    rintro rfl
    cases found
  rw [Record.sizeOf, if_neg named, ofTable_sizeTable, found]
  rfl

/-- The checks of an opening leave no clause with records above the limit. -/
theorem sizeOf_le {catalog : Catalog} {mtu : Nat}
    (fits : catalog.checkMtu mtu = .ok ()) (room : Limits.headerSize ≤ mtu) (clause : Nat) :
    Record.sizeOf (Sizer.ofTable catalog.sizeTable) clause ≤ mtu := by
  unfold Record.sizeOf
  split
  next => exact room
  next =>
    rw [ofTable_sizeTable]
    cases known : catalog.clause? clause with
    | none => exact Nat.zero_le _
    | some entry => exact size_le_of_checkMtu fits known

theorem IsRecord.whole {catalog : Catalog} {mtu : Nat} {record : Bytes}
    (isRecord : catalog.IsRecord record) (fits : catalog.checkMtu mtu = .ok ())
    (room : Limits.headerSize ≤ mtu) :
    Record.Whole mtu (Sizer.ofTable catalog.sizeTable) record := by
  rcases isRecord with rfl | ⟨id, clause, payload, found, small, shape, size⟩
  · refine ⟨⟨Limits.fillerClause, [], by decide, (List.append_nil _).symm, rfl⟩, ?_⟩
    rw [Bytes.length_ofLittleEndian]
    exact room
  · refine ⟨⟨id, payload, small, shape, ?_⟩, ?_⟩
    · rw [size, sizeOf_sizeTable found]
    · rw [size]
      exact size_le_of_checkMtu fits found

end Catalog

theorem Settings.headerSize_le_mtu {settings : Settings} (valid : settings.validate = .ok ()) :
    Limits.headerSize ≤ settings.mtu := by
  have bounded := (settings.validate_eq_ok_iff.mp valid).mtu
  exact Nat.le_trans (by decide) bounded

end TraceForward
