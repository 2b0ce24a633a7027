/-
Which descriptors a catalog has, how many there are, and how an export counts
them.
-/

import TraceForward.Catalog.Export

namespace TraceForward

namespace Catalog

theorem clause?_eq_none {catalog : Catalog} {id : Nat} (past : catalog.clauses.length < id) :
    catalog.clause? id = none := by
  cases id with
  | zero => rfl
  | succ position =>
      rw [clause?, List.getElem?_eq_none (by omega)]
      rfl

theorem mem_enabled_iff {catalog : Catalog} {id : Nat} {clause : Clause} :
    (id, clause) ∈ catalog.enabled ↔ catalog.clause? id = some clause := by
  simp only [enabled, List.mem_filterMap, List.mem_zipIdx_iff_getElem?, Option.map_eq_some_iff,
    Prod.mk.injEq, Prod.exists]
  constructor
  · rintro ⟨slot, position, present, entry, rfl, rfl, rfl⟩
    rw [clause?, present]
    rfl
  · intro found
    cases id with
    | zero => cases found
    | succ position =>
        exact ⟨some clause, position, Option.join_eq_some_iff.mp found, clause, rfl, rfl, rfl⟩

def describe (id : Nat) (clause : Clause) (probe : Probe) : Descriptor :=
  .clause id probe.id clause.userArg clause.size clause.plainLayouts

theorem mem_descriptors_iff {catalog : Catalog} {descriptor : Descriptor} :
    descriptor ∈ catalog.descriptors ↔
      (∃ position text, catalog.formats[position]? = some text ∧
        descriptor = .format (position + 1) text) ∨
      ∃ id clause probe, catalog.clause? id = some clause ∧ clause.probe = some probe ∧
        (descriptor = .probe probe ∨ descriptor = describe id clause probe) := by
  unfold descriptors
  rw [List.mem_append]
  apply or_congr
  · simp only [List.mem_map, List.mem_zipIdx_iff_getElem?, Prod.exists]
    constructor
    · rintro ⟨text, position, present, rfl⟩
      exact ⟨position, text, present, rfl⟩
    · rintro ⟨position, text, present, rfl⟩
      exact ⟨text, position, present, rfl⟩
  · rw [List.mem_flatMap]
    constructor
    · rintro ⟨⟨id, clause⟩, enabled, member⟩
      rw [mem_enabled_iff] at enabled
      unfold clauseDescriptors at member
      cases bound : clause.probe with
      | none =>
          simp only [bound] at member
          cases member
      | some probe =>
          simp only [bound, List.mem_cons, List.not_mem_nil, or_false] at member
          exact ⟨id, clause, probe, enabled, bound, member⟩
    · rintro ⟨id, clause, probe, found, bound, same⟩
      refine ⟨(id, clause), mem_enabled_iff.mpr found, ?_⟩
      simp only [clauseDescriptors, bound, List.mem_cons, List.not_mem_nil, or_false]
      exact same

def boundClauses (catalog : Catalog) : Nat :=
  catalog.enabled.countP fun entry => entry.2.probe.isSome

theorem clauseDescriptors_length (id : Nat) (clause : Clause) :
    (clauseDescriptors id clause).length = if clause.probe.isSome then 2 else 0 := by
  unfold clauseDescriptors
  cases clause.probe <;> rfl

theorem descriptors_length (catalog : Catalog) :
    catalog.descriptors.length = catalog.formats.length + 2 * catalog.boundClauses := by
  unfold descriptors boundClauses
  rw [List.length_append, List.length_map, List.length_zipIdx]
  congr 1
  induction catalog.enabled with
  | nil => rfl
  | cons entry rest ih =>
      rw [List.flatMap_cons, List.length_append, ih, List.countP_cons, clauseDescriptors_length]
      split <;> omega

end Catalog

namespace ExportSummary

def ofDescriptors (descriptors : List Descriptor) : ExportSummary :=
  descriptors.foldl count {}

theorem ofDescriptors_concat (descriptors : List Descriptor) (last : Descriptor) :
    ofDescriptors (descriptors ++ [last]) = (ofDescriptors descriptors).count last := by
  simp [ofDescriptors]

end ExportSummary
end TraceForward
