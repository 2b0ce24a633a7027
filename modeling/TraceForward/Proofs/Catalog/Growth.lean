/-
Tables that have grown.

Entries are only ever appended to the tables, so an id that names a clause in
some tables names the same clause in all later ones, and everything that the
earlier tables describe is described by the later ones.
-/

import Mathlib.Data.List.Basic
import TraceForward.Proofs.Catalog.Descriptors

namespace TraceForward
namespace Catalog

theorem getElem?_of_prefix {Entry : Type} {before after : List Entry} (grows : before <+: after)
    {position : Nat} {entry : Entry} (present : before[position]? = some entry) :
    after[position]? = some entry := by
  obtain ⟨added, rfl⟩ := grows
  rw [List.getElem?_append_left (List.getElem?_eq_some_iff.mp present).1]
  exact present

/-- Entries were appended, and nothing else has changed. -/
structure Grows (before after : Catalog) : Prop where
  formats : before.formats <+: after.formats
  clauses : before.clauses <+: after.clauses

namespace Grows

variable {before middle after : Catalog}

theorem refl (catalog : Catalog) : catalog.Grows catalog :=
  ⟨List.prefix_rfl, List.prefix_rfl⟩

theorem trans (first : before.Grows middle) (last : middle.Grows after) : before.Grows after :=
  ⟨first.formats.trans last.formats, first.clauses.trans last.clauses⟩

theorem addFormat (catalog : Catalog) (format : String) :
    catalog.Grows (catalog.addFormat format).2 :=
  ⟨List.prefix_append _ _, List.prefix_rfl⟩

theorem addClause (catalog : Catalog) (clause : Option Clause) :
    catalog.Grows (catalog.addClause clause).2 :=
  ⟨List.prefix_rfl, List.prefix_append _ _⟩

/-- An id of the earlier tables names the same clause in the later ones. -/
theorem clause?_of_le (grows : before.Grows after) {id : Nat}
    (old : id ≤ before.clauses.length) : after.clause? id = before.clause? id := by
  cases id with
  | zero => rfl
  | succ position =>
      obtain ⟨added, same⟩ := grows.clauses
      rw [clause?, clause?, ← same, List.getElem?_append_left old]

theorem clause?_eq_some (grows : before.Grows after) {id : Nat} {clause : Clause}
    (found : before.clause? id = some clause) : after.clause? id = some clause := by
  by_cases old : id ≤ before.clauses.length
  · rw [grows.clause?_of_le old]
    exact found
  · rw [clause?_eq_none (Nat.lt_of_not_le old)] at found
    cases found

end Grows

/-! ### Ids -/

/-- Every entry has an id of its own, which is a word of 32 bits. -/
structure Numbered (catalog : Catalog) : Prop where
  formats : catalog.formats.length < UInt32.size
  clauses : catalog.clauses.length < UInt32.size

theorem Numbered.of_grows {before after : Catalog} (numbered : after.Numbered)
    (grows : before.Grows after) : before.Numbered := by
  constructor
  · exact Nat.lt_of_le_of_lt grows.formats.length_le numbered.formats
  · exact Nat.lt_of_le_of_lt grows.clauses.length_le numbered.clauses

theorem addFormat_toNat {catalog : Catalog} {format : String}
    (numbered : (catalog.addFormat format).2.Numbered) :
    (catalog.addFormat format).1.toNat = catalog.formats.length + 1 := by
  refine (UInt32.toNat_ofNat_of_lt' numbered.formats).trans ?_
  exact List.length_append

theorem addClause_toNat {catalog : Catalog} {slot : Option Clause}
    (numbered : (catalog.addClause slot).2.Numbered) :
    (catalog.addClause slot).1.toNat = catalog.clauses.length + 1 := by
  refine (UInt32.toNat_ofNat_of_lt' numbered.clauses).trans ?_
  exact List.length_append

/-! ### What tables describe -/

theorem Grows.mem_descriptors {before after : Catalog} (grows : before.Grows after)
    {descriptor : Descriptor} (member : descriptor ∈ before.descriptors) :
    descriptor ∈ after.descriptors := by
  rw [mem_descriptors_iff] at member ⊢
  rcases member with ⟨position, text, present, rfl⟩ | ⟨id, clause, probe, found, bound, same⟩
  · exact .inl ⟨position, text, getElem?_of_prefix grows.formats present, rfl⟩
  · exact .inr ⟨id, clause, probe, grows.clause?_eq_some found, bound, same⟩

end Catalog
end TraceForward
