/-
The views of the tables, and the ids that their users are given.

Sizes are looked up by id in the tables and in the list made from them, their maximum is
taken over the enabled clauses, and the check of a limit searches these.  All of this
comes to the same.  The tables are only ever appended to, so an id names in every later
copy what it was given for.  Ids are words of 32 bits, and there are enough of them for
the entries.
-/

import Mathlib.Data.List.Fold
import Mathlib.Data.List.MinMax
import Mathlib.Data.Set.Operations
import Mathlib.Order.Bounds.Defs
import Mathlib.Order.Nat
import TraceForward.Proofs.Catalog.Growth
import TraceForward.Proofs.Catalog.Records

namespace TraceForward
namespace Catalog

/-! ### Views -/

def recordSize (catalog : Catalog) (id : UInt32) : Nat :=
  Sizer.ofTable catalog.sizeTable id.toNat

/-- All the ways to ask tables for the sizes of their records come to the same. -/
structure ViewsAgree (catalog : Catalog) : Prop where
  size : ∀ id : UInt32, catalog.recordSize id =
    match catalog.clause? id.toNat with
    | some clause => clause.size
    | none => 0
  missing : ∀ id : UInt32, id = 0 ∨ catalog.clauses.length < id.toNat →
    catalog.clause? id.toNat = none ∧ catalog.recordSize id = 0
  greatest : IsGreatest (Set.range catalog.recordSize) catalog.maxRecordSize
  fits : ∀ mtu, catalog.checkMtu mtu = .ok () ↔ catalog.maxRecordSize ≤ mtu
  exceeds : ∀ mtu, mtu < catalog.maxRecordSize →
    ∃ id : UInt32, IsLeast {id | mtu < catalog.recordSize id} id ∧
      catalog.checkMtu mtu = .error (.recordExceedsMtu id.toNat (catalog.recordSize id) mtu)

theorem recordSize_of_clause? {catalog : Catalog} {id : UInt32} {clause : Clause}
    (found : catalog.clause? id.toNat = some clause) : catalog.recordSize id = clause.size := by
  rw [recordSize, ofTable_sizeTable, found]
  rfl

theorem exists_clause_of_recordSize {catalog : Catalog} {id : UInt32} {mtu : Nat}
    (above : mtu < catalog.recordSize id) :
    ∃ clause, catalog.clause? id.toNat = some clause ∧ mtu < clause.size := by
  rw [recordSize, ofTable_sizeTable] at above
  cases found : catalog.clause? id.toNat with
  | none =>
      rw [found] at above
      exact absurd above (Nat.not_lt_zero mtu)
  | some clause =>
      rw [found] at above
      exact ⟨clause, rfl, above⟩

theorem Numbered.exists_id {catalog : Catalog} (numbered : catalog.Numbered) {id : Nat}
    {clause : Clause} (found : catalog.clause? id = some clause) :
    ∃ word : UInt32, word.toNat = id := by
  have within : id ≤ catalog.clauses.length := by
    by_contra past
    rw [clause?_eq_none (Nat.lt_of_not_le past)] at found
    cases found
  exact ⟨.ofNat id, UInt32.toNat_ofNat_of_lt' (Nat.lt_of_le_of_lt within numbered.clauses)⟩

theorem maxRecordSize_le_iff {catalog : Catalog} {limit : Nat} :
    catalog.maxRecordSize ≤ limit ↔
      ∀ id clause, catalog.clause? id = some clause → clause.size ≤ limit := by
  rw [maxRecordSize, List.foldl_eq_foldr]
  constructor
  · intro small id clause found
    have member : clause.size ∈ catalog.enabled.map fun entry => entry.2.size :=
      List.mem_map_of_mem (f := fun entry => entry.2.size) (mem_enabled_iff.mpr found)
    exact (List.le_max_of_le member (Nat.le_refl _)).trans small
  · intro small
    apply List.max_le_of_forall_le
    intro size member
    obtain ⟨⟨id, clause⟩, enabled, rfl⟩ := List.mem_map.mp member
    exact small id clause (mem_enabled_iff.mp enabled)

theorem recordSize_le_maxRecordSize (catalog : Catalog) (id : UInt32) :
    catalog.recordSize id ≤ catalog.maxRecordSize := by
  by_contra above
  obtain ⟨clause, found, larger⟩ := exists_clause_of_recordSize (Nat.lt_of_not_le above)
  exact Nat.not_le_of_lt larger (maxRecordSize_le_iff.mp (Nat.le_refl _) _ clause found)

theorem Numbered.exists_recordSize_eq {catalog : Catalog} (numbered : catalog.Numbered) :
    ∃ id, catalog.recordSize id = catalog.maxRecordSize := by
  by_contra missed
  have positive : catalog.maxRecordSize ≠ 0 := fun none => missed ⟨0, none.symm⟩
  -- If no size reached the maximum, one less would bound them all.
  have below : catalog.maxRecordSize ≤ catalog.maxRecordSize - 1 := by
    apply maxRecordSize_le_iff.mpr
    intro id clause found
    obtain ⟨word, rfl⟩ := numbered.exists_id found
    have within := catalog.recordSize_le_maxRecordSize word
    have other : catalog.recordSize word ≠ catalog.maxRecordSize :=
      fun same => missed ⟨word, same⟩
    rw [recordSize_of_clause? found] at within other
    omega
  omega

theorem FirstAbove.isLeast {catalog : Catalog} {mtu : Nat} {id : UInt32} {clause : Clause}
    (first : catalog.FirstAbove mtu id.toNat clause) :
    IsLeast {id | mtu < catalog.recordSize id} id := by
  constructor
  · change mtu < catalog.recordSize id
    rw [recordSize_of_clause? first.found]
    exact first.above
  · intro other above
    obtain ⟨clause', found, larger⟩ := exists_clause_of_recordSize above
    by_contra earlier
    have small := first.lowest other.toNat (Nat.lt_of_not_le earlier) clause' found
    exact Nat.not_le_of_lt larger small

theorem Numbered.viewsAgree {catalog : Catalog} (numbered : catalog.Numbered) :
    catalog.ViewsAgree := by
  constructor
  · intro id
    rw [recordSize, ofTable_sizeTable]
    cases catalog.clause? id.toNat <;> rfl
  · intro id outside
    have nothing : catalog.clause? id.toNat = none := by
      rcases outside with rfl | past
      · rfl
      · exact clause?_eq_none past
    refine ⟨nothing, ?_⟩
    rw [recordSize, ofTable_sizeTable, nothing]
    rfl
  · constructor
    · exact numbered.exists_recordSize_eq
    · rintro size ⟨id, rfl⟩
      exact catalog.recordSize_le_maxRecordSize id
  · intro mtu
    rw [checkMtu_eq_ok_iff, maxRecordSize_le_iff]
  · intro mtu above
    cases checked : catalog.checkMtu mtu with
    | ok done =>
        have small := maxRecordSize_le_iff.mpr (checkMtu_eq_ok_iff.mp checked)
        exact absurd above (Nat.not_lt_of_le small)
    | error fault =>
        obtain ⟨id, clause, first, rfl⟩ := exists_firstAbove checked
        obtain ⟨word, rfl⟩ := numbered.exists_id first.found
        refine ⟨word, first.isLeast, ?_⟩
        rw [recordSize_of_clause? first.found]

/-! ### Calls -/

inductive Act where
  | addFormat (format : String)
  | addClause (slot : Option Clause)
  | snapshot
deriving DecidableEq, Repr

/-- What was done with tables, and what came of it. -/
inductive Call where
  | addedFormat (format : String) (id : UInt32)
  | addedClause (slot : Option Clause) (id : UInt32)
  | copied (copy : Catalog)
deriving DecidableEq, Repr

namespace Call

def act : Call → Act
  | .addedFormat format _ => .addFormat format
  | .addedClause slot _ => .addClause slot
  | .copied _ => .snapshot

def format? : Call → Option String
  | .addedFormat format _ => some format
  | _ => none

def formatId? : Call → Option UInt32
  | .addedFormat _ id => some id
  | _ => none

def slot? : Call → Option (Option Clause)
  | .addedClause slot _ => some slot
  | _ => none

def slotId? : Call → Option UInt32
  | .addedClause _ id => some id
  | _ => none

def copy? : Call → Option Catalog
  | .copied copy => some copy
  | _ => none

/-- The tables hold what the call has added, under the id that was given for it, and all
that the call has copied. -/
def LastsIn (catalog : Catalog) : Call → Prop
  | .addedFormat format id => ∃ position, id.toNat = position + 1 ∧
      catalog.formats[position]? = some format
  | .addedClause slot id => catalog.clause? id.toNat = slot ∧
      ∃ position, id.toNat = position + 1 ∧ catalog.clauses[position]? = some slot
  | .copied copy => copy.Grows catalog

theorem LastsIn.mono {call : Call} {before after : Catalog} (lasts : call.LastsIn before)
    (grows : before.Grows after) : call.LastsIn after := by
  cases call with
  | addedFormat format id =>
      obtain ⟨position, named, present⟩ := lasts
      exact ⟨position, named, getElem?_of_prefix grows.formats present⟩
  | addedClause slot id =>
      obtain ⟨_, position, named, present⟩ := lasts
      have still := getElem?_of_prefix grows.clauses present
      refine ⟨?_, position, named, still⟩
      rw [named, clause?, still]
      rfl
  | copied copy => exact Grows.trans lasts grows

end Call

def perform (catalog : Catalog) : Act → Call × Catalog
  | .addFormat format =>
      (.addedFormat format (catalog.addFormat format).1, (catalog.addFormat format).2)
  | .addClause slot => (.addedClause slot (catalog.addClause slot).1, (catalog.addClause slot).2)
  | .snapshot => (.copied catalog, catalog)

def performAll : Catalog → List Act → List Call × Catalog
  | catalog, [] => ([], catalog)
  | catalog, act :: rest =>
      let (call, middle) := catalog.perform act
      let (calls, final) := performAll middle rest
      (call :: calls, final)

theorem performAll_cons (catalog : Catalog) (act : Act) (rest : List Act) :
    (catalog.performAll (act :: rest)).1 =
      (catalog.perform act).1 :: ((catalog.perform act).2.performAll rest).1 :=
  rfl

/-! ### One call -/

theorem perform_grows (catalog : Catalog) (act : Act) :
    catalog.Grows (catalog.perform act).2 := by
  cases act with
  | addFormat format => exact .addFormat catalog format
  | addClause slot => exact .addClause catalog slot
  | snapshot => exact .refl catalog

theorem perform_act (catalog : Catalog) (act : Act) : (catalog.perform act).1.act = act := by
  cases act <;> rfl

theorem perform_lasts {catalog : Catalog} {act : Act}
    (numbered : (catalog.perform act).2.Numbered) :
    (catalog.perform act).1.LastsIn (catalog.perform act).2 := by
  cases act with
  | addFormat format =>
      exact ⟨catalog.formats.length, addFormat_toNat numbered, List.getElem?_concat_length⟩
  | addClause slot =>
      have named : (catalog.addClause slot).1.toNat = catalog.clauses.length + 1 :=
        addClause_toNat numbered
      have present : (catalog.clauses ++ [slot])[catalog.clauses.length]? = some slot :=
        List.getElem?_concat_length
      refine ⟨?_, catalog.clauses.length, named, present⟩
      rw [named]
      change (catalog.clauses ++ [slot])[catalog.clauses.length]?.join = slot
      rw [present]
      rfl
  | snapshot => exact .refl catalog

/-! ### Any number of calls -/

theorem performAll_acts (catalog : Catalog) (acts : List Act) :
    (catalog.performAll acts).1.map Call.act = acts := by
  induction acts generalizing catalog with
  | nil => rfl
  | cons act rest ih => rw [performAll_cons, List.map_cons, perform_act, ih]

theorem performAll_grows (catalog : Catalog) (acts : List Act) :
    catalog.Grows (catalog.performAll acts).2 := by
  induction acts generalizing catalog with
  | nil => exact .refl catalog
  | cons act rest ih => exact (catalog.perform_grows act).trans (ih _)

/-- A copy lies between the tables at the start and those at the end. -/
theorem grows_of_copied {catalog copy : Catalog} {acts : List Act}
    (member : .copied copy ∈ (catalog.performAll acts).1) :
    catalog.Grows copy ∧ copy.Grows (catalog.performAll acts).2 := by
  induction acts generalizing catalog with
  | nil => cases member
  | cons act rest ih =>
      rw [performAll_cons] at member
      rcases List.mem_cons.mp member with first | later
      · cases act with
        | snapshot =>
            cases first
            exact ⟨.refl _, performAll_grows _ rest⟩
        | addFormat format => cases first
        | addClause slot => cases first
      · obtain ⟨before, after⟩ := ih later
        exact ⟨(catalog.perform_grows act).trans before, after⟩

/-- Whatever a call has come to is found in every copy that is taken later. -/
theorem performAll_lasts {catalog : Catalog} {acts : List Act}
    (numbered : (catalog.performAll acts).2.Numbered) :
    (catalog.performAll acts).1.Pairwise fun call later =>
      ∀ copy ∈ later.copy?, call.LastsIn copy := by
  induction acts generalizing catalog with
  | nil => exact .nil
  | cons act rest ih =>
      rw [performAll_cons]
      apply List.Pairwise.cons
      · intro later member copy taken
        cases later with
        | copied copy' =>
            cases taken
            have added := numbered.of_grows (performAll_grows (catalog.perform act).2 rest)
            exact (perform_lasts added).mono (grows_of_copied member).1
        | addedFormat format id => cases taken
        | addedClause slot id => cases taken
      · exact ih numbered

theorem tables_of_copied {catalog copy : Catalog} {acts : List Act} {before after : List Call}
    (split : (catalog.performAll acts).1 = before ++ .copied copy :: after) :
    copy.formats = catalog.formats ++ before.filterMap Call.format? ∧
      copy.clauses = catalog.clauses ++ before.filterMap Call.slot? := by
  induction acts generalizing catalog before with
  | nil => exact absurd split.symm (List.append_ne_nil_of_right_ne_nil _ (List.cons_ne_nil _ _))
  | cons act rest ih =>
      rw [performAll_cons] at split
      cases before with
      | nil =>
          obtain ⟨first, _⟩ := List.cons.inj split
          cases act with
          | snapshot =>
              cases first
              exact ⟨(List.append_nil _).symm, (List.append_nil _).symm⟩
          | addFormat format => cases first
          | addClause slot => cases first
      | cons call before =>
          obtain ⟨rfl, later⟩ := List.cons.inj split
          obtain ⟨formats, clauses⟩ := ih later
          cases act with
          | addFormat format =>
              exact ⟨formats.trans (List.append_assoc _ [format] _), clauses⟩
          | addClause slot =>
              exact ⟨formats, clauses.trans (List.append_assoc _ [slot] _)⟩
          | snapshot => exact ⟨formats, clauses⟩

theorem range'_of_append {Entry : Type} {table : List Entry} {entry : Entry} {id : UInt32}
    {ids : List UInt32} {count : Nat} (named : id.toNat = table.length + 1)
    (later : ids.map UInt32.toNat = List.range' ((table ++ [entry]).length + 1) count) :
    (id :: ids).map UInt32.toNat = List.range' (table.length + 1) (count + 1) := by
  rw [List.length_append, List.length_singleton] at later
  rw [List.map_cons, named, later]
  rfl

theorem performAll_numbered {catalog : Catalog} {acts : List Act}
    (numbered : (catalog.performAll acts).2.Numbered) :
    ((catalog.performAll acts).1.filterMap Call.formatId?).map UInt32.toNat =
        List.range' (catalog.formats.length + 1)
          ((catalog.performAll acts).1.filterMap Call.format?).length ∧
      ((catalog.performAll acts).1.filterMap Call.slotId?).map UInt32.toNat =
        List.range' (catalog.clauses.length + 1)
          ((catalog.performAll acts).1.filterMap Call.slot?).length := by
  induction acts generalizing catalog with
  | nil => exact ⟨rfl, rfl⟩
  | cons act rest ih =>
      obtain ⟨formats, clauses⟩ := @ih (catalog.perform act).2 numbered
      have added := numbered.of_grows (performAll_grows (catalog.perform act).2 rest)
      rw [performAll_cons]
      cases act with
      | addFormat format => exact ⟨range'_of_append (addFormat_toNat added) formats, clauses⟩
      | addClause slot => exact ⟨formats, range'_of_append (addClause_toNat added) clauses⟩
      | snapshot => exact ⟨formats, clauses⟩

/-- What the users of tables can rely on: copies whose views agree, and ids that stay. -/
structure Dependable (acts : List Act) (calls : List Call) : Prop where
  answers : calls.map Call.act = acts
  views : ∀ copy, .copied copy ∈ calls → copy.ViewsAgree
  contents : ∀ before copy after, calls = before ++ .copied copy :: after →
    copy.formats = before.filterMap Call.format? ∧ copy.clauses = before.filterMap Call.slot?
  lasts : calls.Pairwise fun call later => ∀ copy ∈ later.copy?, call.LastsIn copy
  formatIds : (calls.filterMap Call.formatId?).map UInt32.toNat =
    List.range' 1 (calls.filterMap Call.format?).length
  slotIds : (calls.filterMap Call.slotId?).map UInt32.toNat =
    List.range' 1 (calls.filterMap Call.slot?).length

/-- However the tables are used, their copies agree with each other and with the ids, as
long as there is an id for every entry. -/
theorem performAll_dependable (acts : List Act)
    (numbered : (({} : Catalog).performAll acts).2.Numbered) :
    Dependable acts (({} : Catalog).performAll acts).1 := by
  obtain ⟨formatIds, slotIds⟩ := performAll_numbered numbered
  constructor
  · exact performAll_acts {} acts
  · intro copy member
    exact (numbered.of_grows (grows_of_copied member).2).viewsAgree
  · intro before copy after split
    exact tables_of_copied split
  · exact performAll_lasts numbered
  · exact formatIds
  · exact slotIds

/-- A slot without a clause lies between two clauses, and copies are taken before and
behind the second. -/
theorem performAll_dependable_sample :
    let clause : Clause := { probe := none, userArg := 0, size := 24, actions := [] }
    let acts : List Act :=
      [.addFormat "%d", .addClause (some { clause with size := 16 }), .addClause none, .snapshot,
        .addClause (some clause), .addFormat "%s", .snapshot]
    (({} : Catalog).performAll acts).2.Numbered ∧
      (({} : Catalog).performAll acts).1.filterMap Call.slotId? = [1, 2, 3] ∧
      (({} : Catalog).performAll acts).2.checkMtu 20 = .error (.recordExceedsMtu 3 24 20) ∧
      Dependable acts (({} : Catalog).performAll acts).1 := by
  intro clause acts
  have numbered : (({} : Catalog).performAll acts).2.Numbered := ⟨by decide, by decide⟩
  exact ⟨numbered, by decide, by decide, performAll_dependable acts numbered⟩

end Catalog
end TraceForward
