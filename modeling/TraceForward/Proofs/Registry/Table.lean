/-
The table of registered sessions as a partial map.

In a sound table every entry is in the bucket of its handle, and no handle has
two.  What it answers is then what a partial map would answer: where a handle is
found depends on the hash and on the number of buckets, but not what is found.
-/

import Mathlib.Data.List.Flatten
import Mathlib.Data.List.Perm.Basic
import TraceForward.Session.Table

namespace TraceForward

/-! ### Rows -/

theorem lookup_eq_some_iff_mem {α β : Type} [DecidableEq α] {row : List (α × β)}
    (distinct : (row.map Prod.fst).Nodup) {key : α} {value : β} :
    row.lookup key = some value ↔ (key, value) ∈ row := by
  induction row with
  | nil => simp
  | cons entry rest ih =>
      obtain ⟨first, held⟩ := entry
      obtain ⟨fresh, restDistinct⟩ := List.nodup_cons.mp distinct
      rw [List.lookup_cons]
      by_cases same : key = first
      · subst same
        have absent : (key, value) ∉ rest := by
          intro member
          exact fresh (List.mem_map.mpr ⟨_, member, rfl⟩)
        simp [absent, eq_comm]
      · have other : (key == first) = false := beq_eq_false_iff_ne.mpr same
        simp [other, same, ih restDistinct]

theorem HandleTable.swapRemove_perm {β : Type} {row : List β} {position : Nat} {entry : β}
    (present : row[position]? = some entry) :
    row.Perm (entry :: swapRemove row position) := by
  obtain ⟨inside, rfl⟩ := List.getElem?_eq_some_iff.mp present
  obtain ⟨start, last, shape⟩ :=
    (List.eq_nil_or_concat row).resolve_left (List.ne_nil_of_length_pos (by omega))
  rw [List.concat_eq_append] at shape
  subst shape
  have ends : (start ++ [last]).set position last = start.set position last ++ [last] := by
    rw [List.set_append]
    split
    · rfl
    · next outside =>
        have exact : position = start.length := by
          rw [List.length_append, List.length_singleton] at inside
          omega
        rw [exact, List.set_eq_of_length_le (Nat.le_refl _), Nat.sub_self]
        rfl
  have removed : swapRemove (start ++ [last]) position = start.set position last := by
    rw [swapRemove, List.getLast?_append, List.getLast?_singleton]
    change ((start ++ [last]).set position last).dropLast = _
    rw [ends, List.dropLast_concat]
  have moved : (last :: start.set position last).Perm
      (last :: (start ++ [last]).eraseIdx position) := by
    have swapped := List.set_perm_cons_eraseIdx inside last
    rw [ends] at swapped
    exact (List.perm_append_singleton _ _).symm.trans swapped
  rw [removed]
  exact (List.getElem_cons_eraseIdx_perm inside).symm.trans (moved.cons_inv.symm.cons _)

theorem HandleTable.mem_of_mem_swapRemove {β : Type} {row : List β} {position : Nat}
    {entry : β} (member : entry ∈ swapRemove row position) : entry ∈ row := by
  rw [swapRemove] at member
  split at member
  next => cases member
  next last ends =>
    rcases List.mem_or_eq_of_mem_set (List.dropLast_subset _ member) with old | same
    · exact old
    · rw [same]
      exact List.mem_of_getLast? ends

/-- Where a row grows by an entry, the rows together grow by it. -/
theorem flatten_modify_perm {β : Type} {rows : List (List β)} {position : Nat}
    {row : List β} (present : rows[position]? = some row) {change : List β → List β}
    {entry : β} (grown : (change row).Perm (entry :: row)) :
    (rows.modify position change).flatten.Perm (entry :: rows.flatten) := by
  induction rows generalizing position with
  | nil => cases present
  | cons first rest ih =>
      cases position with
      | zero =>
          cases present
          exact grown.append_right rest.flatten
      | succ position =>
          have later := (ih present).append_left first
          exact later.trans List.perm_middle

theorem flatten_perm_modify {β : Type} {rows : List (List β)} {position : Nat}
    {row : List β} (present : rows[position]? = some row) (change : List β → List β)
    {entry : β} (shrunk : row.Perm (entry :: change row)) :
    rows.flatten.Perm (entry :: (rows.modify position change).flatten) := by
  induction rows generalizing position with
  | nil => cases present
  | cons first rest ih =>
      cases position with
      | zero =>
          cases present
          exact shrunk.append_right rest.flatten
      | succ position =>
          have later := (ih present).append_left first
          exact later.trans List.perm_middle

namespace HandleTable

variable {α : Type} {table changed : HandleTable α} {handle : Handle} {value : α}

def entries (table : HandleTable α) : List (Handle × α) :=
  table.buckets.flatten

theorem handles_eq (table : HandleTable α) : table.handles = table.entries.map Prod.fst := by
  rw [handles, entries, List.map_flatten]
  rfl

/-- Every entry is in the bucket of its handle, and no handle has two. -/
structure Sound (table : HandleTable α) : Prop where
  nonempty : 0 < table.buckets.length
  own : ∀ position row, table.buckets[position]? = some row →
    ∀ entry ∈ row, table.position entry.1 = position
  once : table.handles.Nodup

theorem Sound.position_lt (sound : table.Sound) (handle : Handle) :
    table.position handle < table.buckets.length := by
  have bound : table.position handle ≤ table.buckets.length - 1 := Nat.and_le_right
  have nonempty := sound.nonempty
  omega

theorem create_sound (hash : Handle → Nat) {count : Nat} (positive : 0 < count) :
    (create hash count : HandleTable α).Sound := by
  refine ⟨by simpa [create] using positive, ?_, ?_⟩
  · intro position row present entry member
    have empty : row = [] := List.eq_of_mem_replicate (List.mem_of_getElem? present)
    rw [empty] at member
    cases member
  · simp [handles_eq, entries, create]

theorem Sound.bucket_present (sound : table.Sound) (handle : Handle) :
    table.buckets[table.position handle]? = some (table.bucket handle) := by
  rw [bucket, List.getD_eq_getElem?_getD, List.getElem?_eq_getElem (sound.position_lt handle)]
  rfl

theorem Sound.mem_entries_iff (sound : table.Sound) :
    (handle, value) ∈ table.entries ↔ (handle, value) ∈ table.bucket handle := by
  have present := sound.bucket_present handle
  constructor
  · intro member
    obtain ⟨row, rowPresent, inRow⟩ := List.mem_flatten.mp member
    obtain ⟨position, there⟩ := List.mem_iff_getElem?.mp rowPresent
    have home := sound.own position row there _ inRow
    rw [← home, present] at there
    rw [Option.some.inj there]
    exact inRow
  · intro member
    exact List.mem_flatten.mpr ⟨_, List.mem_of_getElem? present, member⟩

theorem Sound.mem_handles_iff (sound : table.Sound) :
    handle ∈ table.handles ↔ handle ∈ (table.bucket handle).map Prod.fst := by
  rw [handles_eq, List.mem_map, List.mem_map]
  constructor
  · rintro ⟨⟨key, held⟩, member, rfl⟩
    exact ⟨_, sound.mem_entries_iff.mp member, rfl⟩
  · rintro ⟨⟨key, held⟩, member, rfl⟩
    exact ⟨_, sound.mem_entries_iff.mpr member, rfl⟩

theorem Sound.find?_eq_some_iff (sound : table.Sound) :
    table.find? handle = some value ↔ (handle, value) ∈ table.entries := by
  have distinct : ((table.bucket handle).map Prod.fst).Nodup := by
    have once := sound.once
    rw [handles_eq] at once
    exact once.sublist ((List.sublist_flatten_of_mem
      (List.mem_of_getElem? (sound.bucket_present handle))).map Prod.fst)
  rw [find?, lookup_eq_some_iff_mem distinct, sound.mem_entries_iff]

theorem Sound.find?_eq_none_iff (sound : table.Sound) :
    table.find? handle = none ↔ handle ∉ table.handles := by
  rw [handles_eq, List.mem_map, Option.eq_none_iff_forall_ne_some]
  constructor
  · rintro absent ⟨⟨key, value⟩, member, rfl⟩
    exact absent value (sound.find?_eq_some_iff.mpr member)
  · intro absent value found
    exact absent ⟨_, sound.find?_eq_some_iff.mp found, rfl⟩

theorem position_of_same (hash : changed.hash = table.hash)
    (size : changed.buckets.length = table.buckets.length) (handle : Handle) :
    changed.position handle = table.position handle := by
  rw [position, position, hash, size]

/-- A table in which one bucket was changed, that of the entry that came or
went, keeps entries in their buckets. -/
theorem Sound.own_modify (sound : table.Sound)
    {change : List (Handle × α) → List (Handle × α)}
    (hash : changed.hash = table.hash)
    (buckets : changed.buckets = table.buckets.modify (table.position handle) change)
    (known : ∀ row, ∀ entry ∈ change row, entry.1 = handle ∨ entry ∈ row) :
    ∀ position row, changed.buckets[position]? = some row →
      ∀ entry ∈ row, changed.position entry.1 = position := by
  intro position row present entry member
  have size : changed.buckets.length = table.buckets.length := by
    rw [buckets, List.length_modify]
  rw [position_of_same hash size]
  rw [buckets, List.getElem?_modify, Option.map_eq_map, Option.map_eq_some_iff] at present
  obtain ⟨before, there, rfl⟩ := present
  split at member
  next home =>
    rcases known before entry member with own | old
    · rw [own, home]
    · exact sound.own position before there entry old
  next => exact sound.own position before there entry member

/-! ### Registering -/

theorem Sound.insert_entries (sound : table.Sound) (handle : Handle) (value : α) :
    (table.insert handle value).entries.Perm ((handle, value) :: table.entries) :=
  flatten_modify_perm (sound.bucket_present handle) (List.perm_append_singleton _ _)

theorem Sound.insert (sound : table.Sound) (fresh : table.find? handle = none) (value : α) :
    (table.insert handle value).Sound := by
  refine ⟨?_, ?_, ?_⟩
  · have nonempty := sound.nonempty
    simpa [HandleTable.insert] using nonempty
  · refine sound.own_modify rfl rfl ?_
    intro row entry member
    rcases List.mem_append.mp member with old | new
    · exact .inr old
    · rw [List.mem_singleton.mp new]
      exact .inl rfl
  · rw [handles_eq, ((sound.insert_entries handle value).map Prod.fst).nodup_iff,
      List.map_cons, List.nodup_cons, ← handles_eq]
    exact ⟨sound.find?_eq_none_iff.mp fresh, sound.once⟩

theorem Sound.find?_insert (sound : table.Sound) (fresh : table.find? handle = none)
    (value : α) (other : Handle) :
    (table.insert handle value).find? other =
      if other = handle then some value else table.find? other := by
  apply Option.ext
  intro held
  have kept := sound.insert fresh value
  rw [kept.find?_eq_some_iff, (sound.insert_entries handle value).mem_iff, List.mem_cons,
    Prod.mk.injEq]
  by_cases same : other = handle
  · subst same
    have absent : (other, held) ∉ table.entries := by
      intro member
      rw [sound.find?_eq_some_iff.mpr member] at fresh
      cases fresh
    simp [absent, eq_comm]
  · simp [same, sound.find?_eq_some_iff]

/-! ### Taking out -/

theorem unlink_eq_none_iff : table.unlink handle = none ↔ table.find? handle = none := by
  rw [unlink, find?, List.lookup_eq_none_iff]
  cases found : (table.bucket handle).findIdx? fun entry => entry.1 == handle with
  | none =>
      have absent := List.findIdx?_eq_none_iff.mp found
      simp only [true_iff]
      intro entry member
      have other := absent entry member
      rw [bne, beq_eq_false_iff_ne.mpr fun same => by simp [same] at other]
      rfl
  | some index =>
      obtain ⟨inside, hit, _⟩ := List.findIdx?_eq_some_iff_getElem.mp found
      simp only [List.getElem?_eq_getElem inside, Option.map_some, reduceCtorEq, false_iff]
      intro absent
      have other := absent _ (List.getElem_mem inside)
      rw [beq_iff_eq.mp hit] at other
      simp at other

theorem Sound.unlink (sound : table.Sound)
    (taken : table.unlink handle = some (value, changed)) :
    table.entries.Perm ((handle, value) :: changed.entries) ∧ changed.Sound := by
  rw [HandleTable.unlink] at taken
  split at taken
  next => cases taken
  next index found =>
    obtain ⟨inside, hit, _⟩ := List.findIdx?_eq_some_iff_getElem.mp found
    have there := List.getElem?_eq_getElem inside
    generalize (table.bucket handle)[index] = entry at hit there
    obtain ⟨key, held⟩ := entry
    have same : key = handle := beq_iff_eq.mp hit
    subst same
    rw [there] at taken
    obtain ⟨rfl, rfl⟩ := Prod.mk.inj (Option.some.inj taken)
    have split := flatten_perm_modify (sound.bucket_present key)
      (fun row => swapRemove row index) (swapRemove_perm there)
    refine ⟨split, ?_, ?_, ?_⟩
    · have nonempty := sound.nonempty
      simpa using nonempty
    · refine sound.own_modify rfl rfl ?_
      intro other entry member
      exact .inr (mem_of_mem_swapRemove member)
    · have once := sound.once
      rw [handles_eq, entries, (split.map Prod.fst).nodup_iff, List.map_cons,
        List.nodup_cons] at once
      rw [handles_eq]
      exact once.2

theorem Sound.find?_unlink (sound : table.Sound)
    (taken : table.unlink handle = some (value, changed)) (other : Handle) :
    changed.find? other = if other = handle then none else table.find? other := by
  obtain ⟨split, kept⟩ := sound.unlink taken
  have once := sound.once
  rw [handles_eq, (split.map Prod.fst).nodup_iff, List.map_cons, List.nodup_cons] at once
  by_cases same : other = handle
  · subst same
    rw [if_pos rfl, kept.find?_eq_none_iff, handles_eq]
    exact once.1
  · rw [if_neg same]
    apply Option.ext
    intro held
    rw [kept.find?_eq_some_iff, sound.find?_eq_some_iff, split.mem_iff, List.mem_cons,
      Prod.mk.injEq]
    simp [same]

theorem Sound.mem_handles_unlink (sound : table.Sound)
    (taken : table.unlink handle = some (value, changed)) (other : Handle) :
    other ∈ changed.handles ↔ other ≠ handle ∧ other ∈ table.handles := by
  obtain ⟨_, kept⟩ := sound.unlink taken
  have found := sound.find?_unlink taken other
  rw [← not_iff_not, ← kept.find?_eq_none_iff, found, not_and, ← sound.find?_eq_none_iff]
  by_cases same : other = handle
  · simp [same]
  · simp [same]

theorem position_unlink (taken : table.unlink handle = some (value, changed))
    (other : Handle) : changed.position other = table.position other := by
  rw [HandleTable.unlink] at taken
  split at taken
  next => cases taken
  next =>
    rw [Option.map_eq_some_iff] at taken
    obtain ⟨_, _, same⟩ := taken
    obtain ⟨_, rfl⟩ := Prod.mk.inj same
    refine position_of_same ?_ ?_ other
    · rfl
    · simp

theorem Sound.find?_of_unlink (sound : table.Sound)
    (taken : table.unlink handle = some (value, changed)) :
    table.find? handle = some value := by
  obtain ⟨split, _⟩ := sound.unlink taken
  exact sound.find?_eq_some_iff.mpr (split.mem_iff.mpr List.mem_cons_self)

end HandleTable
end TraceForward
