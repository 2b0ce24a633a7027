/-
Reading a frame by itself.

A region is read record by record, and its frames are groups of the records that
are read.  A header is four bytes wherever a record starts.  So a receiver that
has one frame and nothing else reads the same records, unless the last of them is
shorter than its header: part of that header lies in the frame that follows.
-/

import TraceForward.Proofs.Framing.Cut
import TraceForward.Proofs.Words

namespace TraceForward

namespace Record

/-! ### One record -/

/-- A record is found where a whole header is, and its size depends on nothing
but the header. -/
theorem nextSize_eq_ok_iff {mtu : Nat} {size : Sizer} {offset left recordSize : Nat}
    {rest : Bytes} :
    nextSize mtu size offset left rest = .ok recordSize ↔
      ∃ clause, rest.word? Limits.headerSize = some clause ∧
        recordSize = sizeOf size clause ∧ 0 < recordSize ∧ recordSize ≤ mtu ∧
        recordSize ≤ left := by
  constructor
  · intro found
    have bounds := nextSize_bounds found
    unfold nextSize at found
    cases header : rest.word? Limits.headerSize with
    | none =>
        rw [header] at found
        cases found
    | some clause =>
        simp only [header] at found
        split at found
        · cases found
        · split at found
          · cases found
          · split at found
            · cases found
            · exact ⟨clause, rfl, (Except.ok.inj found).symm, bounds⟩
  · rintro ⟨clause, header, rfl, positive, small, inside⟩
    unfold nextSize
    rw [header]
    dsimp only
    rw [if_neg (by omega), if_neg (by omega), if_neg (by omega)]

/-- Whether there is a record does not depend on where the bytes start. -/
theorem found_at_start {mtu : Nat} {size : Sizer} {offset left recordSize : Nat} {rest : Bytes}
    (measured : rest.length = left)
    (found : nextSize mtu size offset left rest = .ok recordSize) :
    nextSize mtu size 0 rest.length rest = .ok recordSize := by
  rw [nextSize_eq_ok_iff] at found ⊢
  rw [measured]
  exact found

theorem stopped_at_start {mtu : Nat} {size : Sizer} {offset left : Nat} {rest : Bytes}
    {fault : FramingFault} (measured : rest.length = left)
    (stopped : nextSize mtu size offset left rest = .error fault) :
    ∀ recordSize, nextSize mtu size 0 rest.length rest ≠ .ok recordSize := by
  intro recordSize found
  rw [nextSize_eq_ok_iff, measured] at found
  rw [nextSize_eq_ok_iff.mpr found] at stopped
  cases stopped

/-- The bytes `record` are read as one record when `after` follows them. -/
def Reads (mtu : Nat) (size : Sizer) (record after : Bytes) : Prop :=
  nextSize mtu size 0 (record ++ after).length (record ++ after) = .ok record.length

variable {mtu : Nat} {size : Sizer}

theorem reads_iff {record after : Bytes} :
    Reads mtu size record after ↔
      ∃ clause, (record ++ after).word? Limits.headerSize = some clause ∧
        record.length = sizeOf size clause ∧ 0 < record.length ∧ record.length ≤ mtu := by
  rw [Reads, nextSize_eq_ok_iff]
  constructor
  · rintro ⟨clause, header, sized, positive, small, _⟩
    exact ⟨clause, header, sized, positive, small⟩
  · rintro ⟨clause, header, sized, positive, small⟩
    refine ⟨clause, header, sized, positive, small, ?_⟩
    rw [List.length_append]
    omega

theorem Reads.header_le {record after : Bytes} (reads : Reads mtu size record after) :
    Limits.headerSize ≤ (record ++ after).length := by
  obtain ⟨clause, header, _⟩ := reads_iff.mp reads
  by_cases short : (record ++ after).length < Limits.headerSize
  · rw [Bytes.word?_eq_none_iff.mpr short] at header
    cases header
  · omega

/-- What follows a record matters only as far as the header reaches into it. -/
theorem Reads.of_prefix {record within beyond : Bytes}
    (reads : Reads mtu size record (within ++ beyond))
    (inside : Limits.headerSize ≤ (record ++ within).length) : Reads mtu size record within := by
  obtain ⟨clause, header, bounds⟩ := reads_iff.mp reads
  rw [← List.append_assoc, Bytes.word?_append_of_le inside] at header
  exact reads_iff.mpr ⟨clause, header, bounds⟩

theorem Reads.whole {record after : Bytes} (reads : Reads mtu size record after)
    (headed : Limits.headerSize ≤ record.length) : Whole mtu size record := by
  obtain ⟨clause, header, sized, positive, small⟩ := reads_iff.mp reads
  rw [Bytes.word?_append_of_le headed] at header
  obtain ⟨bounded, shape⟩ := Bytes.eq_ofLittleEndian_of_word? header
  exact ⟨⟨clause, record.drop Limits.headerSize, bounded, shape, sized⟩, small⟩

/-! ### Rows of records -/

/-- The records at the head of some bytes, up to the first place where there is
none. -/
def walk (mtu : Nat) (size : Sizer) (rest : Bytes) : List Bytes :=
  match found : nextSize mtu size 0 rest.length rest with
  | .error _ => []
  | .ok recordSize =>
      have _bounds := nextSize_bounds found
      rest.take recordSize :: walk mtu size (rest.drop recordSize)
termination_by rest.length
decreasing_by
  rw [List.length_drop]
  omega

/-- The records of a row are read one after the other when `after` follows the
row. -/
def ReadsRow (mtu : Nat) (size : Sizer) : List Bytes → Bytes → Prop
  | [], _ => True
  | record :: rest, after =>
      Reads mtu size record (rest.flatten ++ after) ∧ ReadsRow mtu size rest after

theorem readsRow_append {first second : List Bytes} {after : Bytes} :
    ReadsRow mtu size (first ++ second) after ↔
      ReadsRow mtu size first (second.flatten ++ after) ∧ ReadsRow mtu size second after := by
  induction first with
  | nil => simp [ReadsRow]
  | cons record rest ih =>
      simp only [List.cons_append, ReadsRow, List.flatten_append, List.append_assoc, ih,
        and_assoc]

theorem ReadsRow.exists_reads {row : List Bytes} {after record : Bytes}
    (reads : ReadsRow mtu size row after) (member : record ∈ row) :
    ∃ beyond, Reads mtu size record beyond := by
  induction row with
  | nil => cases member
  | cons first rest ih =>
      rcases List.mem_cons.mp member with rfl | later
      · exact ⟨_, reads.1⟩
      · exact ih reads.2 later

theorem walk_of_found {rest : Bytes} {recordSize : Nat}
    (found : nextSize mtu size 0 rest.length rest = .ok recordSize) :
    walk mtu size rest = rest.take recordSize :: walk mtu size (rest.drop recordSize) := by
  rw [walk]
  split
  next fault missed =>
    rw [found] at missed
    cases missed
  next other same =>
    rw [found] at same
    cases same
    rfl

theorem walk_of_missed {rest : Bytes}
    (missed : ∀ recordSize, nextSize mtu size 0 rest.length rest ≠ .ok recordSize) :
    walk mtu size rest = [] := by
  rw [walk]
  split
  · rfl
  next recordSize found => exact (missed recordSize found).elim

theorem walk_nil : walk mtu size [] = [] :=
  walk_of_missed nofun

theorem walk_readsRow (mtu : Nat) (size : Sizer) (bytes : Bytes) :
    ∃ after, bytes = (walk mtu size bytes).flatten ++ after ∧
      ReadsRow mtu size (walk mtu size bytes) after := by
  fun_induction walk mtu size bytes with
  | case1 rest fault missed => exact ⟨rest, rfl, trivial⟩
  | case2 rest recordSize found bounds ih =>
      obtain ⟨after, split, reads⟩ := ih
      refine ⟨after, ?_, ?_, reads⟩
      · rw [List.flatten_cons, List.append_assoc, ← split, List.take_append_drop]
      · rw [Reads, ← split, List.take_append_drop, found, List.length_take,
          Nat.min_eq_left bounds.2.2]

theorem walk_of_readsRow {row : List Bytes} {after : Bytes}
    (reads : ReadsRow mtu size row after) :
    walk mtu size (row.flatten ++ after) = row ++ walk mtu size after := by
  induction row with
  | nil => rfl
  | cons record rest ih =>
      obtain ⟨first, later⟩ := reads
      rw [List.flatten_cons, List.append_assoc, walk_of_found first, List.take_left,
        List.drop_left, ih later, List.cons_append]

/-! ### Frames are groups of records -/

/-- An open frame is closed as the group of its records, or not at all if there
are none. -/
theorem closeFrame_groups {start : Bytes} {length : Nat} {under : List Bytes}
    (begun : under.flatten = start.take length) (nonempty : ∀ record ∈ under, record ≠ [])
    (small : length ≤ mtu) (inside : length ≤ start.length) :
    ∃ groups : List (List Bytes),
      closeFrame start length = groups.map List.flatten ∧ groups.flatten = under ∧
      ∀ group ∈ groups, group ≠ [] ∧ group.flatten.length ≤ mtu := by
  have measure : under.flatten.length = length := by
    rw [begun, List.length_take]
    omega
  by_cases empty : length = 0
  · have none : under = [] := by
      cases under with
      | nil => rfl
      | cons record more =>
          rw [empty, List.take_zero, List.flatten_cons] at begun
          have hollow := (List.append_eq_nil_iff.mp begun).1
          exact (nonempty record List.mem_cons_self hollow).elim
    refine ⟨[], ?_, none.symm, ?_⟩
    · rw [closeFrame, if_pos empty]
      rfl
    · intro group member
      cases member
  · refine ⟨[under], ?_, List.append_nil _, ?_⟩
    · rw [closeFrame, if_neg empty, List.map_singleton, begun]
    · intro group member
      rw [List.mem_singleton.mp member]
      refine ⟨?_, by omega⟩
      intro none
      rw [none] at measure
      exact empty measure.symm

theorem take_ne_nil {rest : Bytes} {recordSize : Nat} (positive : 0 < recordSize)
    (inside : recordSize ≤ rest.length) : rest.take recordSize ≠ [] := by
  intro empty
  have lengths := congrArg List.length empty
  rw [List.length_take, List.length_nil] at lengths
  omega

/-- The open frame is the group `under`, whose records hold at least a byte
each.  The frames are that group with the records that still fit, and more groups
of the records that are left. -/
theorem cutFrom_groups (start : Bytes) (length : Nat) (rest : Bytes) (offset left : Nat)
    (under : List Bytes) (begun : under.flatten = start.take length)
    (nonempty : ∀ record ∈ under, record ≠ []) (small : length ≤ mtu)
    (follows : rest = start.drop length) (inside : length ≤ start.length)
    (measured : rest.length = left) :
    ∃ groups : List (List Bytes),
      (cutFrom mtu size start length rest offset left).frames = groups.map List.flatten ∧
      groups.flatten = under ++ walk mtu size rest ∧
      ∀ group ∈ groups, group ≠ [] ∧ group.flatten.length ≤ mtu := by
  fun_induction cutFrom mtu size start length rest offset left generalizing under with
  | case1 start length rest offset =>
      have nothing : rest = [] := List.length_eq_zero_iff.mp measured
      obtain ⟨groups, frames, all, bounds⟩ := closeFrame_groups begun nonempty small inside
      refine ⟨groups, frames, ?_, bounds⟩
      rw [all, nothing, walk_nil, List.append_nil]
  | case2 start length rest offset left more fault stopped =>
      obtain ⟨groups, frames, all, bounds⟩ := closeFrame_groups begun nonempty small inside
      refine ⟨groups, frames, ?_, bounds⟩
      rw [all, walk_of_missed (stopped_at_start measured stopped), List.append_nil]
  | case3 start length rest offset left more recordSize found bounds overflow later ih =>
      -- The next record is the first of another group.
      have room : recordSize ≤ rest.length := by omega
      have fresh : ∀ record ∈ [rest.take recordSize], record ≠ [] := by
        intro record member
        rw [List.mem_singleton.mp member]
        exact take_ne_nil bounds.1 room
      obtain ⟨groups, frames, all, sizes⟩ :=
        ih [rest.take recordSize] (List.append_nil _) fresh bounds.2.1 rfl room
          (by rw [List.length_drop, measured])
      have measure : under.flatten.length = length := by
        rw [begun, List.length_take]
        omega
      refine ⟨under :: groups, ?_, ?_, ?_⟩
      · change start.take length :: later.frames = _
        rw [frames, List.map_cons, begun]
      · rw [List.flatten_cons, all, walk_of_found (found_at_start measured found),
          List.singleton_append]
      · intro group member
        rcases List.mem_cons.mp member with rfl | other
        · refine ⟨?_, by omega⟩
          intro none
          rw [none, List.flatten_nil, List.length_nil] at measure
          omega
        · exact sizes group other
  | case4 start length rest offset left more recordSize found bounds fits ih =>
      -- The next record goes into the open group.
      have room : recordSize ≤ rest.length := by omega
      have bound : length + recordSize ≤ start.length := by
        have whole := congrArg List.length follows
        rw [List.length_drop, measured] at whole
        omega
      have longer : (under ++ [rest.take recordSize]).flatten = start.take (length + recordSize) := by
        rw [List.flatten_append, List.flatten_singleton, begun, follows, List.take_add]
      have filled : ∀ record ∈ under ++ [rest.take recordSize], record ≠ [] := by
        intro record member
        rcases List.mem_append.mp member with old | last
        · exact nonempty record old
        · rw [List.mem_singleton.mp last]
          exact take_ne_nil bounds.1 room
      obtain ⟨groups, frames, all, sizes⟩ :=
        ih (under ++ [rest.take recordSize]) longer filled (by omega)
          (by rw [follows, List.drop_drop]) bound (by rw [List.length_drop, measured])
      refine ⟨groups, frames, ?_, sizes⟩
      rw [all, walk_of_found (found_at_start measured found), List.append_assoc,
        List.singleton_append]

/-- The frames of a region are its records in groups, none of which is empty or
larger than a frame may be. -/
theorem cut_groups (region : Bytes) (mtu : Nat) (size : Sizer) :
    ∃ groups : List (List Bytes),
      (cut region mtu size).frames = groups.map List.flatten ∧
      groups.flatten = walk mtu size region ∧
      ∀ group ∈ groups, group ≠ [] ∧ group.flatten.length ≤ mtu :=
  cutFrom_groups region 0 region 0 region.length [] rfl nofun (Nat.zero_le _) rfl
    (Nat.zero_le _) rfl

theorem length_le_of_cut {region payload : Bytes}
    (member : payload ∈ (cut region mtu size).frames) : payload.length ≤ mtu := by
  obtain ⟨groups, frames, _, bounds⟩ := cut_groups region mtu size
  rw [frames] at member
  obtain ⟨group, present, rfl⟩ := List.mem_map.mp member
  exact (bounds group present).2

/-! ### One frame and nothing else -/

/-- A receiver that has this group of records as one frame, and nothing else,
finds one frame and the same records. -/
def StandsAlone (mtu : Nat) (size : Sizer) (group : List Bytes) : Prop :=
  cut group.flatten mtu size =
      { frames := [group.flatten], consumed := group.flatten.length, fault := none } ∧
    walk mtu size group.flatten = group

/-- The last record of a group holds its header. -/
def EndsWhole (group : List Bytes) : Prop :=
  ∀ last ∈ group.getLast?, Limits.headerSize ≤ last.length

theorem cutFrom_readsRow {row : List Bytes} (reads : ReadsRow mtu size row [])
    (start : Bytes) (length offset : Nat) (fits : length + row.flatten.length ≤ mtu) :
    cutFrom mtu size start length row.flatten offset row.flatten.length =
      { frames := closeFrame start (length + row.flatten.length)
        consumed := offset + row.flatten.length
        fault := none } := by
  induction row generalizing length offset with
  | nil =>
      rw [cutFrom]
      rfl
  | cons record rest ih =>
      obtain ⟨first, later⟩ := reads
      rw [Reads, List.append_nil] at first
      have found := first
      rw [nextSize_eq_ok_iff] at found
      have positive := (nextSize_bounds first).1
      rw [List.flatten_cons, List.length_append] at fits ⊢
      rw [cutFrom, if_neg (by omega)]
      split
      next fault missed =>
        rw [← List.length_append, nextSize_eq_ok_iff.mpr found] at missed
        cases missed
      next recordSize same =>
        rw [← List.length_append, nextSize_eq_ok_iff.mpr found] at same
        obtain rfl := Except.ok.inj same
        rw [if_neg (by omega), List.drop_left, Nat.add_sub_cancel_left,
          ih later _ _ (by omega), Nat.add_assoc, Nat.add_assoc]

theorem standsAlone_of_readsRow {group : List Bytes} (reads : ReadsRow mtu size group [])
    (nonempty : group ≠ []) (fits : group.flatten.length ≤ mtu) :
    StandsAlone mtu size group := by
  have positive : group.flatten.length ≠ 0 := by
    cases group with
    | nil => exact (nonempty rfl).elim
    | cons record rest =>
        have first := (nextSize_bounds reads.1).1
        rw [List.flatten_cons, List.length_append]
        omega
  constructor
  · rw [cut, cutFrom_readsRow reads group.flatten 0 0 (by omega), Nat.zero_add, closeFrame,
      if_neg positive, List.take_length]
  · have read := walk_of_readsRow reads
    rw [List.append_nil, walk_nil, List.append_nil] at read
    exact read

theorem cut_record {record : Bytes} (whole : Whole mtu size record) :
    (cut record mtu size).frames = [record] := by
  have reads : ReadsRow mtu size [record] [] := ⟨whole.nextSize_append _ 0, trivial⟩
  have same : [record].flatten = record := List.append_nil record
  have fits : [record].flatten.length ≤ mtu := by
    rw [same]
    exact whole.fits
  obtain ⟨framed, _⟩ := standsAlone_of_readsRow reads (List.cons_ne_nil _ _) fits
  rw [same] at framed
  rw [framed]

/-- A group that is read in front of anything is read by itself exactly if its
last record holds its header: no earlier header reaches further. -/
theorem ReadsRow.alone_iff {group : List Bytes} {after : Bytes}
    (reads : ReadsRow mtu size group after) :
    ReadsRow mtu size group [] ↔ EndsWhole group := by
  induction group with
  | nil => simp [ReadsRow, EndsWhole]
  | cons record rest ih =>
      obtain ⟨first, later⟩ := reads
      cases rest with
      | nil =>
          constructor
          · rintro ⟨alone, _⟩ last member
            have long := alone.header_le
            cases member
            simpa using long
          · intro whole
            have long := whole record rfl
            have front : Reads mtu size record ([] ++ after) := by simpa using first
            exact ⟨front.of_prefix (by simpa using long), trivial⟩
      | cons second others =>
          have same : EndsWhole (record :: second :: others) ↔ EndsWhole (second :: others) := by
            simp [EndsWhole]
          rw [same, ← ih later]
          constructor
          · intro alone
            exact alone.2
          · intro alone
            have long := alone.1.header_le
            have front : Reads mtu size record
                (((second :: others).flatten ++ []) ++ after) := by simpa using first
            refine ⟨front.of_prefix ?_, alone⟩
            simp only [List.flatten_cons, List.length_append, List.append_nil] at long ⊢
            omega

theorem ReadsRow.standsAlone_iff {group : List Bytes} {after : Bytes}
    (reads : ReadsRow mtu size group after) (nonempty : group ≠ [])
    (fits : group.flatten.length ≤ mtu) : StandsAlone mtu size group ↔ EndsWhole group := by
  rw [← reads.alone_iff]
  constructor
  · rintro ⟨_, read⟩
    obtain ⟨left, split, again⟩ := walk_readsRow mtu size group.flatten
    rw [read] at split again
    have nothing : left = [] := by
      have lengths := congrArg List.length split
      rw [List.length_append] at lengths
      exact List.length_eq_zero_iff.mp (by omega)
    rw [nothing] at again
    exact again
  · intro alone
    exact standsAlone_of_readsRow alone nonempty fits

/-- Any group of a row that is read is read in front of something. -/
theorem ReadsRow.of_mem_groups {groups : List (List Bytes)} {after : Bytes}
    (reads : ReadsRow mtu size groups.flatten after) {group : List Bytes}
    (member : group ∈ groups) : ∃ beyond, ReadsRow mtu size group beyond := by
  induction groups with
  | nil => cases member
  | cons first rest ih =>
      rw [List.flatten_cons, readsRow_append] at reads
      rcases List.mem_cons.mp member with rfl | later
      · exact ⟨_, reads.1⟩
      · exact ih reads.2 later

end Record
end TraceForward
