/-
Framing measured against a walk over the region.

Whoever walks over a region stands at an offset, puts what stands there to four
tests, and goes on behind the record if it passes all of them.  Framing stops
where the walk stops and tells the test that failed there.  Its frames hold the
bytes that were walked over, they begin and end where the walk has stood, and a
frame is closed only where the next record would be too much for it.
-/

import Mathlib.Algebra.GroupWithZero.Nat
import TraceForward.Proofs.Framing.Walk

namespace TraceForward
namespace Record

/-! ### The walk -/

def clauseAt? (region : Bytes) (offset : Nat) : Option Nat :=
  if offset + Limits.headerSize ≤ region.length then
    some (Bytes.littleEndian ((region.drop offset).take Limits.headerSize))
  else
    none

/-- The size of the record at an offset, 0 where there is no whole header. -/
def extentAt (region : Bytes) (size : Sizer) (offset : Nat) : Nat :=
  ((clauseAt? region offset).map (sizeOf size)).getD 0

/-- The first test that fails at an offset.  The header has to be whole, the size
has to be known, and the record must fit a frame and lie in the region. -/
def hindrance? (region : Bytes) (mtu : Nat) (size : Sizer) (offset : Nat) :
    Option FramingFault :=
  let left := region.length - offset
  match clauseAt? region offset with
  | none => some (.truncated offset Limits.headerSize left)
  | some clause =>
      let recordSize := sizeOf size clause
      if recordSize = 0 then some (.unknownSize clause offset)
      else if mtu < recordSize then some (.exceedsMtu clause recordSize mtu)
      else if left < recordSize then some (.truncated offset recordSize left)
      else none

variable {region : Bytes} {mtu : Nat} {size : Sizer} {offset : Nat}

theorem hindrance?_eq_none_iff :
    hindrance? region mtu size offset = none ↔
      offset + Limits.headerSize ≤ region.length ∧ 0 < extentAt region size offset ∧
        extentAt region size offset ≤ mtu ∧
        extentAt region size offset ≤ region.length - offset := by
  unfold hindrance? extentAt clauseAt?
  by_cases headed : offset + Limits.headerSize ≤ region.length
  · simp only [if_pos headed, Option.map_some, Option.getD_some]
    constructor
    · intro free
      split at free
      · cases free
      · split at free
        · cases free
        · split at free
          · cases free
          · omega
    · rintro ⟨_, positive, small, inside⟩
      rw [if_neg (by omega), if_neg (by omega), if_neg (by omega)]
  · simp [headed]

/-- Where the walk stands from an offset on: there, and behind each record that
passes the tests. -/
def boundariesFrom (region : Bytes) (mtu : Nat) (size : Sizer) (offset : Nat) : List Nat :=
  match free : hindrance? region mtu size offset with
  | some _ => [offset]
  | none =>
      have _bounds := hindrance?_eq_none_iff.mp free
      offset :: boundariesFrom region mtu size (offset + extentAt region size offset)
termination_by region.length - offset
decreasing_by omega

def boundaries (region : Bytes) (mtu : Nat) (size : Sizer) : List Nat :=
  boundariesFrom region mtu size 0

/-! ### The walk and the records -/

theorem nextSize_drop (region : Bytes) (mtu : Nat) (size : Sizer) (offset : Nat) :
    nextSize mtu size offset (region.length - offset) (region.drop offset) =
      match hindrance? region mtu size offset with
      | some fault => .error fault
      | none => .ok (extentAt region size offset) := by
  unfold nextSize hindrance? extentAt clauseAt? Bytes.word?
  have whole : ((region.drop offset).take Limits.headerSize).length = Limits.headerSize ↔
      offset + Limits.headerSize ≤ region.length := by
    rw [List.length_take, List.length_drop]
    have positive : 0 < Limits.headerSize := by decide
    omega
  by_cases headed : offset + Limits.headerSize ≤ region.length
  · simp only [if_pos headed, if_pos (whole.mpr headed), Option.map_some, Option.getD_some]
    split
    · rfl
    · split
      · rfl
      · split <;> rfl
  · simp only [if_neg headed, if_neg (mt whole.mp headed)]

theorem walk_drop_of_hindered {fault : FramingFault}
    (hindered : hindrance? region mtu size offset = some fault) :
    walk mtu size (region.drop offset) = [] := by
  have missed := nextSize_drop region mtu size offset
  rw [hindered] at missed
  exact walk_of_missed (stopped_at_start (List.length_drop) missed)

theorem walk_drop_of_free (free : hindrance? region mtu size offset = none) :
    walk mtu size (region.drop offset) =
      (region.drop offset).take (extentAt region size offset) ::
        walk mtu size (region.drop (offset + extentAt region size offset)) := by
  have found := nextSize_drop region mtu size offset
  rw [free] at found
  rw [walk_of_found (found_at_start (List.length_drop) found), List.drop_drop]

/-- Behind any of the records that are read stands a boundary, and the rest of
them is read from there. -/
theorem boundary_of_split {first second : List Bytes}
    (split : walk mtu size (region.drop offset) = first ++ second) :
    offset + first.flatten.length ∈ boundariesFrom region mtu size offset ∧
      walk mtu size (region.drop (offset + first.flatten.length)) = second := by
  induction first generalizing offset with
  | nil =>
      constructor
      · rw [boundariesFrom]
        split <;> exact List.mem_cons_self
      · exact split
  | cons record rest ih =>
      cases free : hindrance? region mtu size offset with
      | some fault =>
          rw [walk_drop_of_hindered free] at split
          cases split
      | none =>
          obtain ⟨_, _, _, inside⟩ := hindrance?_eq_none_iff.mp free
          rw [walk_drop_of_free free, List.cons_append] at split
          obtain ⟨head, tail⟩ := List.cons.inj split
          have measure : record.length = extentAt region size offset := by
            rw [← head, List.length_take, List.length_drop]
            omega
          obtain ⟨stands, reads⟩ := ih tail
          rw [List.flatten_cons, List.length_append, measure, ← Nat.add_assoc]
          refine ⟨?_, reads⟩
          rw [boundariesFrom]
          split
          next fault hindered =>
            rw [free] at hindered
            cases hindered
          next => exact List.mem_cons_of_mem _ stands

theorem boundariesFrom_getLast? (region : Bytes) (mtu : Nat) (size : Sizer) (offset : Nat) :
    (boundariesFrom region mtu size offset).getLast? =
      some (offset + (walk mtu size (region.drop offset)).flatten.length) := by
  fun_induction boundariesFrom region mtu size offset with
  | case1 offset fault hindered =>
      rw [walk_drop_of_hindered hindered]
      rfl
  | case2 offset free bounds ih =>
      rw [List.getLast?_cons, ih, walk_drop_of_free free, List.flatten_cons, List.length_append,
        List.length_take, List.length_drop, Nat.min_eq_left bounds.2.2.2, ← Nat.add_assoc]
      rfl

/-- A record that is read stands where the tests are passed, and is as long as its
clause asks for. -/
theorem extentAt_of_split {first second : List Bytes} {record : Bytes}
    (split : walk mtu size region = first ++ record :: second) :
    hindrance? region mtu size first.flatten.length = none ∧
      extentAt region size first.flatten.length = record.length := by
  have begun : walk mtu size (region.drop 0) = first ++ record :: second := split
  obtain ⟨_, reads⟩ := boundary_of_split begun
  rw [Nat.zero_add] at reads
  cases free : hindrance? region mtu size first.flatten.length with
  | some fault =>
      rw [walk_drop_of_hindered free] at reads
      cases reads
  | none =>
      obtain ⟨_, _, _, inside⟩ := hindrance?_eq_none_iff.mp free
      rw [walk_drop_of_free free] at reads
      refine ⟨rfl, ?_⟩
      rw [← (List.cons.inj reads).1, List.length_take, List.length_drop]
      omega

/-! ### Records packed into frames -/

/-- Frames for records of these sizes, the open one being the first `length` bytes
of `start`: a record that would be too much for the open frame begins another. -/
def packed (mtu : Nat) : (start : Bytes) → (length : Nat) → List Nat → List Bytes
  | start, length, [] => closeFrame start length
  | start, length, next :: rest =>
      if mtu < length + next then
        start.take length :: packed mtu (start.drop length) next rest
      else
        packed mtu start (length + next) rest

theorem cutFrom_packed {row : List Bytes} {after : Bytes} (reads : ReadsRow mtu size row after)
    (stops : ∀ recordSize, nextSize mtu size 0 after.length after ≠ .ok recordSize)
    {start : Bytes} {length : Nat} (follows : row.flatten ++ after = start.drop length)
    (offset : Nat) :
    (cutFrom mtu size start length (row.flatten ++ after) offset
        (row.flatten ++ after).length).frames =
      packed mtu start length (row.map List.length) := by
  induction row generalizing start length offset with
  | nil =>
      rw [cutFrom]
      split
      · rfl
      · split
        · rfl
        next recordSize found => exact (stops recordSize (found_at_start rfl found)).elim
  | cons record rest ih =>
      obtain ⟨first, later⟩ := reads
      rw [List.flatten_cons, List.append_assoc] at follows ⊢
      have found := nextSize_eq_ok_iff.mp first
      have positive := (nextSize_bounds first).1
      have behind : rest.flatten ++ after = start.drop (length + record.length) := by
        rw [← List.drop_drop, ← follows, List.drop_left]
      have remaining : (record ++ (rest.flatten ++ after)).length - record.length =
          (rest.flatten ++ after).length := by
        rw [List.length_append, Nat.add_sub_cancel_left]
      rw [cutFrom, if_neg (by rw [List.length_append]; omega), List.map_cons, packed]
      split
      next fault missed =>
        rw [nextSize_eq_ok_iff.mpr found] at missed
        cases missed
      next recordSize same =>
        rw [nextSize_eq_ok_iff.mpr found] at same
        obtain rfl := Except.ok.inj same
        rw [List.drop_left, remaining]
        split
        · have opened : rest.flatten ++ after =
              (record ++ (rest.flatten ++ after)).drop record.length := List.drop_left.symm
          have fresh := ih later opened (offset + record.length)
          dsimp only
          rw [fresh, ← follows]
        · exact ih later behind _

theorem packed_take (start : Bytes) (length : Nat) (sizes : List Nat) {limit : Nat}
    (inside : length + sizes.sum ≤ limit) :
    packed mtu (start.take limit) length sizes = packed mtu start length sizes := by
  induction sizes generalizing start length limit with
  | nil =>
      unfold packed closeFrame
      rw [List.take_take, Nat.min_eq_left (by simpa using inside)]
  | cons next rest ih =>
      rw [List.sum_cons] at inside
      simp only [packed]
      split
      · rw [List.take_take, Nat.min_eq_left (by omega), List.drop_take, ih _ _ (by omega)]
      · exact ih _ _ (by omega)

/-- A frame that is not the last is closed at a record which it has no room for. -/
theorem packed_closed {start : Bytes} {length : Nat} {sizes : List Nat}
    {before : List Bytes} {frame next : Bytes} {after : List Bytes}
    (inside : length + sizes.sum ≤ start.length)
    (split : packed mtu start length sizes = before ++ frame :: next :: after) :
    ∃ first recordSize second, sizes = first ++ recordSize :: second ∧
      (before.flatten ++ frame).length = length + first.sum ∧
      mtu < frame.length + recordSize := by
  induction sizes generalizing start length before with
  | nil =>
      have lengths := congrArg List.length split
      unfold packed closeFrame at lengths
      split at lengths
      · simp at lengths
      · simp only [List.length_append, List.length_cons, List.length_nil] at lengths
        omega
  | cons size rest ih =>
      rw [List.sum_cons] at inside
      simp only [packed] at split
      split at split
      next overflow =>
        cases before with
        | nil =>
            obtain ⟨rfl, _⟩ := List.cons.inj split
            refine ⟨[], size, rest, rfl, ?_, ?_⟩
            · rw [List.flatten_nil, List.nil_append, List.length_take, List.sum_nil]
              omega
            · rw [List.length_take]
              omega
        | cons closed others =>
            obtain ⟨rfl, later⟩ := List.cons.inj split
            obtain ⟨first, recordSize, second, rfl, measure, full⟩ :=
              ih (by rw [List.length_drop]; omega) later
            refine ⟨size :: first, recordSize, second, rfl, ?_, full⟩
            rw [List.flatten_cons, List.append_assoc, List.length_append, measure,
              List.length_take, List.sum_cons]
            omega
      next room =>
        obtain ⟨first, recordSize, second, rfl, measure, full⟩ := ih (by omega) split
        refine ⟨size :: first, recordSize, second, rfl, ?_, full⟩
        rw [measure, List.sum_cons, Nat.add_assoc]

/-! ### Framing follows the walk -/

theorem ReadsRow.alone_of_headed {row : List Bytes} {after : Bytes}
    (reads : ReadsRow mtu size row after)
    (headed : ∀ record ∈ row, Limits.headerSize ≤ record.length) : ReadsRow mtu size row [] := by
  apply reads.alone_iff.mpr
  intro last ends
  exact headed last (List.mem_of_getLast? ends)

theorem fault_eq_hindrance? {start : Bytes} {length : Nat} {rest : Bytes} {left : Nat}
    (follows : rest = region.drop offset) (measured : left = region.length - offset) :
    (cutFrom mtu size start length rest offset left).fault = none ∨
      (cutFrom mtu size start length rest offset left).fault =
        hindrance? region mtu size (cutFrom mtu size start length rest offset left).consumed := by
  fun_induction cutFrom mtu size start length rest offset left with
  | case1 start length rest offset => exact .inl rfl
  | case2 start length rest offset left more fault stopped =>
      right
      rw [follows, measured, nextSize_drop] at stopped
      dsimp only
      cases tested : hindrance? region mtu size offset with
      | none =>
          rw [tested] at stopped
          cases stopped
      | some hindrance =>
          rw [tested] at stopped
          exact congrArg some (Except.error.inj stopped).symm
  | case3 start length rest offset left more recordSize found bounds overflow later ih =>
      apply ih
      · rw [follows, List.drop_drop]
      · omega
  | case4 start length rest offset left more recordSize found bounds fits ih =>
      apply ih
      · rw [follows, List.drop_drop]
      · omega

structure AlongWalk (region : Bytes) (mtu : Nat) (size : Sizer) (framed : Framed) : Prop where
  stops : (boundaries region mtu size).getLast? = some framed.consumed
  inside : framed.consumed ≤ region.length
  complete : framed.fault = none ↔ framed.consumed = region.length
  fault : framed.fault ≠ none → framed.fault = hindrance? region mtu size framed.consumed
  dropped : framed.consumed + framed.dropped region.length = region.length
  bytes : framed.frames.flatten = region.take framed.consumed
  frames : ∀ before frame after, framed.frames = before ++ frame :: after →
    frame ≠ [] ∧ frame.length ≤ mtu ∧
      before.flatten.length ∈ boundaries region mtu size ∧
      (before.flatten ++ frame).length ∈ boundaries region mtu size
  closed : ∀ before frame next after, framed.frames = before ++ frame :: next :: after →
    mtu < frame.length + extentAt region size (before.flatten ++ frame).length
  /-- What stopped the walk has no part in the frames before it. -/
  alone : (∀ offset ∈ boundaries region mtu size, hindrance? region mtu size offset = none →
      Limits.headerSize ≤ extentAt region size offset) →
    cut (region.take framed.consumed) mtu size = { framed with fault := none }

theorem cut_consumed (region : Bytes) (mtu : Nat) (size : Sizer) :
    region.take (cut region mtu size).consumed = (walk mtu size region).flatten ∧
      (cut region mtu size).consumed = (walk mtu size region).flatten.length := by
  obtain ⟨inside, bytes, _⟩ := cut_flatten region mtu size
  obtain ⟨groups, frames, all, _⟩ := cut_groups region mtu size
  have same : region.take (cut region mtu size).consumed = (walk mtu size region).flatten := by
    rw [← bytes, frames, ← all, List.flatten_flatten]
  refine ⟨same, ?_⟩
  rw [← same, List.length_take, Nat.min_eq_left inside]

theorem cut_packed (region : Bytes) (mtu : Nat) (size : Sizer) :
    (cut region mtu size).frames =
      packed mtu region 0 ((walk mtu size region).map List.length) := by
  obtain ⟨after, split, reads⟩ := walk_readsRow mtu size region
  have again := walk_of_readsRow reads
  rw [← split] at again
  have ended : walk mtu size after = [] := by simpa using again
  have stops : ∀ recordSize, nextSize mtu size 0 after.length after ≠ .ok recordSize := by
    intro recordSize found
    rw [walk_of_found found] at ended
    cases ended
  have whole : (walk mtu size region).flatten ++ after = region.drop 0 := split.symm
  have framed := cutFrom_packed reads stops whole 0
  rw [← split] at framed
  exact framed

theorem cut_records_alone (headed : ∀ record ∈ walk mtu size region,
      Limits.headerSize ≤ record.length) :
    cut (region.take (cut region mtu size).consumed) mtu size =
      { cut region mtu size with fault := none } := by
  obtain ⟨same, measure⟩ := cut_consumed region mtu size
  obtain ⟨after, _, reads⟩ := walk_readsRow mtu size region
  have read : walk mtu size (walk mtu size region).flatten = walk mtu size region := by
    have again := walk_of_readsRow (reads.alone_of_headed headed)
    rwa [List.append_nil, walk_nil, List.append_nil] at again
  have frames : (cut (walk mtu size region).flatten mtu size).frames =
      (cut region mtu size).frames := by
    rw [cut_packed, read, cut_packed, ← same]
    apply packed_take
    apply Nat.le_of_eq
    rw [measure, List.length_flatten, Nat.zero_add]
  have consumed : (cut (walk mtu size region).flatten mtu size).consumed =
      (cut region mtu size).consumed := by
    rw [(cut_consumed _ mtu size).2, read, measure]
  have complete : (cut (walk mtu size region).flatten mtu size).fault = none := by
    apply (cut_flatten _ mtu size).2.2.mpr
    rw [consumed, measure]
  rw [same]
  generalize cut (walk mtu size region).flatten mtu size = alone at frames consumed complete ⊢
  obtain ⟨_, _, _⟩ := alone
  subst frames consumed complete
  rfl

theorem frame_between {before after : List Bytes} {frame : Bytes}
    (split : (cut region mtu size).frames = before ++ frame :: after) :
    frame ≠ [] ∧ frame.length ≤ mtu ∧
      before.flatten.length ∈ boundaries region mtu size ∧
      (before.flatten ++ frame).length ∈ boundaries region mtu size := by
  obtain ⟨groups, frames, all, bounds⟩ := cut_groups region mtu size
  rw [frames] at split
  obtain ⟨closed, others, rfl, rfl, rest⟩ := List.map_eq_append_iff.mp split
  obtain ⟨group, behind, rfl, rfl, rfl⟩ := List.map_eq_cons_iff.mp rest
  obtain ⟨nonempty, small⟩ := bounds group (by simp)
  have begun : walk mtu size (region.drop 0) = closed.flatten ++ (group ++ behind.flatten) := by
    simpa using all.symm
  have ended : walk mtu size (region.drop 0) = (closed.flatten ++ group) ++ behind.flatten := by
    rw [begun, List.append_assoc]
  have opens := (boundary_of_split begun).1
  have closes := (boundary_of_split ended).1
  rw [Nat.zero_add] at opens closes
  rw [← List.flatten_flatten, ← List.flatten_append]
  refine ⟨?_, small, opens, closes⟩
  cases group with
  | nil => exact (nonempty rfl).elim
  | cons record more =>
      have stands : walk mtu size region =
          closed.flatten ++ record :: (more ++ behind.flatten) := begun
      obtain ⟨free, extent⟩ := extentAt_of_split stands
      obtain ⟨_, positive, _⟩ := hindrance?_eq_none_iff.mp free
      intro hollow
      have empty := congrArg List.length hollow
      rw [List.flatten_cons, List.length_append, List.length_nil] at empty
      omega

theorem frame_closed {before after : List Bytes} {frame next : Bytes}
    (split : (cut region mtu size).frames = before ++ frame :: next :: after) :
    mtu < frame.length + extentAt region size (before.flatten ++ frame).length := by
  obtain ⟨inside, _, _⟩ := cut_flatten region mtu size
  obtain ⟨_, measure⟩ := cut_consumed region mtu size
  rw [measure, List.length_flatten] at inside
  rw [cut_packed] at split
  obtain ⟨first, recordSize, second, sizes, ends, full⟩ := packed_closed (by omega) split
  obtain ⟨earlier, others, row, rfl, rest⟩ := List.map_eq_append_iff.mp sizes
  obtain ⟨record, later, rfl, rfl, _⟩ := List.map_eq_cons_iff.mp rest
  rw [Nat.zero_add, ← List.length_flatten] at ends
  rw [ends, (extentAt_of_split row).2]
  exact full

/-- Framing a region does what the walk over it tells. -/
theorem cut_alongWalk (region : Bytes) (mtu : Nat) (size : Sizer) :
    AlongWalk region mtu size (cut region mtu size) := by
  obtain ⟨inside, bytes, complete⟩ := cut_flatten region mtu size
  obtain ⟨same, measure⟩ := cut_consumed region mtu size
  constructor
  · have last := boundariesFrom_getLast? region mtu size 0
    rw [List.drop_zero, Nat.zero_add, ← measure] at last
    exact last
  · exact inside
  · exact complete
  · intro faulted
    have told : (cut region mtu size).fault = none ∨
        (cut region mtu size).fault =
          hindrance? region mtu size (cut region mtu size).consumed :=
      fault_eq_hindrance? List.drop_zero.symm (Nat.sub_zero region.length).symm
    exact told.resolve_left faulted
  · unfold Framed.dropped
    omega
  · exact bytes
  · intro before frame after split
    exact frame_between split
  · intro before frame next after split
    exact frame_closed split
  · intro headed
    apply cut_records_alone
    intro record member
    obtain ⟨first, second, row⟩ := List.append_of_mem member
    have begun : walk mtu size (region.drop 0) = first ++ record :: second := row
    obtain ⟨free, extent⟩ := extentAt_of_split row
    have stands := (boundary_of_split begun).1
    rw [Nat.zero_add] at stands
    rw [← extent]
    exact headed _ stands free

end Record
end TraceForward
