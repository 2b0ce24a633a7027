/-
What the frames of a region hold.

The frames are the beginning of the region, cut into pieces; framing stops
before the end of the region exactly when it reports a fault.  A region that is
a row of whole records is framed to its end.
-/

import TraceForward.Framing.Record

namespace TraceForward
namespace Record

@[simp]
theorem closeFrame_flatten (start : Bytes) (length : Nat) :
    (closeFrame start length).flatten = start.take length := by
  unfold closeFrame
  split
  next empty => simp [empty]
  next => simp

/-- The frames of what is left are the open frame and some more bytes, and all
of them unless there is a fault. -/
theorem cutFrom_flatten (mtu : Nat) (size : Sizer) (start : Bytes) (length : Nat)
    (rest : Bytes) (offset left : Nat) (follows : rest = start.drop length)
    (inside : length ≤ start.length) (measured : rest.length = left) :
    ∃ taken, taken ≤ left ∧
      (cutFrom mtu size start length rest offset left).consumed = offset + taken ∧
      (cutFrom mtu size start length rest offset left).frames.flatten =
        start.take (length + taken) ∧
      ((cutFrom mtu size start length rest offset left).fault = none ↔ taken = left) := by
  fun_induction cutFrom mtu size start length rest offset left with
  | case1 start length rest offset =>
      -- Nothing is left.
      exact ⟨0, Nat.le_refl 0, rfl, by simp, by simp⟩
  | case2 start length rest offset left more fault stopped =>
      -- What comes next is no record.
      refine ⟨0, Nat.zero_le left, rfl, by simp, ?_⟩
      simp only [reduceCtorEq, false_iff]
      omega
  | case3 start length rest offset left more recordSize found bounds overflow later ih =>
      -- The next record is the first of another frame.
      have room : recordSize ≤ rest.length := by omega
      obtain ⟨taken, within, consumed, frames, fault⟩ :=
        ih rfl room (by rw [List.length_drop, measured])
      refine ⟨recordSize + taken, by omega, ?_, ?_, ?_⟩
      · change later.consumed = offset + (recordSize + taken)
        rw [consumed]
        omega
      · change start.take length ++ later.frames.flatten = _
        rw [frames, follows, List.take_add (i := length)]
      · change later.fault = none ↔ _
        rw [fault]
        omega
  | case4 start length rest offset left more recordSize found bounds fits ih =>
      -- The next record goes into the open frame.
      have bound : length + recordSize ≤ start.length := by
        have whole := congrArg List.length follows
        rw [List.length_drop, measured] at whole
        omega
      obtain ⟨taken, within, consumed, frames, fault⟩ :=
        ih (by rw [follows, List.drop_drop]) bound (by rw [List.length_drop, measured])
      refine ⟨recordSize + taken, by omega, ?_, ?_, ?_⟩
      · rw [consumed]
        omega
      · rw [frames, Nat.add_assoc]
      · rw [fault]
        omega

/-- The frames of a region are its first bytes, and the whole region unless
there is a fault. -/
theorem cut_flatten (region : Bytes) (mtu : Nat) (size : Sizer) :
    (cut region mtu size).consumed ≤ region.length ∧
      (cut region mtu size).frames.flatten = region.take (cut region mtu size).consumed ∧
      ((cut region mtu size).fault = none ↔
        (cut region mtu size).consumed = region.length) := by
  obtain ⟨taken, within, consumed, frames, fault⟩ :=
    cutFrom_flatten mtu size region 0 region 0 region.length (by simp) (Nat.zero_le _) rfl
  rw [Nat.zero_add] at consumed frames
  unfold cut
  rw [consumed]
  exact ⟨within, frames, fault⟩

/-- Framing stops at a record that is too large for a frame only where there are
clauses with such records. -/
theorem cutFrom_exceedsMtu {mtu : Nat} {size : Sizer} {start : Bytes} {length : Nat}
    {rest : Bytes} {offset left clause recordSize limit : Nat}
    (stopped : (cutFrom mtu size start length rest offset left).fault =
      some (.exceedsMtu clause recordSize limit)) :
    mtu < sizeOf size clause := by
  fun_induction cutFrom mtu size start length rest offset left with
  | case1 start length rest offset => cases stopped
  | case2 start length rest offset left more fault found =>
      obtain rfl := Option.some.inj stopped
      unfold nextSize at found
      split at found
      · cases found
      · dsimp only at found
        split at found
        · cases found
        · split at found
          next large =>
            cases found
            exact large
          next =>
            split at found
            · cases found
            · cases found
  | case3 start length rest offset left more next found bounds overflow later ih =>
      exact ih stopped
  | case4 start length rest offset left more next found bounds fits ih => exact ih stopped

/-! ### Rows of whole records -/

/-- A record of the size that its clause asks for, small enough for a frame. -/
structure Whole (mtu : Nat) (size : Sizer) (record : Bytes) : Prop where
  headed : ∃ clause payload, clause < Bytes.wordLimit Limits.headerSize ∧
    record = Bytes.ofLittleEndian Limits.headerSize clause ++ payload ∧
    record.length = sizeOf size clause
  fits : record.length ≤ mtu

theorem Whole.nextSize_append {mtu : Nat} {size : Sizer} {record : Bytes}
    (whole : Whole mtu size record) (more : Bytes) (offset : Nat) :
    nextSize mtu size offset (record ++ more).length (record ++ more) = .ok record.length := by
  obtain ⟨⟨clause, payload, small, shape, sized⟩, fits⟩ := whole
  have positive : 0 < record.length := by
    rw [shape, List.length_append, Bytes.length_ofLittleEndian]
    exact Nat.lt_of_lt_of_le (by decide) (Nat.le_add_right _ _)
  have header : (record ++ more).word? Limits.headerSize = some clause := by
    rw [shape, List.append_assoc]
    exact Bytes.word?_ofLittleEndian_append _ _ _ small
  unfold nextSize
  rw [header]
  simp only [← sized]
  rw [if_neg (by omega), if_neg (by omega), if_neg (by rw [List.length_append]; omega)]

theorem cutFrom_whole {mtu : Nat} {size : Sizer} (records : List Bytes)
    (whole : ∀ record ∈ records, Whole mtu size record) (start : Bytes) (length offset : Nat) :
    (cutFrom mtu size start length records.flatten offset records.flatten.length).fault =
      none := by
  induction records generalizing start length offset with
  | nil =>
      rw [cutFrom]
      rfl
  | cons record records ih =>
      have first := whole record List.mem_cons_self
      have next := first.nextSize_append records.flatten offset
      have positive := (nextSize_bounds next).1
      have later := ih fun other member => whole other (List.mem_cons_of_mem _ member)
      rw [List.flatten_cons, cutFrom, if_neg (by rw [List.length_append]; omega)]
      split
      next fault found =>
        rw [next] at found
        cases found
      next recordSize found =>
        rw [next] at found
        obtain rfl := Except.ok.inj found
        have remaining :
            (record ++ records.flatten).length - record.length = records.flatten.length := by
          rw [List.length_append, Nat.add_sub_cancel_left]
        rw [List.drop_left, remaining]
        split
        · exact later _ _ _
        · exact later _ _ _

theorem cut_whole {mtu : Nat} {size : Sizer} (records : List Bytes)
    (whole : ∀ record ∈ records, Whole mtu size record) :
    (cut records.flatten mtu size).fault = none ∧
      (cut records.flatten mtu size).frames.flatten = records.flatten := by
  have sound : (cut records.flatten mtu size).fault = none :=
    cutFrom_whole records whole records.flatten 0 0
  obtain ⟨_, frames, complete⟩ := cut_flatten records.flatten mtu size
  refine ⟨sound, ?_⟩
  rw [frames, complete.mp sound, List.take_length]

end Record
end TraceForward
