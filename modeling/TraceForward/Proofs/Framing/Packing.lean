/-
How few frames there are.

The records of a region may be grouped in many ways into frames that are within the
limit.  Framing closes a frame only where the next record would be too much for it.
So whatever another grouping has put into its first groups, framing has put into as
many frames, and no grouping has fewer groups than there are frames.
-/

import TraceForward.Proofs.Framing.Boundaries

namespace TraceForward
namespace Record

/-! ### The records of a region -/

def piecesBetween (region : Bytes) : List Nat → List Bytes
  | offset :: next :: rest =>
      (region.drop offset).take (next - offset) :: piecesBetween region (next :: rest)
  | _ => []

/-- The records of a region, as far as the walk over it comes. -/
def recordsOf (region : Bytes) (mtu : Nat) (size : Sizer) : List Bytes :=
  piecesBetween region (boundaries region mtu size)

variable {region : Bytes} {mtu : Nat} {size : Sizer}

theorem exists_boundariesFrom (region : Bytes) (mtu : Nat) (size : Sizer) (offset : Nat) :
    ∃ rest, boundariesFrom region mtu size offset = offset :: rest := by
  rw [boundariesFrom]
  split
  · exact ⟨[], rfl⟩
  · exact ⟨_, rfl⟩

theorem piecesBetween_boundariesFrom (region : Bytes) (mtu : Nat) (size : Sizer)
    (offset : Nat) :
    piecesBetween region (boundariesFrom region mtu size offset) =
      walk mtu size (region.drop offset) := by
  fun_induction boundariesFrom region mtu size offset with
  | case1 offset fault hindered =>
      rw [walk_drop_of_hindered hindered]
      rfl
  | case2 offset free bounds ih =>
      obtain ⟨rest, begins⟩ :=
        exists_boundariesFrom region mtu size (offset + extentAt region size offset)
      rw [begins] at ih ⊢
      rw [piecesBetween, ih, Nat.add_sub_cancel_left, walk_drop_of_free free]

theorem recordsOf_eq_walk (region : Bytes) (mtu : Nat) (size : Sizer) :
    recordsOf region mtu size = walk mtu size region :=
  piecesBetween_boundariesFrom region mtu size 0

/-! ### Groupings of a row -/

/-- A way to group a row of records, with no group above the limit. -/
structure Grouping (mtu : Nat) (row : List Bytes) (groups : List (List Bytes)) : Prop where
  all : groups.flatten = row
  fits : ∀ group ∈ groups, group.flatten.length ≤ mtu

/-- No group has room for the first record of the next one. -/
def Tight (mtu : Nat) (groups : List (List Bytes)) : Prop :=
  ∀ before group record more after, groups = before ++ group :: (record :: more) :: after →
    mtu < group.flatten.length + record.length

theorem Tight.tail {group : List Bytes} {groups : List (List Bytes)}
    (tight : Tight mtu (group :: groups)) : Tight mtu groups := by
  intro before closed record more after split
  apply tight (group :: before) closed record more after
  rw [split, List.cons_append]

/-- What begins no later than a tight group, and is within the limit, ends no later. -/
theorem Tight.reach {group more first behind early : List Bytes} {record : Bytes}
    {groups : List (List Bytes)} (tight : Tight mtu (group :: (record :: more) :: groups))
    (fits : first.flatten.length ≤ mtu)
    (covers : first ++ behind = (early ++ group) ++ ((record :: more) :: groups).flatten) :
    ∃ left, behind = left ++ ((record :: more) :: groups).flatten := by
  have full := tight [] group record more groups rfl
  rcases List.append_eq_append_iff.mp covers with ⟨left, _, rest⟩ | ⟨excess, reached, rest⟩
  · exact ⟨left, rest⟩
  · cases excess with
    | nil => exact ⟨[], rest.symm⟩
    | cons head others =>
        -- Then the group has taken in the record that it has no room for.
        rw [List.flatten_cons, List.cons_append, List.cons_append] at rest
        obtain ⟨rfl, _⟩ := List.cons.inj rest
        rw [reached] at fits
        simp only [List.flatten_append, List.flatten_cons, List.length_append] at fits
        omega

/-- A tight grouping stays ahead: the others need as many groups for its records, even
when they have begun with them in an earlier group. -/
theorem Tight.length_le {groups others : List (List Bytes)} {early : List Bytes}
    (tight : Tight mtu groups) (nonempty : ∀ group ∈ groups, group ≠ [])
    (fits : ∀ group ∈ others, group.flatten.length ≤ mtu)
    (covers : others.flatten = early ++ groups.flatten) : groups.length ≤ others.length := by
  induction groups generalizing others early with
  | nil => exact Nat.zero_le _
  | cons group rest ih =>
      obtain ⟨filled, later⟩ := List.forall_mem_cons.mp nonempty
      cases others with
      | nil =>
          rw [List.flatten_nil, List.flatten_cons] at covers
          obtain ⟨_, hollow⟩ := List.append_eq_nil_iff.mp covers.symm
          exact absurd (List.append_eq_nil_iff.mp hollow).1 filled
      | cons first others =>
          obtain ⟨small, fits⟩ := List.forall_mem_cons.mp fits
          apply Nat.succ_le_succ
          cases rest with
          | nil => exact Nat.zero_le _
          | cons next rest =>
              cases next with
              | nil => exact absurd rfl (later [] List.mem_cons_self)
              | cons record more =>
                  rw [List.flatten_cons, List.flatten_cons, ← List.append_assoc] at covers
                  obtain ⟨left, behind⟩ := tight.reach small covers
                  exact ih tight.tail later fits behind

/-! ### Framing -/

theorem cut_tight (region : Bytes) (mtu : Nat) (size : Sizer) :
    ∃ groups : List (List Bytes),
      (cut region mtu size).frames = groups.map List.flatten ∧
      Grouping mtu (recordsOf region mtu size) groups ∧
      (∀ group ∈ groups, group ≠ []) ∧ Tight mtu groups := by
  obtain ⟨groups, frames, all, bounds⟩ := cut_groups region mtu size
  refine ⟨groups, frames, ⟨?_, ?_⟩, ?_, ?_⟩
  · rw [recordsOf_eq_walk]
    exact all
  · intro group member
    exact (bounds group member).2
  · intro group member
    exact (bounds group member).1
  · intro before group record more after split
    rw [split, List.map_append, List.map_cons, List.map_cons] at frames
    have closed := frame_closed frames
    have row : walk mtu size region =
        (before.flatten ++ group) ++ record :: (more ++ after.flatten) := by
      rw [← all, split]
      simp
    rw [← List.flatten_flatten, ← List.flatten_append, (extentAt_of_split row).2] at closed
    exact closed

structure PacksBest (region : Bytes) (mtu : Nat) (size : Sizer) (framed : Framed) : Prop where
  consumed : (recordsOf region mtu size).flatten = region.take framed.consumed
  grouped : ∃ groups, Grouping mtu (recordsOf region mtu size) groups ∧
    framed.frames = groups.map List.flatten
  fewest : ∀ groups, Grouping mtu (recordsOf region mtu size) groups →
    framed.frames.length ≤ groups.length
  /-- A frame has no room for the first record of the frame behind it. -/
  full : ∀ before frame next after, framed.frames = before ++ frame :: next :: after →
    ∃ earlier record later, recordsOf region mtu size = earlier ++ record :: later ∧
      earlier.flatten = before.flatten ++ frame ∧ record <+: next ∧
      mtu < frame.length + record.length
  single : framed.consumed ≤ mtu →
    framed.frames = if framed.consumed = 0 then [] else [region.take framed.consumed]

/-- Records that are all within the limit make one frame, or none when there are none. -/
theorem frames_of_fewest {framed : Framed} (inside : framed.consumed ≤ region.length)
    (bytes : framed.frames.flatten = region.take framed.consumed)
    (filled : ∀ frame ∈ framed.frames, frame ≠ []) (one : framed.frames.length ≤ 1) :
    framed.frames = if framed.consumed = 0 then [] else [region.take framed.consumed] := by
  rw [← bytes]
  have measure := congrArg List.length bytes
  rw [List.length_take, Nat.min_eq_left inside] at measure
  rw [← measure]
  cases frames : framed.frames with
  | nil => rfl
  | cons frame rest =>
      rw [frames] at one filled
      have last : rest = [] := by
        apply List.length_eq_zero_iff.mp
        rw [List.length_cons] at one
        omega
      have positive : frame.length ≠ 0 := by
        intro hollow
        exact filled frame List.mem_cons_self (List.length_eq_zero_iff.mp hollow)
      rw [last, List.flatten_singleton, if_neg positive]

/-- Framing a region takes the fewest frames that its records can be put into. -/
theorem cut_packsBest (region : Bytes) (mtu : Nat) (size : Sizer) :
    PacksBest region mtu size (cut region mtu size) := by
  obtain ⟨inside, bytes, _⟩ := cut_flatten region mtu size
  obtain ⟨same, measure⟩ := cut_consumed region mtu size
  obtain ⟨groups, frames, grouping, nonempty, tight⟩ := cut_tight region mtu size
  have fewest : ∀ others, Grouping mtu (recordsOf region mtu size) others →
      (cut region mtu size).frames.length ≤ others.length := by
    intro others other
    have covers : others.flatten = [] ++ groups.flatten := by
      rw [other.all, grouping.all, List.nil_append]
    rw [frames, List.length_map]
    exact tight.length_le nonempty other.fits covers
  rw [← recordsOf_eq_walk] at same measure
  constructor
  · exact same.symm
  · exact ⟨groups, grouping, frames⟩
  · exact fewest
  · intro before frame next after split
    rw [frames] at split
    obtain ⟨closed, others, rfl, rfl, opened⟩ := List.map_eq_append_iff.mp split
    obtain ⟨group, behind, rfl, rfl, followed⟩ := List.map_eq_cons_iff.mp opened
    obtain ⟨following, last, rfl, rfl, rfl⟩ := List.map_eq_cons_iff.mp followed
    cases following with
    | nil => exact absurd rfl (nonempty [] (by simp))
    | cons record more =>
        refine ⟨closed.flatten ++ group, record, more ++ last.flatten, ?_, ?_, ?_, ?_⟩
        · rw [← grouping.all]
          simp
        · rw [List.flatten_append, List.flatten_flatten]
        · rw [List.flatten_cons]
          exact List.prefix_append _ _
        · exact tight closed group record more last rfl
  · intro small
    have whole : Grouping mtu (recordsOf region mtu size) [recordsOf region mtu size] := by
      constructor
      · exact List.flatten_singleton
      · intro group member
        rw [List.mem_singleton.mp member, ← measure]
        exact small
    apply frames_of_fewest inside bytes
    · intro frame member
      obtain ⟨before, after, split⟩ := List.append_of_mem member
      exact (frame_between split).1
    · exact fewest _ whole

end Record
end TraceForward
