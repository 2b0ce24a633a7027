/-
The books of a harvest.

A visit is worth its region: the frames into which that is cut, its bytes, what
producers counted against it, and what cutting gave up.  The totals of a
harvester are sums of these over its visits, and a harvest yields the frames of
its visits one unit after the other.
-/

import Mathlib.Algebra.GroupWithZero.Nat
import TraceForward.Proofs.Harvest.Unit

namespace TraceForward

/-! ### What a visit is worth -/

namespace Harvester.Visit

def bytes : Visit → Nat
  | .drained region => region.data.length
  | _ => 0

def drops : Visit → Nat
  | .drained region => region.drops
  | _ => 0

def errors : Visit → Nat
  | .drained region => region.errors
  | _ => 0

def isFailedSwap : Visit → Bool
  | .failedSwap => true
  | _ => false

def isInconsistent : Visit → Bool
  | .inconsistent => true
  | _ => false

section Framing

variable (mtu : Nat) (sizes : List Nat)

/-- The region of a visit after framing; a visit that drained none has no frames. -/
def framed : Visit → Framed
  | .drained region => Record.cut region.data mtu (Sizer.ofTable sizes)
  | _ => {}

def frames (visit : Visit) : List Frame :=
  (visit.framed mtu sizes).frames.map Frame.trace

def isAborted (visit : Visit) : Bool :=
  (visit.framed mtu sizes).fault.isSome

def discarded (visit : Visit) : Nat :=
  visit.bytes - (visit.framed mtu sizes).consumed

/-- The bytes of a visit are in its frames or discarded, and some are discarded
only if framing was aborted. -/
theorem frames_discarded (visit : Visit) :
    payloadBytes (visit.frames mtu sizes) + visit.discarded mtu sizes = visit.bytes ∧
      (visit.isAborted mtu sizes = false → visit.discarded mtu sizes = 0) := by
  cases visit with
  | drained region =>
      obtain ⟨within, frames, complete⟩ :=
        Record.cut_flatten region.data mtu (Sizer.ofTable sizes)
      simp only [Visit.frames, isAborted, discarded, framed, bytes, payloadBytes_trace]
      rw [frames, List.length_take, Nat.min_eq_left within]
      refine ⟨Nat.add_sub_cancel' within, ?_⟩
      intro sound
      rw [Option.isSome_eq_false_iff, Option.isNone_iff_eq_none] at sound
      rw [complete.mp sound, Nat.sub_self]
  | absent => exact ⟨rfl, fun _ => rfl⟩
  | failedSwap => exact ⟨rfl, fun _ => rfl⟩
  | inconsistent => exact ⟨rfl, fun _ => rfl⟩

end Framing

end Harvester.Visit

namespace Harvester

theorem frameRegion_eq (harvester : Harvester) (region : Drained) :
    harvester.frameRegion region =
      Record.cut region.data harvester.mtu (Sizer.ofTable harvester.sizes) := by
  unfold frameRegion
  split
  next empty =>
    have nothing : region.data = [] := List.isEmpty_iff.mp empty
    rw [nothing, Record.cut, Record.cutFrom]
    rfl
  next => rfl

/-- Between two states of a harvester, these visits were booked and yielded these
frames; nothing else was. -/
structure Books (harvester : Harvester) (visits : List Visit) (frames : List Frame)
    (changed : Harvester) : Prop where
  mtu : changed.mtu = harvester.mtu
  sizes : changed.sizes = harvester.sizes
  yields : frames = visits.flatMap (Visit.frames harvester.mtu harvester.sizes)
  frames : changed.stats.frames = harvester.stats.frames + frames.length
  bytes : changed.stats.bytes = harvester.stats.bytes + (visits.map Visit.bytes).sum
  drops : changed.stats.drops = harvester.stats.drops + (visits.map Visit.drops).sum
  errors : changed.stats.errors = harvester.stats.errors + (visits.map Visit.errors).sum
  framingAborts : changed.stats.framingAborts =
    harvester.stats.framingAborts +
      visits.countP (Visit.isAborted harvester.mtu harvester.sizes)
  bytesDiscarded : changed.stats.bytesDiscarded =
    harvester.stats.bytesDiscarded +
      (visits.map (Visit.discarded harvester.mtu harvester.sizes)).sum
  failedSwaps : changed.stats.failedSwaps =
    harvester.stats.failedSwaps + visits.countP Visit.isFailedSwap
  inconsistentSwaps : changed.stats.inconsistentSwaps =
    harvester.stats.inconsistentSwaps + visits.countP Visit.isInconsistent

/-- A step that books no visit leaves the totals alone, but for the cycles. -/
theorem Books.of_same {harvester changed : Harvester} (mtu : changed.mtu = harvester.mtu)
    (sizes : changed.sizes = harvester.sizes)
    (stats : { changed.stats with cycles := harvester.stats.cycles } = harvester.stats) :
    harvester.Books [] [] changed := by
  obtain ⟨_, drops, errors, bytes, frames, aborts, discarded, failed, inconsistent⟩ :=
    HarvestStats.mk.inj stats
  exact ⟨mtu, sizes, rfl, frames, bytes, drops, errors, aborts, discarded, failed, inconsistent⟩

theorem Books.append {harvester middle changed : Harvester} {first second : List Visit}
    {frames later : List Frame} (earlier : harvester.Books first frames middle)
    (after : middle.Books second later changed) :
    harvester.Books (first ++ second) (frames ++ later) changed := by
  have sameMtu := earlier.mtu
  have sameSizes := earlier.sizes
  constructor
  · rw [after.mtu, sameMtu]
  · rw [after.sizes, sameSizes]
  · rw [List.flatMap_append, ← earlier.yields, after.yields, sameMtu, sameSizes]
  · rw [after.frames, earlier.frames, List.length_append, Nat.add_assoc]
  · rw [after.bytes, earlier.bytes, List.map_append, List.sum_append, Nat.add_assoc]
  · rw [after.drops, earlier.drops, List.map_append, List.sum_append, Nat.add_assoc]
  · rw [after.errors, earlier.errors, List.map_append, List.sum_append, Nat.add_assoc]
  · rw [after.framingAborts, earlier.framingAborts, List.countP_append, Nat.add_assoc, sameMtu,
      sameSizes]
  · rw [after.bytesDiscarded, earlier.bytesDiscarded, List.map_append, List.sum_append,
      Nat.add_assoc, sameMtu, sameSizes]
  · rw [after.failedSwaps, earlier.failedSwaps, List.countP_append, Nat.add_assoc]
  · rw [after.inconsistentSwaps, earlier.inconsistentSwaps, List.countP_append, Nat.add_assoc]

theorem book_books (harvester : Harvester) (visit : Visit) :
    harvester.Books [visit] (harvester.book visit).1 (harvester.book visit).2 := by
  cases visit with
  | absent =>
      constructor
      all_goals rfl
  | failedSwap =>
      constructor
      all_goals rfl
  | inconsistent =>
      constructor
      all_goals rfl
  | drained region =>
      have same := harvester.frameRegion_eq region
      simp only [book, bookRegion, same]
      constructor
      · rfl
      · rfl
      · rw [List.flatMap_singleton]
        rfl
      · rw [List.length_map]
      · rfl
      · rfl
      · rfl
      · rw [List.countP_singleton]
        rfl
      · rw [List.map_singleton, List.sum_singleton, Nat.add_left_cancel_iff]
        split
        next => rfl
        next sound =>
          have whole :=
            ((Visit.drained region).frames_discarded harvester.mtu harvester.sizes).2
          exact (whole (Bool.not_eq_true _ ▸ sound)).symm
      · rfl
      · rfl

/-! ### What a harvest is worth -/

theorem harvestUnit_books (harvester : Harvester) (position : Nat) :
    harvester.Books ((harvester.units[position]?).map fun unit => (visit unit).1).toList
      (harvester.harvestUnit position).1 (harvester.harvestUnit position).2 := by
  cases present : harvester.units[position]? with
  | none =>
      rw [harvestUnit_past present]
      exact .of_same rfl rfl rfl
  | some unit =>
      rw [harvestUnit_of_unit present]
      have placed :
          harvester.Books [] []
            { harvester with units := harvester.units.set position (visit unit).2 } :=
        .of_same rfl rfl rfl
      exact placed.append (book_books _ _)

theorem harvestFrom_succ (harvester : Harvester) (count position : Nat) :
    harvester.harvestFrom (count + 1) position =
      ((harvester.harvestUnit position).1 ++
          ((harvester.harvestUnit position).2.harvestFrom count (position + 1)).1,
        ((harvester.harvestUnit position).2.harvestFrom count (position + 1)).2) :=
  rfl

theorem harvestFrom_books (harvester : Harvester) (count position : Nat) :
    harvester.Books
        (((harvester.units.drop position).take count).map fun unit => (visit unit).1)
        (harvester.harvestFrom count position).1 (harvester.harvestFrom count position).2 ∧
      ∀ index,
        (harvester.harvestFrom count position).2.units[index]? =
          if position ≤ index ∧ index < position + count then
            (harvester.units[index]?).map fun unit => (visit unit).2
          else harvester.units[index]? := by
  induction count generalizing harvester position with
  | zero =>
      refine ⟨.of_same rfl rfl rfl, ?_⟩
      intro index
      rw [if_neg (by omega)]
      rfl
  | succ count ih =>
      have first := harvester.harvestUnit_books position
      have units := harvester.harvestUnit_units position
      obtain ⟨later, moved⟩ := ih (harvester.harvestUnit position).2 (position + 1)
      have untouched :
          (harvester.harvestUnit position).2.units.drop (position + 1) =
            harvester.units.drop (position + 1) := by
        rw [units, List.drop_modify_of_lt _ _ _ _ (Nat.lt_succ_self position)]
      have visits :
          ((harvester.units.drop position).take (count + 1)).map (fun unit => (visit unit).1) =
            ((harvester.units[position]?).map fun unit => (visit unit).1).toList ++
              ((harvester.units.drop (position + 1)).take count).map
                fun unit => (visit unit).1 := by
        cases present : harvester.units[position]? with
        | none =>
            have past := List.getElem?_eq_none_iff.mp present
            rw [List.drop_eq_nil_of_le past, List.drop_eq_nil_of_le (Nat.le_succ_of_le past),
              List.take_nil, List.take_nil]
            rfl
        | some unit =>
            obtain ⟨within, here⟩ := List.getElem?_eq_some_iff.mp present
            rw [List.drop_eq_getElem_cons within, here]
            rfl
      refine ⟨?_, ?_⟩
      · rw [visits, ← untouched]
        exact first.append later
      · intro index
        rw [harvestFrom_succ, moved, units, List.getElem?_modify]
        by_cases here : position = index
        · subst here
          rw [if_neg (by omega), if_pos ⟨Nat.le_refl _, by omega⟩]
          simp only [if_true]
          rfl
        · simp only [if_neg here, id_map']
          by_cases within : position + 1 ≤ index ∧ index < position + 1 + count
          · rw [if_pos within, if_pos ⟨by omega, by omega⟩]
          · rw [if_neg within, if_neg (by omega)]

theorem harvest_units (harvester : Harvester) (now : Nat) :
    (harvester.harvest now).2.units = harvester.units.map fun unit => (visit unit).2 := by
  apply List.ext_getElem?
  intro index
  have moved := (harvester.harvestFrom_books harvester.units.length 0).2 index
  refine Eq.trans moved ?_
  rw [List.getElem?_map]
  split
  next => rfl
  next outside =>
    have past : harvester.units[index]? = none := by
      rw [List.getElem?_eq_none_iff]
      omega
    rw [past]
    rfl

theorem harvest_books (harvester : Harvester) (now : Nat) :
    harvester.Books (harvester.units.map fun unit => (visit unit).1)
      (harvester.harvest now).1 (harvester.harvest now).2 := by
  have visited := (harvester.harvestFrom_books harvester.units.length 0).1
  have finished :
      (harvester.harvestFrom harvester.units.length 0).2.Books [] []
        (harvester.harvest now).2 :=
    .of_same rfl rfl rfl
  have all := visited.append finished
  rw [List.append_nil, List.append_nil, List.drop_zero, List.take_length] at all
  exact all

@[simp]
theorem book_heartbeat (harvester : Harvester) (visit : Visit) :
    (harvester.book visit).2.heartbeat = harvester.heartbeat := by
  cases visit <;> rfl

theorem harvestUnit_heartbeat (harvester : Harvester) (position : Nat) :
    (harvester.harvestUnit position).2.heartbeat = harvester.heartbeat := by
  cases present : harvester.units[position]? with
  | none => rw [harvestUnit_past present]
  | some unit => rw [harvestUnit_of_unit present, book_heartbeat]

theorem harvestFrom_pace (harvester : Harvester) (count position : Nat) :
    (harvester.harvestFrom count position).2.stats.cycles = harvester.stats.cycles ∧
      (harvester.harvestFrom count position).2.heartbeat = harvester.heartbeat := by
  induction count generalizing harvester position with
  | zero => exact ⟨rfl, rfl⟩
  | succ count ih =>
      obtain ⟨cycles, heartbeat⟩ := ih (harvester.harvestUnit position).2 (position + 1)
      rw [harvestFrom_succ]
      refine ⟨cycles.trans ?_, heartbeat.trans ?_⟩
      · exact harvestUnit_cycles _ _
      · exact harvestUnit_heartbeat _ _

/-- A harvest is one cycle, and the session is seen alive later than ever before. -/
theorem harvest_pace (harvester : Harvester) (now : Nat) :
    (harvester.harvest now).2.stats.cycles = harvester.stats.cycles + 1 ∧
      harvester.heartbeat < (harvester.harvest now).2.heartbeat := by
  obtain ⟨cycles, heartbeat⟩ := harvester.harvestFrom_pace harvester.units.length 0
  refine ⟨congrArg (· + 1) cycles, ?_⟩
  change _ < max now ((harvester.harvestFrom harvester.units.length 0).2.heartbeat + 1)
  rw [heartbeat]
  omega

end Harvester
end TraceForward
