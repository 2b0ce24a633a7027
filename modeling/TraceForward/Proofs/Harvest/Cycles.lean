/-
Harvest after harvest.

Between two harvests producers act on the units, and faults are armed.  A unit
goes through its visits as if it were alone: neither what befalls another unit
nor how its own region was framed has a part in them.  The totals are the sums
over all visits, in whatever order faults come.
-/

import TraceForward.Proofs.Harvest.Books
import TraceForward.Proofs.Harvest.Interleaving

namespace TraceForward

inductive HarvesterEvent where
  | produce (position : Nat) (act : ProducerAct)
  | armForeignDrain (position : Nat)
  | harvest (now : Nat)

/-! ### One unit alone -/

namespace BufferPair

open Harvester (Visit visit)

def after (position : Nat) (pair : BufferPair) : HarvesterEvent → BufferPair
  | .produce target act => if target = position then act.apply pair else pair
  | .armForeignDrain target => if target = position then pair.armForeignDrain else pair
  | .harvest _ => (visit pair).2

def run (position : Nat) (pair : BufferPair) (events : List HarvesterEvent) : BufferPair :=
  events.foldl (after position) pair

def seen (pair : BufferPair) : HarvesterEvent → List Visit
  | .harvest _ => [(visit pair).1]
  | _ => []

def visits (position : Nat) : BufferPair → List HarvesterEvent → List Visit
  | _, [] => []
  | pair, event :: rest => pair.seen event ++ visits position (pair.after position event) rest

structure Paired (pair : BufferPair) : Prop where
  distinct : pair.front.id ≠ pair.back.id
  frontOwn : pair.front.id ≠ .foreign
  backOwn : pair.back.id ≠ .foreign

/-- What a visit finds: a fault that was armed, or else the active region. -/
def fate (pair : BufferPair) : Visit :=
  if !pair.allocated then
    .absent
  else if pair.failNext then
    .failedSwap
  else if pair.foreignNext then
    .inconsistent
  else
    .drained
      { unit := pair.unit, region := pair.front.id, data := pair.front.data
        drops := pair.front.drops, errors := pair.front.errors }

def visited (pair : BufferPair) : BufferPair :=
  if !pair.allocated then
    pair
  else if pair.failNext then
    { pair with failNext := false }
  else
    { pair with
      front := pair.back.cleared, back := pair.front.cleared, everSwitched := true
      foreignNext := false }

theorem Paired.visit_eq {pair : BufferPair} (paired : pair.Paired) :
    visit pair = (pair.fate, pair.visited) := by
  obtain ⟨distinct, frontOwn, backOwn⟩ := paired
  have apart : pair.back.id ≠ pair.front.id := distinct.symm
  have notForeign : RegionId.foreign ≠ pair.front.id := frontOwn.symm
  cases memory : pair.allocated with
  | false => simp [visit, active, fate, visited, memory]
  | true =>
      cases failing : pair.failNext with
      | true => simp [visit, active, switch, fate, visited, memory, failing]
      | false =>
          cases foreign : pair.foreignNext with
          | true =>
              simp [visit, active, switch, drain, fate, visited, memory, failing, foreign, apart,
                notForeign, Region.cleared]
          | false =>
              simp [visit, active, switch, drain, fate, visited, memory, failing, foreign, apart,
                Region.cleared]

theorem Paired.visited {pair : BufferPair} (paired : pair.Paired) : pair.visited.Paired := by
  obtain ⟨distinct, frontOwn, backOwn⟩ := paired
  unfold BufferPair.visited
  split
  · exact ⟨distinct, frontOwn, backOwn⟩
  · split
    · exact ⟨distinct, frontOwn, backOwn⟩
    · exact ⟨distinct.symm, backOwn, frontOwn⟩

theorem Paired.apply {pair : BufferPair} (paired : pair.Paired) (act : ProducerAct) :
    (act.apply pair).Paired := by
  obtain ⟨distinct, frontOwn, backOwn⟩ := paired
  cases act with
  | write record =>
      simp only [ProducerAct.apply, write]
      split
      · exact ⟨distinct, frontOwn, backOwn⟩
      · exact ⟨distinct, frontOwn, backOwn⟩
  | recordError => exact ⟨distinct, frontOwn, backOwn⟩
  | armFailedSwitch => exact ⟨distinct, frontOwn, backOwn⟩

theorem Paired.after {pair : BufferPair} (paired : pair.Paired) (position : Nat)
    (event : HarvesterEvent) : (pair.after position event).Paired := by
  cases event with
  | produce target act =>
      change BufferPair.Paired (if target = position then act.apply pair else pair)
      split
      · exact paired.apply act
      · exact paired
  | armForeignDrain target =>
      change BufferPair.Paired (if target = position then pair.armForeignDrain else pair)
      split
      · exact ⟨paired.distinct, paired.frontOwn, paired.backOwn⟩
      · exact paired
  | harvest now =>
      change (visit pair).2.Paired
      rw [paired.visit_eq]
      exact paired.visited

theorem Paired.run {pair : BufferPair} (paired : pair.Paired) (position : Nat)
    (events : List HarvesterEvent) : (pair.run position events).Paired := by
  induction events generalizing pair with
  | nil => exact paired
  | cons event rest ih => exact ih (paired.after position event)

/-- After a drain for a foreign region the unit is what it is after any other; after
a failed switch it is what it was, and the next switch does not fail. -/
theorem Paired.unharmed {pair : BufferPair} (paired : pair.Paired) :
    ((visit pair).1 = .inconsistent →
        (visit pair).2 = (visit { pair with foreignNext := false }).2) ∧
      ((visit pair).1 = .failedSwap → (visit pair).2 = { pair with failNext := false }) := by
  have sound : ({ pair with foreignNext := false } : BufferPair).Paired :=
    ⟨paired.distinct, paired.frontOwn, paired.backOwn⟩
  rw [paired.visit_eq, sound.visit_eq]
  unfold fate BufferPair.visited
  cases pair.allocated with
  | false => exact ⟨nofun, nofun⟩
  | true =>
      cases pair.failNext with
      | true => exact ⟨nofun, fun _ => rfl⟩
      | false =>
          refine ⟨fun _ => rfl, ?_⟩
          cases pair.foreignNext with
          | true => exact nofun
          | false => exact nofun

end BufferPair

/-! ### All units together -/

namespace HarvestStats

structure Within (stats later : HarvestStats) : Prop where
  cycles : stats.cycles ≤ later.cycles
  drops : stats.drops ≤ later.drops
  errors : stats.errors ≤ later.errors
  bytes : stats.bytes ≤ later.bytes
  frames : stats.frames ≤ later.frames
  framingAborts : stats.framingAborts ≤ later.framingAborts
  bytesDiscarded : stats.bytesDiscarded ≤ later.bytesDiscarded
  failedSwaps : stats.failedSwaps ≤ later.failedSwaps
  inconsistentSwaps : stats.inconsistentSwaps ≤ later.inconsistentSwaps

end HarvestStats

namespace Harvester

def after (harvester : Harvester) : HarvesterEvent → Harvester
  | .produce position act => harvester.modifyUnit position act.apply
  | .armForeignDrain position => harvester.modifyUnit position BufferPair.armForeignDrain
  | .harvest now => (harvester.harvest now).2

def run (harvester : Harvester) (events : List HarvesterEvent) : Harvester :=
  events.foldl after harvester

def returned (harvester : Harvester) : HarvesterEvent → List (List Frame)
  | .harvest now => [(harvester.harvest now).1]
  | _ => []

/-- The frames that each harvest of a run returns. -/
def yields : Harvester → List HarvesterEvent → List (List Frame)
  | _, [] => []
  | harvester, event :: rest => harvester.returned event ++ yields (harvester.after event) rest

def seen (harvester : Harvester) : HarvesterEvent → List (List Visit)
  | .harvest _ => [harvester.units.map fun unit => (visit unit).1]
  | _ => []

/-- The visits of each harvest of a run, one to each unit in their order. -/
def visitLog : Harvester → List HarvesterEvent → List (List Visit)
  | _, [] => []
  | harvester, event :: rest => harvester.seen event ++ visitLog (harvester.after event) rest

/-! A step -/

theorem after_books (harvester : Harvester) (event : HarvesterEvent) :
    harvester.Books (harvester.seen event).flatten (harvester.returned event).flatten
      (harvester.after event) := by
  cases event with
  | produce position act => exact .of_same rfl rfl rfl
  | armForeignDrain position => exact .of_same rfl rfl rfl
  | harvest now =>
      simp only [seen, returned, List.flatten_singleton]
      exact harvester.harvest_books now

theorem returned_eq (harvester : Harvester) (event : HarvesterEvent) :
    harvester.returned event =
      (harvester.seen event).map
        (List.flatMap (Visit.frames harvester.mtu harvester.sizes)) := by
  cases event with
  | produce position act => rfl
  | armForeignDrain position => rfl
  | harvest now => exact congrArg ([·]) (harvester.harvest_books now).yields

theorem after_length (harvester : Harvester) (event : HarvesterEvent) :
    (harvester.after event).units.length = harvester.units.length := by
  cases event with
  | produce position act => exact List.length_modify _ _ _
  | armForeignDrain position => exact List.length_modify _ _ _
  | harvest now =>
      refine (congrArg List.length (harvester.harvest_units now)).trans ?_
      exact List.length_map _

theorem modify_getElem {units : List BufferPair} {position : Nat} {unit : BufferPair}
    (present : units[position]? = some unit) (target : Nat) (change : BufferPair → BufferPair) :
    (units.modify target change)[position]? =
      some (if target = position then change unit else unit) := by
  rw [List.getElem?_modify, present]
  split
  · rfl
  · rfl

/-- Of what happens to a harvester, a unit sees what it would see alone. -/
theorem after_unit {harvester : Harvester} {position : Nat} {unit : BufferPair}
    (present : harvester.units[position]? = some unit) (event : HarvesterEvent) :
    (harvester.after event).units[position]? = some (unit.after position event) ∧
      (harvester.seen event).map (·[position]?) = (unit.seen event).map some := by
  cases event with
  | produce target act => exact ⟨modify_getElem present target act.apply, rfl⟩
  | armForeignDrain target => exact ⟨modify_getElem present target _, rfl⟩
  | harvest now =>
      refine ⟨?_, ?_⟩
      · change (harvester.harvest now).2.units[position]? = _
        rw [harvest_units, List.getElem?_map, present]
        rfl
      · change [(harvester.units.map fun unit => (visit unit).1)[position]?] = _
        rw [List.getElem?_map, present]
        rfl

theorem after_cycles (harvester : Harvester) (event : HarvesterEvent) :
    (harvester.after event).stats.cycles =
      harvester.stats.cycles + (harvester.returned event).length := by
  cases event with
  | produce position act => rfl
  | armForeignDrain position => rfl
  | harvest now => exact (harvester.harvest_pace now).1

/-! A run -/

theorem run_books (harvester : Harvester) (events : List HarvesterEvent) :
    harvester.Books (harvester.visitLog events).flatten (harvester.yields events).flatten
      (harvester.run events) := by
  induction events generalizing harvester with
  | nil => exact .of_same rfl rfl rfl
  | cons event rest ih =>
      have first := harvester.after_books event
      have later := ih (harvester.after event)
      simp only [visitLog, yields, List.flatten_append]
      exact first.append later

theorem yields_eq (harvester : Harvester) (events : List HarvesterEvent) :
    harvester.yields events =
      (harvester.visitLog events).map
        (List.flatMap (Visit.frames harvester.mtu harvester.sizes)) := by
  induction events generalizing harvester with
  | nil => rfl
  | cons event rest ih =>
      have books := harvester.after_books event
      simp only [yields, visitLog, List.map_append]
      rw [ih, returned_eq, books.mtu, books.sizes]

theorem visitLog_width (harvester : Harvester) (events : List HarvesterEvent) :
    ∀ row ∈ harvester.visitLog events, row.length = harvester.units.length := by
  induction events generalizing harvester with
  | nil => exact nofun
  | cons event rest ih =>
      intro row member
      rcases List.mem_append.mp member with here | later
      · cases event with
        | produce position act => cases here
        | armForeignDrain position => cases here
        | harvest now =>
            rw [List.mem_singleton.mp here, List.length_map]
      · rw [ih _ row later, after_length]

theorem run_unit {harvester : Harvester} {position : Nat} {unit : BufferPair}
    (present : harvester.units[position]? = some unit) (events : List HarvesterEvent) :
    (harvester.run events).units[position]? = some (unit.run position events) ∧
      (harvester.visitLog events).map (·[position]?) =
        (unit.visits position events).map some := by
  induction events generalizing harvester unit with
  | nil => exact ⟨present, rfl⟩
  | cons event rest ih =>
      obtain ⟨kept, sight⟩ := after_unit present event
      obtain ⟨final, log⟩ := ih kept
      refine ⟨final, ?_⟩
      simp only [visitLog, BufferPair.visits, List.map_append]
      rw [sight, log]

theorem run_cycles (harvester : Harvester) (events : List HarvesterEvent) :
    (harvester.run events).stats.cycles =
      harvester.stats.cycles + (harvester.yields events).length := by
  induction events generalizing harvester with
  | nil => rfl
  | cons event rest ih =>
      refine (ih (harvester.after event)).trans ?_
      rw [after_cycles, yields, List.length_append, Nat.add_assoc]

theorem run_within (harvester : Harvester) (events : List HarvesterEvent) :
    harvester.stats.Within (harvester.run events).stats := by
  have books := harvester.run_books events
  exact
    { cycles := harvester.run_cycles events ▸ Nat.le_add_right _ _
      drops := books.drops ▸ Nat.le_add_right _ _
      errors := books.errors ▸ Nat.le_add_right _ _
      bytes := books.bytes ▸ Nat.le_add_right _ _
      frames := books.frames ▸ Nat.le_add_right _ _
      framingAborts := books.framingAborts ▸ Nat.le_add_right _ _
      bytesDiscarded := books.bytesDiscarded ▸ Nat.le_add_right _ _
      failedSwaps := books.failedSwaps ▸ Nat.le_add_right _ _
      inconsistentSwaps := books.inconsistentSwaps ▸ Nat.le_add_right _ _ }

theorem run_append (harvester : Harvester) (earlier later : List HarvesterEvent) :
    harvester.run (earlier ++ later) = (harvester.run earlier).run later :=
  List.foldl_append

theorem bytes_visits (mtu : Nat) (sizes : List Nat) (visits : List Visit) :
    (visits.map Visit.bytes).sum =
      payloadBytes (visits.flatMap (Visit.frames mtu sizes)) +
        (visits.map (Visit.discarded mtu sizes)).sum := by
  induction visits with
  | nil => rfl
  | cons visit rest ih =>
      have here := (visit.frames_discarded mtu sizes).1
      rw [List.flatMap_cons, payloadBytes_append, List.map_cons, List.sum_cons, List.map_cons,
        List.sum_cons, ih, ← here]
      omega

structure IsolatesFaults (harvester : Harvester) (events : List HarvesterEvent) : Prop where
  width : ∀ row ∈ harvester.visitLog events, row.length = harvester.units.length
  /-- A harvest returns what the visits are worth, in the order of the units. -/
  yields : harvester.yields events =
    (harvester.visitLog events).map
      (List.flatMap (Visit.frames harvester.mtu harvester.sizes))
  /-- A unit is visited as if there were no other, and nothing were framed. -/
  alone : ∀ (position : Nat) (unit : BufferPair), harvester.units[position]? = some unit →
    (harvester.run events).units[position]? = some (unit.run position events) ∧
      (harvester.visitLog events).map (·[position]?) =
        (unit.visits position events).map some
  swaps : ∀ unit ∈ (harvester.run events).units, visit unit = (unit.fate, unit.visited)
  unharmed : ∀ unit ∈ (harvester.run events).units,
    ((visit unit).1 = .inconsistent →
        (visit unit).2 = (visit { unit with foreignNext := false }).2) ∧
      ((visit unit).1 = .failedSwap → (visit unit).2 = { unit with failNext := false })
  cycles : (harvester.run events).stats.cycles = (harvester.yields events).length
  frames : (harvester.run events).stats.frames = (harvester.yields events).flatten.length
  bytes : (harvester.run events).stats.bytes =
    payloadBytes (harvester.yields events).flatten + (harvester.run events).stats.bytesDiscarded
  framingAborts : (harvester.run events).stats.framingAborts =
    (harvester.visitLog events).flatten.countP (Visit.isAborted harvester.mtu harvester.sizes)
  bytesDiscarded : (harvester.run events).stats.bytesDiscarded =
    ((harvester.visitLog events).flatten.map
      (Visit.discarded harvester.mtu harvester.sizes)).sum
  drops : (harvester.run events).stats.drops =
    ((harvester.visitLog events).flatten.map Visit.drops).sum
  errors : (harvester.run events).stats.errors =
    ((harvester.visitLog events).flatten.map Visit.errors).sum
  failedSwaps : (harvester.run events).stats.failedSwaps =
    (harvester.visitLog events).flatten.countP Visit.isFailedSwap
  inconsistentSwaps : (harvester.run events).stats.inconsistentSwaps =
    (harvester.visitLog events).flatten.countP Visit.isInconsistent
  grows : ∀ earlier later, events = earlier ++ later →
    (harvester.run earlier).stats.Within (harvester.run events).stats
  /-- Whatever the clock shows, the next harvest is one more cycle, and later. -/
  paced : ∀ now,
    ((harvester.run events).harvest now).2.stats.cycles =
        (harvester.run events).stats.cycles + 1 ∧
      (harvester.run events).heartbeat < ((harvester.run events).harvest now).2.heartbeat

theorem run_length (harvester : Harvester) (events : List HarvesterEvent) :
    (harvester.run events).units.length = harvester.units.length := by
  induction events generalizing harvester with
  | nil => rfl
  | cons event rest ih => exact (ih _).trans (harvester.after_length event)

theorem run_paired {harvester : Harvester} (paired : ∀ unit ∈ harvester.units, unit.Paired)
    (events : List HarvesterEvent) : ∀ unit ∈ (harvester.run events).units, unit.Paired := by
  intro final member
  obtain ⟨position, within, here⟩ := List.mem_iff_getElem.mp member
  rw [run_length] at within
  have present := List.getElem?_eq_getElem within
  obtain ⟨moved, _⟩ := run_unit present events
  have same : harvester.units[position].run position events = final := by
    rw [← Option.some_inj, ← moved, ← here, List.getElem?_eq_getElem]
  rw [← same]
  exact (paired _ (List.getElem_mem within)).run position events

theorem create_eq_ok {units : List BufferPair} {sizes : List Nat} {mtu : Nat}
    {harvester : Harvester} (created : create units sizes mtu = .ok harvester) :
    harvester = { units, sizes, mtu } := by
  unfold create at created
  split at created
  · cases created
  · exact (Except.ok.inj created).symm

/-- Whatever producers write and whichever faults are armed, harvests isolate the
faults and keep the books. -/
theorem create_isolatesFaults {units : List BufferPair} {sizes : List Nat} {mtu : Nat}
    {harvester : Harvester} (created : create units sizes mtu = .ok harvester)
    (paired : ∀ unit ∈ units, unit.Paired) (events : List HarvesterEvent) :
    harvester.IsolatesFaults events := by
  have new := create_eq_ok created
  have intact : ∀ unit ∈ harvester.units, unit.Paired := new ▸ paired
  have final := run_paired intact events
  have books := harvester.run_books events
  have fresh (total : HarvestStats → Nat) (zero : total {} = 0) : total harvester.stats = 0 := by
    rw [new]
    exact zero
  constructor
  case width => exact harvester.visitLog_width events
  case yields => exact harvester.yields_eq events
  case alone => exact fun position unit present => run_unit present events
  case swaps => exact fun unit member => (final unit member).visit_eq
  case unharmed => exact fun unit member => (final unit member).unharmed
  case cycles => rw [run_cycles, fresh HarvestStats.cycles rfl, Nat.zero_add]
  case frames => rw [books.frames, fresh HarvestStats.frames rfl, Nat.zero_add]
  case bytes =>
    rw [books.bytes, books.bytesDiscarded, books.yields, fresh HarvestStats.bytes rfl,
      fresh HarvestStats.bytesDiscarded rfl, Nat.zero_add, Nat.zero_add]
    exact bytes_visits _ _ _
  case framingAborts =>
    rw [books.framingAborts, fresh HarvestStats.framingAborts rfl, Nat.zero_add]
  case bytesDiscarded =>
    rw [books.bytesDiscarded, fresh HarvestStats.bytesDiscarded rfl, Nat.zero_add]
  case drops => rw [books.drops, fresh HarvestStats.drops rfl, Nat.zero_add]
  case errors => rw [books.errors, fresh HarvestStats.errors rfl, Nat.zero_add]
  case failedSwaps => rw [books.failedSwaps, fresh HarvestStats.failedSwaps rfl, Nat.zero_add]
  case inconsistentSwaps =>
    rw [books.inconsistentSwaps, fresh HarvestStats.inconsistentSwaps rfl, Nat.zero_add]
  case grows =>
    rintro earlier later rfl
    rw [run_append]
    exact (harvester.run earlier).run_within later
  case paced => exact fun now => (harvester.run events).harvest_pace now

/-- Three units, one without memory.  In the first harvest the switch of the second
fails and the third drains a foreign region; in the next one the region of the second
cannot be framed to its end. -/
theorem create_isolatesFaults_sample :
    ∃ harvester : Harvester,
      create [.unallocated 0, { unit := 1, capacity := 8 }, { unit := 2, capacity := 8 }] [2] 8 =
        .ok harvester ∧
      harvester.IsolatesFaults
        [.produce 1 (.write [0, 0]), .produce 1 .armFailedSwitch, .produce 2 (.write [0, 0]),
          .armForeignDrain 2, .harvest 5, .produce 1 (.write [9]), .produce 2 (.write [0, 0]),
          .produce 2 .recordError, .harvest 5] := by
  have created :
      create [.unallocated 0, { unit := 1, capacity := 8 }, { unit := 2, capacity := 8 }] [2] 8 =
        .ok
          { units :=
              [.unallocated 0, { unit := 1, capacity := 8 }, { unit := 2, capacity := 8 }]
            sizes := [2], mtu := 8 } :=
    rfl
  refine ⟨_, created, create_isolatesFaults created ?_ _⟩
  intro unit member
  simp only [List.mem_cons, List.not_mem_nil, or_false] at member
  rcases member with rfl | rfl | rfl
  · exact ⟨nofun, nofun, nofun⟩
  · exact ⟨nofun, nofun, nofun⟩
  · exact ⟨nofun, nofun, nofun⟩

end Harvester
end TraceForward
