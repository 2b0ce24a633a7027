/-
Bytes on their way through a pair of regions.

What producers write lies in the active region, then in the standby region, and then in
what a drain returns.  An exchange empties the region that becomes active, so nothing is
lost as long as the standby region is drained between two exchanges.
-/

import Mathlib.Algebra.GroupWithZero.Nat
import TraceForward.Proofs.Harvest.Unit

namespace TraceForward

inductive PairAct where
  | write (record : Bytes)
  | recordError
  | pending
  | armFailedSwitch
  | switch
  | drain
deriving DecidableEq, Repr

/-- What was done with a pair of regions, and what came of it. -/
inductive PairCall where
  | wrote (record : Bytes) (accepted : Bool)
  | recordedError
  | sawPending (bytes : Nat)
  | armedFailedSwitch
  | switched (before after : Option RegionId)
  | drained (region : Drained)
deriving DecidableEq, Repr

namespace PairCall

def accepted : PairCall → Bytes
  | .wrote record true => record
  | _ => []

def isRefusal : PairCall → Bool
  | .wrote _ accepted => !accepted
  | _ => false

def isError : PairCall → Bool
  | .recordedError => true
  | _ => false

def isExchange : PairCall → Bool
  | .switched before after => before != after
  | _ => false

def drained? : PairCall → Option Drained
  | .drained region => some region
  | _ => none

def isDrain (call : PairCall) : Bool :=
  call.drained?.isSome

def turn? (calls : List PairCall) : Option PairCall :=
  calls.find? fun call => call.isExchange || call.isDrain

/-- Between any two exchanges there is a drain. -/
def drainsBetween : List PairCall → Bool
  | [] => true
  | call :: rest => (!call.isExchange || !(turn? rest).any isExchange) && drainsBetween rest

/-- Behind every exchange there is a drain, and in front of the next exchange. -/
def drainsEach : List PairCall → Bool
  | [] => true
  | call :: rest => (!call.isExchange || (turn? rest).any isDrain) && drainsEach rest

def acceptedBytes (calls : List PairCall) : Bytes :=
  calls.flatMap accepted

def drainedBytes (calls : List PairCall) : Bytes :=
  (calls.filterMap drained?).flatMap Drained.data

def drainedDrops (calls : List PairCall) : Nat :=
  ((calls.filterMap drained?).map Drained.drops).sum

def drainedErrors (calls : List PairCall) : Nat :=
  ((calls.filterMap drained?).map Drained.errors).sum

theorem isDrain_of_isExchange {call : PairCall} (exchange : call.isExchange = true) :
    call.isDrain = false := by
  cases call with
  | switched before after => rfl
  | _ => cases exchange

theorem turn?_cons (call : PairCall) (rest : List PairCall) :
    turn? (call :: rest) = if call.isExchange || call.isDrain then some call else turn? rest := by
  rw [turn?, List.find?_cons]
  cases call.isExchange || call.isDrain with
  | true => rfl
  | false => rfl

theorem not_exchange_of_drain {turn : Option PairCall} (drain : turn.any isDrain = true) :
    turn.any isExchange = false := by
  cases turn with
  | none => rfl
  | some call =>
      cases exchange : call.isExchange with
      | false => exact exchange
      | true =>
          have apart := isDrain_of_isExchange exchange
          rw [Option.any_some, apart] at drain
          cases drain

theorem drainsBetween_of_drainsEach {calls : List PairCall} (each : drainsEach calls = true) :
    drainsBetween calls = true := by
  induction calls with
  | nil => rfl
  | cons call rest ih =>
      simp only [drainsEach, drainsBetween, Bool.and_eq_true, Bool.or_eq_true,
        Bool.not_eq_true'] at each ⊢
      exact ⟨each.1.imp_right not_exchange_of_drain, ih each.2⟩

end PairCall

namespace BufferPair

def perform (pair : BufferPair) : PairAct → PairCall × BufferPair
  | .write record => (.wrote record (pair.write record).1, (pair.write record).2)
  | .recordError => (.recordedError, pair.recordError)
  | .pending => (.sawPending pair.pending, pair)
  | .armFailedSwitch => (.armedFailedSwitch, pair.armFailedSwitch)
  | .switch => (.switched pair.active pair.switch.active, pair.switch)
  | .drain => (.drained pair.drain.1, pair.drain.2)

def performAll : BufferPair → List PairAct → List PairCall × BufferPair
  | pair, [] => ([], pair)
  | pair, act :: rest =>
      let (call, middle) := pair.perform act
      let (calls, final) := performAll middle rest
      (call :: calls, final)

variable {pair final : BufferPair}

/-! ### What a switch does -/

/-- A pair with two regions of its own, none of them too full. -/
structure Kept (pair : BufferPair) : Prop where
  distinct : pair.front.id ≠ pair.back.id
  own : pair.foreignNext = false
  front : pair.front.data.length ≤ pair.capacity
  back : pair.back.data.length ≤ pair.capacity

/-- A switch exchanges the regions, or leaves all but the arming as it is. -/
theorem switch_cases (pair : BufferPair) :
    pair.allocated = true ∧ pair.failNext = false ∧
        pair.switch =
          { pair with front := pair.back.cleared, back := pair.front, everSwitched := true } ∨
      (pair.allocated = false ∨ pair.failNext = true) ∧
        pair.switch = { pair with failNext := !pair.allocated && pair.failNext } := by
  unfold switch
  split
  next absent =>
    refine .inr ⟨.inl (Bool.not_eq_eq_eq_not.mp absent), ?_⟩
    rw [absent, Bool.true_and]
  next present =>
    split
    next failing =>
      refine .inr ⟨.inr failing, ?_⟩
      rw [Bool.eq_false_iff.mpr present, Bool.false_and]
    next working =>
      have memory : pair.allocated = true := by simpa using present
      exact .inl ⟨memory, Bool.eq_false_iff.mpr working, rfl⟩

theorem Kept.switch_active_ne_iff (kept : pair.Kept) :
    pair.switch.active ≠ pair.active ↔ pair.allocated = true ∧ pair.failNext = false := by
  rcases pair.switch_cases with ⟨memory, working, changed⟩ | ⟨fails, same⟩
  · have exchanged : pair.back.cleared.id ≠ pair.front.id := kept.distinct.symm
    simp [changed, active, memory, working, exchanged]
  · have unmoved : pair.switch.active = pair.active := by
      rw [same]
      rfl
    refine iff_of_false (not_not_intro unmoved) ?_
    rintro ⟨memory, working⟩
    rcases fails with absent | failing
    · rw [memory] at absent
      cases absent
    · rw [working] at failing
      cases failing

/-! ### What a single act does -/

theorem perform_limits (pair : BufferPair) (act : PairAct) :
    (pair.perform act).2.capacity = pair.capacity ∧
      (pair.perform act).2.allocated = pair.allocated := by
  cases act with
  | write record =>
      simp only [perform, write]
      split
      · exact ⟨rfl, rfl⟩
      · exact ⟨rfl, rfl⟩
  | recordError => exact ⟨rfl, rfl⟩
  | pending => exact ⟨rfl, rfl⟩
  | armFailedSwitch => exact ⟨rfl, rfl⟩
  | switch =>
      rcases pair.switch_cases with ⟨_, _, changed⟩ | ⟨_, same⟩
      · simp only [perform, changed, and_self]
      · simp only [perform, same, and_self]
  | drain => exact ⟨rfl, rfl⟩

theorem Kept.perform (kept : pair.Kept) (act : PairAct) : (pair.perform act).2.Kept := by
  obtain ⟨distinct, own, front, back⟩ := kept
  cases act with
  | write record =>
      simp only [BufferPair.perform, write]
      split
      next full => exact ⟨distinct, own, front, back⟩
      next fits =>
        refine ⟨distinct, own, ?_, back⟩
        rw [List.length_append]
        exact Nat.not_lt.mp fits
  | recordError => exact ⟨distinct, own, front, back⟩
  | pending => exact ⟨distinct, own, front, back⟩
  | armFailedSwitch => exact ⟨distinct, own, front, back⟩
  | switch =>
      rcases pair.switch_cases with ⟨_, _, changed⟩ | ⟨_, same⟩
      · simp only [BufferPair.perform, changed]
        exact ⟨distinct.symm, own, Nat.zero_le _, front⟩
      · simp only [BufferPair.perform, same]
        exact ⟨distinct, own, front, back⟩
  | drain => exact ⟨distinct, rfl, front, Nat.zero_le _⟩

/-- An act that does not exchange the regions leaves the standby region alone, unless it
drains it. -/
theorem Kept.perform_back (kept : pair.Kept) {act : PairAct}
    (stays : (pair.perform act).1.isExchange = false) :
    (pair.perform act).2.back =
      if (pair.perform act).1.isDrain then pair.back.cleared else pair.back := by
  cases act with
  | write record =>
      simp only [BufferPair.perform, write]
      split
      · rfl
      · rfl
  | recordError => rfl
  | pending => rfl
  | armFailedSwitch => rfl
  | switch =>
      have unmoved : pair.active = pair.switch.active := by
        simpa [BufferPair.perform, PairCall.isExchange] using stays
      rcases pair.switch_cases with ⟨memory, working, _⟩ | ⟨_, same⟩
      · exact absurd unmoved.symm (kept.switch_active_ne_iff.mpr ⟨memory, working⟩)
      · simp only [BufferPair.perform, same]
        rfl
  | drain => rfl

/-! ### Nothing is lost -/

/-- What was in the regions and what came in is what was drained and what is there. -/
structure Conserves (pair : BufferPair) (calls : List PairCall) (final : BufferPair) : Prop where
  bytes : pair.back.data ++ pair.front.data ++ PairCall.acceptedBytes calls =
    PairCall.drainedBytes calls ++ (final.back.data ++ final.front.data)
  drops : pair.back.drops + pair.front.drops + calls.countP PairCall.isRefusal =
    PairCall.drainedDrops calls + (final.back.drops + final.front.drops)
  errors : pair.back.errors + pair.front.errors + calls.countP PairCall.isError =
    PairCall.drainedErrors calls + (final.back.errors + final.front.errors)

theorem Conserves.refl (pair : BufferPair) : pair.Conserves [] pair := by
  constructor
  · exact List.append_nil _
  · exact (Nat.zero_add _).symm
  · exact (Nat.zero_add _).symm

theorem Conserves.trans {middle : BufferPair} {first second : List PairCall}
    (earlier : pair.Conserves first middle) (later : middle.Conserves second final) :
    pair.Conserves (first ++ second) final := by
  obtain ⟨bytes, drops, errors⟩ := earlier
  obtain ⟨bytes', drops', errors'⟩ := later
  constructor
  · simp only [PairCall.acceptedBytes, PairCall.drainedBytes, List.flatMap_append,
      List.filterMap_append] at bytes bytes' ⊢
    rw [← List.append_assoc, bytes, List.append_assoc, bytes', List.append_assoc]
  · simp only [PairCall.drainedDrops, List.countP_append, List.filterMap_append,
      List.map_append, List.sum_append] at drops drops' ⊢
    omega
  · simp only [PairCall.drainedErrors, List.countP_append, List.filterMap_append,
      List.map_append, List.sum_append] at errors errors' ⊢
    omega

structure Idle (region : Region) : Prop where
  data : region.data = []
  drops : region.drops = 0
  errors : region.errors = 0

theorem idle_cleared (region : Region) : Idle region.cleared :=
  ⟨rfl, rfl, rfl⟩

/-- An act loses nothing, but for an exchange that brings in a region which was not
drained. -/
theorem Kept.perform_conserves (kept : pair.Kept) (act : PairAct)
    (ready : (pair.perform act).1.isExchange = true → Idle pair.back) :
    pair.Conserves [(pair.perform act).1] (pair.perform act).2 := by
  cases act with
  | write record =>
      by_cases full : pair.capacity < pair.front.data.length + record.length
      · simp only [BufferPair.perform, write, if_pos full]
        constructor
        · exact List.append_nil _
        · exact (Nat.add_assoc _ _ _).trans (Nat.zero_add _).symm
        · exact (Nat.zero_add _).symm
      · simp only [BufferPair.perform, write, if_neg full]
        constructor
        · simp [PairCall.acceptedBytes, PairCall.accepted, PairCall.drainedBytes,
            PairCall.drained?]
        · exact (Nat.zero_add _).symm
        · exact (Nat.zero_add _).symm
  | recordError =>
      constructor
      · exact List.append_nil _
      · exact (Nat.zero_add _).symm
      · exact (Nat.add_assoc _ _ _).trans (Nat.zero_add _).symm
  | pending => exact ⟨List.append_nil _, (Nat.zero_add _).symm, (Nat.zero_add _).symm⟩
  | armFailedSwitch => exact ⟨List.append_nil _, (Nat.zero_add _).symm, (Nat.zero_add _).symm⟩
  | switch =>
      rcases pair.switch_cases with ⟨memory, working, changed⟩ | ⟨_, same⟩
      -- What the incoming region held is cleared, and only an idle one may be.
      · have moved := kept.switch_active_ne_iff.mpr ⟨memory, working⟩
        obtain ⟨data, drops, errors⟩ := ready (by
          simpa [BufferPair.perform, PairCall.isExchange] using moved.symm)
        simp only [BufferPair.perform, changed]
        constructor
        · simp [PairCall.acceptedBytes, PairCall.accepted, PairCall.drainedBytes,
            PairCall.drained?, Region.cleared, data]
        · rw [drops]
          rfl
        · rw [errors]
          rfl
      · simp only [BufferPair.perform, same]
        exact ⟨List.append_nil _, (Nat.zero_add _).symm, (Nat.zero_add _).symm⟩
  | drain =>
      constructor
      · simp [BufferPair.perform, drain, PairCall.acceptedBytes, PairCall.accepted,
          PairCall.drainedBytes, PairCall.drained?, Region.cleared]
      · simp [BufferPair.perform, drain, PairCall.isRefusal, PairCall.drainedDrops,
          PairCall.drained?, Region.cleared]
      · simp [BufferPair.perform, drain, PairCall.isError, PairCall.drainedErrors,
          PairCall.drained?, Region.cleared]

/-! ### Rows of acts -/

theorem performAll_cons (pair : BufferPair) (act : PairAct) (rest : List PairAct) :
    pair.performAll (act :: rest) =
      ((pair.perform act).1 :: ((pair.perform act).2.performAll rest).1,
        ((pair.perform act).2.performAll rest).2) :=
  rfl

theorem performAll_limits (pair : BufferPair) (acts : List PairAct) :
    (pair.performAll acts).2.capacity = pair.capacity ∧
      (pair.performAll acts).2.allocated = pair.allocated := by
  induction acts generalizing pair with
  | nil => exact ⟨rfl, rfl⟩
  | cons act rest ih =>
      obtain ⟨capacity, allocated⟩ := ih (pair.perform act).2
      obtain ⟨capacity', allocated'⟩ := pair.perform_limits act
      exact ⟨capacity.trans capacity', allocated.trans allocated'⟩

theorem Kept.performAll (kept : pair.Kept) (acts : List PairAct) :
    (pair.performAll acts).2.Kept := by
  induction acts generalizing pair with
  | nil => exact kept
  | cons act rest ih => exact ih (kept.perform act)

/-- While the regions are not exchanged, the standby region can only be drained. -/
theorem Kept.performAll_back (kept : pair.Kept) {acts : List PairAct}
    (stays : ∀ call ∈ (pair.performAll acts).1, call.isExchange = false) :
    (pair.performAll acts).2.back.id = pair.back.id ∧
      (Idle pair.back → Idle (pair.performAll acts).2.back) ∧
      ((∀ call ∈ (pair.performAll acts).1, call.isDrain = false) →
        (pair.performAll acts).2.back = pair.back) := by
  induction acts generalizing pair with
  | nil => exact ⟨rfl, id, fun _ => rfl⟩
  | cons act rest ih =>
      rw [performAll_cons] at stays ⊢
      obtain ⟨first, behind⟩ := List.forall_mem_cons.mp stays
      obtain ⟨identity, idle, alone⟩ := ih (kept.perform act) behind
      have standby := kept.perform_back first
      refine ⟨identity.trans ?_, fun empty => idle ?_, fun undrained => ?_⟩
      · rw [standby]
        split
        · rfl
        · rfl
      · rw [standby]
        split
        · exact idle_cleared _
        · exact empty
      · obtain ⟨untouched, onward⟩ := List.forall_mem_cons.mp undrained
        refine (alone onward).trans ?_
        rw [standby, untouched]
        rfl

/-- An act passes on what is known of the standby region: that it is idle, or whose turn
is next. -/
theorem Kept.perform_ready (kept : pair.Kept) (act : PairAct) {rest : List PairCall}
    (due : Option PairCall → Prop)
    (exchanged : (pair.perform act).1.isExchange = true → due (PairCall.turn? rest))
    (ready : Idle pair.back ∨ due (PairCall.turn? ((pair.perform act).1 :: rest))) :
    Idle (pair.perform act).2.back ∨ due (PairCall.turn? rest) := by
  cases exchange : (pair.perform act).1.isExchange with
  | true => exact .inr (exchanged exchange)
  | false =>
      rw [kept.perform_back exchange]
      cases drain : (pair.perform act).1.isDrain with
      | true => exact .inl (idle_cleared _)
      | false =>
          -- The act leaves the standby region alone, and the turn is still to come.
          rw [PairCall.turn?_cons, exchange, drain] at ready
          exact ready

theorem Kept.performAll_conserves (kept : pair.Kept) {acts : List PairAct}
    (between : PairCall.drainsBetween (pair.performAll acts).1 = true)
    (ready : Idle pair.back ∨
      (PairCall.turn? (pair.performAll acts).1).any PairCall.isExchange = false) :
    pair.Conserves (pair.performAll acts).1 (pair.performAll acts).2 := by
  induction acts generalizing pair with
  | nil => exact .refl pair
  | cons act rest ih =>
      rw [performAll_cons] at between ready ⊢
      simp only [PairCall.drainsBetween, Bool.and_eq_true, Bool.or_eq_true,
        Bool.not_eq_true'] at between
      obtain ⟨drained, onward⟩ := between
      -- An exchange is the next turn itself, so nothing may wait in the standby region.
      have first : (pair.perform act).1.isExchange = true → Idle pair.back := by
        intro exchange
        refine ready.resolve_right ?_
        simp [PairCall.turn?_cons, exchange]
      refine (kept.perform_conserves act first).trans (ih (kept.perform act) onward ?_)
      refine kept.perform_ready act (fun turn => turn.any PairCall.isExchange = false) ?_ ready
      intro exchange
      exact drained.resolve_left (by simp [exchange])

/-- Where each exchange has got its drain, nothing waits in the standby region. -/
theorem Kept.performAll_idle (kept : pair.Kept) {acts : List PairAct}
    (each : PairCall.drainsEach (pair.performAll acts).1 = true)
    (ready : Idle pair.back ∨
      (PairCall.turn? (pair.performAll acts).1).any PairCall.isDrain = true) :
    Idle (pair.performAll acts).2.back := by
  induction acts generalizing pair with
  | nil => exact ready.resolve_right nofun
  | cons act rest ih =>
      rw [performAll_cons] at each ready ⊢
      simp only [PairCall.drainsEach, Bool.and_eq_true, Bool.or_eq_true,
        Bool.not_eq_true'] at each
      obtain ⟨drained, onward⟩ := each
      refine ih (kept.perform act) onward ?_
      refine kept.perform_ready act (fun turn => turn.any PairCall.isDrain = true) ?_ ready
      intro exchange
      exact drained.resolve_left (by simp [exchange])

/-! ### Every byte once -/

/-- How a pair hands over what is written to it.  `calls` is what was done with it, and
`final` the pair after that. -/
structure HandsOver (capacity : Nat) (allocated : Bool) (calls : List PairCall)
    (final : BufferPair) : Prop where
  bytes : PairCall.drainsEach calls = true →
    PairCall.drainedBytes calls ++ final.front.data = PairCall.acceptedBytes calls
  drops : PairCall.drainsEach calls = true →
    PairCall.drainedDrops calls + final.front.drops = calls.countP PairCall.isRefusal
  errors : PairCall.drainsEach calls = true →
    PairCall.drainedErrors calls + final.front.errors = calls.countP PairCall.isError
  /-- As long as the last exchange waits for its drain, what is missing is in the standby
  region. -/
  waiting : PairCall.drainsBetween calls = true →
    PairCall.drainedBytes calls ++ (final.back.data ++ final.front.data) =
      PairCall.acceptedBytes calls
  /-- Behind an exchange, drains answer for the region that was active before it. -/
  identity : final.switch.active ≠ final.active → ∀ acts,
    (∀ call ∈ (final.switch.performAll acts).1, call.isExchange = false) →
    final.active = some (final.switch.performAll acts).2.drain.1.region
  handed : final.switch.active ≠ final.active → ∀ acts,
    (∀ call ∈ (final.switch.performAll acts).1,
      call.isExchange = false ∧ call.isDrain = false) →
    (final.switch.performAll acts).2.drain.1.data = final.front.data ∧
      (final.switch.performAll acts).2.drain.1.drops = final.front.drops ∧
      (final.switch.performAll acts).2.drain.1.errors = final.front.errors
  /-- A drain with no exchange behind the one before it returns nothing. -/
  extra : ∀ acts,
    (∀ call ∈ (final.drain.2.performAll acts).1, call.isExchange = false) →
    (final.drain.2.performAll acts).2.drain.1.data = [] ∧
      (final.drain.2.performAll acts).2.drain.1.drops = 0 ∧
      (final.drain.2.performAll acts).2.drain.1.errors = 0
  early : (∀ call ∈ calls, call.isExchange = false) →
    final.drain.1.data = [] ∧ final.drain.1.drops = 0 ∧ final.drain.1.errors = 0
  exchanges_iff : final.switch.active ≠ final.active ↔
    allocated = true ∧ final.failNext = false
  failed : final.switch.active = final.active →
    final.switch = { final with failNext := !allocated && final.failNext }
  front : final.front.data.length ≤ capacity
  back : final.back.data.length ≤ capacity
  refused_iff : ∀ record,
    (final.write record).1 = false ↔ capacity < final.front.data.length + record.length

theorem Kept.switch (kept : pair.Kept) : pair.switch.Kept :=
  kept.perform .switch

theorem Kept.drain (kept : pair.Kept) : pair.drain.2.Kept :=
  kept.perform .drain

theorem write_refused_iff (pair : BufferPair) (record : Bytes) :
    (pair.write record).1 = false ↔
      pair.capacity < pair.front.data.length + record.length := by
  unfold write
  split
  next full => exact iff_of_true rfl full
  next fits => exact iff_of_false nofun fits

theorem Kept.drain_region (kept : pair.Kept) : pair.drain.1.region = pair.back.id := by
  simp [BufferPair.drain, kept.own]

theorem Kept.switch_eq (kept : pair.Kept) (moved : pair.switch.active ≠ pair.active) :
    pair.active = some pair.switch.back.id ∧ pair.switch.back = pair.front := by
  obtain ⟨memory, working⟩ := kept.switch_active_ne_iff.mp moved
  simp [BufferPair.switch, active, memory, working]

/-- A new pair hands every byte over once, however producers and the harvest take turns. -/
theorem performAll_handsOver (unit capacity : Nat) (policy : BufferPolicy) (allocated : Bool)
    (acts : List PairAct) :
    let pair : BufferPair := { unit, policy, capacity, allocated }
    HandsOver capacity allocated (pair.performAll acts).1 (pair.performAll acts).2 := by
  intro pair
  have new : pair.Kept := ⟨nofun, rfl, Nat.zero_le _, Nat.zero_le _⟩
  have empty : Idle pair.back := ⟨rfl, rfl, rfl⟩
  have kept := new.performAll acts
  obtain ⟨limit, memory⟩ := pair.performAll_limits acts
  have conserves (between : PairCall.drainsBetween (pair.performAll acts).1 = true) :=
    new.performAll_conserves between (.inl empty)
  have complete (each : PairCall.drainsEach (pair.performAll acts).1 = true) :=
    And.intro (conserves (PairCall.drainsBetween_of_drainsEach each))
      (new.performAll_idle each (.inl empty))
  have waits (stays : ∀ call ∈ (pair.performAll acts).1, call.isExchange = false) :
      Idle (pair.performAll acts).2.back :=
    (new.performAll_back stays).2.1 empty
  generalize (pair.performAll acts).1 = calls at *
  generalize (pair.performAll acts).2 = final at *
  constructor
  case bytes =>
    intro each
    obtain ⟨law, idle⟩ := complete each
    simpa [idle.data, pair] using law.bytes.symm
  case drops =>
    intro each
    obtain ⟨law, idle⟩ := complete each
    simpa [idle.drops, pair] using law.drops.symm
  case errors =>
    intro each
    obtain ⟨law, idle⟩ := complete each
    simpa [idle.errors, pair] using law.errors.symm
  case waiting =>
    intro between
    exact (conserves between).bytes.symm
  case identity =>
    intro moved acts stays
    obtain ⟨before, _⟩ := kept.switch_eq moved
    obtain ⟨same, _⟩ := kept.switch.performAll_back stays
    rw [before, (kept.switch.performAll acts).drain_region, same]
  case handed =>
    intro moved acts stays
    obtain ⟨_, content⟩ := kept.switch_eq moved
    obtain ⟨_, _, alone⟩ := kept.switch.performAll_back fun call member => (stays call member).1
    have untouched := (alone fun call member => (stays call member).2).trans content
    rw [← untouched]
    exact ⟨rfl, rfl, rfl⟩
  case extra =>
    intro acts stays
    obtain ⟨_, idle, _⟩ := kept.drain.performAll_back stays
    obtain ⟨data, drops, errors⟩ := idle (idle_cleared _)
    exact ⟨data, drops, errors⟩
  case early =>
    intro stays
    obtain ⟨data, drops, errors⟩ := waits stays
    exact ⟨data, drops, errors⟩
  case exchanges_iff =>
    rw [kept.switch_active_ne_iff, memory]
  case failed =>
    intro unmoved
    rcases final.switch_cases with ⟨allocated, working, _⟩ | ⟨_, same⟩
    · exact absurd unmoved (kept.switch_active_ne_iff.mpr ⟨allocated, working⟩)
    · rw [same, memory]
  case front => exact Nat.le_trans kept.front (Nat.le_of_eq limit)
  case back => exact Nat.le_trans kept.back (Nat.le_of_eq limit)
  case refused_iff =>
    intro record
    rw [write_refused_iff, limit]

/-- A record is refused, one is written between an exchange and its drain, and a switch
fails. -/
theorem performAll_handsOver_sample :
    let pair : BufferPair := { unit := 1, policy := .switch, capacity := 3, allocated := true }
    let acts : List PairAct :=
      [.write [1, 2], .write [3, 4], .switch, .write [5], .drain, .drain, .armFailedSwitch,
        .switch, .recordError, .switch, .drain, .write [6]]
    PairCall.drainsEach (pair.performAll acts).1 = true ∧
      PairCall.drainedBytes (pair.performAll acts).1 = [1, 2, 5] ∧
      (pair.performAll acts).2.front.data = [6] ∧
      PairCall.drainedDrops (pair.performAll acts).1 = 1 ∧
      PairCall.drainedErrors (pair.performAll acts).1 = 1 ∧
      HandsOver 3 true (pair.performAll acts).1 (pair.performAll acts).2 := by
  intro pair acts
  exact ⟨by decide +kernel, by decide +kernel, by decide +kernel, by decide +kernel,
    by decide +kernel, performAll_handsOver 1 3 .switch true acts⟩

end BufferPair
end TraceForward
