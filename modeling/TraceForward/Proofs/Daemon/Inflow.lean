/-
The way of the input topic's payloads to the interpreter.

The consumer polls the topic and sends trace payloads into a channel that holds a bounded
number of them; the loop takes them out and writes them.  Each side may stop while the
others go on.  What the loop has received is always the first of what was polled, and the
bytes it has written are those of these payloads.
-/

import TraceForward.Daemon.Intake
import TraceForward.Proofs.Daemon.Backpressure
import TraceForward.Proofs.Daemon.Rendering
import TraceForward.Proofs.Runs

namespace TraceForward

/-! ### What an event does to the input side of the loop -/

namespace BridgeEvent

def payload? : BridgeEvent → Option Bytes
  | .payload bytes => some bytes
  | _ => none

theorem eq_payload (event : BridgeEvent) {payload : Bytes}
    (about : event.payload? = some payload) : event = .payload payload := by
  cases event with
  | payload bytes => exact congrArg BridgeEvent.payload (Option.some.inj about)
  | _ => cases about

end BridgeEvent

namespace Bridge

variable {bridge next : Bridge} {event : BridgeEvent}

theorem serve?_payload {payload : Bytes}
    (served : bridge.serve? (.payload payload) = some next) :
    bridge.inputOpen = true ∧ bridge.writing = [] ∧ next = bridge.servePayload payload := by
  unfold serve? at served
  split at served
  · cases served
  · split at served
    next idle =>
      obtain ⟨opened, served⟩ := Option.ite_none_right_eq_some.mp served
      cases served
      exact ⟨opened, List.isEmpty_iff.mp idle, rfl⟩
    next => cases served

theorem serve?_writeFailed (served : bridge.serve? .writeFailed = some next) :
    bridge.writing ≠ [] ∧ next = bridge.closeInput := by
  unfold serve? at served
  split at served
  · cases served
  · split at served
    next => cases served
    next writing =>
      cases served
      exact ⟨fun nothing => writing (List.isEmpty_iff.mpr nothing), rfl⟩

theorem send_inbound (bridge : Bridge) (alive : Bool) (frames : List Frame) :
    (bridge.send alive frames).stats.inbound = bridge.stats.inbound := by
  unfold send
  split
  · rfl
  · split <;> rfl

theorem serveLine_inbound (bridge : Bridge) (line : Bytes) :
    (bridge.serveLine line).stats.inbound = bridge.stats.inbound := by
  unfold serveLine
  split
  · rfl
  · split
    · rfl
    · exact send_inbound _ _ _

theorem serve?_inbound (served : bridge.serve? event = some next)
    (other : event.payload? = none) : next.stats.inbound = bridge.stats.inbound := by
  unfold serve? at served
  split at served
  · cases served
  · split at served
    · cases event with
      | payload bytes => cases other
      | line bytes =>
          cases served
          exact bridge.serveLine_inbound bytes
      | shutdown requested =>
          cases served
          cases requested <;> rfl
      | inputEnd =>
          obtain ⟨_, served⟩ := Option.ite_none_right_eq_some.mp served
          cases served
          rfl
      | shutdownLost =>
          cases served
          rfl
      | outputEnd =>
          cases served
          rfl
      | outputFailed reason =>
          cases served
          rfl
      | echoFailed reason =>
          obtain ⟨_, served⟩ := Option.ite_none_right_eq_some.mp served
          cases served
          rfl
      | wrote count => cases served
      | writeFailed => cases served
    · cases event with
      | wrote count =>
          obtain ⟨_, served⟩ := Option.ite_none_right_eq_some.mp served
          cases served
          rfl
      | writeFailed =>
          cases served
          rfl
      | _ => cases served

theorem serve?_idle (served : bridge.serve? event = some next) (ends : next.ended ≠ none) :
    next.writing = [] := by
  by_cases idle : bridge.writing = []
  · cases serve?_fed served with
    | begun _ _ _ _ _ => exact absurd (serve?_silent served rfl).ended ends
    | wrote _ writing _ => rw [writing, idle, List.drop_nil]
    | closed _ _ writing _ => exact writing
    | same _ _ writing _ => exact writing.trans idle
  · rcases serve?_writing idle served with ⟨count, rfl⟩ | rfl
    · exact absurd (serve?_silent served rfl).ended ends
    · exact absurd (serve?_silent served rfl).ended ends

end Bridge

/-! ### From the topic to the interpreter -/

def Inbound.trace? : Except Fault Inbound → Option Bytes
  | .ok (.trace payload) => some payload
  | _ => none

namespace Intake

theorem serve_pass (intake : Intake) {answer : Except Fault Inbound}
    (nothing : Inbound.trace? answer = none) :
    intake.serve answer = { intake with polls := intake.polls + 1 } := by
  unfold serve
  split
  · cases nothing
  · rfl

theorem serve_taken (intake : Intake) {payload : Bytes} (alive : intake.receiverAlive = true) :
    intake.serve (.ok (.trace payload)) =
      { intake with
        polls := intake.polls + 1, forwarded := intake.forwarded ++ [payload] } := by
  simp only [serve]
  rw [if_pos alive]

theorem serve_refused (intake : Intake) {payload : Bytes}
    (gone : intake.receiverAlive = false) :
    intake.serve (.ok (.trace payload)) =
      { intake with polls := intake.polls + 1, ended := true } := by
  simp only [serve]
  rw [if_neg (Bool.eq_false_iff.mp gone)]

end Intake

inductive IntakePhase where
  | looking
  | polling
  | holding (payload : Bytes)
deriving DecidableEq, Repr

def IntakePhase.held : IntakePhase → List Bytes
  | .holding payload => [payload]
  | _ => []

structure Inflow where
  intake : Intake := {}
  phase : IntakePhase := .looking
  channel : List Bytes := []
  bridge : Bridge
  polled : List (Except Fault Inbound) := []
  broken : Bool := false

namespace Inflow

def start (outlet : Outlet) : Inflow :=
  { bridge := { outlet } }

inductive Move where
  | look
  | poll (answer : Except Fault Inbound)
  /-- The consumer sends the payload that it holds, or finds the loop gone. -/
  | deliver
  | serve (event : BridgeEvent)
  | hangUp
  | shutdown

def offers (inflow : Inflow) : BridgeEvent → Bool
  | .payload payload => inflow.channel.head? == some payload
  | .inputEnd => inflow.intake.ended && inflow.channel.isEmpty
  | _ => true

def settle (inflow : Inflow) (bridge : Bridge) : BridgeEvent → Inflow
  | .payload _ => { inflow with bridge, channel := inflow.channel.tail }
  | .writeFailed => { inflow with bridge, broken := true }
  | _ => { inflow with bridge }

def after? (capacity : Nat) (inflow : Inflow) : Move → Option Inflow
  | .look =>
      if inflow.phase = .looking ∧ inflow.intake.ended = false then
        if inflow.intake.shutdown then
          some { inflow with intake := { inflow.intake with ended := true } }
        else some { inflow with phase := .polling }
      else none
  | .poll answer =>
      if inflow.phase = .polling then
        let polled := inflow.polled ++ [answer]
        match Inbound.trace? answer with
        | some payload => some { inflow with polled, phase := .holding payload }
        | none =>
            some { inflow with polled, intake := inflow.intake.serve answer, phase := .looking }
      else none
  | .deliver =>
      match inflow.phase with
      | .holding payload =>
          let intake := inflow.intake.serve (.ok (.trace payload))
          if inflow.intake.ended then none
          else if inflow.intake.receiverAlive then
            if inflow.channel.length < capacity then
              some
                { inflow with
                  intake, phase := .looking, channel := inflow.channel ++ [payload] }
            else none
          else some { inflow with intake }
      | _ => none
  | .serve event =>
      if inflow.offers event then
        (inflow.bridge.serve? event).map fun bridge => inflow.settle bridge event
      else none
  | .hangUp =>
      if inflow.bridge.ended.isSome then
        some
          { inflow with
            intake := { inflow.intake with receiverAlive := false }, channel := [] }
      else none
  | .shutdown => some { inflow with intake := { inflow.intake with shutdown := true } }

variable {capacity : Nat} {inflow next : Inflow} {move : Move}

def traces (inflow : Inflow) : List Bytes :=
  inflow.polled.filterMap Inbound.trace?

inductive Moves (capacity : Nat) (inflow : Inflow) : Inflow → Prop where
  | stop (told : inflow.intake.shutdown = true) :
      Moves capacity inflow
        { inflow with intake := { inflow.intake with ended := true } }
  | look (stands : inflow.phase = .looking) :
      Moves capacity inflow { inflow with phase := .polling }
  | hold {answer : Except Fault Inbound} {payload : Bytes} (stands : inflow.phase = .polling)
      (found : Inbound.trace? answer = some payload) :
      Moves capacity inflow
        { inflow with polled := inflow.polled ++ [answer], phase := .holding payload }
  | pass {answer : Except Fault Inbound} (stands : inflow.phase = .polling)
      (nothing : Inbound.trace? answer = none) :
      Moves capacity inflow
        { inflow with
          polled := inflow.polled ++ [answer]
          intake := { inflow.intake with polls := inflow.intake.polls + 1 }
          phase := .looking }
  | deliver {payload : Bytes} (stands : inflow.phase = .holding payload)
      (alive : inflow.intake.receiverAlive = true) (room : inflow.channel.length < capacity) :
      Moves capacity inflow
        { inflow with
          intake :=
            { inflow.intake with
              polls := inflow.intake.polls + 1
              forwarded := inflow.intake.forwarded ++ [payload] }
          phase := .looking
          channel := inflow.channel ++ [payload] }
  | refuse (gone : inflow.intake.receiverAlive = false) :
      Moves capacity inflow
        { inflow with
          intake :=
            { inflow.intake with polls := inflow.intake.polls + 1, ended := true } }
  | serve {event : BridgeEvent} {bridge : Bridge} (offered : inflow.offers event = true)
      (served : inflow.bridge.serve? event = some bridge) :
      Moves capacity inflow (inflow.settle bridge event)
  | hangUp (quit : inflow.bridge.ended ≠ none) :
      Moves capacity inflow
        { inflow with
          intake := { inflow.intake with receiverAlive := false }, channel := [] }
  | shutdown :
      Moves capacity inflow { inflow with intake := { inflow.intake with shutdown := true } }

theorem moves_of_after? (happens : inflow.after? capacity move = some next) :
    inflow.Moves capacity next := by
  cases move with
  | look =>
      obtain ⟨⟨stands, _⟩, happens⟩ := Option.ite_none_right_eq_some.mp happens
      by_cases told : inflow.intake.shutdown
      · rw [if_pos told] at happens
        cases happens
        exact .stop told
      · rw [if_neg told] at happens
        cases happens
        exact .look stands
  | poll answer =>
      obtain ⟨stands, happens⟩ := Option.ite_none_right_eq_some.mp happens
      cases found : Inbound.trace? answer with
      | some payload =>
          simp only [found] at happens
          cases happens
          exact .hold stands found
      | none =>
          simp only [found, Intake.serve_pass _ found] at happens
          cases happens
          exact .pass stands found
  | deliver =>
      simp only [after?] at happens
      split at happens
      next payload stands =>
        obtain ⟨_, happens⟩ := Option.ite_none_left_eq_some.mp happens
        by_cases alive : inflow.intake.receiverAlive = true
        · rw [if_pos alive, Intake.serve_taken _ alive] at happens
          obtain ⟨room, happens⟩ := Option.ite_none_right_eq_some.mp happens
          cases happens
          exact .deliver stands alive room
        · rw [if_neg alive, Intake.serve_refused _ (Bool.eq_false_iff.mpr alive)] at happens
          cases happens
          exact .refuse (Bool.eq_false_iff.mpr alive)
      next => cases happens
  | serve event =>
      obtain ⟨offered, happens⟩ := Option.ite_none_right_eq_some.mp happens
      obtain ⟨bridge, served, rfl⟩ := Option.map_eq_some_iff.mp happens
      exact .serve offered served
  | hangUp =>
      obtain ⟨quit, happens⟩ := Option.ite_none_right_eq_some.mp happens
      cases happens
      exact .hangUp (Option.isSome_iff_ne_none.mp quit)
  | shutdown =>
      cases happens
      exact .shutdown

theorem settle_other {event : BridgeEvent} (bridge : Bridge) (other : event.payload? = none)
    (unbroken : event ≠ .writeFailed) : inflow.settle bridge event = { inflow with bridge } := by
  cases event with
  | payload bytes => cases other
  | writeFailed => exact absurd rfl unbroken
  | _ => rfl

/-! ### The channel -/

def received (inflow : Inflow) : List Bytes :=
  inflow.intake.forwarded.take inflow.bridge.stats.inbound

/-- Nothing is lost between the topic and the loop, as long as the loop is there. -/
structure Queued (capacity : Nat) (inflow : Inflow) : Prop where
  polled : inflow.traces = inflow.intake.forwarded ++ inflow.phase.held
  waiting : inflow.intake.receiverAlive = true →
    inflow.intake.forwarded = inflow.received ++ inflow.channel
  gone : inflow.intake.receiverAlive = false → inflow.bridge.ended ≠ none
  room : inflow.channel.length ≤ capacity
  taken : inflow.bridge.stats.inbound ≤ inflow.intake.forwarded.length
  bounded : inflow.intake.forwarded.length ≤ inflow.bridge.stats.inbound + capacity
  ended : inflow.intake.ended = true →
    inflow.intake.shutdown = true ∨ inflow.intake.receiverAlive = false

theorem Queued.start (capacity : Nat) (outlet : Outlet) :
    (start outlet).Queued capacity :=
  ⟨rfl, fun _ => rfl, nofun, Nat.zero_le _, Nat.le_refl _, Nat.zero_le _, nofun⟩

theorem Queued.hold (queued : inflow.Queued capacity) {answer : Except Fault Inbound}
    {payload : Bytes} (stands : inflow.phase = .polling)
    (found : Inbound.trace? answer = some payload) :
    Queued capacity
      { inflow with polled := inflow.polled ++ [answer], phase := .holding payload } := by
  obtain ⟨polled, waiting, gone, room, taken, bounded, ended⟩ := queued
  refine ⟨?_, waiting, gone, room, taken, bounded, ended⟩
  rw [stands, traces] at polled
  rw [traces, List.filterMap_append, polled, List.filterMap_cons_some found]
  simp [IntakePhase.held]

theorem Queued.pass (queued : inflow.Queued capacity) {answer : Except Fault Inbound}
    (stands : inflow.phase = .polling) (nothing : Inbound.trace? answer = none) :
    Queued capacity
      { inflow with
        polled := inflow.polled ++ [answer]
        intake := { inflow.intake with polls := inflow.intake.polls + 1 }
        phase := .looking } := by
  obtain ⟨polled, waiting, gone, room, taken, bounded, ended⟩ := queued
  refine ⟨?_, waiting, gone, room, taken, bounded, ended⟩
  rw [stands, traces] at polled
  rw [traces, List.filterMap_append, polled, List.filterMap_cons_none nothing]
  simp [IntakePhase.held]

theorem Queued.deliver (queued : inflow.Queued capacity) {payload : Bytes}
    (stands : inflow.phase = .holding payload) (alive : inflow.intake.receiverAlive = true)
    (free : inflow.channel.length < capacity) :
    Queued capacity
      { inflow with
        intake :=
          { inflow.intake with
            polls := inflow.intake.polls + 1
            forwarded := inflow.intake.forwarded ++ [payload] }
        phase := .looking
        channel := inflow.channel ++ [payload] } := by
  obtain ⟨polled, waiting, gone, room, taken, bounded, ended⟩ := queued
  have sent := waiting alive
  have count := congrArg List.length sent
  rw [received, List.length_append, List.length_take_of_le taken] at count
  refine ⟨?_, ?_, gone, ?_, ?_, ?_, ended⟩
  · rw [stands] at polled
    exact polled.trans (List.append_nil _).symm
  · intro _
    change inflow.intake.forwarded ++ [payload] =
      (inflow.intake.forwarded ++ [payload]).take inflow.bridge.stats.inbound ++
        (inflow.channel ++ [payload])
    rw [List.take_append_of_le_length taken, ← List.append_assoc]
    exact congrArg (· ++ [payload]) sent
  · rw [List.length_append]
    exact free
  · rw [List.length_append]
    exact Nat.le_add_right_of_le taken
  · change (inflow.intake.forwarded ++ [payload]).length ≤
      inflow.bridge.stats.inbound + capacity
    rw [List.length_append, List.length_singleton]
    omega

theorem Queued.payload (queued : inflow.Queued capacity) {payload : Bytes} {bridge : Bridge}
    (offered : inflow.offers (.payload payload) = true)
    (served : inflow.bridge.serve? (.payload payload) = some bridge) :
    (inflow.settle bridge (.payload payload)).Queued capacity ∧
      (inflow.settle bridge (.payload payload)).received = inflow.received ++ [payload] := by
  have running := Bridge.running_of_serve? served
  obtain ⟨_, _, rfl⟩ := Bridge.serve?_payload served
  obtain ⟨polled, waiting, gone, room, taken, bounded, ended⟩ := queued
  -- A loop that serves events has not hung up.
  have alive : inflow.intake.receiverAlive = true := by
    by_contra dead
    exact gone (Bool.eq_false_iff.mpr dead) running
  have first : inflow.channel = payload :: inflow.channel.tail :=
    (List.cons_head?_tail (eq_of_beq offered)).symm
  have sent := waiting alive
  rw [first, ← List.singleton_append, ← List.append_assoc] at sent
  have length : (inflow.received ++ [payload]).length = inflow.bridge.stats.inbound + 1 := by
    rw [List.length_append, received, List.length_take_of_le taken]
    rfl
  have more : inflow.intake.forwarded.take (inflow.bridge.stats.inbound + 1) =
      inflow.received ++ [payload] := by
    rw [sent, List.take_left' length]
  have count := congrArg List.length sent
  rw [List.length_append, length] at count
  refine ⟨⟨polled, ?_, ?_, ?_, ?_, ?_, ended⟩, more⟩
  · intro _
    exact sent.trans (congrArg (· ++ inflow.channel.tail) more.symm)
  · intro dead
    cases alive.symm.trans dead
  · change inflow.channel.tail.length ≤ capacity
    rw [List.length_tail]
    omega
  · change inflow.bridge.stats.inbound + 1 ≤ inflow.intake.forwarded.length
    omega
  · change inflow.intake.forwarded.length ≤ inflow.bridge.stats.inbound + 1 + capacity
    omega

theorem Queued.other (queued : inflow.Queued capacity) {bridge : Bridge} (broken : Bool)
    (running : inflow.bridge.ended = none)
    (inbound : bridge.stats.inbound = inflow.bridge.stats.inbound) :
    Queued capacity { inflow with bridge, broken } := by
  obtain ⟨polled, waiting, gone, room, taken, bounded, ended⟩ := queued
  refine ⟨polled, ?_, ?_, room, ?_, ?_, ended⟩
  · intro alive
    rw [received, inbound]
    exact waiting alive
  · exact fun dead => absurd running (gone dead)
  · exact inbound.symm ▸ taken
  · exact inbound.symm ▸ bounded

theorem Queued.serve (queued : inflow.Queued capacity) {event : BridgeEvent} {bridge : Bridge}
    (offered : inflow.offers event = true)
    (served : inflow.bridge.serve? event = some bridge) :
    (inflow.settle bridge event).Queued capacity := by
  have running := Bridge.running_of_serve? served
  cases about : event.payload? with
  | some payload =>
      obtain rfl := event.eq_payload about
      exact (queued.payload offered served).1
  | none =>
      have inbound := Bridge.serve?_inbound served about
      by_cases failed : event = .writeFailed
      · subst failed
        exact queued.other true running inbound
      · rw [settle_other bridge about failed]
        exact queued.other inflow.broken running inbound

theorem Queued.after (queued : inflow.Queued capacity) (moves : inflow.Moves capacity next) :
    next.Queued capacity := by
  cases moves with
  | hold stands found => exact queued.hold stands found
  | pass stands nothing => exact queued.pass stands nothing
  | deliver stands alive room => exact queued.deliver stands alive room
  | serve offered served => exact queued.serve offered served
  | look stands =>
      obtain ⟨polled, waiting, gone, room, taken, bounded, ended⟩ := queued
      rw [stands] at polled
      exact ⟨polled, waiting, gone, room, taken, bounded, ended⟩
  | stop told =>
      obtain ⟨polled, waiting, gone, room, taken, bounded, _⟩ := queued
      exact ⟨polled, waiting, gone, room, taken, bounded, fun _ => .inl told⟩
  | refuse dead =>
      obtain ⟨polled, waiting, gone, room, taken, bounded, _⟩ := queued
      exact ⟨polled, waiting, gone, room, taken, bounded, fun _ => .inr dead⟩
  | hangUp quit =>
      obtain ⟨polled, _, _, _, taken, bounded, _⟩ := queued
      exact ⟨polled, nofun, fun _ => quit, Nat.zero_le _, taken, bounded, fun _ => .inr rfl⟩
  | shutdown =>
      obtain ⟨polled, waiting, gone, room, taken, bounded, _⟩ := queued
      exact ⟨polled, waiting, gone, room, taken, bounded, fun _ => .inl rfl⟩

/-! ### The interpreter's input -/

/-- What was written is what was received, but for the payload that is being written or
whose writing has failed. -/
inductive Written (inflow : Inflow) : Prop where
  | flowing (whole : inflow.broken = false)
      (flow : inflow.bridge.written ++ inflow.bridge.writing = inflow.received.flatten)
      (last : inflow.bridge.writing ≠ [] → inflow.bridge.inputOpen = true ∧
        ∃ before payload, inflow.received = before ++ [payload] ∧
          inflow.bridge.writing <:+ payload)
  | cutOff {before : List Bytes} {payload rest : Bytes} (failed : inflow.broken = true)
      (closed : inflow.bridge.inputOpen = false) (idle : inflow.bridge.writing = [])
      (last : inflow.received = before ++ [payload]) (missing : rest ≠ [])
      (under : rest <:+ payload)
      (flow : inflow.bridge.written ++ rest = inflow.received.flatten)

theorem Written.start (outlet : Outlet) : (start outlet).Written :=
  .flowing rfl rfl fun writing => absurd rfl writing

theorem Written.beside (written : inflow.Written)
    (inputOpen : next.bridge.inputOpen = inflow.bridge.inputOpen)
    (writing : next.bridge.writing = inflow.bridge.writing)
    (same : next.bridge.written = inflow.bridge.written)
    (received : next.received = inflow.received) (broken : next.broken = inflow.broken) :
    next.Written := by
  cases written with
  | flowing whole flow last =>
      rw [← same, ← writing, ← received] at flow
      rw [← inputOpen, ← writing, ← received] at last
      exact .flowing (broken.trans whole) flow last
  | cutOff failed closed idle last missing under flow =>
      rw [← same, ← received] at flow
      exact .cutOff (broken.trans failed) (inputOpen.trans closed) (writing.trans idle)
        (received.trans last) missing under flow

theorem Written.payload (written : inflow.Written) {payload : Bytes} {bridge : Bridge}
    (served : inflow.bridge.serve? (.payload payload) = some bridge)
    (more : (inflow.settle bridge (.payload payload)).received = inflow.received ++ [payload]) :
    (inflow.settle bridge (.payload payload)).Written := by
  obtain ⟨opened, idle, rfl⟩ := Bridge.serve?_payload served
  cases written with
  | flowing whole flow last =>
      refine .flowing whole ?_ fun _ => ⟨opened, inflow.received, payload, more, ?_⟩
      · rw [more, List.flatten_append, List.flatten_singleton, ← flow, idle, List.append_nil]
        rfl
      · exact List.suffix_refl payload
  | cutOff _ closed => cases opened.symm.trans closed

theorem Written.writeFailed (written : inflow.Written) {bridge : Bridge}
    (served : inflow.bridge.serve? .writeFailed = some bridge) :
    (inflow.settle bridge .writeFailed).Written := by
  obtain ⟨writing, rfl⟩ := Bridge.serve?_writeFailed served
  cases written with
  | flowing whole flow last =>
      obtain ⟨_, before, payload, received, under⟩ := last writing
      exact .cutOff rfl rfl rfl received writing under flow
  | cutOff _ _ idle => exact absurd idle writing

theorem Written.other (written : inflow.Written) {event : BridgeEvent} {bridge : Bridge}
    (served : inflow.bridge.serve? event = some bridge) (other : event.payload? = none)
    (unbroken : event ≠ .writeFailed) : Written { inflow with bridge } := by
  have inbound := Bridge.serve?_inbound served other
  have received : Inflow.received { inflow with bridge } = inflow.received := by
    rw [Inflow.received, inbound]
    rfl
  cases Bridge.serve?_fed served with
  | begun => cases other
  | @wrote count inputOpen writing' written' =>
      cases written with
      | flowing whole flow last =>
          refine .flowing whole ?_ ?_
          · rw [received, ← flow, written', writing', List.append_assoc, List.take_append_drop]
          · intro more
            have writing : inflow.bridge.writing ≠ [] := by
              intro nothing
              rw [writing', nothing, List.drop_nil] at more
              exact more rfl
            obtain ⟨opened, before, payload, same, under⟩ := last writing
            refine ⟨inputOpen.trans opened, before, payload, received.trans same, ?_⟩
            rw [writing']
            exact (List.drop_suffix _ _).trans under
      | cutOff failed closed idle last missing under flow =>
          refine .cutOff failed (inputOpen.trans closed) ?_ (received.trans last) missing under ?_
          · rw [writing', idle, List.drop_nil]
          · rw [received, ← flow, written', idle, List.take_nil, List.append_nil]
  | closed feeds inputOpen writing' written' =>
      -- The topic has ended, and that is served between two payloads.
      have idle : inflow.bridge.writing = [] := by
        by_contra writing
        rcases Bridge.serve?_writing writing served with ⟨count, rfl⟩ | rfl
        · cases feeds
        · exact unbroken rfl
      cases written with
      | flowing whole flow last =>
          refine .flowing whole ?_ (fun more => absurd writing' more)
          rw [received, ← flow, written', writing', idle]
      | cutOff failed closed _ last missing under flow =>
          refine .cutOff failed inputOpen writing' (received.trans last) missing under ?_
          rw [received, ← flow, written']
  | same feeds inputOpen writing' written' =>
      exact written.beside inputOpen writing' written' received rfl

theorem Written.serve (written : inflow.Written) (queued : inflow.Queued capacity)
    {event : BridgeEvent} {bridge : Bridge} (offered : inflow.offers event = true)
    (served : inflow.bridge.serve? event = some bridge) :
    (inflow.settle bridge event).Written := by
  cases about : event.payload? with
  | some payload =>
      obtain rfl := event.eq_payload about
      exact written.payload served (queued.payload offered served).2
  | none =>
      by_cases failed : event = .writeFailed
      · subst failed
        exact written.writeFailed served
      · rw [settle_other bridge about failed]
        exact written.other served about failed

theorem Written.after (written : inflow.Written) (queued : inflow.Queued capacity)
    (moves : inflow.Moves capacity next) : next.Written := by
  cases moves with
  | serve offered served => exact written.serve queued offered served
  | deliver stands alive room =>
      exact written.beside rfl rfl rfl (List.take_append_of_le_length queued.taken) rfl
  | _ => exact written.beside rfl rfl rfl rfl rfl

theorem settle_bridge {event : BridgeEvent} (bridge : Bridge) :
    (inflow.settle bridge event).bridge = bridge := by
  unfold settle
  split <;> rfl

structure GivenUp (received : Nat) (written : Bytes) (inflow : Inflow) : Prop where
  closed : inflow.bridge.inputOpen = false
  idle : inflow.bridge.writing = []
  inbound : inflow.bridge.stats.inbound = received
  same : inflow.bridge.written = written

theorem GivenUp.after {received : Nat} {written : Bytes} (givenUp : inflow.GivenUp received written)
    (moves : inflow.Moves capacity next) : next.GivenUp received written := by
  obtain ⟨closed, idle, inbound, same⟩ := givenUp
  cases moves with
  | @serve event bridge offered served =>
      have other : event.payload? = none := by
        cases about : event.payload? with
        | none => rfl
        | some payload =>
            obtain rfl := event.eq_payload about
            cases closed.symm.trans (Bridge.serve?_payload served).1
      have inbound := (Bridge.serve?_inbound served other).trans inbound
      have ⟨closed, idle, same⟩ : bridge.inputOpen = false ∧ bridge.writing = [] ∧
          bridge.written = written := by
        cases Bridge.serve?_fed served with
        | begun => cases other
        | wrote inputOpen writing more =>
            rw [idle, List.take_nil, List.append_nil] at more
            rw [idle, List.drop_nil] at writing
            exact ⟨inputOpen.trans closed, writing, more.trans same⟩
        | closed _ inputOpen writing more => exact ⟨inputOpen, writing, more.trans same⟩
        | same _ inputOpen writing more =>
            exact ⟨inputOpen.trans closed, writing.trans idle, more.trans same⟩
      have behind : (inflow.settle bridge event).bridge = bridge := settle_bridge bridge
      rw [← behind] at closed idle same inbound
      exact ⟨closed, idle, inbound, same⟩
  | _ => exact ⟨closed, idle, inbound, same⟩

def AtRest (inflow : Inflow) : Prop :=
  inflow.bridge.ended ≠ none → inflow.bridge.writing = []

theorem AtRest.after (atRest : inflow.AtRest) (moves : inflow.Moves capacity next) :
    next.AtRest := by
  cases moves with
  | serve offered served =>
      intro ends
      rw [settle_bridge] at ends ⊢
      exact Bridge.serve?_idle served ends
  | _ => exact atRest

/-! ### What has come of the payloads -/

structure Delivered (capacity : Nat) (inflow : Inflow) : Prop where
  gapFree : inflow.traces = inflow.intake.forwarded ++ inflow.phase.held
  written : inflow.broken = false →
    inflow.bridge.written ++ inflow.bridge.writing =
      (inflow.traces.take inflow.bridge.stats.inbound).flatten
  atEnd : inflow.bridge.ended ≠ none → inflow.bridge.writing = []
  /-- Behind a failed write only the rest of the last payload is missing. -/
  cutOff : inflow.broken = true →
    inflow.bridge.inputOpen = false ∧
      ∃ before payload rest,
        inflow.traces.take inflow.bridge.stats.inbound = before ++ [payload] ∧
          rest ≠ [] ∧ rest <:+ payload ∧
          inflow.bridge.written ++ rest = (before ++ [payload]).flatten
  givenUp : inflow.bridge.inputOpen = false → ∀ moves later,
    runMoves? (after? capacity) inflow moves = some later →
      later.bridge.stats.inbound = inflow.bridge.stats.inbound ∧
        later.bridge.written = inflow.bridge.written
  passes : ∀ answer next, Inbound.trace? answer = none →
    inflow.after? capacity (.poll answer) = some next →
      next.traces = inflow.traces ∧ next.channel = inflow.channel ∧
        next.bridge = inflow.bridge ∧ next.intake.forwarded = inflow.intake.forwarded ∧
        next.intake.ended = inflow.intake.ended ∧ next.phase = .looking
  ended : inflow.intake.ended = true →
    inflow.intake.shutdown = true ∨ inflow.intake.receiverAlive = false
  bounded : inflow.bridge.stats.inbound ≤ inflow.intake.forwarded.length ∧
    inflow.intake.forwarded.length - inflow.bridge.stats.inbound ≤ capacity

theorem Queued.received_eq (queued : inflow.Queued capacity) :
    inflow.received = inflow.traces.take inflow.bridge.stats.inbound := by
  rw [queued.polled, List.take_append_of_le_length queued.taken]
  rfl

theorem passes {answer : Except Fault Inbound} (nothing : Inbound.trace? answer = none)
    (happens : inflow.after? capacity (.poll answer) = some next) :
    next.traces = inflow.traces ∧ next.channel = inflow.channel ∧
      next.bridge = inflow.bridge ∧ next.intake.forwarded = inflow.intake.forwarded ∧
      next.intake.ended = inflow.intake.ended ∧ next.phase = .looking := by
  obtain ⟨_, happens⟩ := Option.ite_none_right_eq_some.mp happens
  simp only [nothing, Intake.serve_pass _ nothing] at happens
  cases happens
  refine ⟨?_, rfl, rfl, rfl, rfl, rfl⟩
  rw [traces, List.filterMap_append, List.filterMap_cons_none nothing]
  exact List.append_nil _

theorem Written.closed_idle (written : inflow.Written)
    (closed : inflow.bridge.inputOpen = false) : inflow.bridge.writing = [] := by
  cases written with
  | flowing whole flow last =>
      by_contra writing
      cases closed.symm.trans (last writing).1
  | cutOff _ _ idle => exact idle

/-- Whatever the consumer, the channel, the loop and the shutdown do, the interpreter gets
the bytes of the first payloads that were polled, and what is sent and not received fits
the channel. -/
theorem payloads_delivered {outlet : Outlet} {moves : List Move} {final : Inflow}
    (reached : runMoves? (after? capacity) (start outlet) moves = some final) :
    final.Delivered capacity := by
  have ⟨queued, written, atRest⟩ :
      final.Queued capacity ∧ final.Written ∧ final.AtRest :=
    runMoves?_induction
      (fun inflow => inflow.Queued capacity ∧ inflow.Written ∧ inflow.AtRest)
      (fun _ _ _ ⟨queued, written, atRest⟩ happens =>
        have moves := moves_of_after? happens
        ⟨queued.after moves, written.after queued moves, atRest.after moves⟩)
      ⟨Queued.start capacity outlet, Written.start outlet, nofun⟩ reached
  have received := queued.received_eq
  refine ⟨queued.polled, ?_, atRest, ?_, ?_, ?_, queued.ended, queued.taken, ?_⟩
  · intro whole
    cases written with
    | flowing _ flow _ => exact received ▸ flow
    | cutOff failed => cases failed.symm.trans whole
  · intro failed
    cases written with
    | flowing whole => cases failed.symm.trans whole
    | cutOff _ closed _ last missing under flow =>
        exact ⟨closed, _, _, _, received.symm.trans last, missing, under, last ▸ flow⟩
  · intro closed moves later goesOn
    have kept := runMoves?_induction
      (GivenUp final.bridge.stats.inbound final.bridge.written)
      (fun _ _ _ kept happens => kept.after (moves_of_after? happens))
      ⟨closed, written.closed_idle closed, rfl, rfl⟩ goesOn
    exact ⟨kept.inbound, kept.same⟩
  · exact fun answer next nothing happens => passes nothing happens
  · have bounded := queued.bounded
    omega

/-- A poll that fails and a message of another kind between two payloads.  The write of
the second fails after its first byte, the third stays in the channel, and the fourth
finds the loop gone. -/
theorem payloads_delivered_sample :
    let found (payload : Bytes) : Move := .poll (.ok (.trace payload))
    let moves : List Move :=
      [.look, found [1, 2], .deliver, .look, .poll (.error (.broker "down")),
        .serve (.payload [1, 2]), .look, .poll (.ok (.ignored .foreignKey)), .look,
        found [3, 4], .serve (.wrote 2), .deliver, .serve (.payload [3, 4]),
        .serve (.wrote 1), .serve .writeFailed, .look, found [5], .deliver, .look,
        .poll (.ok .idle), .look, found [6], .serve .outputEnd, .hangUp, .deliver, .shutdown]
    ∃ final,
      runMoves? (after? Limits.inboundCapacity) (start .echo) moves = some final ∧
        final.intake.ended = true ∧ final.intake.forwarded = [[1, 2], [3, 4], [5]] ∧
        final.bridge.stats.inbound = 2 ∧ final.bridge.written = [1, 2, 3] ∧
        final.Delivered Limits.inboundCapacity := by
  intro found moves
  have outcome :
      (runMoves? (after? Limits.inboundCapacity) (start .echo) moves).map
          (fun final => (final.intake.ended, final.intake.forwarded,
            final.bridge.stats.inbound, final.bridge.written)) =
        some (true, [[1, 2], [3, 4], [5]], 2, [1, 2, 3]) := by
    decide +kernel
  obtain ⟨final, reached, same⟩ := Option.map_eq_some_iff.mp outcome
  obtain ⟨ended, same⟩ := Prod.mk.inj same
  obtain ⟨forwarded, same⟩ := Prod.mk.inj same
  obtain ⟨inbound, written⟩ := Prod.mk.inj same
  exact ⟨final, reached, ended, forwarded, inbound, written, payloads_delivered reached⟩

end Inflow
end TraceForward
