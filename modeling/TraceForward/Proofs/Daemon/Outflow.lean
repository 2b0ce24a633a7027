/-
The way of the interpreter's frames to the broker, to the end of the daemon.

When the loop is over and every sender is gone, the shutdown flag is set at once, while
what was sent may still wait in the channel.  From then on the first full queue ends the
batch, and its frames are given up.  So frames are lost in the runs that come to such a
place and in no others.
-/

import TraceForward.Proofs.Daemon.Posting
import TraceForward.Proofs.Daemon.Rendering

namespace TraceForward

/-! ### Giving up -/

namespace Courier

variable {Client : Type} {courier next : Courier (Recorded Client)}

/-- The queue was full and the flag is set, so the batch is about to be given up. -/
def Cornered (courier : Courier (Recorded Client)) : Prop :=
  courier.shutdown = true ∧ ∃ frame rest, courier.phase = .publishing (.blocked frame rest)

/-- Frames were given up, or will be at the end of the batch. -/
inductive GivesUp (courier : Courier (Recorded Client)) : Prop where
  | cornered (cornered : courier.Cornered)
  | ending {frame : Frame} {rest : List Frame}
      (phase : courier.phase = .publishing (.ended (frame :: rest)))
  | gaveUp (loss : courier.publisher.stats.abandoned ≠ 0)

theorem GivesUp.of_finished (givesUp : courier.GivesUp) (finished : courier.phase = .finished) :
    courier.publisher.stats.abandoned ≠ 0 := by
  cases givesUp with
  | cornered cornered =>
      obtain ⟨_, frame, rest, phase⟩ := cornered
      cases finished.symm.trans phase
  | ending phase => cases finished.symm.trans phase
  | gaveUp loss => exact loss

structure Alike (courier next : Courier (Recorded Client)) : Prop where
  publisher : next.publisher = courier.publisher
  phase : next.phase = courier.phase
  shutdown : next.shutdown = courier.shutdown

theorem Alike.givesUp_iff (alike : courier.Alike next) : next.GivesUp ↔ courier.GivesUp := by
  obtain ⟨publisher, phase, shutdown⟩ := alike
  constructor
  · intro givesUp
    cases givesUp with
    | cornered cornered =>
        rw [Cornered, shutdown, phase] at cornered
        exact .cornered cornered
    | ending ending => exact .ending (phase.symm.trans ending)
    | gaveUp loss =>
        rw [publisher] at loss
        exact .gaveUp loss
  · intro givesUp
    cases givesUp with
    | cornered cornered =>
        rw [Cornered, ← shutdown, ← phase] at cornered
        exact .cornered cornered
    | ending ending => exact .ending (phase.trans ending)
    | gaveUp loss =>
        rw [← publisher] at loss
        exact .gaveUp loss

variable [BrokerClient Client]

theorem abandoned_le_step (courier : Courier (Recorded Client)) :
    courier.publisher.stats.abandoned ≤ courier.step.publisher.stats.abandoned := by
  have works := courier.step_works
  generalize courier.step = next at works ⊢
  generalize courier.takes? = taken at works
  cases works with
  | settle stands offered last => exact Nat.le_of_eq (Publisher.offer_abandoned offered).symm
  | block stands offered => exact Nat.le_of_eq (Publisher.offer_abandoned offered).symm
  | endCycle stands => exact Nat.le_add_right _ _
  | _ => exact Nat.le_refl _

theorem GivesUp.step (givesUp : courier.GivesUp) : courier.step.GivesUp := by
  cases givesUp with
  | cornered cornered =>
      obtain ⟨told, frame, rest, phase⟩ := cornered
      have ended : courier.step.phase = .publishing (.ended (frame :: rest)) := by
        simp only [Courier.step, phase, Batch.step, told, if_true]
      exact .ending ended
  | @ending frame rest phase =>
      refine .gaveUp ?_
      simp only [Courier.step, phase, Publisher.abandon, List.length_cons]
      omega
  | gaveUp loss =>
      have grows := courier.abandoned_le_step
      exact .gaveUp (by omega)

/-- A courier begins to give up where it meets a full queue with the flag set. -/
theorem GivesUp.cornered_of_step (givesUp : courier.step.GivesUp) (before : ¬ courier.GivesUp) :
    courier.step.Cornered := by
  have works := courier.step_works
  generalize courier.step = next at works givesUp ⊢
  generalize courier.takes? = taken at works
  cases givesUp with
  | cornered cornered => exact cornered
  | ending phase =>
      cases works with
      | leave stands told => exact absurd (.cornered ⟨told, _, _, stands⟩) before
      | rest stands => exact absurd (.ending phase) before
      | _ => cases phase
  | gaveUp loss =>
      cases works with
      | settle stands offered last =>
          exact absurd (.gaveUp (Publisher.offer_abandoned offered ▸ loss)) before
      | block stands offered =>
          exact absurd (.gaveUp (Publisher.offer_abandoned offered ▸ loss)) before
      | @endCycle pending stands =>
          cases pending with
          | nil => exact absurd (.gaveUp loss) before
          | cons frame rest => exact absurd (.ending stands) before
      | _ => exact absurd (.gaveUp loss) before

end Courier

namespace Posting

variable {Client : Type} {posting next : Posting Client} {sender : Nat}

theorem alike_send [BrokerClient Client] {frame : Frame}
    (sent : posting.after? (.send sender frame) = some next) :
    posting.courier.Alike next.courier := by
  obtain ⟨_, _, rfl⟩ := after?_send sent
  exact ⟨rfl, rfl, rfl⟩

theorem alike_leave [BrokerClient Client] (left : posting.after? (.leave sender) = some next) :
    posting.courier.Alike next.courier := by
  obtain ⟨_, rfl⟩ := after?_leave left
  exact ⟨rfl, rfl, rfl⟩

theorem Posted.whole_iff {pumpMs flushMs : Nat} {cycles : List Courier.Cycle}
    (posted : Posted pumpMs flushMs posting cycles)
    (accounted : posting.courier.publisher.stats.enqueued +
      posting.courier.publisher.stats.abandoned = posting.sent.length) :
    posting.courier.publisher.broker.taken =
        posting.sent.map (fun entry => entry.2.message) ↔
      posting.courier.publisher.stats.abandoned = 0 := by
  have count : posting.courier.publisher.stats.enqueued =
      posting.courier.publisher.broker.taken.length :=
    posted.balanced.enqueued.trans (Recorded.length_taken _).symm
  obtain ⟨kept, sublist, taken, _⟩ := posted.inOrder
  constructor
  · intro whole
    rw [whole, List.length_map] at count
    omega
  · intro nothing
    rw [taken, List.length_map] at count
    rw [taken, sublist.eq_of_length (by omega)]

end Posting

/-! ### From the loop to the broker -/

/-- The loop with the courier behind it, and beside it perhaps a forwarder of buffers. -/
structure Outflow (Client : Type) where
  bridge : Bridge
  posting : Posting Client
  outbox : List Frame := []

namespace Outflow

def loop : Nat := 0

def forwarder : Nat := 1

variable {Client : Type} [BrokerClient Client]

def start (client : Client) (topic : Topic) (pumpMs flushMs : Nat) (forwards : Bool) :
    Outflow Client :=
  { bridge := { outlet := .publisher true }
    posting := Posting.start client topic pumpMs flushMs
      (if forwards then [loop, forwarder] else [loop]) }

inductive Move where
  /-- The loop serves an event, if it has sent all it has drained. -/
  | serve (event : BridgeEvent)
  | send
  | forward (frame : Frame)
  | leave (sender : Nat)
  | trigger
  | work

def after? (outflow : Outflow Client) : Move → Option (Outflow Client)
  | .serve event =>
      if outflow.outbox.isEmpty then
        (outflow.bridge.serve? event).map fun bridge =>
          { outflow with bridge, outbox := bridge.sent.drop outflow.bridge.sent.length }
      else none
  | .send =>
      match outflow.outbox with
      | [] => none
      | frame :: outbox =>
          (outflow.posting.after? (.send loop frame)).map fun posting =>
            { outflow with posting, outbox }
  | .forward frame =>
      (outflow.posting.after? (.send forwarder frame)).map fun posting =>
        { outflow with posting }
  | .leave sender =>
      if sender = loop ∧ (outflow.bridge.ended = none ∨ outflow.outbox ≠ []) then none
      else
        (outflow.posting.after? (.leave sender)).map fun posting => { outflow with posting }
  | .trigger =>
      if outflow.posting.senders = [] then
        (outflow.posting.after? .shutdown).map fun posting => { outflow with posting }
      else none
  | .work => (outflow.posting.after? .work).map fun posting => { outflow with posting }

variable {outflow next : Outflow Client} {move : Move} {pumpMs flushMs : Nat}

inductive Moves (outflow : Outflow Client) : Outflow Client → Prop where
  | serve {event : BridgeEvent} {bridge : Bridge} (through : outflow.outbox = [])
      (served : outflow.bridge.serve? event = some bridge) :
      Moves outflow
        { outflow with bridge, outbox := bridge.sent.drop outflow.bridge.sent.length }
  | send {frame : Frame} {outbox : List Frame} {posting : Posting Client}
      (drained : outflow.outbox = frame :: outbox)
      (sent : outflow.posting.after? (.send loop frame) = some posting) :
      Moves outflow { outflow with posting, outbox }
  | forward {frame : Frame} {posting : Posting Client}
      (sent : outflow.posting.after? (.send forwarder frame) = some posting) :
      Moves outflow { outflow with posting }
  | leave {sender : Nat} {posting : Posting Client}
      (free : sender = loop → outflow.bridge.ended ≠ none ∧ outflow.outbox = [])
      (left : outflow.posting.after? (.leave sender) = some posting) :
      Moves outflow { outflow with posting }
  | trigger {posting : Posting Client} (alone : outflow.posting.senders = [])
      (told : outflow.posting.after? .shutdown = some posting) :
      Moves outflow { outflow with posting }
  | work {posting : Posting Client} (worked : outflow.posting.after? .work = some posting) :
      Moves outflow { outflow with posting }

theorem moves_of_after? (happens : outflow.after? move = some next) : outflow.Moves next := by
  cases move with
  | serve event =>
      obtain ⟨through, happens⟩ := Option.ite_none_right_eq_some.mp happens
      obtain ⟨bridge, served, rfl⟩ := Option.map_eq_some_iff.mp happens
      exact .serve (List.isEmpty_iff.mp through) served
  | send =>
      unfold after? at happens
      cases drained : outflow.outbox with
      | nil => simp only [drained, reduceCtorEq] at happens
      | cons frame rest =>
          simp only [drained] at happens
          obtain ⟨posting, sent, rfl⟩ := Option.map_eq_some_iff.mp happens
          exact .send drained sent
  | forward frame =>
      obtain ⟨posting, sent, rfl⟩ := Option.map_eq_some_iff.mp happens
      exact .forward sent
  | leave sender =>
      obtain ⟨free, happens⟩ := Option.ite_none_left_eq_some.mp happens
      obtain ⟨posting, left, rfl⟩ := Option.map_eq_some_iff.mp happens
      refine .leave ?_ left
      intro same
      refine ⟨fun running => free ⟨same, .inl running⟩, ?_⟩
      by_contra drained
      exact free ⟨same, .inr drained⟩
  | trigger =>
      obtain ⟨alone, happens⟩ := Option.ite_none_right_eq_some.mp happens
      obtain ⟨posting, told, rfl⟩ := Option.map_eq_some_iff.mp happens
      exact .trigger alone told
  | work =>
      cases happens
      exact .work rfl

/-! ### What every move keeps -/

theorem Moves.ledger (moves : outflow.Moves next)
    (kept : ∃ cycles, Posting.Ledger pumpMs flushMs outflow.posting cycles) :
    ∃ cycles, Posting.Ledger pumpMs flushMs next.posting cycles := by
  obtain ⟨cycles, ledger⟩ := kept
  cases moves with
  | serve through served => exact ⟨cycles, ledger⟩
  | send drained sent => exact ledger.after sent
  | forward sent => exact ledger.after sent
  | leave free left => exact ledger.after left
  | trigger alone told => exact ledger.after told
  | work worked => exact ledger.after worked

theorem ledger_run {client : Client} {topic : Topic} {forwards : Bool} {moves : List Move}
    {final : Outflow Client}
    (reached : runMoves? after? (start client topic pumpMs flushMs forwards) moves =
      some final) : ∃ cycles, Posting.Ledger pumpMs flushMs final.posting cycles :=
  runMoves?_induction
    (fun outflow => ∃ cycles, Posting.Ledger pumpMs flushMs outflow.posting cycles)
    (fun _ _ _ kept happens => (moves_of_after? happens).ledger kept)
    ⟨[], Posting.Ledger.start client topic pumpMs flushMs _⟩ reached

/-- What the loop has drained is in the channel or about to be sent, and the flag is set
when nobody can send any more. -/
structure Carries (outflow : Outflow Client) : Prop where
  fromLoop :
    (outflow.posting.sent.filter fun entry => entry.1 == loop).map Prod.snd ++ outflow.outbox =
      outflow.bridge.sent
  present : outflow.bridge.ended = none ∨ outflow.outbox ≠ [] → loop ∈ outflow.posting.senders
  told : outflow.posting.courier.shutdown = true → outflow.posting.senders = []

omit [BrokerClient Client] in
theorem Carries.serve (carries : outflow.Carries) {event : BridgeEvent} {bridge : Bridge}
    (through : outflow.outbox = []) (served : outflow.bridge.serve? event = some bridge) :
    Carries
      { outflow with bridge, outbox := bridge.sent.drop outflow.bridge.sent.length } := by
  obtain ⟨fromLoop, present, told⟩ := carries
  have loopThere := present (.inl (Bridge.running_of_serve? served))
  refine ⟨?_, fun _ => loopThere, told⟩
  rw [through, List.append_nil] at fromLoop
  have ⟨frames, more⟩ := Bridge.serve?_sent served
  change List.map _ _ ++ bridge.sent.drop outflow.bridge.sent.length = bridge.sent
  rw [fromLoop, more, List.drop_left]

theorem Carries.send (carries : outflow.Carries) {frame : Frame} {outbox : List Frame}
    {posting : Posting Client} (drained : outflow.outbox = frame :: outbox)
    (sent : outflow.posting.after? (.send loop frame) = some posting) :
    Carries { outflow with posting, outbox } := by
  obtain ⟨fromLoop, present, told⟩ := carries
  obtain ⟨member, _, rfl⟩ := Posting.after?_send sent
  refine ⟨?_, fun _ => member, told⟩
  rw [← fromLoop, drained, List.filter_append, List.map_append, List.append_assoc]
  rfl

theorem Carries.forward (carries : outflow.Carries) {frame : Frame} {posting : Posting Client}
    (sent : outflow.posting.after? (.send forwarder frame) = some posting) :
    Carries { outflow with posting } := by
  obtain ⟨fromLoop, present, told⟩ := carries
  obtain ⟨_, _, rfl⟩ := Posting.after?_send sent
  have other : [(forwarder, frame)].filter (fun entry => entry.1 == loop) = [] := rfl
  refine ⟨?_, present, told⟩
  rw [← fromLoop, List.filter_append, other, List.append_nil]

theorem Carries.leave (carries : outflow.Carries) {sender : Nat} {posting : Posting Client}
    (free : sender = loop → outflow.bridge.ended ≠ none ∧ outflow.outbox = [])
    (left : outflow.posting.after? (.leave sender) = some posting) :
    Carries { outflow with posting } := by
  obtain ⟨fromLoop, present, told⟩ := carries
  obtain ⟨member, rfl⟩ := Posting.after?_leave left
  refine ⟨fromLoop, ?_, ?_⟩
  · intro needed
    have other : loop ≠ sender := by
      intro itself
      obtain ⟨ended, through⟩ := free itself.symm
      rcases needed with running | drained
      · exact ended running
      · exact drained through
    exact (List.mem_erase_of_ne other).mpr (present needed)
  · intro flag
    rw [told flag] at member
    cases member

theorem Carries.after (carries : outflow.Carries) (moves : outflow.Moves next) :
    next.Carries := by
  cases moves with
  | serve through served => exact carries.serve through served
  | send drained sent => exact carries.send drained sent
  | forward sent => exact carries.forward sent
  | leave free left => exact carries.leave free left
  | trigger alone told =>
      obtain ⟨fromLoop, present, _⟩ := carries
      cases told
      exact ⟨fromLoop, present, fun _ => alone⟩
  | work worked =>
      obtain ⟨fromLoop, present, told⟩ := carries
      cases worked
      refine ⟨fromLoop, present, ?_⟩
      intro flag
      exact told (outflow.posting.courier.step_shutdown.symm.trans flag)

omit [BrokerClient Client] in
theorem carries_start (client : Client) (topic : Topic) (forwards : Bool) :
    (start client topic pumpMs flushMs forwards).Carries := by
  refine ⟨rfl, ?_, nofun⟩
  intro _
  cases forwards
  · exact List.mem_cons_self
  · exact List.mem_cons_self

theorem Carries.run {client : Client} {topic : Topic} {forwards : Bool}
    {moves : List Move} {final : Outflow Client}
    (reached : runMoves? after? (start client topic pumpMs flushMs forwards) moves =
      some final) : final.Carries :=
  runMoves?_induction Carries (fun _ _ _ carries happens => carries.after (moves_of_after? happens))
    (carries_start client topic forwards) reached

theorem Moves.ended (moves : outflow.Moves next) {exit : Except Fault BridgeExit}
    (ended : outflow.bridge.ended = some exit) : next.bridge.ended = some exit := by
  cases moves with
  | serve through served => cases (Bridge.running_of_serve? served).symm.trans ended
  | _ => exact ended

theorem ended_run {first final : Outflow Client} {moves : List Move}
    {exit : Except Fault BridgeExit} (reached : runMoves? after? first moves = some final)
    (ended : first.bridge.ended = some exit) : final.bridge.ended = some exit :=
  runMoves?_induction (fun outflow => outflow.bridge.ended = some exit)
    (fun _ _ _ kept happens => (moves_of_after? happens).ended kept) ended reached

/-! ### What is lost -/

theorem Moves.keep_givesUp (moves : outflow.Moves next)
    (givesUp : outflow.posting.courier.GivesUp) : next.posting.courier.GivesUp := by
  cases moves with
  | serve through served => exact givesUp
  | send drained sent => exact (Posting.alike_send sent).givesUp_iff.mpr givesUp
  | forward sent => exact (Posting.alike_send sent).givesUp_iff.mpr givesUp
  | leave free left => exact (Posting.alike_leave left).givesUp_iff.mpr givesUp
  | trigger alone told =>
      cases told
      cases givesUp with
      | cornered cornered => exact .cornered ⟨rfl, cornered.2⟩
      | ending phase => exact .ending phase
      | gaveUp loss => exact .gaveUp loss
  | work worked =>
      cases worked
      exact givesUp.step

theorem Moves.cornered (moves : outflow.Moves next)
    (before : ¬ outflow.posting.courier.GivesUp) (givesUp : next.posting.courier.GivesUp) :
    next.posting.courier.Cornered := by
  cases moves with
  | serve through served => exact absurd givesUp before
  | send drained sent => exact absurd ((Posting.alike_send sent).givesUp_iff.mp givesUp) before
  | forward sent => exact absurd ((Posting.alike_send sent).givesUp_iff.mp givesUp) before
  | leave free left => exact absurd ((Posting.alike_leave left).givesUp_iff.mp givesUp) before
  | trigger alone told =>
      cases told
      cases givesUp with
      | cornered cornered => exact cornered
      | ending phase => exact absurd (.ending phase) before
      | gaveUp loss => exact absurd (.gaveUp loss) before
  | work worked =>
      cases worked
      exact givesUp.cornered_of_step before

/-- The run comes to a place at which the courier looks at the flag behind a full queue,
and finds it set. -/
def ComesToCorner (first : Outflow Client) (moves : List Move) : Prop :=
  ∃ earlier later middle,
    moves = earlier ++ later ∧ runMoves? after? first earlier = some middle ∧
      middle.posting.courier.Cornered

theorem comesToCorner_iff {first final : Outflow Client} {moves : List Move}
    (reached : runMoves? after? first moves = some final)
    (start : ¬ first.posting.courier.GivesUp) (finished : final.posting.courier.phase = .finished) :
    final.posting.courier.publisher.stats.abandoned ≠ 0 ↔ first.ComesToCorner moves := by
  constructor
  · -- The run gives up at its end and not at its start, so there is a move that begins it.
    intro lost
    obtain ⟨earlier, move, later, middle, next, rfl, led, before, happens, givesUp, _⟩ :=
      runMoves?_comesAbout (fun outflow => outflow.posting.courier.GivesUp) start reached
        (.gaveUp lost)
    refine ⟨earlier ++ [move], later, next, List.append_cons .., ?_,
      (moves_of_after? happens).cornered before givesUp⟩
    rw [runMoves?_append led, runMoves?, List.foldlM_cons, happens]
    rfl
  · -- Behind the corner every move keeps the loss, up to the end of the batch and beyond.
    rintro ⟨earlier, later, middle, rfl, led, cornered⟩
    rw [runMoves?_append led] at reached
    have givesUp : final.posting.courier.GivesUp :=
      runMoves?_induction (fun outflow => outflow.posting.courier.GivesUp)
        (fun _ _ _ kept happens => (moves_of_after? happens).keep_givesUp kept)
        (.cornered cornered) reached
    exact givesUp.of_finished finished

omit [BrokerClient Client] in
theorem not_givesUp_start {client : Client} {topic : Topic} {forwards : Bool} :
    ¬ (start client topic pumpMs flushMs forwards).posting.courier.GivesUp := by
  intro givesUp
  cases givesUp with
  | cornered cornered => cases cornered.1
  | ending phase => cases phase
  | gaveUp loss => exact loss rfl

omit [BrokerClient Client] in
theorem Carries.outbox_of_alone (carries : outflow.Carries)
    (alone : outflow.posting.senders = []) : outflow.outbox = [] := by
  by_contra drained
  exact absurd (alone ▸ carries.present (.inr drained)) List.not_mem_nil

/-- What has become of the frames of a daemon whose interpreter has ended by itself. -/
structure Departed (first final : Outflow Client) (moves : List Move) : Prop where
  fromLoop :
    (final.posting.sent.filter fun entry => entry.1 == loop).map Prod.snd = final.bridge.sent
  accounted : final.posting.courier.publisher.stats.enqueued +
      final.posting.courier.publisher.stats.abandoned = final.posting.sent.length
  lost_iff : final.posting.courier.publisher.stats.abandoned ≠ 0 ↔ first.ComesToCorner moves
  whole_iff : final.posting.courier.publisher.broker.taken =
      final.posting.sent.map (fun entry => entry.2.message) ↔ ¬ first.ComesToCorner moves
  loopTaken : ¬ first.ComesToCorner moves →
    (final.bridge.sent.map Frame.message).Sublist final.posting.courier.publisher.broker.taken
  /-- The flag is set behind the exit, when nothing is sent any more. -/
  corner : ∀ earlier later middle,
    moves = earlier ++ later → runMoves? after? first earlier = some middle →
      middle.posting.courier.Cornered →
        middle.bridge.ended = some (.ok .interpreterExited) ∧ middle.posting.senders = []

/-- A natural exit loses frames in the runs in which the courier meets a full queue after
the flag was set behind the exit, and in no others. -/
theorem natural_exit_loses_iff {client : Client} {topic : Topic} {forwards : Bool}
    {moves : List Move} {final : Outflow Client}
    (reached : runMoves? after? (start client topic pumpMs flushMs forwards) moves = some final)
    (exited : final.bridge.ended = some (.ok .interpreterExited))
    (finished : final.posting.courier.phase = .finished)
    (mild : ∀ call ∈ final.posting.courier.publisher.broker.calls, call.isTurnedDown = false) :
    Departed (start client topic pumpMs flushMs forwards) final moves := by
  have carries := Carries.run reached
  obtain ⟨cycles, ledger⟩ := ledger_run reached
  have posted := ledger.posted finished
  have fromLoop :
      (final.posting.sent.filter fun entry => entry.1 == loop).map Prod.snd =
        final.bridge.sent := by
    have sent := carries.fromLoop
    rwa [carries.outbox_of_alone posted.alone, List.append_nil] at sent
  have accounted : final.posting.courier.publisher.stats.enqueued +
      final.posting.courier.publisher.stats.abandoned = final.posting.sent.length := by
    have none' : final.posting.courier.publisher.stats.dropped = 0 := by
      rw [posted.balanced.dropped]
      exact List.countP_eq_zero.mpr fun call member => Bool.eq_false_iff.mp (mild call member)
    have all := posted.accounted
    omega
  have lost_iff := comesToCorner_iff reached not_givesUp_start finished
  have whole_iff : final.posting.courier.publisher.broker.taken =
      final.posting.sent.map (fun entry => entry.2.message) ↔
        ¬ (start client topic pumpMs flushMs forwards).ComesToCorner moves := by
    rw [← lost_iff, not_not]
    exact posted.whole_iff accounted
  refine ⟨fromLoop, accounted, lost_iff, whole_iff, ?_, ?_⟩
  · intro free
    rw [whole_iff.mpr free, ← fromLoop, List.map_map]
    exact List.filter_sublist.map _
  · rintro earlier later middle rfl led ⟨told, _⟩
    have before := Carries.run led
    have alone := before.told told
    refine ⟨?_, alone⟩
    rw [runMoves?_append led] at reached
    cases known : middle.bridge.ended with
    | none => exact absurd (alone ▸ before.present (.inl known)) List.not_mem_nil
    | some exit =>
        have kept := ended_run reached known
        exact kept.symm.trans exited

/-- A full queue that is met and left behind before the exit costs nothing. -/
theorem natural_exit_loses_iff_sample :
    let client : ScriptedBroker := { script := [.queueFull, .accepted] }
    let moves : List Move :=
      [.serve (.line [0x7B]), .serve (.line [0x7D]), .send, .work, .work, .work, .work,
        .forward (Frame.trace [1]), .leave forwarder, .serve .outputEnd, .leave loop,
        .trigger] ++ List.replicate 7 .work
    ∃ final,
      runMoves? after? (start client default 100 5 true) moves = some final ∧
        final.bridge.ended = some (.ok .interpreterExited) ∧
        final.posting.courier.phase = .finished ∧
        (∀ call ∈ final.posting.courier.publisher.broker.calls, call.isTurnedDown = false) ∧
        final.bridge.sent = [Frame.trace [0x7B, 0x0A, 0x7D, 0x0A]] ∧
        Departed (start client default 100 5 true) final moves := by
  intro client moves
  have outcome :
      (runMoves? after? (start client default 100 5 true) moves).map
          (fun final => (final.bridge.ended, final.posting.courier.phase,
            final.posting.courier.publisher.broker.calls.countP BrokerCall.isTurnedDown,
            final.bridge.sent)) =
        some
          (some (.ok .interpreterExited), .finished, 0,
            [Frame.trace [0x7B, 0x0A, 0x7D, 0x0A]]) := by
    decide +kernel
  obtain ⟨final, reached, same⟩ := Option.map_eq_some_iff.mp outcome
  obtain ⟨exited, same⟩ := Prod.mk.inj same
  obtain ⟨finished, same⟩ := Prod.mk.inj same
  obtain ⟨count, sent⟩ := Prod.mk.inj same
  have mild : ∀ call ∈ final.posting.courier.publisher.broker.calls,
      call.isTurnedDown = false := by
    intro call member
    exact Bool.eq_false_iff.mpr (List.countP_eq_zero.mp count call member)
  exact ⟨final, reached, exited, finished, mild, sent,
    natural_exit_loses_iff reached exited finished mild⟩

/-- The broker has no room once and takes everything afterwards.  The frame waits in the
channel when the interpreter ends, and is given up. -/
theorem natural_exit_gives_up :
    let client : ScriptedBroker := { script := [.queueFull], fallback := .accepted }
    let moves : List Move :=
      [.serve (.line [0x7B]), .serve (.line [0x7D]), .send, .serve .outputEnd, .leave loop,
        .trigger, .work, .work, .work, .work, .work]
    ∃ final,
      runMoves? after? (start client default 100 5 false) moves = some final ∧
        final.bridge.ended = some (.ok .interpreterExited) ∧
        final.posting.courier.phase = .finished ∧
        final.bridge.sent = [Frame.trace [0x7B, 0x0A, 0x7D, 0x0A]] ∧
        final.posting.courier.publisher.broker.taken = [] ∧
        final.posting.courier.publisher.stats.abandoned = 1 := by
  intro client moves
  have outcome :
      (runMoves? after? (start client default 100 5 false) moves).map
          (fun final => (final.bridge.ended, final.posting.courier.phase, final.bridge.sent,
            final.posting.courier.publisher.broker.taken.length,
            final.posting.courier.publisher.stats.abandoned)) =
        some
          (some (.ok .interpreterExited), .finished,
            [Frame.trace [0x7B, 0x0A, 0x7D, 0x0A]], 0, 1) := by
    decide +kernel
  obtain ⟨final, reached, same⟩ := Option.map_eq_some_iff.mp outcome
  obtain ⟨exited, same⟩ := Prod.mk.inj same
  obtain ⟨finished, same⟩ := Prod.mk.inj same
  obtain ⟨sent, same⟩ := Prod.mk.inj same
  obtain ⟨taken, abandoned⟩ := Prod.mk.inj same
  exact ⟨final, reached, exited, finished, sent, List.length_eq_zero_iff.mp taken, abandoned⟩

end Outflow
end TraceForward
