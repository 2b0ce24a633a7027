/-
A daemon that forwards a guest's buffers, to its report.

The loop, the forwarder and the courier run beside each other, and the daemon returns when
all of them have ended.  Every buffer that was received and is not empty is one frame, and
has one fate.  The report counts the buffers that were received, unless a fault has ended
the forwarder: then it counts none.
-/

import TraceForward.Daemon.Service
import TraceForward.Proofs.Daemon.Outflow
import TraceForward.Proofs.Guest.Forwarded

namespace TraceForward

open BufferDecoder (encode lengthSize NoBuffer Split)
open GuestStream (frames)

/-! ### Beside the forwarder -/

namespace Forwarding

variable {forwarding next : Forwarding} {move : Move}

def Faulted (forwarding : Forwarding) : Prop :=
  ∃ fault, forwarding.phase = .ended (.failed fault)

/-- A forwarder moves while it runs, and what it sends comes behind what it has sent. -/
theorem Moves.own (moves : forwarding.Moves move next) (own : move.isOwn = true) :
    forwarding.result? = none ∧ next.alive = forwarding.alive ∧
      (forwarding.alive = true → next.phase ≠ .ended .publisherGone) ∧
      ∃ more, next.sent = forwarding.sent ++ more := by
  have waiting (waits : forwarding.phase = .waiting) : forwarding.result? = none :=
    result?_eq_none_iff.mpr (.inr waits)
  have looking (looks : forwarding.phase = .looking) : forwarding.result? = none :=
    result?_eq_none_iff.mpr (.inl looks)
  have nothing : ∃ more, forwarding.sent = forwarding.sent ++ more :=
    ⟨[], (List.append_nil _).symm⟩
  cases moves with
  | notify watched => cases own
  | desert => cases own
  | losePublisher => cases own
  | told looks flag => exact ⟨looking looks, rfl, nofun, nothing⟩
  | wait looks flag => exact ⟨looking looks, rfl, nofun, nothing⟩
  | wake waits news => exact ⟨waiting waits, rfl, nofun, nothing⟩
  | giveUp waits deserted => exact ⟨waiting waits, rfl, nofun, nothing⟩
  | read waits polls =>
      refine ⟨waiting waits, rfl, ?_, nothing⟩
      rw [waits]
      exact nofun
  | take waits polls takes => exact ⟨waiting waits, rfl, nofun, _, rfl⟩
  | lose waits polls gone =>
      refine ⟨waiting waits, rfl, ?_, nothing⟩
      intro alive
      cases gone.symm.trans alive
  | @stop _ filled _ waits polls ends =>
      refine ⟨waiting waits, rfl, ?_, nothing⟩
      rintro _ ⟨⟩
      cases filled <;> cases ends

end Forwarding

namespace Outflow

variable {Client : Type} {outflow next : Outflow Client} {move : Move}

def Move.isAside : Move → Bool
  | .forward _ => false
  | .leave sender => sender != forwarder
  | .serve _ | .send | .trigger | .work => true

def fromForwarder (outflow : Outflow Client) : List Frame :=
  (outflow.posting.sent.filter fun entry => entry.1 == forwarder).map Prod.snd

structure Shared (outflow : Outflow Client) : Prop where
  two : ∀ entry ∈ outflow.posting.sent, entry.1 = loop ∨ entry.1 = forwarder
  counted : outflow.bridge.stats.frames = outflow.bridge.sent.length

theorem Shared.length (shared : outflow.Shared) (carries : outflow.Carries)
    (through : outflow.outbox = []) :
    outflow.posting.sent.length =
      outflow.bridge.totals.frames + outflow.fromForwarder.length := by
  have fromLoop := congrArg List.length carries.fromLoop
  rw [through, List.append_nil, List.length_map, ← List.countP_eq_length_filter] at fromLoop
  have others : outflow.posting.sent.countP (fun entry => !(entry.1 == loop)) =
      outflow.posting.sent.countP (fun entry => entry.1 == forwarder) := by
    refine List.countP_congr ?_
    intro entry member
    rcases shared.two entry member with isLoop | isForwarder
    · rw [isLoop]
      decide
    · rw [isForwarder]
      decide
  have split := outflow.posting.sent.length_eq_countP_add_countP fun entry => entry.1 == loop
  rw [fromForwarder, List.length_map, ← List.countP_eq_length_filter, ← others]
  have counted : outflow.bridge.totals.frames = outflow.bridge.sent.length := shared.counted
  simp only [Bool.not_eq_true, Bool.decide_eq_false] at split
  omega

/-- What a move in which the forwarder has no part leaves as it is for the forwarder. -/
structure Aside (outflow next : Outflow Client) : Prop where
  fromForwarder : next.fromForwarder = outflow.fromForwarder
  present : forwarder ∈ outflow.posting.senders → forwarder ∈ next.posting.senders
  shared : outflow.Shared → next.Shared

variable [BrokerClient Client]

theorem after?_leave {sender : Nat} (happens : outflow.after? (.leave sender) = some next) :
    next.bridge = outflow.bridge ∧ next.posting.sent = outflow.posting.sent ∧
      next.posting.senders = outflow.posting.senders.erase sender := by
  obtain ⟨_, happens⟩ := Option.ite_none_left_eq_some.mp happens
  obtain ⟨posting, left, rfl⟩ := Option.map_eq_some_iff.mp happens
  obtain ⟨_, rfl⟩ := Posting.after?_leave left
  exact ⟨rfl, rfl, rfl⟩

theorem aside_of_after? (happens : outflow.after? move = some next)
    (aside : move.isAside = true) : outflow.Aside next := by
  cases move with
  | serve event =>
      obtain ⟨_, happens⟩ := Option.ite_none_right_eq_some.mp happens
      obtain ⟨bridge, served, rfl⟩ := Option.map_eq_some_iff.mp happens
      refine ⟨rfl, id, ?_⟩
      exact fun shared => ⟨shared.two, Bridge.serve?_counted served shared.counted⟩
  | send =>
      unfold after? at happens
      cases drained : outflow.outbox with
      | nil => simp only [drained, reduceCtorEq] at happens
      | cons frame rest =>
          simp only [drained] at happens
          obtain ⟨posting, sent, rfl⟩ := Option.map_eq_some_iff.mp happens
          obtain ⟨_, _, rfl⟩ := Posting.after?_send sent
          refine ⟨?_, id, ?_⟩
          · have other : [(loop, frame)].filter (fun entry => entry.1 == forwarder) = [] := rfl
            rw [fromForwarder, List.filter_append, other, List.append_nil]
            rfl
          · intro shared
            refine ⟨?_, shared.counted⟩
            intro entry member
            rcases List.mem_append.mp member with earlier | last
            · exact shared.two entry earlier
            · exact .inl (congrArg Prod.fst (List.mem_singleton.mp last))
  | forward frame => cases aside
  | leave sender =>
      obtain ⟨bridge, sent, senders⟩ := after?_leave happens
      have other : forwarder ≠ sender := (bne_iff_ne.mp aside).symm
      refine ⟨?_, ?_, fun shared => ⟨sent ▸ shared.two, bridge ▸ shared.counted⟩⟩
      · rw [fromForwarder, fromForwarder, sent]
      · rw [senders]
        exact (List.mem_erase_of_ne other).mpr
  | trigger =>
      obtain ⟨_, happens⟩ := Option.ite_none_right_eq_some.mp happens
      obtain ⟨posting, told, rfl⟩ := Option.map_eq_some_iff.mp happens
      cases told
      exact ⟨rfl, id, fun shared => ⟨shared.two, shared.counted⟩⟩
  | work =>
      cases happens
      exact ⟨rfl, id, fun shared => ⟨shared.two, shared.counted⟩⟩

end Outflow

/-! ### The daemon -/

structure Serving (Client : Type) where
  outflow : Outflow Client
  guest : Forwarding
  outbox : List Frame := []

namespace Serving

variable {Client : Type}

def start (client : Client) (topic : Topic) (pumpMs flushMs limit : Nat)
    (stream : ScriptedStream) : Serving Client :=
  { outflow := .start client topic pumpMs flushMs true, guest := .start limit stream }

inductive Move where
  | outflow (move : Outflow.Move)
  /-- The shutdown is signalled, or the loop is over and the daemon tells the forwarder. -/
  | tell
  | guest (move : Forwarding.Move)
  | post
  | retire

def after? [BrokerClient Client] (serving : Serving Client) : Move → Option (Serving Client)
  | .outflow move =>
      if move.isAside then
        (serving.outflow.after? move).map fun outflow => { serving with outflow }
      else none
  | .tell => (serving.guest.after? (.notify true)).map fun guest => { serving with guest }
  | .guest move =>
      if move.isOwn && serving.outbox.isEmpty then
        (serving.guest.after? move).map fun guest =>
          { serving with guest, outbox := guest.sent.drop serving.guest.sent.length }
      else none
  | .post =>
      match serving.outbox with
      | [] => none
      | frame :: outbox =>
          (serving.outflow.after? (.forward frame)).map fun outflow =>
            { serving with outflow, outbox }
  | .retire =>
      if serving.guest.result?.isSome && serving.outbox.isEmpty then
        (serving.outflow.after? (.leave Outflow.forwarder)).map fun outflow =>
          { serving with outflow }
      else none

def forwarded? (serving : Serving Client) : Option Forwarded :=
  serving.guest.result?.map fun result => { result, frames := serving.guest.sent }

/-- The report of a daemon whose loop has ended without a fault, and whose courier has ended. -/
def summary? (serving : Serving Client) (consumed : Nat) (status : Option Int) :
    Option DaemonSummary :=
  match serving.outflow.bridge.ended, serving.outflow.posting.courier.phase with
  | some (.ok exit), .finished =>
      some
        { exit
          relay := serving.outflow.bridge.totals
          consumed
          guestBuffers := Service.countedBuffers serving.forwarded?
          status
          publisher := serving.outflow.posting.courier.publisher.stats }
  | _, _ => none

/-! ### What every move keeps -/

variable {serving next : Serving Client} {move : Move} {pumpMs flushMs limit : Nat}
variable {stream : ScriptedStream} {received : List Bytes}

/-- The forwarder has received these buffers, and what it has sent is in the channel or
about to be. -/
structure Books (pumpMs flushMs limit : Nat) (stream : ScriptedStream)
    (serving : Serving Client) (received : List Bytes) : Prop where
  delivers : serving.guest.Delivers limit stream.ending stream.pieces.flatten received
  alive : serving.guest.alive = true
  published : serving.guest.phase ≠ .ended .publisherGone
  fromGuest : serving.outflow.fromForwarder ++ serving.outbox = serving.guest.sent
  present : serving.guest.result? = none ∨ serving.outbox ≠ [] →
    Outflow.forwarder ∈ serving.outflow.posting.senders
  shared : serving.outflow.Shared
  carries : serving.outflow.Carries
  ledger : ∃ cycles, Posting.Ledger pumpMs flushMs serving.outflow.posting cycles

theorem Books.start (client : Client) (topic : Topic) (pumpMs flushMs limit : Nat)
    (stream : ScriptedStream) :
    Books pumpMs flushMs limit stream
      (Serving.start client topic pumpMs flushMs limit stream) [] where
  delivers := Forwarding.Delivers.start limit stream
  alive := rfl
  published := nofun
  fromGuest := rfl
  present := fun _ => List.mem_cons_of_mem _ List.mem_cons_self
  shared := ⟨nofun, rfl⟩
  carries := Outflow.carries_start client topic true
  ledger := ⟨[], Posting.Ledger.start client topic pumpMs flushMs _⟩

theorem Books.tell (books : Books pumpMs flushMs limit stream serving received)
    {guest : Forwarding} (happens : serving.guest.after? (.notify true) = some guest) :
    Books pumpMs flushMs limit stream { serving with guest } received := by
  obtain ⟨_, happens⟩ := Option.ite_none_left_eq_some.mp happens
  cases happens
  exact { books with delivers := { books.delivers with } }

theorem Books.guest (books : Books pumpMs flushMs limit stream serving received)
    (word : limit < Bytes.wordLimit lengthSize) {guest : Forwarding} {move : Forwarding.Move}
    (own : move.isOwn = true) (through : serving.outbox = [])
    (happens : serving.guest.after? move = some guest) :
    ∃ received', Books pumpMs flushMs limit stream
      { serving with guest, outbox := guest.sent.drop serving.guest.sent.length } received' := by
  have moves := Forwarding.moves_of_after? (books.delivers.polls word) happens
  obtain ⟨received', delivers⟩ := books.delivers.after moves
  obtain ⟨running, alive, published, more, sent⟩ := moves.own own
  have there := books.present (.inl running)
  have fromGuest := books.fromGuest
  rw [through, List.append_nil] at fromGuest
  refine ⟨received',
    { books with
      delivers
      alive := alive.trans books.alive
      published := published books.alive
      fromGuest := ?_
      present := fun _ => there }⟩
  change _ ++ guest.sent.drop _ = guest.sent
  rw [sent, List.drop_left, fromGuest]

variable [BrokerClient Client]

theorem Books.aside (books : Books pumpMs flushMs limit stream serving received)
    {outflow : Outflow Client} {move : Outflow.Move} (aside : move.isAside = true)
    (happens : serving.outflow.after? move = some outflow) :
    Books pumpMs flushMs limit stream { serving with outflow } received := by
  have beside := Outflow.aside_of_after? happens aside
  have moves := Outflow.moves_of_after? happens
  exact
    { delivers := books.delivers
      alive := books.alive
      published := books.published
      fromGuest := (congrArg (· ++ serving.outbox) beside.fromForwarder).trans books.fromGuest
      present := fun needed => beside.present (books.present needed)
      shared := beside.shared books.shared
      carries := books.carries.after moves
      ledger := moves.ledger books.ledger }

theorem Books.post (books : Books pumpMs flushMs limit stream serving received)
    {frame : Frame} {outbox : List Frame} {outflow : Outflow Client}
    (drained : serving.outbox = frame :: outbox)
    (happens : serving.outflow.after? (.forward frame) = some outflow) :
    Books pumpMs flushMs limit stream { serving with outflow, outbox } received := by
  have moves := Outflow.moves_of_after? happens
  have carries := books.carries.after moves
  have ledger := moves.ledger books.ledger
  obtain ⟨posting, sent, rfl⟩ := Option.map_eq_some_iff.mp happens
  obtain ⟨member, _, rfl⟩ := Posting.after?_send sent
  refine
    { books with
      carries, ledger
      fromGuest := ?_
      present := fun _ => member
      shared := ⟨?_, books.shared.counted⟩ }
  · have fromGuest := books.fromGuest
    rw [drained] at fromGuest
    rw [← fromGuest, Outflow.fromForwarder, List.filter_append, List.map_append,
      List.append_assoc]
    rfl
  · intro entry member
    rcases List.mem_append.mp member with earlier | last
    · exact books.shared.two entry earlier
    · exact .inr (congrArg Prod.fst (List.mem_singleton.mp last))

theorem Books.retire (books : Books pumpMs flushMs limit stream serving received)
    {outflow : Outflow Client} (ended : serving.guest.result?.isSome = true)
    (through : serving.outbox = [])
    (happens : serving.outflow.after? (.leave Outflow.forwarder) = some outflow) :
    Books pumpMs flushMs limit stream { serving with outflow } received := by
  have moves := Outflow.moves_of_after? happens
  obtain ⟨bridge, sent, _⟩ := Outflow.after?_leave happens
  exact
    { delivers := books.delivers
      alive := books.alive
      published := books.published
      fromGuest := by
        rw [Outflow.fromForwarder, sent]
        exact books.fromGuest
      present := by
        rintro (running | drained)
        · rw [running] at ended
          cases ended
        · exact absurd through drained
      shared := ⟨sent ▸ books.shared.two, bridge ▸ books.shared.counted⟩
      carries := books.carries.after moves
      ledger := moves.ledger books.ledger }

theorem Books.after (books : Books pumpMs flushMs limit stream serving received)
    (word : limit < Bytes.wordLimit lengthSize) (happens : serving.after? move = some next) :
    ∃ received', Books pumpMs flushMs limit stream next received' := by
  cases move with
  | outflow move =>
      obtain ⟨aside, happens⟩ := Option.ite_none_right_eq_some.mp happens
      obtain ⟨outflow, moved, rfl⟩ := Option.map_eq_some_iff.mp happens
      exact ⟨received, books.aside aside moved⟩
  | tell =>
      obtain ⟨guest, told, rfl⟩ := Option.map_eq_some_iff.mp happens
      exact ⟨received, books.tell told⟩
  | guest move =>
      obtain ⟨free, happens⟩ := Option.ite_none_right_eq_some.mp happens
      obtain ⟨guest, moved, rfl⟩ := Option.map_eq_some_iff.mp happens
      rw [Bool.and_eq_true, List.isEmpty_iff] at free
      exact books.guest word free.1 free.2 moved
  | post =>
      unfold after? at happens
      cases drained : serving.outbox with
      | nil => simp only [drained, reduceCtorEq] at happens
      | cons frame outbox =>
          simp only [drained] at happens
          obtain ⟨outflow, posted, rfl⟩ := Option.map_eq_some_iff.mp happens
          exact ⟨received, books.post drained posted⟩
  | retire =>
      obtain ⟨free, happens⟩ := Option.ite_none_right_eq_some.mp happens
      obtain ⟨outflow, left, rfl⟩ := Option.map_eq_some_iff.mp happens
      rw [Bool.and_eq_true, List.isEmpty_iff] at free
      exact ⟨received, books.retire free.1 free.2 left⟩

theorem Books.run {client : Client} {topic : Topic} {moves : List Move} {final : Serving Client}
    (word : limit < Bytes.wordLimit lengthSize)
    (reached : runMoves? after? (Serving.start client topic pumpMs flushMs limit stream) moves =
      some final) :
    ∃ received', Books pumpMs flushMs limit stream final received' :=
  runMoves?_induction
    (fun serving => ∃ received', Books pumpMs flushMs limit stream serving received')
    (fun _ _ _ ⟨_, books⟩ happens => books.after word happens)
    ⟨[], Books.start client topic pumpMs flushMs limit stream⟩ reached

/-! ### The report -/

omit [BrokerClient Client] in
theorem summary?_eq_some {consumed : Nat} {status : Option Int} {summary : DaemonSummary}
    (returned : serving.summary? consumed status = some summary) :
    serving.outflow.posting.courier.phase = .finished ∧
      summary.relay = serving.outflow.bridge.totals ∧
      summary.guestBuffers = Service.countedBuffers serving.forwarded? ∧
      summary.publisher = serving.outflow.posting.courier.publisher.stats := by
  unfold summary? at returned
  split at returned
  next exit finished =>
    cases returned
    exact ⟨finished, rfl, rfl, rfl⟩
  next => cases returned

omit [BrokerClient Client] in
theorem countedBuffers_of_ended {stopped : Forwarding.Ending}
    (ended : serving.guest.phase = .ended stopped) :
    Service.countedBuffers serving.forwarded? =
      match stopped.result serving.guest.guest.buffers with
      | .ok buffers => buffers
      | .error _ => 0 := by
  rw [forwarded?, Forwarding.result?_eq_some_iff.mpr ⟨stopped, ended, rfl⟩, Option.map_some]
  cases stopped.result serving.guest.guest.buffers <;> rfl

omit [BrokerClient Client] in
theorem countedBuffers_of_faulted (faulted : serving.guest.Faulted) :
    Service.countedBuffers serving.forwarded? = 0 := by
  obtain ⟨fault, phase⟩ := faulted
  exact countedBuffers_of_ended phase

omit [BrokerClient Client] in
theorem Books.countedBuffers (books : Books pumpMs flushMs limit stream serving received)
    (ended : serving.guest.result? ≠ none) (sound : ¬ serving.guest.Faulted) :
    Service.countedBuffers serving.forwarded? = received.length := by
  obtain ⟨result, returned⟩ := Option.ne_none_iff_exists'.mp ended
  obtain ⟨stopped, phase, _⟩ := Forwarding.result?_eq_some_iff.mp returned
  rw [countedBuffers_of_ended phase, ← books.delivers.buffers]
  cases stopped with
  | failed fault => exact absurd ⟨fault, phase⟩ sound
  | publisherGone => exact absurd phase books.published
  | _ => rfl

/-- What the report of a daemon says of the buffers that its forwarder has received. -/
structure Reports (limit : Nat) (stream : ScriptedStream) (guest : Forwarding)
    (summary : DaemonSummary) (received : List Bytes) : Prop where
  /-- They are the first of the stream, and all of them if the stream ended the forwarder. -/
  split : Split limit stream.pieces.flatten received guest.guest.pending
  all : guest.phase = .ended .closed ∨ guest.Faulted → NoBuffer limit guest.guest.pending
  sent : guest.sent = frames received
  counted : ¬ guest.Faulted → summary.guestBuffers = received.length
  uncounted : guest.Faulted → summary.guestBuffers = 0
  counted_iff : summary.guestBuffers = received.length ↔ ¬ guest.Faulted ∨ received = []
  accounted :
    summary.publisher.enqueued + summary.publisher.dropped + summary.publisher.abandoned =
      summary.relay.frames + (frames received).length
  within_iff :
    summary.publisher.enqueued + summary.publisher.dropped + summary.publisher.abandoned ≤
        summary.relay.frames + summary.guestBuffers ↔
      ¬ guest.Faulted ∨ frames received = []

/-- The report counts the buffers that were received exactly if no fault has ended the
forwarder, or there were none. -/
theorem buffers_reported_iff {client : Client} {topic : Topic} {consumed : Nat}
    {status : Option Int} {moves : List Move} {final : Serving Client} {summary : DaemonSummary}
    (word : limit < Bytes.wordLimit lengthSize)
    (reached : runMoves? after? (start client topic pumpMs flushMs limit stream) moves =
      some final)
    (returned : final.summary? consumed status = some summary) :
    ∃ received, Reports limit stream final.guest summary received := by
  obtain ⟨received, books⟩ := Books.run word reached
  obtain ⟨finished, relay, guestBuffers, publisher⟩ := summary?_eq_some returned
  obtain ⟨cycles, ledger⟩ := books.ledger
  have posted := ledger.posted finished
  -- Nobody can send any more, so the forwarder has ended and everything is in the channel.
  have gone : Outflow.forwarder ∉ final.outflow.posting.senders := by
    rw [posted.alone]
    exact List.not_mem_nil
  have ended : final.guest.result? ≠ none := fun running => gone (books.present (.inl running))
  have through : final.outbox = [] := by
    by_contra drained
    exact gone (books.present (.inr drained))
  have sent : final.guest.sent = frames received := books.delivers.whole books.alive
  have fromGuest : final.outflow.fromForwarder = frames received := by
    rw [← sent, ← books.fromGuest, through, List.append_nil]
  have accounted := posted.accounted
  rw [books.shared.length books.carries (books.carries.outbox_of_alone posted.alone), fromGuest,
    ← publisher, ← relay] at accounted
  have counted : ¬ final.guest.Faulted → summary.guestBuffers = received.length :=
    fun sound => guestBuffers.trans (books.countedBuffers ended sound)
  have uncounted : final.guest.Faulted → summary.guestBuffers = 0 :=
    fun faulted => guestBuffers.trans (countedBuffers_of_faulted faulted)
  refine ⟨received, books.delivers.split, ?_, sent, counted, uncounted, ?_, accounted, ?_⟩
  · rintro (closed | ⟨fault, failed⟩)
    · exact (books.delivers.explained .closed .closed rfl closed).noBuffer word
    · exact (books.delivers.explained (.fault fault) (.failed fault) rfl failed).noBuffer word
  · by_cases faulted : final.guest.Faulted
    · rw [uncounted faulted, or_iff_right (not_not_intro faulted), eq_comm,
        List.length_eq_zero_iff]
    · exact iff_of_true (counted faulted) (.inl faulted)
  · by_cases faulted : final.guest.Faulted
    · rw [accounted, uncounted faulted, or_iff_right (not_not_intro faulted),
        ← List.length_eq_zero_iff]
      omega
    · refine iff_of_true ?_ (.inl faulted)
      rw [accounted, counted faulted]
      exact Nat.add_le_add_left (GuestStream.length_frames_le received) _

/-- A guest sends a buffer in two pieces and an empty one, and closes the socket. -/
theorem buffers_reported_iff_sample :
    let stream : ScriptedStream :=
      { pieces := [[2, 0, 0, 0, 0, 0, 0, 0, 0x61], [0x62] ++ encode []] }
    let client : ScriptedBroker := { fallback := .accepted }
    let moves : List Move :=
      [.guest .look, .guest .poll, .guest .poll, .outflow (.serve (.line [0x7B])),
        .guest .poll, .post, .guest .look, .guest .poll, .outflow (.serve (.line [0x7D])),
        .outflow .send, .guest .look, .guest .poll, .retire, .outflow (.serve .outputEnd),
        .outflow (.leave Outflow.loop), .outflow .trigger] ++ List.replicate 12 (.outflow .work)
    ∃ final summary received,
      runMoves? after? (start client default 100 5 2 stream) moves = some final ∧
        final.summary? 0 (some 0) = some summary ∧ summary.guestBuffers = 2 ∧
        Reports 2 stream final.guest summary received := by
  intro stream client moves
  have outcome :
      ((runMoves? after? (start client default 100 5 2 stream) moves).bind
          fun final => (final.summary? 0 (some 0)).map DaemonSummary.guestBuffers) =
        some 2 := by
    decide +kernel
  obtain ⟨final, reached, same⟩ := Option.bind_eq_some_iff.mp outcome
  obtain ⟨summary, returned, count⟩ := Option.map_eq_some_iff.mp same
  obtain ⟨received, reports⟩ := buffers_reported_iff (by decide) reached returned
  exact ⟨final, summary, received, reached, returned, count, reports⟩

/-- A guest sends a buffer, which is published, and then a length above the limit.  The
report knows of no buffer, and the broker took a frame that nobody has reported. -/
theorem buffers_not_reported :
    let stream : ScriptedStream :=
      { pieces := [encode [0x61, 0x62], [3, 0, 0, 0, 0, 0, 0, 0]] }
    let client : ScriptedBroker := { fallback := .accepted }
    let moves : List Move :=
      [.guest .look, .guest .poll, .guest .poll, .post, .guest .look, .guest .poll,
        .guest .poll, .retire, .outflow (.serve .outputEnd), .outflow (.leave Outflow.loop),
        .outflow .trigger] ++ List.replicate 8 (.outflow .work)
    ∃ final summary,
      runMoves? after? (start client default 100 5 2 stream) moves = some final ∧
        final.summary? 0 (some 0) = some summary ∧ final.guest.guest.buffers = 1 ∧
        summary.guestBuffers = 0 ∧
        summary.relay.frames + summary.guestBuffers <
          summary.publisher.enqueued + summary.publisher.dropped + summary.publisher.abandoned := by
  intro stream client moves
  have outcome :
      ((runMoves? after? (start client default 100 5 2 stream) moves).bind
          fun final => (final.summary? 0 (some 0)).map fun summary =>
            (final.guest.guest.buffers, summary.guestBuffers, summary.relay.frames,
              summary.publisher.enqueued)) =
        some (1, 0, 0, 1) := by
    decide +kernel
  obtain ⟨final, reached, same⟩ := Option.bind_eq_some_iff.mp outcome
  obtain ⟨summary, returned, same⟩ := Option.map_eq_some_iff.mp same
  obtain ⟨buffers, same⟩ := Prod.mk.inj same
  obtain ⟨reported, same⟩ := Prod.mk.inj same
  obtain ⟨relayed, enqueued⟩ := Prod.mk.inj same
  refine ⟨final, summary, reached, returned, buffers, reported, ?_⟩
  omega

end Serving

/-! ### The program -/

namespace Service

variable {programs : Programs} {options : DaemonOptions} {files : Files} {parts : Parts}
  {outcome : Outcome} {summary : DaemonSummary}

theorem guestBuffers_of_serve? (served : serve? programs options files parts = some outcome)
    (returned : outcome.result = .ok summary) :
    summary.guestBuffers =
      countedBuffers (parts.guest.map fun guest => guest.forward false true) := by
  unfold serve? at served
  obtain ⟨⟨bridge, left, files⟩, _, served⟩ := Option.bind_eq_some_iff.mp served
  dsimp only at served
  split at served
  all_goals
    obtain ⟨publisher, _, served⟩ := Option.bind_eq_some_iff.mp served
    obtain ⟨ended, _, served⟩ := Option.bind_eq_some_iff.mp served
    cases served
    cases ended with
    | error fault => cases returned
    | ok exit =>
        cases returned
        rfl

/-- The program reads a guest's stream as far as it goes, whatever its interpreter does.  It
reports all buffers, or none because a fault has ended the stream. -/
theorem serve?_guestBuffers {limit : Nat} {stream : ScriptedStream}
    (word : limit < Bytes.wordLimit lengthSize)
    (guest : parts.guest = some (GuestStream.create limit stream))
    (served : serve? programs options files parts = some outcome)
    (returned : outcome.result = .ok summary) :
    ∃ buffers rest,
      Split limit stream.pieces.flatten buffers rest ∧ NoBuffer limit rest ∧
        (summary.guestBuffers = buffers.length ∨
          summary.guestBuffers = 0 ∧
            ∃ fault, ((GuestStream.create limit stream).forward false true).result =
              .error fault) := by
  have count := guestBuffers_of_serve? served returned
  rw [guest, Option.map_some] at count
  obtain ⟨buffers, rest, split, nothing, _, result⟩ := Forwarding.forward_all word stream
  refine ⟨buffers, rest, split, nothing, ?_⟩
  generalize (GuestStream.create limit stream).forward false true = forwarded at count result ⊢
  obtain ⟨_, _⟩ := forwarded
  rcases result with rfl | ⟨fault, rfl⟩
  · exact .inl count
  · exact .inr ⟨count, fault, rfl⟩

end Service
end TraceForward
