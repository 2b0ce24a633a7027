/-
The forwarder of a guest's buffers.

Between two buffers the forwarder looks at the shutdown flag.  Then it waits for the next
buffer and for news of the flag, and whichever comes first ends the wait; what it has
received of a buffer is not lost when news come.  So it hands on the first of the buffers
in the stream, each once, and if nothing stops it, all of them.
-/

import TraceForward.Proofs.Guest.Reading
import TraceForward.Proofs.Runs

namespace TraceForward

open BufferDecoder (encode lengthSize NoBuffer Split)
open GuestStream (Stops frames frames_append tooLongFault)

namespace Forwarding

inductive Ending where
  | told
  | deserted
  | publisherGone
  | closed
  | failed (fault : Fault)
deriving DecidableEq

def Ending.result (buffers : Nat) : Ending → Except Fault Nat
  | .told | .deserted | .closed => .ok buffers
  | .publisherGone => .error Fault.publisherGone
  | .failed fault => .error fault

inductive Phase where
  | looking
  | waiting
  | ended (ending : Ending)
deriving DecidableEq

end Forwarding

/-- A forwarder with the flag it looks at and the publisher it sends to. -/
structure Forwarding where
  guest : GuestStream
  phase : Forwarding.Phase := .looking
  flag : Bool := false
  /-- The flag was set since the forwarder last looked at it, perhaps to what it was. -/
  news : Bool := false
  deserted : Bool := false
  alive : Bool := true
  sent : List Frame := []

/-- How a forwarder ends for which this came of a stream, unless it goes on. -/
def Filled.ending? : Filled → Option Forwarding.Ending
  | .closed => some .closed
  | .fault reason => some (.failed reason)
  | .buffer | .silent => none

theorem Filled.eq_of_ending? {filled filled' : Filled} {ending : Forwarding.Ending}
    (ends : filled.ending? = some ending) (ends' : filled'.ending? = some ending) :
    filled = filled' := by
  cases filled with
  | closed =>
      cases ends
      cases filled' <;> cases ends'
      rfl
  | fault reason =>
      cases ends
      cases filled' <;> cases ends'
      rfl
  | buffer => cases ends
  | silent => cases ends

namespace Forwarding

def start (limit : Nat) (stream : ScriptedStream) : Forwarding :=
  { guest := GuestStream.create limit stream }

def result? (forwarding : Forwarding) : Option (Except Fault Nat) :=
  match forwarding.phase with
  | .ended ending => some (ending.result forwarding.guest.buffers)
  | .looking | .waiting => none

inductive Move where
  | notify (flag : Bool)
  | desert
  | losePublisher
  | look
  | wake
  | poll
deriving DecidableEq

def Move.isOwn : Move → Bool
  | .look | .wake | .poll => true
  | .notify _ | .desert | .losePublisher => false

def handOver (forwarding : Forwarding) (guest : GuestStream) : Forwarding :=
  let (frames, guest) := guest.drain
  if forwarding.alive || frames.isEmpty then
    { forwarding with guest, phase := .looking, sent := forwarding.sent ++ frames }
  else
    { forwarding with guest, phase := .ended .publisherGone }

def heed? (forwarding : Forwarding) : Option Filled × GuestStream → Option Forwarding
  | (none, guest) => some { forwarding with guest }
  | (some .buffer, guest) => some (forwarding.handOver guest)
  | (some filled, guest) =>
      filled.ending?.map fun ending => { forwarding with guest, phase := .ended ending }

def after? (forwarding : Forwarding) : Move → Option Forwarding
  | .notify flag =>
      if forwarding.deserted then none else some { forwarding with flag, news := true }
  | .desert => some { forwarding with deserted := true }
  | .losePublisher => some { forwarding with alive := false }
  | .look =>
      if forwarding.phase = .looking then
        if forwarding.flag then some { forwarding with phase := .ended .told }
        else some { forwarding with phase := .waiting, news := false }
      else none
  | .wake =>
      if forwarding.phase = .waiting then
        if forwarding.news then some { forwarding with phase := .looking, news := false }
        else if forwarding.deserted then some { forwarding with phase := .ended .deserted }
        else none
      else none
  | .poll =>
      if forwarding.phase = .waiting then forwarding.heed? forwarding.guest.poll else none

variable {forwarding next : Forwarding} {move : Move}

theorem result?_eq_some_iff {result : Except Fault Nat} :
    forwarding.result? = some result ↔
      ∃ stopped, forwarding.phase = .ended stopped ∧
        stopped.result forwarding.guest.buffers = result := by
  unfold result?
  cases forwarding.phase with
  | ended stopped =>
      constructor
      · exact fun returned => ⟨stopped, rfl, Option.some.inj returned⟩
      · rintro ⟨_, ⟨⟩, result⟩
        exact congrArg some result
  | looking => exact ⟨nofun, nofun⟩
  | waiting => exact ⟨nofun, nofun⟩

theorem result?_eq_none_iff :
    forwarding.result? = none ↔ forwarding.phase = .looking ∨ forwarding.phase = .waiting := by
  unfold result?
  cases forwarding.phase with
  | ended stopped => exact ⟨nofun, nofun⟩
  | looking => exact iff_of_true rfl (.inl rfl)
  | waiting => exact iff_of_true rfl (.inr rfl)

/-! ### What a move can do -/

/-- The effect of a move; what it reads of the stream stands in `GuestStream.Polls`. -/
inductive Moves (forwarding : Forwarding) : Move → Forwarding → Prop where
  | notify {flag : Bool} (watched : forwarding.deserted = false) :
      Moves forwarding (.notify flag) { forwarding with flag, news := true }
  | desert : Moves forwarding .desert { forwarding with deserted := true }
  | losePublisher : Moves forwarding .losePublisher { forwarding with alive := false }
  | told (looks : forwarding.phase = .looking) (flag : forwarding.flag = true) :
      Moves forwarding .look { forwarding with phase := .ended .told }
  | wait (looks : forwarding.phase = .looking) (flag : forwarding.flag = false) :
      Moves forwarding .look { forwarding with phase := .waiting, news := false }
  | wake (waits : forwarding.phase = .waiting) (news : forwarding.news = true) :
      Moves forwarding .wake { forwarding with phase := .looking, news := false }
  | giveUp (waits : forwarding.phase = .waiting) (deserted : forwarding.deserted = true) :
      Moves forwarding .wake { forwarding with phase := .ended .deserted }
  | read {guest : GuestStream} (waits : forwarding.phase = .waiting)
      (polls : forwarding.guest.Polls none guest) :
      Moves forwarding .poll { forwarding with guest }
  | take {guest : GuestStream} (waits : forwarding.phase = .waiting)
      (polls : forwarding.guest.Polls (some .buffer) guest)
      (takes : forwarding.alive = true ∨ guest.ready = []) :
      Moves forwarding .poll
        { forwarding with
          guest := { guest with ready := [] }, phase := .looking,
          sent := forwarding.sent ++ guest.ready }
  | lose {guest : GuestStream} (waits : forwarding.phase = .waiting)
      (polls : forwarding.guest.Polls (some .buffer) guest) (gone : forwarding.alive = false) :
      Moves forwarding .poll
        { forwarding with
          guest := { guest with ready := [] }, phase := .ended .publisherGone }
  | stop {guest : GuestStream} {filled : Filled} {ending : Ending}
      (waits : forwarding.phase = .waiting) (polls : forwarding.guest.Polls (some filled) guest)
      (ends : filled.ending? = some ending) :
      Moves forwarding .poll { forwarding with guest, phase := .ended ending }

theorem moves_of_handOver {guest : GuestStream} (waits : forwarding.phase = .waiting)
    (polls : forwarding.guest.Polls (some .buffer) guest) :
    forwarding.Moves .poll (forwarding.handOver guest) := by
  unfold handOver GuestStream.drain
  by_cases takes : forwarding.alive || guest.ready.isEmpty
  · simp only [if_pos takes]
    rw [Bool.or_eq_true, List.isEmpty_iff] at takes
    exact .take waits polls takes
  · simp only [if_neg takes]
    rw [Bool.or_eq_true, not_or] at takes
    exact .lose waits polls (Bool.eq_false_iff.mpr takes.1)

theorem moves_of_after?
    (polls : forwarding.guest.Polls forwarding.guest.poll.1 forwarding.guest.poll.2)
    (happens : forwarding.after? move = some next) : forwarding.Moves move next := by
  cases move with
  | notify flag =>
      obtain ⟨watched, happens⟩ := Option.ite_none_left_eq_some.mp happens
      cases happens
      exact .notify (Bool.eq_false_iff.mpr watched)
  | desert =>
      cases happens
      exact .desert
  | losePublisher =>
      cases happens
      exact .losePublisher
  | look =>
      obtain ⟨looks, happens⟩ := Option.ite_none_right_eq_some.mp happens
      by_cases flag : forwarding.flag
      · rw [if_pos flag] at happens
        cases happens
        exact .told looks flag
      · rw [if_neg flag] at happens
        cases happens
        exact .wait looks (Bool.eq_false_iff.mpr flag)
  | wake =>
      obtain ⟨waits, happens⟩ := Option.ite_none_right_eq_some.mp happens
      by_cases news : forwarding.news
      · rw [if_pos news] at happens
        cases happens
        exact .wake waits news
      · rw [if_neg news] at happens
        obtain ⟨deserted, happens⟩ := Option.ite_none_right_eq_some.mp happens
        cases happens
        exact .giveUp waits deserted
  | poll =>
      obtain ⟨waits, happens⟩ := Option.ite_none_right_eq_some.mp happens
      generalize forwarding.guest.poll = polled at polls happens
      obtain ⟨_ | filled, guest⟩ := polled
      · cases happens
        exact .read waits polls
      · by_cases buffer : filled = .buffer
        · subst buffer
          cases happens
          exact moves_of_handOver waits polls
        · have happens : (filled.ending?.map fun ending =>
              { forwarding with guest, phase := .ended ending }) = some next := by
            cases filled <;> first | exact happens | exact absurd rfl buffer
          obtain ⟨ending, ends, rfl⟩ := Option.map_eq_some_iff.mp happens
          exact .stop waits polls ends

/-! ### What every move keeps -/

variable {limit : Nat} {ending : StreamEnd} {stream : Bytes} {received : List Bytes}

/-- A forwarder that the stream has ended was right to end: the stream stops so. -/
def Phase.Explained (limit : Nat) (ending : StreamEnd) (bytes : Bytes) (phase : Phase) : Prop :=
  ∀ filled stopped, filled.ending? = some stopped → phase = .ended stopped →
    Stops limit ending bytes filled

theorem Phase.explained_of_running {bytes : Bytes} {phase : Phase}
    (runs : phase = .looking ∨ phase = .waiting) : phase.Explained limit ending bytes := by
  rintro filled stopped _ rfl
  rcases runs with looks | waits
  · cases looks
  · cases waits

theorem Phase.explained_of_ended {bytes : Bytes} {stopped : Ending}
    (other : stopped = .told ∨ stopped = .deserted ∨ stopped = .publisherGone) :
    (Phase.ended stopped).Explained limit ending bytes := by
  rintro filled _ ends ⟨⟩
  rcases other with rfl | rfl | rfl <;> cases filled <;> cases ends

structure Delivers (limit : Nat) (ending : StreamEnd) (stream : Bytes) (forwarding : Forwarding)
    (received : List Bytes) : Prop where
  limited : forwarding.guest.decoder.limit = limit
  sane : forwarding.guest.decoder.Sane
  ends : forwarding.guest.stream.ending = ending
  split : Split limit stream received forwarding.guest.pending
  ready : forwarding.guest.ready = []
  buffers : forwarding.guest.buffers = received.length
  inOrder : ∃ handed, handed <+: received ∧ forwarding.sent = frames handed
  whole : forwarding.alive = true → forwarding.sent = frames received
  explained : forwarding.phase.Explained limit ending forwarding.guest.pending

theorem Delivers.start (limit : Nat) (stream : ScriptedStream) :
    (start limit stream).Delivers limit stream.ending stream.pieces.flatten [] :=
  ⟨rfl, nofun, rfl, Split.start _ _, rfl, rfl, ⟨[], List.prefix_rfl, rfl⟩, fun _ => rfl,
    Phase.explained_of_running (.inl rfl)⟩

theorem Delivers.still {guest : GuestStream} {phase : Phase}
    (delivers : forwarding.Delivers limit ending stream received)
    (still : forwarding.guest.Still guest)
    (explained : phase.Explained limit ending guest.pending) :
    Delivers limit ending stream { forwarding with guest, phase } received := by
  obtain ⟨limited, _, ends, split, ready, buffers, inOrder, whole, _⟩ := delivers
  obtain ⟨⟨limited', sane, ends'⟩, holds, ready', buffers'⟩ := still
  exact ⟨limited'.trans limited, sane, ends'.trans ends, holds ▸ split, ready'.trans ready,
    buffers'.trans buffers, inOrder, whole, explained⟩

theorem Delivers.receive {guest : GuestStream} {payload : Bytes} {phase : Phase}
    {sent : List Frame} (delivers : forwarding.Delivers limit ending stream received)
    (same : forwarding.guest.Same guest) (fits : payload.length ≤ forwarding.guest.decoder.limit)
    (holds : forwarding.guest.pending = encode payload ++ guest.pending)
    (buffers : guest.buffers = forwarding.guest.buffers + 1)
    (inOrder : ∃ handed, handed <+: received ++ [payload] ∧ sent = frames handed)
    (whole : forwarding.alive = true → sent = frames (received ++ [payload]))
    (explained : phase.Explained limit ending guest.pending) :
    Delivers limit ending stream
      { forwarding with guest := { guest with ready := [] }, phase, sent }
      (received ++ [payload]) := by
  have split := delivers.split
  rw [holds] at split
  refine ⟨same.limit.trans delivers.limited, same.sane, same.ending.trans delivers.ends,
    split.take (delivers.limited ▸ fits), rfl, ?_, inOrder, whole, explained⟩
  rw [buffers, delivers.buffers, List.length_append, List.length_singleton]

theorem Delivers.take {guest : GuestStream}
    (delivers : forwarding.Delivers limit ending stream received)
    (polls : forwarding.guest.Polls (some .buffer) guest)
    (takes : forwarding.alive = true ∨ guest.ready = []) :
    ∃ received', Delivers limit ending stream
      { forwarding with
        guest := { guest with ready := [] }, phase := .looking,
        sent := forwarding.sent ++ guest.ready }
      received' := by
  cases polls with
  | stop still stops => cases stops
  | @buffer _ payload same fits holds ready buffers =>
      rw [delivers.ready, List.nil_append] at ready
      refine ⟨received ++ [payload], delivers.receive same fits holds buffers ?_ ?_
        (Phase.explained_of_running (.inl rfl))⟩
      · rcases takes with alive | nothing
        · refine ⟨received ++ [payload], List.prefix_rfl, ?_⟩
          rw [delivers.whole alive, ready, frames_append]
        · obtain ⟨handed, inFront, sent⟩ := delivers.inOrder
          refine ⟨handed, inFront.trans (List.prefix_append ..), ?_⟩
          rw [nothing, List.append_nil, sent]
      · intro alive
        rw [delivers.whole alive, ready, frames_append]

theorem Delivers.lose {guest : GuestStream}
    (delivers : forwarding.Delivers limit ending stream received)
    (polls : forwarding.guest.Polls (some .buffer) guest) (gone : forwarding.alive = false) :
    ∃ received', Delivers limit ending stream
      { forwarding with guest := { guest with ready := [] }, phase := .ended .publisherGone }
      received' := by
  cases polls with
  | stop still stops => cases stops
  | @buffer _ payload same fits holds ready buffers =>
      obtain ⟨handed, inFront, sent⟩ := delivers.inOrder
      refine ⟨received ++ [payload], delivers.receive same fits holds buffers
        ⟨handed, inFront.trans (List.prefix_append ..), sent⟩ ?_
        (Phase.explained_of_ended (.inr (.inr rfl)))⟩
      intro alive
      cases gone.symm.trans alive

theorem Delivers.after (delivers : forwarding.Delivers limit ending stream received)
    (moves : forwarding.Moves move next) :
    ∃ received', next.Delivers limit ending stream received' := by
  cases moves with
  | notify watched => exact ⟨received, { delivers with }⟩
  | desert => exact ⟨received, { delivers with }⟩
  | losePublisher => exact ⟨received, { delivers with whole := nofun }⟩
  | told looks flag =>
      exact ⟨received, { delivers with explained := Phase.explained_of_ended (.inl rfl) }⟩
  | wait looks flag =>
      exact ⟨received, { delivers with explained := Phase.explained_of_running (.inr rfl) }⟩
  | wake waits news =>
      exact ⟨received, { delivers with explained := Phase.explained_of_running (.inl rfl) }⟩
  | giveUp waits deserted =>
      exact ⟨received,
        { delivers with explained := Phase.explained_of_ended (.inr (.inl rfl)) }⟩
  | read waits polls =>
      cases polls with
      | read still pieces works =>
          exact ⟨received, delivers.still still (Phase.explained_of_running (.inr waits))⟩
  | take waits polls takes => exact delivers.take polls takes
  | lose waits polls gone => exact delivers.lose polls gone
  | stop waits polls ends =>
      cases polls with
      | buffer same fits holds ready buffers pieces works => cases ends
      | stop still stops =>
          refine ⟨received, delivers.still still ?_⟩
          rintro filled _ ends' ⟨⟩
          rw [Filled.eq_of_ending? ends' ends, still.holds, ← delivers.limited, ← delivers.ends]
          exact stops

theorem Delivers.polls (delivers : forwarding.Delivers limit ending stream received)
    (word : limit < Bytes.wordLimit lengthSize) :
    forwarding.guest.Polls forwarding.guest.poll.1 forwarding.guest.poll.2 :=
  GuestStream.poll_polls (delivers.limited ▸ word) delivers.sane

theorem Delivers.run {first final : Forwarding} {moves : List Move}
    (word : limit < Bytes.wordLimit lengthSize)
    (delivers : first.Delivers limit ending stream received)
    (reached : runMoves? after? first moves = some final) :
    ∃ received', final.Delivers limit ending stream received' :=
  runMoves?_induction
    (fun forwarding => ∃ received', forwarding.Delivers limit ending stream received')
    (fun _ _ _ ⟨_, delivers⟩ happens =>
      delivers.after (moves_of_after? (delivers.polls word) happens))
    ⟨received, delivers⟩ reached

end Forwarding
end TraceForward
