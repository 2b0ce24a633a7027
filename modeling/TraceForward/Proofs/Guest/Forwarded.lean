/-
What becomes of a guest's stream.

A forwarder makes a bounded number of moves, unless there is always news of the flag.  So one
that nothing disturbs comes to the end of its stream, as the program does that reads the
stream in one go.
-/

import TraceForward.Proofs.Guest.Forwarding

namespace TraceForward

open BufferDecoder (encode lengthSize NoBuffer Split)
open GuestStream (Stops frames tooLongFault)

namespace Forwarding

variable {forwarding next : Forwarding} {move : Move}
variable {limit : Nat} {ending : StreamEnd} {stream : Bytes} {received : List Bytes}

/-! ### Runs that nothing disturbs -/

def Move.isQuiet : Move → Bool
  | .notify flag => !flag
  | .desert | .losePublisher => false
  | .look | .wake | .poll => true

structure Calm (forwarding : Forwarding) : Prop where
  flag : forwarding.flag = false
  watched : forwarding.deserted = false
  alive : forwarding.alive = true
  ends : ∀ stopped, forwarding.phase = .ended stopped →
    ∃ filled : Filled, filled.ending? = some stopped

theorem Calm.start (limit : Nat) (stream : ScriptedStream) : (start limit stream).Calm :=
  ⟨rfl, rfl, rfl, nofun⟩

theorem Calm.after (calm : forwarding.Calm) (quiet : move.isQuiet = true)
    (moves : forwarding.Moves move next) : next.Calm := by
  obtain ⟨unset, watched, alive, ends⟩ := calm
  cases moves with
  | @notify flag _ =>
      have unset : flag = false := by simpa only [Move.isQuiet, Bool.not_eq_true'] using quiet
      exact ⟨unset, watched, alive, ends⟩
  | desert => cases quiet
  | losePublisher => cases quiet
  | told looks flag => cases unset.symm.trans flag
  | wait looks flag => exact ⟨flag, watched, alive, nofun⟩
  | wake waits news => exact ⟨unset, watched, alive, nofun⟩
  | giveUp waits deserted => cases watched.symm.trans deserted
  | read waits polls => exact ⟨unset, watched, alive, ends⟩
  | take waits polls takes => exact ⟨unset, watched, alive, nofun⟩
  | lose waits polls gone => cases alive.symm.trans gone
  | @stop _ filled _ waits polls stops =>
      refine ⟨unset, watched, alive, ?_⟩
      rintro _ ⟨⟩
      exact ⟨filled, stops⟩

theorem Delivers.calm_run {first final : Forwarding} {moves : List Move}
    (word : limit < Bytes.wordLimit lengthSize)
    (delivers : first.Delivers limit ending stream received) (calm : first.Calm)
    (quiet : ∀ move ∈ moves, move.isQuiet = true)
    (reached : runMoves? after? first moves = some final) :
    ∃ received', final.Delivers limit ending stream received' ∧ final.Calm :=
  runMoves?_induction_of
    (fun forwarding =>
      ∃ received', forwarding.Delivers limit ending stream received' ∧ forwarding.Calm)
    (fun move => move.isQuiet = true)
    (fun _ _ _ ⟨_, delivers, calm⟩ quiet happens =>
      have moves := moves_of_after? (delivers.polls word) happens
      have ⟨received', delivers⟩ := delivers.after moves
      ⟨received', delivers, calm.after quiet moves⟩)
    ⟨received, delivers, calm⟩ quiet reached

/-! ### How long a forwarder goes on -/

def Move.isNews : Move → Bool
  | .notify _ => true
  | _ => false

def work (guest : GuestStream) : Nat :=
  guest.pending.length + guest.stream.pieces.length

/-- A bound on the moves of the forwarder itself, as long as there are no news. -/
def rank (forwarding : Forwarding) : Nat :=
  match forwarding.phase with
  | .ended _ => 0
  | .waiting => 2 * work forwarding.guest + 2 * forwarding.news.toNat + 1
  | .looking => 2 * work forwarding.guest + 2 * forwarding.news.toNat + 2

theorem rank_of_looking (looks : forwarding.phase = .looking) :
    forwarding.rank = 2 * work forwarding.guest + 2 * forwarding.news.toNat + 2 := by
  simp only [rank, looks]

theorem rank_of_waiting (waits : forwarding.phase = .waiting) :
    forwarding.rank = 2 * work forwarding.guest + 2 * forwarding.news.toNat + 1 := by
  simp only [rank, waits]

/-- A buffer that is received and a piece that is read lower the work. -/
theorem work_of_buffer {guest taken : GuestStream} (polls : guest.Polls (some .buffer) taken) :
    work taken + lengthSize ≤ work guest := by
  cases polls with
  | buffer same fits holds ready buffers pieces works =>
      rw [work, work, holds, pieces, List.length_append, BufferDecoder.length_encode]
      omega
  | stop still stops => cases stops

theorem work_of_read {guest read : GuestStream} (polls : guest.Polls none read) :
    work read + 1 = work guest := by
  cases polls with
  | read still pieces works =>
      rw [work, work, still.holds, ← pieces]
      exact Nat.add_assoc _ _ _

theorem Moves.rank_le (moves : forwarding.Moves move next) :
    next.rank + move.isOwn.toNat ≤ forwarding.rank + 2 * move.isNews.toNat := by
  cases moves with
  | notify watched =>
      unfold rank
      cases forwarding.phase with
      | ended stopped => exact Nat.zero_le _
      | _ =>
          simp only [Move.isOwn, Move.isNews, Bool.toNat_true, Bool.toNat_false]
          omega
  | desert => exact Nat.le_refl _
  | losePublisher => exact Nat.le_refl _
  | told looks flag =>
      rw [rank_of_looking looks]
      exact Nat.le_add_left 1 _
  | wait looks flag =>
      rw [rank_of_looking looks, rank_of_waiting rfl]
      simp only [Move.isOwn, Bool.toNat_true, Bool.toNat_false]
      omega
  | wake waits news =>
      rw [rank_of_waiting waits, rank_of_looking rfl, news]
      exact Nat.le_refl _
  | giveUp waits deserted =>
      rw [rank_of_waiting waits]
      exact Nat.le_add_left 1 _
  | @read guest waits polls =>
      have less := work_of_read polls
      have waiting : rank { forwarding with guest } =
          2 * work guest + 2 * forwarding.news.toNat + 1 :=
        rank_of_waiting waits
      rw [rank_of_waiting waits, waiting]
      simp only [Move.isOwn, Bool.toNat_true]
      omega
  | @take guest waits polls takes =>
      have less := work_of_buffer polls
      have same : work { guest with ready := [] } = work guest := rfl
      have positive : 0 < lengthSize := by decide
      rw [rank_of_waiting waits, rank_of_looking rfl]
      simp only [same, Move.isOwn, Bool.toNat_true]
      omega
  | lose waits polls gone =>
      rw [rank_of_waiting waits]
      exact Nat.le_add_left 1 _
  | stop waits polls ends =>
      rw [rank_of_waiting waits]
      exact Nat.le_add_left 1 _

theorem Delivers.own_le {first final : Forwarding} {moves : List Move}
    (word : limit < Bytes.wordLimit lengthSize)
    (delivers : first.Delivers limit ending stream received)
    (reached : runMoves? after? first moves = some final) :
    final.rank + moves.countP Move.isOwn ≤ first.rank + 2 * moves.countP Move.isNews := by
  induction moves generalizing first received with
  | nil =>
      cases reached
      exact Nat.le_refl _
  | cons move rest ih =>
      obtain ⟨next, happens, later⟩ := runMoves?_cons reached
      have moves := moves_of_after? (delivers.polls word) happens
      obtain ⟨received', delivers⟩ := delivers.after moves
      have first := moves.rank_le
      have rest := ih delivers later
      have toNat (counts : Bool) : counts.toNat = if counts then 1 else 0 := by
        cases counts <;> rfl
      rw [toNat, toNat] at first
      rw [List.countP_cons, List.countP_cons]
      omega

/-- A forwarder that has not ended can go on, unless it waits for a silent stream. -/
theorem exists_own (running : forwarding.result? = none)
    (speaks : forwarding.guest.poll.1 ≠ some .silent) :
    ∃ move next, move.isOwn = true ∧ forwarding.after? move = some next := by
  rcases result?_eq_none_iff.mp running with looks | waits
  · by_cases flag : forwarding.flag
    · exact ⟨.look, _, rfl, (if_pos looks).trans (if_pos flag)⟩
    · exact ⟨.look, _, rfl, (if_pos looks).trans (if_neg flag)⟩
  · have ⟨next, heeded⟩ : ∃ next, forwarding.heed? forwarding.guest.poll = some next := by
      generalize forwarding.guest.poll = polled at speaks
      obtain ⟨_ | filled, guest⟩ := polled
      · exact ⟨_, rfl⟩
      · cases filled with
        | silent => exact absurd rfl speaks
        | _ => exact ⟨_, rfl⟩
    exact ⟨.poll, next, rfl, (if_pos waits).trans heeded⟩

/-! ### The program as a run -/

theorem after?_poll {guest : GuestStream} {polled : Option Filled × GuestStream}
    (waits : forwarding.phase = .waiting) (comes : guest.poll = polled) :
    after? { forwarding with guest } .poll = heed? { forwarding with guest } polled :=
  (if_pos waits).trans (congrArg (heed? { forwarding with guest }) comes)

/-- The program reads up to the next buffer at once, the forwarder in rounds. -/
theorem fill_run (forwarding : Forwarding) {guest taken : GuestStream} {filled : Filled}
    (word : guest.decoder.limit < Bytes.wordLimit lengthSize) (sane : guest.decoder.Sane)
    (waits : forwarding.phase = .waiting)
    (fills : guest.fillFrom guest.stream.pieces = (filled, taken)) :
    ∃ count last,
      runMoves? after? { forwarding with guest } (List.replicate count .poll) =
          some { forwarding with guest := last } ∧
        last.poll = (some filled, taken) ∧ guest.Still last ∧ last.failed = guest.failed := by
  generalize many : guest.stream.pieces.length = pieces
  induction pieces using Nat.strongRecOn generalizing guest with
  | ind pieces ih =>
      have polls := GuestStream.poll_polls word sane
      rw [GuestStream.fillFrom_eq_poll] at fills
      cases comes : guest.poll with
      | mk polled next =>
          rw [comes] at fills polls
          cases polled with
          | some filled' =>
              cases fills
              exact ⟨0, guest, rfl, comes, ⟨⟨rfl, sane, rfl⟩, rfl, rfl, rfl⟩, rfl⟩
          | none =>
              cases polls with
              | read still fewer works =>
                  have fewer : next.stream.pieces.length < pieces :=
                    Nat.lt_of_succ_le (Nat.le_of_eq (fewer.trans many))
                  obtain ⟨count, last, led, ends, still', works'⟩ :=
                    ih _ fewer (still.limit.symm ▸ word) still.sane fills rfl
                  refine ⟨count + 1, last, ?_, ends, still.trans still', works'.trans works⟩
                  rw [List.replicate_succ, runMoves?, List.foldlM_cons, after?_poll waits comes]
                  exact led

/-- A quiet run comes to what the program forwards, up to the silence of the stream. -/
def ComesTo (first : Forwarding) (forwarded : Forwarded) : Prop :=
  ∃ moves final,
    runMoves? after? first moves = some final ∧ (∀ move ∈ moves, move.isQuiet = true) ∧
      final.sent = forwarded.frames ∧
      (final.result? = some forwarded.result ∨
        final.phase = .waiting ∧ final.guest.poll.1 = some .silent ∧
          forwarded.result = .ok final.guest.buffers)

theorem ComesTo.of_run {first middle : Forwarding} {moves : List Move} {forwarded : Forwarded}
    (led : runMoves? after? first moves = some middle)
    (quiet : ∀ move ∈ moves, move.isQuiet = true) (comes : middle.ComesTo forwarded) :
    first.ComesTo forwarded := by
  obtain ⟨later, final, reached, quiet', sent, result⟩ := comes
  refine ⟨moves ++ later, final, ?_, ?_, sent, result⟩
  · rw [runMoves?_append led]
    exact reached
  · intro move member
    exact (List.mem_append.mp member).elim (quiet move) (quiet' move)

theorem ComesTo.of_move {middle : Forwarding} {forwarded : Forwarded}
    (happens : forwarding.after? move = some middle) (quiet : move.isQuiet = true)
    (comes : middle.ComesTo forwarded) : forwarding.ComesTo forwarded := by
  have led : runMoves? after? forwarding [move] = some middle := by
    rw [runMoves?, List.foldlM_cons, happens]
    rfl
  exact .of_run led (List.forall_mem_singleton.mpr quiet) comes

theorem ComesTo.of_ended {result : Except Fault Nat} (ended : forwarding.result? = some result) :
    forwarding.ComesTo { result, frames := forwarding.sent } :=
  ⟨[], forwarding, rfl, nofun, rfl, .inl ended⟩

theorem look_fill_run (word : limit < Bytes.wordLimit lengthSize)
    (delivers : forwarding.Delivers limit ending stream received) (calm : forwarding.Calm)
    (looks : forwarding.phase = .looking) (works : forwarding.guest.failed = false) :
    ∃ moves waiting,
      runMoves? after? forwarding moves = some waiting ∧
        (∀ move ∈ moves, move.isQuiet = true) ∧ waiting.phase = .waiting ∧
        waiting.sent = forwarding.sent ∧ forwarding.guest.Still waiting.guest ∧
        waiting.guest.failed = false ∧
        waiting.guest.poll = (some forwarding.guest.fill.1, forwarding.guest.fill.2) := by
  have fills : forwarding.guest.fillFrom forwarding.guest.stream.pieces =
      forwarding.guest.fill := by
    rw [GuestStream.fill, works, if_neg Bool.false_ne_true]
  obtain ⟨count, last, led, comes, still, works'⟩ :=
    fill_run { forwarding with phase := .waiting, news := false } (delivers.limited ▸ word)
      delivers.sane rfl fills
  refine ⟨.look :: List.replicate count .poll,
    { forwarding with guest := last, phase := .waiting, news := false }, ?_, ?_, rfl, rfl, still,
    works'.trans works, comes⟩
  · have looked : forwarding.after? .look =
        some { forwarding with phase := .waiting, news := false } :=
      (if_pos looks).trans (if_neg (Bool.eq_false_iff.mp calm.flag))
    rw [runMoves?, List.foldlM_cons, looked]
    exact led
  · refine List.forall_mem_cons.mpr ⟨rfl, ?_⟩
    intro move member
    rw [(List.mem_replicate.mp member).2]
    rfl

theorem forwardWithin_run {fills : Nat} (word : limit < Bytes.wordLimit lengthSize)
    (delivers : forwarding.Delivers limit ending stream received) (calm : forwarding.Calm)
    (looks : forwarding.phase = .looking) (works : forwarding.guest.failed = false)
    (enough : forwarding.guest.pending.length < fills) :
    forwarding.ComesTo (GuestStream.forwardWithin true fills forwarding.guest forwarding.sent) := by
  induction fills generalizing forwarding received with
  | zero => exact absurd enough (Nat.not_lt_zero _)
  | succ fills ih =>
      obtain ⟨moves, waiting, led, quiet, waits, sent, still, works', comes⟩ :=
        look_fill_run word delivers calm looks works
      obtain ⟨received, delivers', calm'⟩ := delivers.calm_run word calm quiet led
      have polls := delivers'.polls word
      rw [GuestStream.forwardWithin, ← sent]
      generalize forwarding.guest.fill = filled at comes ⊢
      obtain ⟨filled, taken⟩ := filled
      have heeded : waiting.after? .poll = waiting.heed? (some filled, taken) :=
        after?_poll waits comes
      rw [comes] at polls
      refine .of_run led quiet ?_
      cases filled with
      | buffer =>
          have handed : waiting.after? .poll =
              some
                { waiting with
                  guest := { taken with ready := [] }, phase := .looking,
                  sent := waiting.sent ++ taken.ready } := by
            rw [heeded, heed?, handOver, calm'.alive]
            rfl
          have moves := moves_of_after? (delivers'.polls word) handed
          obtain ⟨received, delivers⟩ := delivers'.after moves
          cases polls with
          | stop _ stops => cases stops
          | @buffer _ payload _ _ holds _ _ _ works =>
              refine .of_move handed rfl
                (ih delivers (calm'.after rfl moves) rfl (works.trans works') ?_)
              have length : forwarding.guest.pending.length =
                  lengthSize + payload.length + taken.pending.length := by
                rw [← still.holds, holds, List.length_append, BufferDecoder.length_encode]
              have positive : 0 < lengthSize := by decide
              have shorter : taken.pending.length < fills := by omega
              exact shorter
      | closed => exact .of_move heeded rfl (.of_ended rfl)
      | fault reason => exact .of_move heeded rfl (.of_ended rfl)
      | silent =>
          refine ⟨[], waiting, rfl, nofun, rfl, .inr ⟨waits, congrArg Prod.fst comes, ?_⟩⟩
          cases polls with
          | stop still stops => exact congrArg Except.ok still.buffers

theorem forward_run (word : limit < Bytes.wordLimit lengthSize) (stream : ScriptedStream) :
    (start limit stream).ComesTo ((GuestStream.create limit stream).forward false true) := by
  refine forwardWithin_run word (Delivers.start limit stream) (Calm.start limit stream) rfl rfl ?_
  exact Nat.lt_add_of_pos_right (Nat.succ_pos _)

/-- The program forwards every buffer in front of the place where the stream stops. -/
theorem forward_all (word : limit < Bytes.wordLimit lengthSize) (stream : ScriptedStream) :
    ∃ buffers rest,
      Split limit stream.pieces.flatten buffers rest ∧ NoBuffer limit rest ∧
        ((GuestStream.create limit stream).forward false true).frames = frames buffers ∧
        (((GuestStream.create limit stream).forward false true).result = .ok buffers.length ∨
          ∃ fault,
            ((GuestStream.create limit stream).forward false true).result = .error fault) := by
  obtain ⟨moves, final, reached, quiet, sent, returned⟩ := forward_run word stream
  obtain ⟨buffers, delivers, calm⟩ :=
    (Delivers.start limit stream).calm_run word (Calm.start limit stream) quiet reached
  have frames := sent.symm.trans (delivers.whole calm.alive)
  rcases returned with ended | ⟨_, silent, result⟩
  · obtain ⟨stopped, phase, result⟩ := result?_eq_some_iff.mp ended
    obtain ⟨filled, ends⟩ := calm.ends stopped phase
    have stops := delivers.explained filled stopped ends phase
    refine ⟨buffers, _, delivers.split, stops.noBuffer word, frames, ?_⟩
    rw [← result, ← delivers.buffers]
    cases filled with
    | closed =>
        cases ends
        exact .inl rfl
    | fault reason =>
        cases ends
        exact .inr ⟨reason, rfl⟩
    | buffer => cases ends
    | silent => cases ends
  · have polls := delivers.polls word
    rw [silent] at polls
    cases polls with
    | stop still stops =>
        rw [delivers.limited] at stops
        rw [delivers.buffers] at result
        exact ⟨buffers, _, delivers.split, stops.noBuffer word, frames, .inl result⟩

/-! ### A stream is forwarded -/

/-- What follows the buffers of a stream, and what a forwarder returns that nothing stops in
front of it. -/
inductive Tail (limit count : Nat) (ending : StreamEnd) : Bytes → Except Fault Nat → Prop where
  | closed (ends : ending = .closed) : Tail limit count ending [] (.ok count)
  | tooLong {length : Nat} (above : limit < length) (word : length < Bytes.wordLimit lengthSize)
      (more : Bytes) :
      Tail limit count ending (Bytes.ofLittleEndian lengthSize length ++ more)
        (.error tooLongFault)

theorem Tail.filled {count : Nat} {tail : Bytes} {result : Except Fault Nat} {filled : Filled}
    (follows : Tail limit count ending tail result) (stops : Stops limit ending tail filled) :
    ∃ stopped, filled.ending? = some stopped ∧ stopped.result count = result := by
  cases follows with
  | closed ends =>
      rw [ends] at stops
      rw [stops.of_nil]
      exact ⟨.closed, rfl, rfl⟩
  | tooLong above word more =>
      rw [stops.of_tooLong (Bytes.word?_ofLittleEndian_append _ _ _ word) above]
      exact ⟨.failed tooLongFault, rfl, rfl⟩

theorem Tail.noBuffer {count : Nat} {tail : Bytes} {result : Except Fault Nat}
    (word : limit < Bytes.wordLimit lengthSize) (follows : Tail limit count ending tail result) :
    NoBuffer limit tail := by
  cases follows with
  | closed ends => exact BufferDecoder.noBuffer_nil
  | tooLong above word' more =>
      exact BufferDecoder.noBuffer_of_word? word
        (Bytes.word?_ofLittleEndian_append _ _ _ word') (.inl above)

/-- Every run of a forwarder hands on the frames of the first buffers, in order and each
once.  What nothing disturbs hands on all of them, and returns; nothing but the end of the
stream can hold it up for ever. -/
structure Forwards (limit : Nat) (stream : ScriptedStream) (buffers : List Bytes)
    (result : Except Fault Nat) : Prop where
  inOrder : ∀ moves final, runMoves? after? (start limit stream) moves = some final →
    ∃ handed, handed <+: buffers ∧ final.sent = frames handed
  whole : ∀ moves final returned, runMoves? after? (start limit stream) moves = some final →
    (∀ move ∈ moves, move.isQuiet = true) → final.result? = some returned →
      returned = result ∧ final.sent = frames buffers
  goesOn : ∀ moves final, runMoves? after? (start limit stream) moves = some final →
    final.result? = none → ∃ move next, move.isOwn = true ∧ final.after? move = some next
  bounded : ∀ moves final, runMoves? after? (start limit stream) moves = some final →
    moves.countP Move.isOwn ≤
      2 * (stream.pieces.flatten.length + stream.pieces.length) + 2 +
        2 * moves.countP Move.isNews
  program : (GuestStream.create limit stream).forward false true =
    { result, frames := frames buffers }

section

variable {buffers : List Bytes} {tail : Bytes} {result : Except Fault Nat}

theorem Delivers.all (delivers : forwarding.Delivers limit ending stream received)
    (word : limit < Bytes.wordLimit lengthSize) (split : Split limit stream buffers tail)
    (follows : Tail limit buffers.length ending tail result) {filled : Filled}
    (stops : Stops limit ending forwarding.guest.pending filled) :
    received = buffers ∧ ∃ stopped, filled.ending? = some stopped ∧
      stopped.result forwarding.guest.buffers = result := by
  obtain ⟨same, left⟩ :=
    delivers.split.unique word (stops.noBuffer word) split (follows.noBuffer word)
  rw [left] at stops
  rw [delivers.buffers, same]
  exact ⟨rfl, follows.filled stops⟩

theorem Delivers.not_silent (delivers : forwarding.Delivers limit ending stream received)
    (word : limit < Bytes.wordLimit lengthSize) (split : Split limit stream buffers tail)
    (follows : Tail limit buffers.length ending tail result) :
    forwarding.guest.poll.1 ≠ some .silent := by
  intro silent
  have polls := delivers.polls word
  rw [silent] at polls
  cases polls with
  | stop still stops =>
      rw [delivers.limited, delivers.ends] at stops
      obtain ⟨_, stopped, ends, _⟩ := delivers.all word split follows stops
      cases ends

theorem Delivers.returns (delivers : forwarding.Delivers limit ending stream received)
    (calm : forwarding.Calm) (word : limit < Bytes.wordLimit lengthSize)
    (split : Split limit stream buffers tail)
    (follows : Tail limit buffers.length ending tail result) {returned : Except Fault Nat}
    (ended : forwarding.result? = some returned) :
    returned = result ∧ forwarding.sent = frames buffers := by
  obtain ⟨stopped, phase, ended⟩ := result?_eq_some_iff.mp ended
  obtain ⟨filled, ends⟩ := calm.ends stopped phase
  obtain ⟨same, stopped', ends', result⟩ :=
    delivers.all word split follows (delivers.explained filled stopped ends phase)
  cases ends.symm.trans ends'
  exact ⟨ended.symm.trans result, same ▸ delivers.whole calm.alive⟩

end

/-- The buffers of a stream are forwarded whole and in order. -/
theorem stream_forwarded {limit : Nat} {stream : ScriptedStream} {buffers : List Bytes}
    {tail : Bytes} {result : Except Fault Nat} (word : limit < Bytes.wordLimit lengthSize)
    (fits : ∀ buffer ∈ buffers, buffer.length ≤ limit)
    (cut : stream.pieces.flatten = buffers.flatMap encode ++ tail)
    (follows : Tail limit buffers.length stream.ending tail result) :
    Forwards limit stream buffers result := by
  have split : Split limit stream.pieces.flatten buffers tail := ⟨cut.symm, fits⟩
  have delivers := Delivers.start limit stream
  have whole : ∀ moves final returned,
      runMoves? after? (start limit stream) moves = some final →
        (∀ move ∈ moves, move.isQuiet = true) → final.result? = some returned →
          returned = result ∧ final.sent = frames buffers := by
    intro moves final returned reached quiet ended
    obtain ⟨_, delivers, calm⟩ := delivers.calm_run word (Calm.start limit stream) quiet reached
    exact delivers.returns calm word split follows ended
  refine ⟨?_, whole, ?_, ?_, ?_⟩
  · intro moves final reached
    obtain ⟨received, delivers⟩ := delivers.run word reached
    obtain ⟨handed, inFront, sent⟩ := delivers.inOrder
    have early := delivers.split.prefix_of_noBuffer word split (follows.noBuffer word)
    exact ⟨handed, inFront.trans early, sent⟩
  · intro moves final reached running
    obtain ⟨received, delivers⟩ := delivers.run word reached
    exact exists_own running (delivers.not_silent word split follows)
  · intro moves final reached
    exact Nat.le_trans (Nat.le_add_left _ _) (delivers.own_le word reached)
  · obtain ⟨moves, final, reached, quiet, sent, result | silent⟩ := forward_run word stream
    · obtain ⟨returned, all⟩ := whole moves final _ reached quiet result
      generalize (GuestStream.create limit stream).forward false true = forwarded at *
      obtain ⟨_, _⟩ := forwarded
      cases returned
      cases sent.symm.trans all
      rfl
    · obtain ⟨received, delivers⟩ := delivers.run word reached
      exact absurd silent.2.1 (delivers.not_silent word split follows)

/-- Two pieces that cut a length and a payload, an empty buffer, and a length above the
limit. -/
theorem stream_forwarded_sample :
    let stream : ScriptedStream :=
      { pieces :=
          [[2, 0, 0], [0, 0, 0, 0, 0, 0x61], [0x62] ++ encode [] ++ [4, 0, 0, 0, 0, 0, 0, 0]]
        ending := .shutdown }
    stream.pieces.flatten =
        [[0x61, 0x62], []].flatMap encode ++ (Bytes.ofLittleEndian lengthSize 4 ++ []) ∧
      Forwards 3 stream [[0x61, 0x62], []] (.error tooLongFault) := by
  intro stream
  have cut : stream.pieces.flatten =
      [[0x61, 0x62], []].flatMap encode ++ (Bytes.ofLittleEndian lengthSize 4 ++ []) := by
    decide
  exact ⟨cut, stream_forwarded (by decide) (by decide) cut (.tooLong (by decide) (by decide) [])⟩

end Forwarding
end TraceForward
