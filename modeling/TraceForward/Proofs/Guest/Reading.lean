/-
Reading a guest's stream in rounds.

A round takes the next buffer out of what is received, or reads one more piece.  Between two
rounds a reader may be called off: all that it has received is still there, so the rounds of
many attempts to read a buffer are those of one attempt.
-/

import TraceForward.Guest.Stream
import TraceForward.Proofs.Guest.Decoding

namespace TraceForward
namespace GuestStream

open BufferDecoder (encode lengthSize NoBuffer)

/-! ### The frames of some buffers -/

def frames (buffers : List Bytes) : List Frame :=
  (buffers.filter fun buffer => !buffer.isEmpty).map Frame.trace

theorem frames_append (first second : List Bytes) :
    frames (first ++ second) = frames first ++ frames second := by
  rw [frames, List.filter_append, List.map_append]
  rfl

theorem length_frames_le (buffers : List Bytes) : (frames buffers).length ≤ buffers.length := by
  rw [frames, List.length_map]
  exact List.length_filter_le _ _

/-! ### Rounds -/

variable {guest next : GuestStream} {limit : Nat} {ending : StreamEnd} {bytes : Bytes}

def readOn (guest : GuestStream) : Option Filled × GuestStream :=
  match guest.stream.pieces with
  | [] => (some guest.finish.1, guest.finish.2)
  | piece :: pieces =>
      (none,
        { guest with
          decoder := guest.decoder.feed piece, stream := { guest.stream with pieces } })

/-- One round of reading a stream that has not failed: it comes to something, or reads a
piece that is not enough. -/
def poll (guest : GuestStream) : Option Filled × GuestStream :=
  let (decoded, decoder) := guest.decoder.next
  let guest := { guest with decoder }
  match decoded with
  | .buffer payload => (some .buffer, guest.receive payload)
  | .tooLong => (some (.fault tooLongFault), { guest with failed := true })
  | .incomplete => guest.readOn

theorem fillFrom_withPieces (guest : GuestStream) (other pieces : List Bytes) :
    fillFrom { guest with stream := { guest.stream with pieces := other } } pieces =
      guest.fillFrom pieces := by
  rw [fillFrom.eq_def, fillFrom.eq_def guest]

/-- To read up to the next buffer is to go on in rounds until something comes of it. -/
theorem fillFrom_eq_poll (guest : GuestStream) :
    guest.fillFrom guest.stream.pieces =
      match guest.poll with
      | (some filled, next) => (filled, next)
      | (none, next) => next.fillFrom next.stream.pieces := by
  rw [fillFrom.eq_def, poll]
  cases guest.decoder.next with
  | mk decoded decoder =>
      cases decoded with
      | buffer payload => rfl
      | tooLong => rfl
      | incomplete =>
          obtain ⟨_, ⟨pieces, ending⟩, ready, buffers, failed⟩ := guest
          cases pieces with
          | nil => rfl
          | cons piece pieces =>
              exact fillFrom_withPieces
                { decoder := decoder.feed piece
                  stream := { pieces, ending }, ready, buffers, failed }
                (piece :: pieces) pieces

/-! ### What a round comes to -/

/-- The bytes that are received and not yet given, and those still to be read. -/
def pending (guest : GuestStream) : Bytes :=
  guest.decoder.held ++ guest.stream.pieces.flatten

/-- The bytes do not begin with a buffer, and not with a length above the limit. -/
def Short (limit : Nat) (bytes : Bytes) : Prop :=
  NoBuffer limit bytes ∧ ∀ length, bytes.word? lengthSize = some length → length ≤ limit

/-- What there is to say of a stream that goes on with these bytes and ends so, if it is not
a buffer. -/
inductive Stops (limit : Nat) (ending : StreamEnd) (bytes : Bytes) : Filled → Prop where
  | tooLong {length : Nat} (header : bytes.word? lengthSize = some length)
      (above : limit < length) : Stops limit ending bytes (.fault tooLongFault)
  | closed (ends : ending = .closed) (short : Short limit bytes) :
      Stops limit ending bytes .closed
  | cut (ends : ending = .closed) (short : Short limit bytes) (left : bytes ≠ []) :
      Stops limit ending bytes (.fault cutFault)
  | broken {reason : String} (ends : ending = .failed reason) (short : Short limit bytes) :
      Stops limit ending bytes (.fault (.io reason))
  | silent (ends : ending = .shutdown ∨ ending = .shutdownLost) (short : Short limit bytes) :
      Stops limit ending bytes .silent

theorem Stops.noBuffer {filled : Filled} (word : limit < Bytes.wordLimit lengthSize)
    (stops : Stops limit ending bytes filled) : NoBuffer limit bytes := by
  cases stops with
  | tooLong header above => exact BufferDecoder.noBuffer_of_word? word header (.inl above)
  | closed ends short => exact short.1
  | cut ends short left => exact short.1
  | broken ends short => exact short.1
  | silent ends short => exact short.1

/-- A stream that stops in front of nothing and is closed is at its end. -/
theorem Stops.of_nil {filled : Filled} (stops : Stops limit .closed [] filled) :
    filled = .closed := by
  cases stops with
  | tooLong header above => cases header
  | closed ends short => rfl
  | cut ends short left => exact absurd rfl left
  | broken ends short => cases ends
  | silent ends short => rcases ends with ends | ends <;> cases ends

theorem Stops.of_tooLong {filled : Filled} {length : Nat} (stops : Stops limit ending bytes filled)
    (header : bytes.word? lengthSize = some length) (above : limit < length) :
    filled = .fault tooLongFault := by
  have unfit : ¬ Short limit bytes := fun short => Nat.not_le_of_lt above (short.2 length header)
  cases stops with
  | tooLong header' above' => rfl
  | closed ends short => exact absurd short unfit
  | cut ends short left => exact absurd short unfit
  | broken ends short => exact absurd short unfit
  | silent ends short => exact absurd short unfit

structure Same (guest next : GuestStream) : Prop where
  limit : next.decoder.limit = guest.decoder.limit
  sane : next.decoder.Sane
  ending : next.stream.ending = guest.stream.ending

structure Still (guest next : GuestStream) : Prop extends Same guest next where
  holds : next.pending = guest.pending
  ready : next.ready = guest.ready
  buffers : next.buffers = guest.buffers

theorem Same.trans {last : GuestStream} (same : guest.Same next) (same' : next.Same last) :
    guest.Same last :=
  ⟨same'.limit.trans same.limit, same'.sane, same'.ending.trans same.ending⟩

theorem Still.trans {last : GuestStream} (still : guest.Still next) (still' : next.Still last) :
    guest.Still last :=
  ⟨still.toSame.trans still'.toSame, still'.holds.trans still.holds,
    still'.ready.trans still.ready, still'.buffers.trans still.buffers⟩

inductive Polls (guest : GuestStream) : Option Filled → GuestStream → Prop where
  | buffer {next : GuestStream} {payload : Bytes} (same : guest.Same next)
      (fits : payload.length ≤ guest.decoder.limit)
      (holds : guest.pending = encode payload ++ next.pending)
      (ready : next.ready = guest.ready ++ frames [payload])
      (buffers : next.buffers = guest.buffers + 1)
      (pieces : next.stream.pieces = guest.stream.pieces) (works : next.failed = guest.failed) :
      Polls guest (some .buffer) next
  | read {next : GuestStream} (still : guest.Still next)
      (pieces : next.stream.pieces.length + 1 = guest.stream.pieces.length)
      (works : next.failed = guest.failed) : Polls guest none next
  | stop {next : GuestStream} {filled : Filled} (still : guest.Still next)
      (stops : Stops guest.decoder.limit guest.stream.ending guest.pending filled) :
      Polls guest (some filled) next

theorem receive_ready (guest : GuestStream) (payload : Bytes) :
    (guest.receive payload).ready = guest.ready ++ frames [payload] := by
  cases payload <;> rfl

theorem held_feed (decoder : BufferDecoder) (piece : Bytes) :
    (decoder.feed piece).held = decoder.held ++ piece :=
  (List.append_assoc _ _ _).symm

theorem pending_of_through (through : guest.stream.pieces = []) :
    guest.pending = guest.decoder.held := by
  rw [pending, through, List.flatten_nil, List.append_nil]

theorem finish_stops (guest : GuestStream) (short : Short limit guest.pending) :
    Stops limit guest.stream.ending guest.pending guest.finish.1 := by
  unfold finish
  cases ends : guest.stream.ending with
  | closed =>
      by_cases through : guest.decoder.unread.isEmpty
      · simp only [if_pos through]
        exact .closed rfl short
      · simp only [if_neg through]
        refine .cut rfl short ?_
        intro nothing
        obtain ⟨none', _⟩ := List.append_eq_nil_iff.mp nothing
        obtain ⟨_, none'⟩ := List.append_eq_nil_iff.mp none'
        exact through (List.isEmpty_iff.mpr none')
  | failed reason => exact .broken rfl short
  | shutdown => exact .silent (.inl rfl) short
  | shutdownLost => exact .silent (.inr rfl) short

theorem finish_still (guest : GuestStream) (sane : guest.decoder.Sane) :
    guest.Still guest.finish.2 := by
  unfold finish
  cases guest.stream.ending with
  | closed =>
      by_cases through : guest.decoder.unread.isEmpty
      · simp only [if_pos through]
        exact ⟨⟨rfl, sane, rfl⟩, rfl, rfl, rfl⟩
      · simp only [if_neg through]
        exact ⟨⟨rfl, sane, rfl⟩, rfl, rfl, rfl⟩
  | failed reason => exact ⟨⟨rfl, sane, rfl⟩, rfl, rfl, rfl⟩
  | _ => exact ⟨⟨rfl, sane, rfl⟩, rfl, rfl, rfl⟩

theorem readOn_polls {original : GuestStream} (still : original.Still guest)
    (pieces : guest.stream.pieces = original.stream.pieces)
    (works : guest.failed = original.failed)
    (short : original.stream.pieces = [] → Short original.decoder.limit original.pending) :
    original.Polls guest.readOn.1 guest.readOn.2 := by
  unfold readOn
  cases known : guest.stream.pieces with
  | nil =>
      refine .stop (still.trans (guest.finish_still still.sane)) ?_
      have short := short (pieces.symm.trans known)
      rw [← still.holds] at short ⊢
      rw [← still.ending]
      exact guest.finish_stops short
  | cons piece rest =>
      refine .read
        ⟨⟨still.limit, still.sane, still.ending⟩, ?_, still.ready, still.buffers⟩ ?_ works
      · rw [← still.holds, pending, pending, known, held_feed, List.flatten_cons,
          List.append_assoc]
      · rw [← pieces, known, List.length_cons]

theorem poll_polls (word : guest.decoder.limit < Bytes.wordLimit lengthSize)
    (sane : guest.decoder.Sane) : guest.Polls guest.poll.1 guest.poll.2 := by
  have gives := BufferDecoder.next_gives word sane
  unfold poll
  generalize guest.decoder.next = given at gives ⊢
  obtain ⟨decoded, decoder⟩ := given
  cases gives with
  | buffer fits holds =>
      refine .buffer ⟨rfl, nofun, rfl⟩ fits ?_ (receive_ready _ _) rfl rfl rfl
      rw [pending, holds, List.append_assoc]
      rfl
  | tooLong header above =>
      refine .stop ⟨⟨rfl, sane, rfl⟩, rfl, rfl, rfl⟩ (.tooLong ?_ above)
      have inside : lengthSize ≤ guest.decoder.held.length := by
        by_contra outside
        rw [Bytes.word?_eq_none_iff.mpr (Nat.lt_of_not_le outside)] at header
        cases header
      rw [pending, Bytes.word?_append_of_le inside, header]
  | incomplete limit sane holds nothing within =>
      have still : guest.Still { guest with decoder } :=
        ⟨⟨limit, sane, rfl⟩, congrArg (· ++ guest.stream.pieces.flatten) holds, rfl, rfl⟩
      refine readOn_polls still rfl rfl ?_
      intro through
      rw [pending_of_through through]
      exact ⟨nothing, within⟩

end GuestStream
end TraceForward
