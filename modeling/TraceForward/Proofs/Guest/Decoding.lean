/-
Taking a stream of length-prefixed buffers apart.

A stream is buffers, each behind its length, and a rest that does not begin with a buffer
within the limit; in this way it can be split only once.  What a decoder has still to take
is one such stream, whatever it has read of a length already, so a buffer that it gives is
the first of what it holds.
-/

import Mathlib.Data.List.Basic
import TraceForward.Guest.Decoder
import TraceForward.Proofs.Words

namespace TraceForward
namespace BufferDecoder

variable {limit : Nat} {stream rest rest' payload payload' : Bytes} {buffers received : List Bytes}

/-! ### Splitting a stream -/

theorem length_encode (payload : Bytes) :
    (encode payload).length = lengthSize + payload.length := by
  rw [encode, List.length_append, Bytes.length_ofLittleEndian]

theorem word?_encode (small : payload.length < Bytes.wordLimit lengthSize) (more : Bytes) :
    (encode payload ++ more).word? lengthSize = some payload.length := by
  rw [encode, List.append_assoc]
  exact Bytes.word?_ofLittleEndian_append _ _ _ small

theorem encode_inj (small : payload.length < Bytes.wordLimit lengthSize)
    (small' : payload'.length < Bytes.wordLimit lengthSize)
    (same : encode payload ++ rest = encode payload' ++ rest') :
    payload = payload' ∧ rest = rest' := by
  have length := word?_encode small rest
  rw [same, word?_encode small' rest'] at length
  have length := Option.some.inj length
  rw [encode, encode, length, List.append_assoc, List.append_assoc] at same
  exact List.append_inj (List.append_cancel_left same) length.symm

def NoBuffer (limit : Nat) (bytes : Bytes) : Prop :=
  ∀ payload more, payload.length ≤ limit → bytes ≠ encode payload ++ more

theorem noBuffer_of_word? {length : Nat} (word : limit < Bytes.wordLimit lengthSize)
    (header : stream.word? lengthSize = some length)
    (unfit : limit < length ∨ stream.length < lengthSize + length) : NoBuffer limit stream := by
  rintro payload more fits rfl
  rw [word?_encode (Nat.lt_of_le_of_lt fits word)] at header
  cases header
  rcases unfit with above | short
  · omega
  · rw [List.length_append, length_encode] at short
    omega

theorem noBuffer_of_short (short : stream.length < lengthSize) : NoBuffer limit stream := by
  rintro payload more _ rfl
  rw [List.length_append, length_encode] at short
  omega

theorem noBuffer_nil : NoBuffer limit [] :=
  noBuffer_of_short (by decide)

structure Split (limit : Nat) (stream : Bytes) (buffers : List Bytes) (rest : Bytes) : Prop where
  joined : buffers.flatMap encode ++ rest = stream
  fits : ∀ buffer ∈ buffers, buffer.length ≤ limit

theorem Split.start (limit : Nat) (stream : Bytes) : Split limit stream [] stream :=
  ⟨rfl, nofun⟩

theorem Split.take (split : Split limit stream received (encode payload ++ rest))
    (fits : payload.length ≤ limit) : Split limit stream (received ++ [payload]) rest := by
  constructor
  · rw [List.flatMap_append, List.flatMap_singleton, List.append_assoc]
    exact split.joined
  · intro buffer member
    rcases List.mem_append.mp member with earlier | last
    · exact split.fits buffer earlier
    · exact (List.mem_singleton.mp last) ▸ fits

theorem Split.exists_cons (split : Split limit stream (payload :: buffers) rest) :
    ∃ later, stream = encode payload ++ later ∧ payload.length ≤ limit ∧
      Split limit later buffers rest := by
  obtain ⟨rfl, fits⟩ := split
  obtain ⟨first, fits⟩ := List.forall_mem_cons.mp fits
  refine ⟨buffers.flatMap encode ++ rest, ?_, first, rfl, fits⟩
  rw [List.flatMap_cons, List.append_assoc]

theorem Split.prefix_of_noBuffer (word : limit < Bytes.wordLimit lengthSize)
    (split : Split limit stream received rest) (whole : Split limit stream buffers rest')
    (nothing : NoBuffer limit rest') : received <+: buffers := by
  induction received generalizing stream buffers with
  | nil => exact List.nil_prefix
  | cons payload received ih =>
      obtain ⟨later, rfl, fits, split⟩ := split.exists_cons
      cases buffers with
      | nil => exact absurd whole.joined (nothing payload later fits)
      | cons payload' buffers =>
          obtain ⟨later', same, fits', whole⟩ := whole.exists_cons
          obtain ⟨rfl, rfl⟩ := encode_inj (Nat.lt_of_le_of_lt fits word)
            (Nat.lt_of_le_of_lt fits' word) same
          exact List.cons_prefix_cons.mpr ⟨rfl, ih split whole⟩

theorem Split.unique (word : limit < Bytes.wordLimit lengthSize)
    (split : Split limit stream received rest) (nothing : NoBuffer limit rest)
    (split' : Split limit stream buffers rest') (nothing' : NoBuffer limit rest') :
    received = buffers ∧ rest = rest' := by
  have front := split.prefix_of_noBuffer word split' nothing'
  have back := split'.prefix_of_noBuffer word split nothing
  obtain rfl := front.eq_of_length (Nat.le_antisymm front.length_le back.length_le)
  exact ⟨rfl, List.append_cancel_left (split.joined.trans split'.joined.symm)⟩

/-! ### What a decoder holds -/

variable {decoder : BufferDecoder}

def Sane (decoder : BufferDecoder) : Prop :=
  ∀ length, decoder.expected = some length →
    length ≤ decoder.limit ∧ length < Bytes.wordLimit lengthSize

/-- The bytes that are received and not yet given, a length that is read among them. -/
def held (decoder : BufferDecoder) : Bytes :=
  (match decoder.expected with
    | some length => Bytes.ofLittleEndian lengthSize length
    | none => []) ++ decoder.unread

inductive Gives (decoder : BufferDecoder) : Decoded → BufferDecoder → Prop where
  | buffer {payload rest : Bytes} (fits : payload.length ≤ decoder.limit)
      (holds : decoder.held = encode payload ++ rest) :
      Gives decoder (.buffer payload) { decoder with expected := none, unread := rest }
  | incomplete {next : BufferDecoder} (limit : next.limit = decoder.limit) (sane : next.Sane)
      (holds : next.held = decoder.held) (nothing : NoBuffer decoder.limit decoder.held)
      (within : ∀ length, decoder.held.word? lengthSize = some length →
        length ≤ decoder.limit) :
      Gives decoder .incomplete next
  | tooLong {length : Nat} (header : decoder.held.word? lengthSize = some length)
      (above : decoder.limit < length) : Gives decoder .tooLong decoder

theorem takePayload_gives (decoder : BufferDecoder)
    (word : decoder.limit < Bytes.wordLimit lengthSize) {length : Nat}
    (fits : length ≤ decoder.limit) {original : BufferDecoder}
    (holds : original.held = Bytes.ofLittleEndian lengthSize length ++ decoder.unread)
    (limit : original.limit = decoder.limit) :
    original.Gives (decoder.takePayload length).1 (decoder.takePayload length).2 := by
  have small := Nat.lt_of_le_of_lt fits word
  by_cases short : decoder.unread.length < length
  · rw [takePayload, if_pos short]
    have header : original.held.word? lengthSize = some length := by
      rw [holds]
      exact Bytes.word?_ofLittleEndian_append _ _ _ small
    refine .incomplete limit.symm ?_ holds.symm ?_ ?_
    · intro other same
      cases same
      exact ⟨fits, small⟩
    · refine noBuffer_of_word? (limit ▸ word) header (.inr ?_)
      rw [holds, List.length_append, Bytes.length_ofLittleEndian]
      omega
    · intro other same
      cases header.symm.trans same
      exact limit ▸ fits
  · rw [takePayload, if_neg short]
    have taken : (decoder.unread.take length).length = length :=
      List.length_take_of_le (Nat.le_of_not_lt short)
    have given : original.Gives (.buffer (decoder.unread.take length))
        { original with expected := none, unread := decoder.unread.drop length } := by
      refine .buffer ?_ ?_
      · rw [taken, limit]
        exact fits
      · rw [holds, encode, taken, List.append_assoc, List.take_append_drop]
    rwa [limit] at given

theorem next_gives (word : decoder.limit < Bytes.wordLimit lengthSize) (sane : decoder.Sane) :
    decoder.Gives decoder.next.1 decoder.next.2 := by
  unfold next
  cases known : decoder.expected with
  | some length =>
      have ⟨fits, _⟩ := sane length known
      refine takePayload_gives decoder word fits ?_ rfl
      rw [held, known]
  | none =>
      have holds : decoder.held = decoder.unread := by rw [held, known, List.nil_append]
      cases header : decoder.unread.word? lengthSize with
      | none =>
          have short := Bytes.word?_eq_none_iff.mp header
          refine .incomplete rfl sane rfl ?_ ?_
          · rw [holds]
            exact noBuffer_of_short short
          · intro length same
            rw [holds, header] at same
            cases same
      | some length =>
          by_cases above : decoder.limit < length
          · simp only [if_pos above]
            exact .tooLong (holds ▸ header) above
          · simp only [if_neg above]
            have ⟨_, written⟩ := Bytes.eq_ofLittleEndian_of_word? header
            exact takePayload_gives { decoder with unread := decoder.unread.drop lengthSize } word
              (Nat.le_of_not_lt above) (holds.trans written) rfl

end BufferDecoder
end TraceForward
