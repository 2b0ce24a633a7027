/-
The size of the producer's messages.

A frame of trace data is a part of a region, cut for a size limit, or a buffer of a guest
whose length has passed the same limit.  The producer's own limit is made from it by an
addition of machine words.  Settings are not checked against the end of the words, and
close to it the addition overflows.
-/

import TraceForward.Proofs.Framing.Sources
import TraceForward.Proofs.Framing.Walk
import TraceForward.Proofs.Guest.Decoding
import TraceForward.Settings.Basic

namespace TraceForward

/-! ### Buffers of a guest -/

namespace GuestStream

/-- No buffer that is taken or under way is longer than the limit. -/
structure Within (limit : Nat) (guest : GuestStream) : Prop where
  same : guest.decoder.limit = limit
  sane : guest.decoder.Sane
  ready : ∀ frame ∈ guest.ready, frame.kind = .trace ∧ frame.payload.length ≤ limit

variable {limit : Nat} {guest : GuestStream}

theorem Within.create (limit : Nat) (stream : ScriptedStream) :
    (create limit stream).Within limit := by
  constructor
  · rfl
  · exact nofun
  · exact nofun

theorem Within.drain (within : guest.Within limit) : guest.drain.2.Within limit := by
  refine ⟨within.same, within.sane, ?_⟩
  intro frame member
  cases member

theorem Within.receive {payload : Bytes} (within : guest.Within limit)
    (small : payload.length ≤ limit) : (guest.receive payload).Within limit := by
  obtain ⟨same, sane, ready⟩ := within
  refine ⟨same, sane, ?_⟩
  intro frame member
  rcases List.mem_append.mp member with old | new
  · exact ready frame old
  · split at new
    · cases new
    · rw [List.mem_singleton.mp new]
      exact ⟨rfl, small⟩

theorem Within.finish (within : guest.Within limit) : guest.finish.2.Within limit := by
  obtain ⟨same, sane, ready⟩ := within
  unfold GuestStream.finish
  split
  · split
    · exact ⟨same, sane, ready⟩
    · exact ⟨same, sane, ready⟩
  · exact ⟨same, sane, ready⟩
  · exact ⟨same, sane, ready⟩
  · exact ⟨same, sane, ready⟩

theorem Within.next (within : guest.Within limit)
    (word : limit < Bytes.wordLimit BufferDecoder.lengthSize) :
    guest.decoder.next.2.limit = limit ∧ guest.decoder.next.2.Sane ∧
      ∀ payload, guest.decoder.next.1 = .buffer payload → payload.length ≤ limit := by
  obtain ⟨same, sane, _⟩ := within
  have gives := BufferDecoder.next_gives (same ▸ word) sane
  generalize guest.decoder.next = answer at gives
  obtain ⟨decoded, decoder⟩ := answer
  cases gives with
  | buffer fits holds =>
      refine ⟨same, nofun, ?_⟩
      rintro payload ⟨⟩
      exact same ▸ fits
  | incomplete limit' sane' holds nothing small => exact ⟨limit'.trans same, sane', nofun⟩
  | tooLong header above => exact ⟨same, sane, nofun⟩

theorem Within.fillFrom (within : guest.Within limit)
    (word : limit < Bytes.wordLimit BufferDecoder.lengthSize) (pieces : List Bytes) :
    (guest.fillFrom pieces).2.Within limit := by
  induction pieces generalizing guest with
  | nil =>
      obtain ⟨same, sane, small⟩ := within.next word
      unfold GuestStream.fillFrom
      split
      next payload given => exact Within.receive ⟨same, sane, within.ready⟩ (small payload given)
      next => exact ⟨same, sane, within.ready⟩
      next => exact Within.finish ⟨same, sane, within.ready⟩
  | cons piece rest ih =>
      obtain ⟨same, sane, small⟩ := within.next word
      unfold GuestStream.fillFrom
      split
      next payload given => exact Within.receive ⟨same, sane, within.ready⟩ (small payload given)
      next => exact ⟨same, sane, within.ready⟩
      next => exact ih ⟨same, sane, within.ready⟩

theorem Within.fill (within : guest.Within limit)
    (word : limit < Bytes.wordLimit BufferDecoder.lengthSize) : guest.fill.2.Within limit := by
  unfold GuestStream.fill
  split
  · exact within
  · exact within.fillFrom word _

theorem Within.emitted (within : guest.Within limit)
    (word : limit < Bytes.wordLimit BufferDecoder.lengthSize) {uses : List Use} {frame : Frame}
    (member : frame ∈ guest.emitted uses) :
    frame.kind = .trace ∧ frame.payload.length ≤ limit := by
  refine @of_emitted (Within limit)
    (fun frame => frame.kind = .trace ∧ frame.payload.length ≤ limit) ?_ ?_ ?_
    guest within uses frame member
  · intro guest within
    exact within.fill word
  · intro guest within
    exact within.drain
  · intro guest within
    exact within.ready

end GuestStream

/-! ### The producer -/

/-- The bytes that the message of a frame has, its key among them. -/
def Frame.messageLength (frame : Frame) : Nat :=
  frame.kind.keyBytes.length + frame.payload.length

namespace Settings

inductive Emits (settings : Settings) : Frame → Prop where
  | region {region payload : Bytes} {size : Sizer}
      (member : payload ∈ (Record.cut region settings.mtu size).frames) :
      Emits settings (.trace payload)
  | guest {stream : ScriptedStream} {uses : List GuestStream.Use} {frame : Frame}
      (member : frame ∈ (GuestStream.create settings.mtu stream).emitted uses) :
      Emits settings frame

variable {settings : Settings}

theorem Emits.messageLength_le {frame : Frame} (emits : settings.Emits frame)
    (word : settings.mtu < Limits.wordCount) :
    frame.messageLength ≤ settings.mtu + Limits.messageHeadroom := by
  have keyed : Kind.trace.keyBytes.length ≤ Limits.messageHeadroom := by decide +kernel
  have small : frame.kind = .trace ∧ frame.payload.length ≤ settings.mtu := by
    cases emits with
    | region member => exact ⟨rfl, Record.length_le_of_cut member⟩
    | guest member => exact (GuestStream.Within.create _ _).emitted word member
  rw [Frame.messageLength, small.1, Nat.add_comm]
  exact Nat.add_le_add small.2 keyed

theorem exists_emits (settings : Settings) (length : Nat)
    (headed : Limits.headerSize ≤ length) (fits : length ≤ settings.mtu) :
    ∃ frame, settings.Emits frame ∧
      frame.messageLength = Kind.trace.keyBytes.length + length := by
  let record : Bytes :=
    Bytes.ofLittleEndian Limits.headerSize 1 ++ List.replicate (length - Limits.headerSize) 0
  have measured : record.length = length := by
    simp only [record, List.length_append, Bytes.length_ofLittleEndian, List.length_replicate]
    omega
  have whole : Record.Whole settings.mtu (fun _ => length) record := by
    constructor
    · exact ⟨1, _, by decide, rfl, measured⟩
    · rw [measured]
      exact fits
  have member : record ∈ (Record.cut record settings.mtu fun _ => length).frames := by
    rw [Record.cut_record whole]
    exact List.mem_singleton_self record
  exact ⟨.trace record, .region member, congrArg _ measured⟩

structure Sizes (settings : Settings) : Prop where
  sized : settings.mtu + Limits.messageHeadroom < Limits.wordCount →
    ∃ properties, settings.sizedBroker.producerProperties = .ok properties ∧
      properties.lookup "message.max.bytes" =
        some (toString (settings.mtu + Limits.messageHeadroom))
  -- There is no producer at all when its limit is past the end of the words.
  overflows : Limits.wordCount ≤ settings.mtu + Limits.messageHeadroom →
    settings.sizedBroker.producerProperties = .error .addition
  fits : ∀ frame, settings.Emits frame →
    frame.messageLength ≤ settings.mtu + Limits.messageHeadroom
  largest : Limits.headerSize ≤ settings.mtu →
    ∃ frame, settings.Emits frame ∧
      frame.messageLength = Kind.trace.keyBytes.length + settings.mtu

/-- The producer's limit takes every frame of trace data, and it is computed exactly as
long as it is a machine word. -/
theorem producer_sizes (settings : Settings) (word : settings.mtu < Limits.wordCount) :
    settings.Sizes := by
  constructor
  · intro below
    have limit : settings.sizedBroker.messageMaxBytes =
        .ok (settings.mtu + Limits.messageHeadroom) := addWords_eq_ok below
    refine ⟨settings.sizedBroker.propertiesFor (settings.mtu + Limits.messageHeadroom), ?_, rfl⟩
    rw [BrokerSettings.producerProperties, limit]
    rfl
  · intro past
    have limit : settings.sizedBroker.messageMaxBytes = .error .addition :=
      addWords_eq_error past
    rw [BrokerSettings.producerProperties, limit]
    rfl
  · intro frame emits
    exact emits.messageLength_le word
  · intro headed
    exact exists_emits settings settings.mtu headed (Nat.le_refl _)

theorem producer_sizes_default :
    ({} : Settings).mtu < Limits.wordCount ∧ ({} : Settings).Sizes :=
  ⟨by decide, producer_sizes {} (by decide)⟩

/-- Settings that are accepted and have no producer, with a frame of 512 bytes that one
would be needed for. -/
theorem producer_overflows :
    let settings : Settings := { mtu := Limits.wordCount - 1 }
    settings.validate = .ok () ∧ settings.mtu < Limits.wordCount ∧
      settings.sizedBroker.producerProperties = .error .addition ∧
      ∃ frame, settings.Emits frame ∧ frame.messageLength = 517 := by
  intro settings
  have past : Limits.wordCount ≤ settings.mtu + Limits.messageHeadroom := by decide
  have limit : settings.sizedBroker.messageMaxBytes = .error .addition :=
    addWords_eq_error past
  have keyed : Kind.trace.keyBytes.length = 5 := by decide +kernel
  obtain ⟨frame, emits, length⟩ := exists_emits settings 512 (by decide) (by decide)
  rw [keyed] at length
  exact ⟨by decide, by decide, congrArg (Except.map _) limit, frame, emits, length⟩

end Settings
end TraceForward
