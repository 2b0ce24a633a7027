/-
The frames that the sources give out.

A text source closes a message with the fragment that ends it, so no message is
empty; a guest's stream passes over its empty buffers.  Whoever feeds or fills a
source, and drains it now and then, gets frames that a reader hands on as they
are.
-/

import TraceForward.Framing.Text
import TraceForward.Guest.Stream
import TraceForward.Proofs.Delivery.Reading

namespace TraceForward

/-! ### Fragments -/

theorem TextFramer.ne_nil_of_push {framer : TextFramer} {fragment message : Bytes}
    (completes : (framer.push fragment).1 = some message) : message ≠ [] := by
  cases opened : (framer.opened fragment).message with
  | none => simp [push, opened] at completes
  | some before =>
      by_cases closing : beginsWith closeMarker fragment = true
      · simp only [push, opened, closing, if_true, Option.some.injEq] at completes
        intro empty
        rw [← completes, List.append_eq_nil_iff] at empty
        rw [empty.2] at closing
        cases closing
      · simp [push, opened, closing] at completes

namespace FragmentSource

inductive Use where
  | feed (fragment : Bytes)
  | drain
deriving DecidableEq, Repr

/-- The frames that a row of uses gets out of the source. -/
def emitted : FragmentSource → List Use → List Frame
  | _, [] => []
  | source, .feed fragment :: rest => (source.feed fragment).emitted rest
  | source, .drain :: rest => source.drain.1 ++ source.drain.2.emitted rest

def Sound (source : FragmentSource) : Prop :=
  ∀ frame ∈ source.ready, frame.Readable

theorem Sound.drain (source : FragmentSource) : source.drain.2.Sound := by
  intro frame member
  cases member

theorem Sound.feed {source : FragmentSource} (sound : source.Sound) (fragment : Bytes) :
    (source.feed fragment).Sound := by
  intro frame member
  rcases List.mem_append.mp member with old | new
  · exact sound frame old
  · rw [Option.mem_toList, Option.map_eq_some_iff] at new
    obtain ⟨message, completes, rfl⟩ := new
    exact Frame.readable_trace (TextFramer.ne_nil_of_push completes)

theorem Sound.emitted {source : FragmentSource} (sound : source.Sound) {uses : List Use}
    {frame : Frame} (member : frame ∈ source.emitted uses) : frame.Readable := by
  induction uses generalizing source with
  | nil => cases member
  | cons use rest ih =>
      cases use with
      | feed fragment => exact ih (sound.feed fragment) member
      | drain =>
          rcases List.mem_append.mp member with taken | later
          · exact sound frame taken
          · exact ih (.drain _) later

end FragmentSource

/-! ### Buffers of a guest -/

namespace GuestStream

inductive Use where
  | fill
  | drain
deriving DecidableEq, Repr

/-- The frames that a row of uses gets out of the stream. -/
def emitted : GuestStream → List Use → List Frame
  | _, [] => []
  | guest, .fill :: rest => guest.fill.2.emitted rest
  | guest, .drain :: rest => guest.drain.1 ++ guest.drain.2.emitted rest

/-- What holds of the frames that wait, as long as something is kept, holds of all that
come out. -/
theorem of_emitted {Kept : GuestStream → Prop} {Good : Frame → Prop}
    (fill : ∀ guest, Kept guest → Kept guest.fill.2)
    (drain : ∀ guest, Kept guest → Kept guest.drain.2)
    (ready : ∀ guest, Kept guest → ∀ frame ∈ guest.ready, Good frame)
    {guest : GuestStream} (kept : Kept guest) {uses : List Use} {frame : Frame}
    (member : frame ∈ guest.emitted uses) : Good frame := by
  induction uses generalizing guest with
  | nil => cases member
  | cons use rest ih =>
      cases use with
      | fill => exact ih (fill guest kept) member
      | drain =>
          rcases List.mem_append.mp member with taken | later
          · exact ready guest kept frame taken
          · exact ih (drain guest kept) later

def Sound (guest : GuestStream) : Prop :=
  ∀ frame ∈ guest.ready, frame.Readable

theorem Sound.drain (guest : GuestStream) : guest.drain.2.Sound := by
  intro frame member
  cases member

theorem Sound.receive {guest : GuestStream} (sound : guest.Sound) (payload : Bytes) :
    (guest.receive payload).Sound := by
  intro frame member
  rcases List.mem_append.mp member with old | new
  · exact sound frame old
  · by_cases empty : payload.isEmpty = true
    · rw [if_pos empty] at new
      cases new
    · rw [if_neg empty, List.mem_singleton] at new
      rw [new]
      apply Frame.readable_trace
      intro nothing
      exact empty (List.isEmpty_iff.mpr nothing)

theorem Sound.finish {guest : GuestStream} (sound : guest.Sound) : guest.finish.2.Sound := by
  unfold GuestStream.finish
  split
  · split
    · exact sound
    · exact sound
  · exact sound
  · exact sound
  · exact sound

theorem Sound.fillFrom {guest : GuestStream} (sound : guest.Sound) (pieces : List Bytes) :
    (guest.fillFrom pieces).2.Sound := by
  induction pieces generalizing guest with
  | nil =>
      unfold GuestStream.fillFrom
      split
      next payload _ => exact Sound.receive sound payload
      · exact sound
      · exact Sound.finish sound
  | cons piece rest ih =>
      unfold GuestStream.fillFrom
      split
      next payload _ => exact Sound.receive sound payload
      · exact sound
      · exact ih sound

theorem Sound.fill {guest : GuestStream} (sound : guest.Sound) : guest.fill.2.Sound := by
  unfold GuestStream.fill
  split
  · exact sound
  · exact sound.fillFrom _

theorem Sound.emitted {guest : GuestStream} (sound : guest.Sound) {uses : List Use}
    {frame : Frame} (member : frame ∈ guest.emitted uses) : frame.Readable := by
  refine @of_emitted Sound Frame.Readable ?_ ?_ ?_ guest sound uses frame member
  · intro guest sound
    exact sound.fill
  · intro guest _
    exact .drain guest
  · intro guest sound
    exact sound

theorem Sound.forwardWithin {guest : GuestStream} (sound : guest.Sound) {alive : Bool}
    {fills : Nat} {sent : List Frame} (before : ∀ frame ∈ sent, frame.Readable) {frame : Frame}
    (member : frame ∈ (GuestStream.forwardWithin alive fills guest sent).frames) :
    frame.Readable := by
  induction fills generalizing guest sent with
  | zero => exact before frame member
  | succ fills ih =>
      have filled := sound.fill
      unfold GuestStream.forwardWithin at member
      generalize guest.fill = answer at filled member
      obtain ⟨outcome, next⟩ := answer
      cases outcome with
      | buffer =>
          by_cases goesOn : (alive || next.ready.isEmpty) = true
          · simp only [GuestStream.drain, goesOn, if_true] at member
            refine ih (.drain next) ?_ member
            intro other present
            rcases List.mem_append.mp present with old | new
            · exact before other old
            · exact filled other new
          · simp only [GuestStream.drain, goesOn] at member
            exact before frame member
      | closed => exact before frame member
      | fault fault => exact before frame member
      | silent => exact before frame member

theorem Sound.forward {guest : GuestStream} (sound : guest.Sound) {shutdown alive : Bool}
    {frame : Frame} (member : frame ∈ (guest.forward shutdown alive).frames) :
    frame.Readable := by
  unfold GuestStream.forward at member
  split at member
  · cases member
  · refine sound.forwardWithin ?_ member
    intro other present
    cases present

end GuestStream
end TraceForward
