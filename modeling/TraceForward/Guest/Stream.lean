/-
Trace buffers from a guest.

Each buffer that is not empty becomes one trace frame.  The forwarder hands
the frames to the publisher until the stream ends, a buffer is at fault, the
publisher is gone or a shutdown is requested, and counts the buffers.
-/

import TraceForward.Daemon.Stream
import TraceForward.Fault
import TraceForward.Frame
import TraceForward.Guest.Decoder

namespace TraceForward

structure GuestStream where
  decoder : BufferDecoder
  stream : ScriptedStream
  ready : List Frame := []
  buffers : Nat := 0
  failed : Bool := false
deriving DecidableEq, Repr

/-- What one attempt to read a buffer comes to. -/
inductive Filled where
  | buffer
  | closed
  | fault (fault : Fault)
  | silent
deriving DecidableEq, Repr

namespace GuestStream

def create (limit : Nat) (stream : ScriptedStream) : GuestStream :=
  { decoder := { limit }, stream }

def tooLongFault : Fault :=
  .io "frame size too big"

def cutFault : Fault :=
  .io "bytes remaining on stream"

def receive (guest : GuestStream) (payload : Bytes) : GuestStream :=
  let frames := if payload.isEmpty then [] else [Frame.trace payload]
  { guest with ready := guest.ready ++ frames, buffers := guest.buffers + 1 }

def fail (guest : GuestStream) (fault : Fault) : Filled × GuestStream :=
  (.fault fault, { guest with failed := true })

def finish (guest : GuestStream) : Filled × GuestStream :=
  match guest.stream.ending with
  | .closed => if guest.decoder.unread.isEmpty then (.closed, guest) else guest.fail cutFault
  | .failed reason => guest.fail (.io reason)
  | .shutdown | .shutdownLost => (.silent, guest)

def fillFrom (guest : GuestStream) (pieces : List Bytes) : Filled × GuestStream :=
  let (decoded, decoder) := guest.decoder.next
  let guest := { guest with decoder, stream := { guest.stream with pieces } }
  match decoded with
  | .buffer payload => (.buffer, guest.receive payload)
  | .tooLong => guest.fail tooLongFault
  | .incomplete =>
      match pieces with
      | [] => guest.finish
      | piece :: rest => fillFrom { guest with decoder := decoder.feed piece } rest
termination_by pieces.length

/-- Reads up to the next buffer; a stream that has failed is closed. -/
def fill (guest : GuestStream) : Filled × GuestStream :=
  if guest.failed then (.closed, guest) else guest.fillFrom guest.stream.pieces

def drain (guest : GuestStream) : List Frame × GuestStream :=
  (guest.ready, { guest with ready := [] })

/-- Attempts enough to come to the end of the stream: every buffer takes the
bytes of its length. -/
def fillBound (guest : GuestStream) : Nat :=
  guest.stream.pieces.flatten.length + guest.decoder.unread.length + 2

end GuestStream

structure Forwarded where
  result : Except Fault Nat
  frames : List Frame := []

namespace GuestStream

/-- Forwards buffers with at most `fills` attempts to read one.  A silent
stream is ended by the shutdown that goes with its silence. -/
def forwardWithin (alive : Bool) : Nat → GuestStream → List Frame → Forwarded
  | 0, guest, sent => { result := .ok guest.buffers, frames := sent }
  | fills + 1, guest, sent =>
      match guest.fill with
      | (.buffer, guest) =>
          let (frames, guest) := guest.drain
          if alive || frames.isEmpty then
            forwardWithin alive fills guest (sent ++ frames)
          else
            { result := .error Fault.publisherGone, frames := sent }
      | (.fault fault, _) => { result := .error fault, frames := sent }
      | (.closed, guest) | (.silent, guest) => { result := .ok guest.buffers, frames := sent }

/-- Forwards buffers to the publisher.  Nothing is read once a shutdown is
requested. -/
def forward (guest : GuestStream) (shutdown alive : Bool) : Forwarded :=
  if shutdown then { result := .ok 0 } else forwardWithin alive guest.fillBound guest []

end GuestStream

end TraceForward
