/-
Publishing a batch one broker call at a time.

The frames of a batch are tried in order.  Between two calls others may act, so
a batch that is under way is a state: the frames still to come, or a frame that
met a full queue and waits for a look at the stop signal.  Run without
interruption, the steps do what `Publisher.publishBatch` does.
-/

import TraceForward.Delivery.Publisher

namespace TraceForward

inductive Batch where
  | offering (rest : List Frame)
  /-- The queue was full for a frame; about to look at the stop signal. -/
  | blocked (next : Frame) (rest : List Frame)
  | ended (pending : List Frame)
deriving DecidableEq, Repr

namespace Batch

def frames : Batch → List Frame
  | .offering rest => rest
  | .blocked next rest => next :: rest
  | .ended pending => pending

/-- One step; `stop` is what a look at the stop signal would find. -/
def step {Client : Type} [BrokerClient Client] (publisher : Publisher Client) (stop : Bool) :
    Batch → Batch × Publisher Client
  | .offering [] => (.ended [], publisher)
  | .offering (next :: rest) =>
      match publisher.offer next.message with
      | (.queueFull, publisher) => (.blocked next rest, publisher)
      | (_, publisher) => (.offering rest, publisher)
  | .blocked next rest =>
      if stop then (.ended (next :: rest), publisher) else (.offering (next :: rest), publisher)
  | .ended pending => (.ended pending, publisher)

end Batch

end TraceForward
