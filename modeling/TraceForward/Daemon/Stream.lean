/-
Streams that are read in pieces.

How a stream is cut into pieces is up to whoever writes it.  After the last
piece it is closed, fails, or stays silent until the daemon shuts down.
-/

import TraceForward.Bytes

namespace TraceForward

/-- How a stream that is read in pieces goes on after its last piece. -/
inductive StreamEnd where
  | closed
  | failed (reason : String)
  | shutdown
  /-- Silence, and nobody can send the shutdown signal any more. -/
  | shutdownLost
deriving DecidableEq, Repr

structure ScriptedStream where
  pieces : List Bytes := []
  ending : StreamEnd := .closed
deriving DecidableEq, Repr

end TraceForward
