/-
The consumer of the daemon.

The input topic is polled until the shutdown flag is set.  Trace payloads go
to the loop; messages of other kinds, idle polls and failed polls are passed
over.  When the loop is gone the consumer ends at the next trace payload.
-/

import TraceForward.Fault
import TraceForward.Frame

namespace TraceForward

structure Intake where
  receiverAlive : Bool := true
  shutdown : Bool := false
  forwarded : List Bytes := []
  polls : Nat := 0
  ended : Bool := false
deriving DecidableEq, Repr

namespace Intake

def serve (intake : Intake) (answer : Except Fault Inbound) : Intake :=
  let polled := { intake with polls := intake.polls + 1 }
  match answer with
  | .ok (.trace payload) =>
      if intake.receiverAlive then
        { polled with forwarded := intake.forwarded ++ [payload] }
      else
        { polled with ended := true }
  | _ => polled

/-- Polls until the answers are used up, or the consumer ends or is told to
shut down.  The poll after the last answer finds nothing and meets a shutdown,
which ends the consumer. -/
def run (intake : Intake) : List (Except Fault Inbound) → Intake
  | [] =>
      if intake.ended || intake.shutdown then { intake with ended := true }
      else { intake.serve (.ok .idle) with shutdown := true, ended := true }
  | answer :: rest =>
      if intake.ended || intake.shutdown then { intake with ended := true }
      else run (intake.serve answer) rest

end Intake

end TraceForward
