/-
The relay loop and an interpreter, coupled by two pipes.

The loop serves one event at a time, and a payload that it has taken is written to
its end before it looks at anything else.  The interpreter reads, prints and closes
as it likes; payloads and the shutdown request come from outside.  Where lines are
copied, the daemon's own output takes each of them at once.  A run is any row of moves
of the three.
-/

import TraceForward.Daemon.Bridge

namespace TraceForward

/-- The pipes to and from an interpreter.  A write that fits is taken whole, and an
empty pipe takes a part of any write; otherwise a pipe may take a part, or nothing. -/
structure Pipes where
  inputCapacity : Nat
  outputCapacity : Nat
  accepts : (space length : Nat) → Nat
  accepts_le : ∀ space length, accepts space length ≤ space ∧ accepts space length ≤ length
  accepts_whole : ∀ space length, length ≤ space → accepts space length = length
  accepts_some : ∀ length, 0 < length → 0 < accepts inputCapacity length

def Pipes.plain (inputCapacity outputCapacity : Nat) (positive : 0 < inputCapacity) : Pipes where
  inputCapacity
  outputCapacity
  accepts := min
  accepts_le space length := ⟨Nat.min_le_left space length, Nat.min_le_right space length⟩
  accepts_whole _ _ fits := Nat.min_eq_right fits
  accepts_some _ some := Nat.lt_min.mpr ⟨positive, some⟩

structure Coupling where
  bridge : Bridge
  inbound : List Bytes := []
  inboundClosed : Bool := false
  signalled : Bool := false
  input : Bytes := []
  inputClosed : Bool := false
  output : Bytes := []
  outputClosed : Bool := false
  reader : LineReader := {}
  lines : List Bytes := []
  handed : List Bytes := []
  read : Bytes := []

namespace Coupling

def start (outlet : Outlet) : Coupling :=
  { bridge := { outlet } }

inductive Move where
  | serve (event : BridgeEvent)
  | gather
  /-- The loop takes what is left behind the last line feed when the output is closed. -/
  | finish
  | receive (payload : Bytes)
  | closeInbound
  | signal
  | read (count : Nat)
  | closeInput
  | print (bytes : Bytes)
  | closeOutput

def Move.isRelay : Move → Bool
  | .serve _ | .gather | .finish => true
  | _ => false

section Moves

variable (pipes : Pipes) (coupling : Coupling)

def accepted : Nat :=
  pipes.accepts (pipes.inputCapacity - coupling.input.length) coupling.bridge.writing.length

def offers : BridgeEvent → Bool
  | .shutdown requested => requested && coupling.signalled
  | .line line => coupling.lines.head? == some line
  | .outputEnd =>
      coupling.outputClosed && coupling.output.isEmpty && coupling.lines.isEmpty &&
        coupling.reader.remainder.isEmpty
  | .payload payload => coupling.inbound.head? == some payload
  | .inputEnd => coupling.inboundClosed && coupling.inbound.isEmpty
  | .wrote count =>
      !coupling.inputClosed && decide (0 < count) && count == coupling.accepted pipes
  | .writeFailed => coupling.inputClosed
  | .shutdownLost => false
  | .outputFailed _ | .echoFailed _ => false

def settle (event : BridgeEvent) (bridge : Bridge) : Coupling :=
  match event with
  | .line _ => { coupling with bridge, lines := coupling.lines.tail }
  | .payload payload =>
      { coupling with
        bridge, inbound := coupling.inbound.tail, handed := coupling.handed ++ [payload] }
  | .wrote count =>
      { coupling with bridge, input := coupling.input ++ coupling.bridge.writing.take count }
  | _ => { coupling with bridge }

def attends : Bool :=
  coupling.bridge.ended.isNone && coupling.bridge.writing.isEmpty

def after? : Move → Option Coupling
  | .serve event =>
      if coupling.offers pipes event then
        (coupling.bridge.serve? event).map (coupling.settle event)
      else none
  | .gather =>
      if coupling.attends && !coupling.output.isEmpty then
        let (lines, reader) := coupling.reader.feed coupling.output
        some { coupling with output := [], reader, lines := coupling.lines ++ lines }
      else none
  | .finish =>
      if coupling.attends && coupling.outputClosed && coupling.output.isEmpty &&
          !coupling.reader.remainder.isEmpty then
        some
          { coupling with
            reader := {}, lines := coupling.lines ++ coupling.reader.finish }
      else none
  | .receive payload =>
      if coupling.inboundClosed then none
      else some { coupling with inbound := coupling.inbound ++ [payload] }
  | .closeInbound => some { coupling with inboundClosed := true }
  | .signal => some { coupling with signalled := true }
  | .read count =>
      if coupling.inputClosed || decide (coupling.input.length < count) then none
      else
        some
          { coupling with
            input := coupling.input.drop count
            read := coupling.read ++ coupling.input.take count }
  | .closeInput => some { coupling with inputClosed := true }
  | .print bytes =>
      if coupling.outputClosed ||
          decide (pipes.outputCapacity < coupling.output.length + bytes.length) then none
      else some { coupling with output := coupling.output ++ bytes }
  | .closeOutput => some { coupling with outputClosed := true }

end Moves

def run? (pipes : Pipes) : Coupling → List Move → Option Coupling
  | coupling, [] => some coupling
  | coupling, move :: rest =>
      match coupling.after? pipes move with
      | none => none
      | some next => run? pipes next rest

/-- A line of the interpreter's output is complete and not served. -/
def LineWaiting (coupling : Coupling) : Prop :=
  coupling.lines ≠ [] ∨ lineFeed ∈ coupling.output

/-- The loop can make a move of its own. -/
def RelayEnabled (pipes : Pipes) (coupling : Coupling) : Prop :=
  ∃ move : Move, move.isRelay = true ∧ (coupling.after? pipes move).isSome = true

/-- The loop is writing, and the input pipe takes nothing and is not closed. -/
structure Blocked (pipes : Pipes) (coupling : Coupling) : Prop where
  writing : coupling.bridge.writing ≠ []
  inputOpen : coupling.inputClosed = false
  full : coupling.accepted pipes = 0

end Coupling
end TraceForward
