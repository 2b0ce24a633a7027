/-
Frames: keyed payloads on their way to the broker, and what a reader of the
topic makes of them.

The key tells trace frames from descriptor messages.  Only a message with the
trace key and a payload is handed on to the interpreter.
-/

import TraceForward.Bytes
import TraceForward.Limits

namespace TraceForward

inductive Kind where
  | trace
  | format
  | probe
  | clause
deriving DecidableEq, Repr

def Kind.key : Kind → String
  | .trace => Limits.traceKey
  | .format => Limits.formatKey
  | .probe => Limits.probeKey
  | .clause => Limits.clauseKey

def Kind.keyBytes (kind : Kind) : Bytes :=
  Bytes.ofText kind.key

structure Message where
  key : Option Bytes
  payload : Bytes
deriving DecidableEq, Repr

structure Frame where
  kind : Kind
  payload : Bytes
deriving DecidableEq, Repr

namespace Frame

def trace (payload : Bytes) : Frame :=
  { kind := .trace, payload }

def message (frame : Frame) : Message :=
  { key := some frame.kind.keyBytes, payload := frame.payload }

end Frame

/-- Why a message of the input topic is not handed on. -/
inductive Ignored where
  | missingKey
  | foreignKey
  | emptyPayload
  | endOfPartition
deriving DecidableEq, Repr

def Ignored.name : Ignored → String
  | .missingKey => "MissingKey"
  | .foreignKey => "ForeignKey"
  | .emptyPayload => "EmptyPayload"
  | .endOfPartition => "EndOfPartition"

inductive Inbound where
  | trace (payload : Bytes)
  | ignored (reason : Ignored)
  | idle
deriving DecidableEq, Repr

def Inbound.ofMessage (key payload : Option Bytes) : Inbound :=
  match key with
  | none => .ignored .missingKey
  | some key =>
      if key = Kind.trace.keyBytes then
        match payload with
        | some (byte :: rest) => .trace (byte :: rest)
        | _ => .ignored .emptyPayload
      else
        .ignored .foreignKey

end TraceForward
