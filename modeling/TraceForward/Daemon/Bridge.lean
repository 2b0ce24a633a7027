/-
The loop between the input topic and the interpreter.

Payloads of the input topic are written to the interpreter's standard input,
and the lines of its standard output are framed and sent on, or copied to the
daemon's own output when nothing is published.  The loop serves one event at a
time.  While a payload is being written it serves nothing else; once writing
has failed, or the input topic is closed, standard input is given up.  A line
is served when its copy is written, so a copy that has to wait only delays it.
-/

import TraceForward.Daemon.Lines
import TraceForward.Daemon.Stream
import TraceForward.Fault
import TraceForward.Framing.Text
import TraceForward.Text.Utf8

namespace TraceForward

inductive BridgeExit where
  | shutdown
  | interpreterExited
deriving DecidableEq, Repr

def BridgeExit.name : BridgeExit → String
  | .shutdown => "Shutdown"
  | .interpreterExited => "InterpreterExited"

structure BridgeStats where
  inbound : Nat := 0
  fragments : Nat := 0
  frames : Nat := 0
  discarded : Nat := 0
  echoed : Nat := 0
deriving DecidableEq, Repr

def BridgeStats.fields (stats : BridgeStats) : List (String × Nat) :=
  [("inbound", stats.inbound), ("fragments", stats.fragments), ("frames", stats.frames),
    ("discarded", stats.discarded), ("echoed", stats.echoed)]

/-- Where the interpreter's output goes. -/
inductive Outlet where
  /-- Framed, to the publisher; `alive` while the publisher takes frames. -/
  | publisher (alive : Bool)
  | echo
deriving DecidableEq, Repr

/-- What the loop may find to serve. -/
inductive BridgeEvent where
  /-- The shutdown signal was sent with this value. -/
  | shutdown (requested : Bool)
  /-- Nobody can send the shutdown signal any more. -/
  | shutdownLost
  | line (bytes : Bytes)
  | outputEnd
  | outputFailed (reason : String)
  /-- A line cannot be copied to the daemon's output. -/
  | echoFailed (reason : String)
  | payload (bytes : Bytes)
  | inputEnd
  | wrote (count : Nat)
  | writeFailed
deriving DecidableEq, Repr

structure Bridge where
  outlet : Outlet
  source : FragmentSource := {}
  stats : BridgeStats := {}
  inputOpen : Bool := true
  /-- What is left of the payload being written. -/
  writing : Bytes := []
  written : Bytes := []
  sent : List Frame := []
  echo : Bytes := []
  ended : Option (Except Fault BridgeExit) := none

namespace Bridge

def totals (bridge : Bridge) : BridgeStats :=
  { bridge.stats with
    fragments := bridge.source.fragments, discarded := bridge.source.discarded }

def send (bridge : Bridge) (alive : Bool) (frames : List Frame) : Bridge :=
  match frames with
  | [] => bridge
  | _ :: _ =>
      if alive then
        let stats := bridge.stats
        { bridge with
          sent := bridge.sent ++ frames
          stats := { stats with frames := stats.frames + frames.length } }
      else
        { bridge with ended := some (.error Fault.publisherGone) }

/-- Serves a line of the interpreter's output.  It is checked without its end, so a line
that breaks off inside a character is an incomplete text; then its line feed is put back. -/
def serveLine (bridge : Bridge) (line : Bytes) : Bridge :=
  match Utf8.firstBreak line with
  | some fault => { bridge with ended := some (.error (.io fault.message)) }
  | none =>
      let fragment := line ++ [lineFeed]
      match bridge.outlet with
      | .echo =>
          let stats := bridge.stats
          { bridge with
            echo := bridge.echo ++ fragment
            stats := { stats with echoed := stats.echoed + 1 } }
      | .publisher alive =>
          let (frames, source) := (bridge.source.feed fragment).drain
          { bridge with source }.send alive frames

def servePayload (bridge : Bridge) (payload : Bytes) : Bridge :=
  let stats := bridge.stats
  { bridge with writing := payload, stats := { stats with inbound := stats.inbound + 1 } }

def closeInput (bridge : Bridge) : Bridge :=
  { bridge with inputOpen := false, writing := [] }

def serve? (bridge : Bridge) (event : BridgeEvent) : Option Bridge :=
  if bridge.ended.isSome then
    none
  else if bridge.writing.isEmpty then
    match event with
    | .shutdown requested =>
        some <| if requested then { bridge with ended := some (.ok .shutdown) } else bridge
    | .shutdownLost => some { bridge with ended := some (.ok .shutdown) }
    | .line line => some (bridge.serveLine line)
    | .outputEnd => some { bridge with ended := some (.ok .interpreterExited) }
    | .outputFailed reason => some { bridge with ended := some (.error (.io reason)) }
    | .echoFailed reason =>
        if bridge.outlet = .echo then some { bridge with ended := some (.error (.io reason)) }
        else none
    | .payload payload => if bridge.inputOpen then some (bridge.servePayload payload) else none
    | .inputEnd => if bridge.inputOpen then some bridge.closeInput else none
    | .wrote _ | .writeFailed => none
  else
    match event with
    | .wrote count =>
        if count ≤ bridge.writing.length then
          some
            { bridge with
              written := bridge.written ++ bridge.writing.take count
              writing := bridge.writing.drop count }
        else
          none
    | .writeFailed => some bridge.closeInput
    | _ => none

/-- Serves a row of events; those that the loop cannot serve are passed over. -/
def serveAll (bridge : Bridge) (events : List BridgeEvent) : Bridge :=
  events.foldl (fun bridge event => (bridge.serve? event).getD bridge) bridge

/-- Offers payloads to an input that holds `capacity` bytes in all.  A payload
that would exceed it fails as a whole. -/
def servePayloads (bridge : Bridge) (capacity : Option Nat) (payloads : List Bytes) : Bridge :=
  payloads.foldl
    (fun bridge payload =>
      let fits :=
        match capacity with
        | none => true
        | some capacity => decide (bridge.written.length + payload.length ≤ capacity)
      bridge.serveAll
        [.payload payload, if fits then .wrote payload.length else .writeFailed])
    bridge

end Bridge

def ScriptedStream.bridgeEvents (stream : ScriptedStream) : List BridgeEvent :=
  let (lines, reader) := stream.pieces.foldl
    (fun (lines, reader) piece =>
      let (more, reader) := LineReader.feed reader piece
      (lines ++ more, reader))
    (([] : List Bytes), ({} : LineReader))
  let finished := lines.map BridgeEvent.line
  match stream.ending with
  | .closed => finished ++ reader.finish.map BridgeEvent.line ++ [.outputEnd]
  | .failed reason => finished ++ [.outputFailed reason]
  | .shutdown => finished ++ [.shutdown true]
  | .shutdownLost => finished ++ [.shutdownLost]

end TraceForward
