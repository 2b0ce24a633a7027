/-
The interpreter of trace scripts, as a child of the daemon.

It is called with the script and its arguments, and the daemon attends to both
of its pipes.  Once the loop over them has ended, the pipes are closed and the
interpreter gets a bounded time to exit; it is killed when it takes longer.

Any program may be the interpreter, and a run comes to what that program does.
So the programs that can be started are a parameter.
-/

import TraceForward.Daemon.Bridge
import TraceForward.Posix.Machine

namespace TraceForward
namespace Interpreter

def environment : List (String × Bytes) :=
  [("HOME", Bytes.ofText "/root"), ("PATH", Bytes.ofText Files.defaultSearchPath)]

def call (files : Files) (program script : String) (arguments : List String) :
    Except Fault Call :=
  let words := "-s" :: script :: arguments
  let found : Except SystemFault Call :=
    if (program :: words).any fun word => word.toList.contains '\x00' then .error .nulInCommand
    else
      files.search Files.defaultSearchPath program
        { name := Bytes.ofText program, words := words.map Bytes.ofText, environment }
  match found with
  | .ok call => .ok call
  | .error fault => .error (.io s!"{program}: {fault.message}")

def nanoseconds (milliseconds : Nat) : Nat :=
  milliseconds * 1000000

/-! ### The daemon and its child -/

def daemonId : ProcessId := 4241

def childId : ProcessId := 4242

def inputEnd : Nat := 4

def outputEnd : Nat := 5

/-- The daemon as a process.  It takes care of requests to end, and notices by
itself that nobody reads what it writes. -/
def daemon (files : Files) : Process :=
  { parent := 1
    directory := files.workingDirectory
    dispositions := [(Signal.brokenPipe, .ignored), (Signal.interrupt, .handled),
      (Signal.terminate, .handled)] }

/-- The shared state with the daemon, the interpreter and the pipes between
them. -/
def prepare (files : Files) : System :=
  let bare : System := { files, nextId := daemonId }
  let (_, system) := bare.add (daemon files)
  let (child, system) :=
    system.add { parent := daemonId, directory := files.workingDirectory }
  let (_, system) := system.makePipe daemonId 3
  let (_, system) := system.makePipe daemonId 5
  let (hidden, system) := system.describe { target := .elsewhere, writable := true }
  let lead (system : System) (source target : Nat) : System :=
    match system.number? daemonId source with
    | some number => system.lead child target number
    | none => system
  let joined := (lead (lead system 3 0) 6 1).lead child 2 hidden
  (joined.close daemonId 3).close daemonId 6

structure Attendance where
  machine : Machine
  bridge : Bridge
  reader : LineReader := {}
  payloads : List Bytes := []
  isInputClosed : Bool := true

namespace Attendance

def serve (attendance : Attendance) (system : System) (events : List BridgeEvent) :
    Attendance :=
  { attendance with
    machine := { attendance.machine with system }
    bridge := attendance.bridge.serveAll events }

/-- Writes what is left of a payload, as far as the pipe takes it. -/
def writeOn? (attendance : Attendance) : Option Attendance :=
  let system := attendance.machine.system
  match system.write daemonId inputEnd attendance.bridge.writing with
  | none => none
  | some (.ok count, system) => some (attendance.serve system [.wrote count])
  | some (.error _, system) =>
      some (attendance.serve (system.close daemonId inputEnd) [.writeFailed])

def readOn? (attendance : Attendance) : Option Attendance :=
  let system := attendance.machine.system
  match system.read daemonId outputEnd (.bytes System.pipeCapacity) with
  | none => none
  | some (result, system) =>
      let bytes := result.toOption.getD []
      if bytes.isEmpty then
        some (attendance.serve system
          (attendance.reader.finish.map BridgeEvent.line ++ [.outputEnd]))
      else
        let (lines, reader) := attendance.reader.feed bytes
        some ({ attendance with reader }.serve system (lines.map BridgeEvent.line))

def receive? (attendance : Attendance) : Option Attendance :=
  let system := attendance.machine.system
  if !attendance.bridge.inputOpen then none
  else
    match attendance.payloads with
    | payload :: payloads => some ({ attendance with payloads }.serve system [.payload payload])
    | [] =>
        if attendance.isInputClosed then
          some (attendance.serve (system.close daemonId inputEnd) [.inputEnd])
        else none

def isAsked (attendance : Attendance) : Bool :=
  (attendance.machine.system.process? daemonId).any fun process => !process.arrived.isEmpty

def exchange? (attendance : Attendance) : Option Attendance :=
  if attendance.bridge.ended.isSome then none
  else if !attendance.bridge.writing.isEmpty then attendance.writeOn?
  else if attendance.isAsked then
    some (attendance.serve attendance.machine.system [.shutdown true])
  else attendance.receive?.orElse fun _ => attendance.readOn?

/-- Serves events as long as there are some, and says whether there were. -/
def exchangeAll : Nat → Attendance → Bool × Attendance
  | 0, attendance => (false, attendance)
  | fuel + 1, attendance =>
      match attendance.exchange? with
      | none => (false, attendance)
      | some attendance => (true, (exchangeAll fuel attendance).2)

def status? (attendance : Attendance) : Option ExitStatus :=
  (attendance.machine.system.process? childId).bind Process.status

end Attendance

def looks : Nat := 20000

def turns : Nat := 25

/-- How often an interpreter may be found computing while nothing else can
happen. -/
def patience : Nat := 40

section Running

variable (programs : Programs)

/-- Attends to the interpreter until the loop has ended; nothing if it does not
seem to end. -/
def attend? : Nat → Nat → Attendance → Option Attendance
  | 0, _, _ => none
  | fuel + 1, patience, attendance =>
      let (_, attendance) := attendance.exchangeAll looks
      if attendance.bridge.ended.isSome then some attendance
      else
        let (isBusy, machine) := attendance.machine.settle programs turns
        let settled := { attendance with machine }
        if settled.exchange?.isSome then attend? fuel patience settled
        else
          match machine.system.nextAlarm? with
          | some time => attend? fuel patience { settled with machine := machine.passTo time }
          | none => if isBusy && 0 < patience then attend? fuel (patience - 1) settled else none

def await (limit : Nat) : Nat → Nat → Attendance → Attendance
  | 0, _, attendance => attendance
  | fuel + 1, patience, attendance =>
      if attendance.status?.isSome then attendance
      else
        let (isBusy, machine) := attendance.machine.settle programs turns
        let settled := { attendance with machine }
        if settled.status?.isSome then settled
        else
          match machine.system.nextAlarm? with
          | some time =>
              if limit < time then settled
              else await limit fuel patience { settled with machine := machine.passTo time }
          | none =>
              if isBusy && 0 < patience then await limit fuel (patience - 1) settled else settled

end Running

structure Attended where
  bridge : Bridge
  status : Option ExitStatus
  files : Files

structure Terms where
  outlet : Outlet
  payloads : List Bytes := []
  isInputClosed : Bool := true
  isStopped : Except Fault BridgeExit → Bool := fun _ => false
  waitMs : Nat

def run? (programs : Programs) (files : Files) (call : Call) (terms : Terms) :
    Option Attended := do
  let machine : Machine :=
    { system := prepare files, activities := [(childId, programs.start call)] }
  let attended ← attend? programs looks patience
    { machine, bridge := { outlet := terms.outlet }, payloads := terms.payloads
      isInputClosed := terms.isInputClosed }
  let ended ← attended.bridge.ended
  let system := attended.machine.system
  let closed := (system.close daemonId inputEnd).close daemonId outputEnd
  let asked := if terms.isStopped ended then closed.deliver Signal.terminate childId else closed
  let last := await programs (system.clock + nanoseconds terms.waitMs) looks patience
    { attended with machine := { attended.machine with system := asked } }
  return { bridge := attended.bridge, status := last.status?, files := last.machine.system.files }

end Interpreter
end TraceForward
