/-
The processes that a shell starts.

A shell waits for what it starts in the foreground, whatever signals come
meanwhile; the scripts for those are carried out afterwards.  What it starts in
the background is a job, which may be waited for later.
-/

import TraceForward.Shell.Redirect

namespace TraceForward
namespace Shell

/-- The status of a program that is not there, and of one that cannot be run. -/
def notFoundStatus : Nat := 127

def notRunStatus : Nat := 126

def exitCode (status : Nat) : Nat :=
  status % 256

section Children

-- Carries out a command.
variable (again : Command → Script Unit)

/-- A shell from some step on to its end, with what it does at its end. -/
def lastly (step : Script Unit) (state : State) : Proc Empty := do
  let (result, state) ← (step.run).run state
  let status :=
    match result with
    | .error (.shell status) | .error (.error status) => status
    | _ => state.status
  match state.traps.lookup 0 with
  | none | some [] => Proc.exit (exitCode status)
  | some handler =>
      let final :=
        { state with
          traps := state.traps.filter (·.1 != 0), status, statusBefore := some status }
      let (result, _) ← ((again (.script 1 handler.chars)).run).run final
      match result with
      | .error (.shell status) | .error (.error status) => Proc.exit (exitCode status)
      | _ => Proc.exit (exitCode status)

def child (step : Script Unit) (state : State) : Proc Empty := do
  let handled := state.traps.filter fun trap => !trap.2.isEmpty && trap.1 != 0
  handled.forM fun trap => Proc.dispose trap.1 none
  lastly again step { state.forChild with isLast := true }

def start (step : Script Unit) : Script ProcessId := do
  let state ← get
  Script.lift (Proc.fork (child again step state))

def await (id : ProcessId) : Script Nat := do
  match ← Script.lift (Proc.wait (some id)) with
  | .ok (_, status) => return status.shellStatus
  | .error _ => return notFoundStatus

def inChild (step : Script Unit) : Script Unit := do
  let id ← start again step
  Script.setStatus (← await id)

def capture (source : List Char) : Script Bytes := do
  let (reader, writer) ← Script.lift (Proc.makePipe Proc.firstHidden)
  let id ← start again do
    Script.lift do
      Proc.close reader
      Proc.moveBack writer 1
    modify ({ · with isTested := false })
    again (.script (← get).line source)
  Script.lift (Proc.close writer)
  let output ← Script.lift (Proc.readAll reader 100000)
  Script.lift (Proc.close reader)
  let status ← await id
  modify ({ · with outputStatus := status })
  return output

/-! ### Programs -/

def execProgram (name : Bytes) (words : List Bytes) : Script Nat := do
  let state ← get
  let invocation : Invocation := { name, words, environment := state.environment }
  match ← Script.lift (Proc.become state.searchPath invocation) with
  | .notFound | .notADirectory =>
      Script.complain s!"{name.latin}: not found"
      return notFoundStatus
  | fault =>
      Script.complain s!"{name.latin}: {fault.reason}"
      return notRunStatus

/-! ### Pipes -/

/-- Starts commands whose inputs and outputs are joined, and gives them in
order.  The first reads from `input`. -/
def startPipe : Option Nat → List Command → Script (List ProcessId)
  | _, [] => return []
  | input, [command] => do
      let id ← start again do
        (input.map fun reader => Script.lift (Proc.moveBack reader 0)).getD (pure ())
        again command
      (input.map fun reader => Script.lift (Proc.close reader)).getD (pure ())
      return [id]
  | input, command :: rest => do
      let (reader, writer) ← Script.lift (Proc.makePipe Proc.firstHidden)
      let id ← start again do
        Script.lift (Proc.close reader)
        (input.map fun reader => Script.lift (Proc.moveBack reader 0)).getD (pure ())
        Script.lift (Proc.moveBack writer 1)
        again command
      (input.map fun reader => Script.lift (Proc.close reader)).getD (pure ())
      Script.lift (Proc.close writer)
      return id :: (← startPipe (some reader) rest)

def awaitAll : List ProcessId → Script Nat
  | [] => return 0
  | [id] => await id
  | id :: rest => do
      let _ ← await id
      awaitAll rest

/-! ### Jobs -/

/-- The command of a child in the background: interrupts do not reach it, and
it reads nothing unless it is told to. -/
def inBackground (command : Command) : Script Unit := do
  Script.lift do
    Proc.dispose Signal.interrupt (some .ignored)
    Proc.dispose Signal.quit (some .ignored)
    Proc.close 0
    let _ ← Proc.openPath 0 "/dev/null" .read
  again command

def startJob (command : Command) : Script Unit := do
  let id ← start again (inBackground again command)
  modify fun state =>
    let number := (state.jobs.map Job.number).foldl max 0 + 1
    { state with
      jobs := state.jobs ++ [{ number, id }]
      lastJob := some id, status := 0 }

def awaitOrSignal (id : ProcessId) : Script (Option Nat) := do
  match ← Script.lift (Proc.waitOrSignal (some id)) with
  | .ok (_, status) => return some status.shellStatus
  | .error .interrupted => return none
  | .error _ => return some notFoundStatus

def noteStatus (id : ProcessId) (status : Nat) : Script Unit :=
  modify fun state =>
    { state with
      jobs := state.jobs.map fun job =>
        if job.id = id then { job with status := some status } else job }

end Children

end Shell
end TraceForward
