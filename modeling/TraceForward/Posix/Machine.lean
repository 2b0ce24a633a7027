/-
Processes running side by side.

Each process runs until it ends or has to wait, and then the next one does.
Time passes only when all of them wait; a process that computes without an end
lets it pass as well, once the others had their turn.
-/

import TraceForward.Posix.Launch

namespace TraceForward

/-- The programs of the system: their names, and what a call of one does. -/
structure Programs where
  names : List String
  start : Call → Activity

structure Machine where
  system : System
  activities : List (ProcessId × Activity)

namespace Machine

def set (machine : Machine) (id : ProcessId) (next : Activity) (system : System) : Machine :=
  { system
    activities := machine.activities.map fun entry =>
      if entry.1 = id then (id, next) else entry }

/-- The process as it becomes another program: what it ignores stays ignored,
and what it handled is no longer handled. -/
def replaced (process : Process) : Process :=
  { process with
    dispositions := process.dispositions.filter (·.2 == .ignored)
    arrived := []
    descriptors := process.descriptors.filter (·.1 < 10) }

def step? (programs : Programs) (machine : Machine) (id : ProcessId) : Option Machine :=
  match machine.system.process? id, machine.activities.lookup id with
  | some process, some activity =>
      if process.status.isSome || process.paused then none
      else
        match activity with
        | .exit code => some (machine.set id .endless (machine.system.finish id (.exited code)))
        | .call attempt =>
            (attempt id machine.system).map fun (next, system) => machine.set id next system
        | .fork child next =>
            let (childId, system) := machine.system.fork id
            let machine := machine.set id (next childId) system
            some { machine with activities := machine.activities ++ [(childId, child)] }
        | .exec path invocation next =>
            let directory := process.directory
            let files := { machine.system.files with workingDirectory := directory }
            match files.call path invocation with
            | .error fault => some (machine.set id (next fault) machine.system)
            | .ok call =>
                some (machine.set id (programs.start call) (machine.system.modify id replaced))
        | .endless => none
  | _, _ => none

/-- Runs a process for a number of steps at most, and says how many are left.
-/
def turn (programs : Programs) (id : ProcessId) : Nat → Machine → Nat × Machine
  | 0, machine => (0, machine)
  | left + 1, machine =>
      match machine.step? programs id with
      | none => (left + 1, machine)
      | some machine => turn programs id left machine

def share : Nat := 2000

def dropEnded (machine : Machine) : Machine :=
  { machine with
    activities := machine.activities.filter fun entry =>
      (machine.system.process? entry.1).any (·.status.isNone) }

def round (programs : Programs) (machine : Machine) : Bool × Machine :=
  let (moved, machine) := machine.activities.foldl
    (fun (moved, machine) entry =>
      let (left, machine) := turn programs entry.1 share machine
      (moved || left < share, machine))
    (false, machine)
  (moved, machine.dropEnded)

/-- Lets all processes run until they wait, for a number of rounds at most, and
says whether one still runs. -/
def settle (programs : Programs) : Nat → Machine → Bool × Machine
  | 0, machine => (true, machine)
  | rounds + 1, machine =>
      match machine.round programs with
      | (true, machine) => settle programs rounds machine
      | (false, machine) => (false, machine)

def passTo (machine : Machine) (time : Nat) : Machine :=
  let system := machine.system
  { machine with system := { system with clock := max system.clock time } }

end Machine
end TraceForward
