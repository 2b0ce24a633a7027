/-
What processes do, one system call after the other.

An activity is a process as the system sees it: it ends, or it makes a call and
goes on with the answer.  Programs are written as steps that are given what
comes after them, so that a program can also leave off at any point.
-/

import TraceForward.Posix.System

namespace TraceForward

structure Invocation where
  name : Bytes
  words : List Bytes := []
  environment : List (String × Bytes) := []
deriving DecidableEq, Repr

inductive Activity where
  | exit (code : Nat)
  | call (attempt : ProcessId → System → Option (Activity × System))
  | fork (child : Activity) (next : ProcessId → Activity)
  | exec (path : String) (invocation : Invocation) (next : SystemFault → Activity)
  | endless

/-- A program that comes to a value, given what is done with the value. -/
def Proc (α : Type) : Type :=
  (α → Activity) → Activity

namespace Proc

instance : Monad Proc where
  pure value := fun next => next value
  bind first rest := fun next => first fun value => rest value next

def exit {α : Type} (code : Nat) : Proc α :=
  fun _ => .exit code

def endless {α : Type} : Proc α :=
  fun _ => .endless

def attempt {α : Type} (attempt : ProcessId → System → Option (α × System)) : Proc α :=
  fun next => .call fun id system =>
    (attempt id system).map fun (value, system) => (next value, system)

def act {α : Type} (change : ProcessId → System → α × System) : Proc α :=
  attempt fun id system => some (change id system)

def look {α : Type} (view : ProcessId → System → α) : Proc α :=
  act fun id system => (view id system, system)

def change (change : ProcessId → System → System) : Proc Unit :=
  act fun id system => ((), change id system)

/-! ### Processes -/

def self : Proc ProcessId :=
  look fun id _ => id

def parent : Proc ProcessId :=
  look fun id system => ((system.process? id).map Process.parent).getD 0

def fork (child : Proc Empty) : Proc ProcessId :=
  fun next => .fork (child nofun) next

def exec (path : String) (invocation : Invocation) : Proc SystemFault :=
  fun next => .exec path invocation next

def wait (child? : Option ProcessId) : Proc (Except SystemFault (ProcessId × ExitStatus)) :=
  attempt fun id system => system.reap id child?

def waitOrSignal (child? : Option ProcessId) :
    Proc (Except SystemFault (ProcessId × ExitStatus)) :=
  attempt fun id system =>
    if (system.process? id).any fun process => process.arrived.any (· != Signal.child) then
      some (.error .interrupted, system)
    else system.reap id child?

def sleep (span : Nat) : Proc Unit := do
  change fun id system =>
    system.modify id ({ · with alarm := some (system.clock + span) })
  attempt fun id system =>
    match (system.process? id).bind Process.alarm with
    | some time =>
        if system.clock < time then none
        else some ((), system.modify id ({ · with alarm := none }))
    | none => some ((), system)

def sleepForever {α : Type} : Proc α :=
  attempt fun _ _ => none

/-! ### Signals -/

def signal (signal : Signal) (target : Int) : Proc (Option SystemFault) :=
  act fun _ system => system.signal signal target

def dispose (signal : Signal) (disposition : Option Disposition) : Proc Unit :=
  change fun id system => system.modify id fun process =>
    let others := process.dispositions.filter (·.1 != signal)
    { process with
      dispositions := (disposition.map (signal, ·)).toList ++ others }

def takeArrived : Proc (List Signal) :=
  act fun id system =>
    (((system.process? id).map fun process => process.arrived.reverse).getD [],
      system.modify id ({ · with arrived := [] }))

def isIgnored (signal : Signal) : Proc Bool :=
  look fun id system =>
    ((system.process? id).bind (·.dispositions.lookup signal)) == some .ignored

/-! ### Descriptors -/

def read (descriptor count : Nat) : Proc (Except SystemFault Bytes) :=
  attempt fun id system => system.read id descriptor (.bytes count)

def readLine (descriptor : Nat) : Proc (Except SystemFault Bytes) :=
  attempt fun id system => system.read id descriptor .line

def readAll (descriptor : Nat) : Nat → Proc Bytes
  | 0 => endless
  | fuel + 1 => do
      match ← read descriptor System.pipeCapacity with
      | .error .interrupted => readAll descriptor fuel
      | .error _ => return []
      | .ok bytes =>
          if bytes.isEmpty then return []
          else return bytes ++ (← readAll descriptor fuel)

def writeWithin (descriptor : Nat) : Nat → Bytes → Proc (Option SystemFault)
  | 0, _ => endless
  | fuel + 1, bytes => do
      if bytes.isEmpty then return none
      match ← attempt fun id system => system.write id descriptor bytes with
      | .error .interrupted => writeWithin descriptor fuel bytes
      | .error fault => return some fault
      | .ok count => writeWithin descriptor fuel (bytes.drop count)

def write (descriptor : Nat) (bytes : Bytes) : Proc (Option SystemFault) :=
  writeWithin descriptor (bytes.length + 64) bytes

def close (descriptor : Nat) : Proc Unit :=
  change fun id system => system.close id descriptor

def duplicate (source target : Nat) : Proc (Option SystemFault) :=
  act fun id system =>
    match system.number? id source with
    | none => (some .badDescriptor, system)
    | some number => (none, system.lead id target number)

def makePipe (least : Nat) : Proc (Nat × Nat) :=
  act fun id system => system.makePipe id least

def openPath (least : Nat) (path : String) (mode : System.OpenMode) :
    Proc (Except SystemFault Nat) :=
  act fun id system => system.openPath id least path mode

/-! ### Files -/

def viewFiles {α : Type} (view : Files → α) : Proc α :=
  act fun id system => system.withFiles id fun files => (view files, files)

def changeFiles (change : Files → Except SystemFault Files) : Proc (Option SystemFault) :=
  act fun id system => system.withFiles id fun files =>
    match change files with
    | .ok files => (none, files)
    | .error fault => (some fault, files)

def mask : Proc Nat :=
  look fun id system => system.mask id

def setMask (mask : Nat) : Proc Unit :=
  change fun id system => system.modify id ({ · with mask })

def directory : Proc Position :=
  look fun id system => ((system.process? id).map Process.directory).getD []

def setDirectory (position : Position) : Proc Unit :=
  change fun id system => system.modify id ({ · with directory := position })

end Proc
end TraceForward
