/-
The PID file, of which only one running instance may have the lock.

An instance opens the file or makes it, locks it without waiting, and writes
its process id into it; on the way out it removes the file and then closes it,
which releases the lock.  Every one of these is a system call of its own,
between which other instances act, so an instance is a state that advances by
one call at a time.
-/

import TraceForward.Fault
import TraceForward.Posix.Files
import TraceForward.Text.Quoted

namespace TraceForward

structure PidFile where
  path : String
  file : OpenFile
deriving DecidableEq, Repr

namespace PidFile

def content (pid : Nat) : Bytes :=
  Bytes.ofText (toString pid) ++ [0x0A]

def callFault (path : String) (fault : SystemFault) : Fault :=
  .pidFile s!"{path}: {fault.message}"

def lockedFault (path : String) : Fault :=
  .pidFile s!"{path} is locked by another instance: EAGAIN: Try again"

def display (pidFile : PidFile) : String :=
  Quoted.record "PidFile" [("path", Quoted.text pidFile.path)]

/-- Where an instance stands. -/
inductive Phase where
  | idle
  | opened (file : OpenFile)
  | locked (file : OpenFile)
  | held (file : OpenFile)
  | removed (file : OpenFile)
  | released
  | refused (fault : Fault)
deriving DecidableEq, Repr

/-- The next system call of an instance.  An instance that is done makes none. -/
def Phase.advance (path : String) (pid : Nat) (files : Files) : Phase → Phase × Files
  | .idle =>
      match files.openFile path with
      | .ok (file, files) => (.opened file, files)
      | .error fault => (.refused (callFault path fault), files)
  | .opened file =>
      match files.lock? file with
      | some files => (.locked file, files)
      | none => (.refused (lockedFault path), files.close file)
  | .locked file =>
      match files.overwrite file (content pid) with
      | .ok files => (.held file, files)
      | .error fault => (.refused (callFault path fault), files.close file)
  | .held file => (.removed file, (files.remove path).toOption.getD files)
  | .removed file => (.released, files.close file)
  | .released => (.released, files)
  | .refused fault => (.refused fault, files)

/-- Takes the PID file: opens, locks and writes it.  The file that was made
for a failed attempt stays. -/
def acquire (files : Files) (path : String) (pid : Nat) : Except Fault PidFile × Files :=
  let (opened, files) := Phase.idle.advance path pid files
  let (locked, files) := opened.advance path pid files
  match locked.advance path pid files with
  | (.held file, files) => (.ok { path, file }, files)
  | (.refused fault, files) => (.error fault, files)
  | (_, files) => (.error (lockedFault path), files)

/-- Gives the PID file up: removes its name, whatever that leads to now, and
releases the lock. -/
def release (pidFile : PidFile) (files : Files) : Files :=
  let (removed, files) := (Phase.held pidFile.file).advance pidFile.path 0 files
  (removed.advance pidFile.path 0 files).2

end PidFile

end TraceForward
