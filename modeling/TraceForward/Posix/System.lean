/-
What processes share: files, pipes, open descriptions and the clock.

A descriptor of a process leads to an open description, which copies of the
descriptor share with their place in the file.  A pipe keeps what was written
to it until it is read.  A call that has to wait gives no answer; it is tried
again once something has changed.
-/

import TraceForward.Posix.Directory
import TraceForward.Posix.Mode
import TraceForward.Posix.Signal

namespace TraceForward

abbrev ProcessId := Nat

inductive Target where
  | pipe (number : Nat)
  | inode (number : Nat)
  | elsewhere
deriving DecidableEq, Repr

structure Opened where
  target : Target
  readable : Bool := true
  writable : Bool := false
  appends : Bool := false
  offset : Nat := 0
deriving DecidableEq, Repr

inductive Disposition where
  | ignored
  | handled
deriving DecidableEq, Repr

structure Process where
  parent : ProcessId
  descriptors : List (Nat × Nat) := []
  directory : Position := []
  mask : Nat := 0o022
  dispositions : List (Signal × Disposition) := []
  /-- The handled signals that have come, latest first. -/
  arrived : List Signal := []
  alarm : Option Nat := none
  paused : Bool := false
  status : Option ExitStatus := none
deriving DecidableEq, Repr

structure System where
  files : Files
  clock : Nat := 0
  pipes : List Bytes := []
  opened : List Opened := []
  processes : List (ProcessId × Process) := []
  nextId : ProcessId := 1
deriving DecidableEq, Repr

namespace System

def pipeCapacity : Nat := 65536

def pipeUnit : Nat := 4096

/-! ### Processes -/

def process? (system : System) (id : ProcessId) : Option Process :=
  system.processes.lookup id

def modify (system : System) (id : ProcessId) (change : Process → Process) : System :=
  { system with
    processes := system.processes.map fun entry =>
      if entry.1 = id then (id, change entry.2) else entry }

def add (system : System) (process : Process) : ProcessId × System :=
  (system.nextId,
    { system with
      processes := system.processes ++ [(system.nextId, process)]
      nextId := system.nextId + 1 })

def fork (system : System) (id : ProcessId) : ProcessId × System :=
  let copy := (system.process? id).getD { parent := id }
  system.add { copy with parent := id, arrived := [], alarm := none }

def note (system : System) (signal : Signal) (id : ProcessId) : System :=
  system.modify id fun process =>
    if process.dispositions.lookup signal != some .handled || process.arrived.contains signal then
      process
    else { process with arrived := signal :: process.arrived, paused := false }

/-- Ends a process: its descriptors are closed, and its children are left
without a parent.  An ended process without a parent is forgotten. -/
def finish (system : System) (id : ProcessId) (status : ExitStatus) : System :=
  let ended := system.modify id fun process =>
    { process with status := some status, descriptors := [], alarm := none }
  let orphaned := ended.processes.map fun (child, process) =>
    (child, if process.parent = id then { process with parent := 0 } else process)
  let parent := ((system.process? id).map Process.parent).getD 0
  { ended with
    processes := orphaned.filter fun entry =>
      entry.2.status.isNone || entry.2.parent != 0 }.note Signal.child parent

/-- The answer to a wait for a child that has ended, which is then forgotten:
`noChild` where there is none to wait for, and no answer where one runs on. -/
def reap (system : System) (id : ProcessId) (child? : Option ProcessId) :
    Option (Except SystemFault (ProcessId × ExitStatus) × System) :=
  let children := system.processes.filter fun entry =>
    entry.2.parent == id && child?.all (entry.1 == ·)
  match children.findSome? fun entry => entry.2.status.map (entry.1, ·) with
  | some (child, status) =>
      some (.ok (child, status),
        { system with processes := system.processes.filter (·.1 != child) })
  | none => if children.isEmpty then some (.error .noChild, system) else none

/-! ### Signals -/

def deliver (system : System) (signal : Signal) (id : ProcessId) : System :=
  match system.process? id with
  | none => system
  | some process =>
      if process.status.isSome || signal = 0 then system
      else if signal.isForced then
        if signal = Signal.kill then system.finish id (.signalled signal)
        else system.modify id ({ · with paused := true })
      else
        match process.dispositions.lookup signal with
        | some .ignored => system
        | some .handled => system.note signal id
        | none =>
            if signal = Signal.resume then system.modify id ({ · with paused := false })
            else if signal.isHarmless then system
            else if signal.pauses then system.modify id ({ · with paused := true })
            else system.finish id (.signalled signal)

/-- Sends a signal to a process, or to all of them: they are one group, which no
process gives its number to. -/
def signal (system : System) (signal : Signal) (target : Int) : Option SystemFault × System :=
  if target < -1 then (some .noProcess, system)
  else if target ≤ 0 then
    (none, (system.processes.map Prod.fst).foldl (·.deliver signal) system)
  else if (system.process? target.toNat).isNone then (some .noProcess, system)
  else (none, system.deliver signal target.toNat)

/-! ### Descriptors -/

def number? (system : System) (id : ProcessId) (descriptor : Nat) : Option Nat :=
  (system.process? id).bind (·.descriptors.lookup descriptor)

def opened? (system : System) (id : ProcessId) (descriptor : Nat) : Option (Nat × Opened) :=
  (system.number? id descriptor).bind fun number =>
    (system.opened[number]?).map (number, ·)

def freeFrom (taken : List Nat) (least : Nat) : Nat :=
  ((List.range (taken.length + 1)).map (least + ·)).find? (!taken.contains ·) |>.getD least

def lead (system : System) (id : ProcessId) (descriptor number : Nat) : System :=
  system.modify id fun process =>
    { process with
      descriptors :=
        (descriptor, number) :: process.descriptors.filter (·.1 != descriptor) }

def leadFree (system : System) (id : ProcessId) (least number : Nat) : Nat × System :=
  let taken := ((system.process? id).map fun process =>
    process.descriptors.map Prod.fst).getD []
  let descriptor := freeFrom taken least
  (descriptor, system.lead id descriptor number)

def close (system : System) (id : ProcessId) (descriptor : Nat) : System :=
  system.modify id fun process =>
    { process with descriptors := process.descriptors.filter (·.1 != descriptor) }

def describe (system : System) (opened : Opened) : Nat × System :=
  (system.opened.length, { system with opened := system.opened ++ [opened] })

def openAt (system : System) (id : ProcessId) (least : Nat) (opened : Opened) :
    Nat × System :=
  let (number, system) := system.describe opened
  system.leadFree id least number

def makePipe (system : System) (id : ProcessId) (least : Nat) : (Nat × Nat) × System :=
  let pipe := system.pipes.length
  let system := { system with pipes := system.pipes ++ [[]] }
  let (reader, system) := system.openAt id least { target := .pipe pipe }
  let (writer, system) :=
    system.openAt id least { target := .pipe pipe, readable := false, writable := true }
  ((reader, writer), system)

def isHeld (system : System) (isEnd : Opened → Bool) : Bool :=
  system.processes.any fun entry =>
    entry.2.descriptors.any fun lead => (system.opened[lead.2]?).any isEnd

def hasWriter (system : System) (pipe : Nat) : Bool :=
  system.isHeld fun opened => opened.writable && opened.target == .pipe pipe

def hasReader (system : System) (pipe : Nat) : Bool :=
  system.isHeld fun opened => opened.readable && opened.target == .pipe pipe

/-! ### Reading and writing -/

def pipeContent (system : System) (pipe : Nat) : Bytes :=
  (system.pipes[pipe]?).getD []

def setPipe (system : System) (pipe : Nat) (content : Bytes) : System :=
  { system with pipes := system.pipes.set pipe content }

def moveTo (system : System) (number offset : Nat) : System :=
  { system with opened := system.opened.modify number ({ · with offset }) }

inductive Demand where
  | bytes (count : Nat)
  | line
deriving DecidableEq, Repr

def lineOf (content : Bytes) : Bytes × Bool :=
  let length := (content.takeWhile (· != 0x0A)).length
  (content.take (length + 1), length < content.length)

/-- What a demand takes of a content, and whether it is satisfied before the
content ends. -/
def Demand.take (demand : Demand) (content : Bytes) : Bytes × Bool :=
  match demand with
  | .bytes count => (content.take count, !content.isEmpty)
  | .line => lineOf content

/-- Reads from a descriptor.  There is no answer from a pipe that may still be
written to, unless it satisfies the demand or a handled signal has come. -/
def read (system : System) (id : ProcessId) (descriptor : Nat) (demand : Demand) :
    Option (Except SystemFault Bytes × System) :=
  match system.opened? id descriptor with
  | none => some (.error .badDescriptor, system)
  | some (number, opened) =>
      if !opened.readable then some (.error .badDescriptor, system)
      else
        match opened.target with
        | .elsewhere => some (.ok [], system)
        | .pipe pipe =>
            let content := system.pipeContent pipe
            let (taken, satisfied) := demand.take content
            if satisfied || !system.hasWriter pipe then
              some (.ok taken, system.setPipe pipe (content.drop taken.length))
            else if (system.process? id).any fun process => !process.arrived.isEmpty then
              some (.error .interrupted, system)
            else none
        | .inode inode =>
            match (system.files.inodes[inode]?).map Inode.node with
            | some (.file content) =>
                let (taken, _) := demand.take (content.drop opened.offset)
                some (.ok taken, system.moveTo number (opened.offset + taken.length))
            | some .directory => some (.error .isADirectory, system)
            | some .zeros =>
                let count := match demand with
                  | .bytes count => count
                  | .line => 1
                some (.ok (List.replicate count 0), system)
            | _ => some (.ok [], system)

def overwritten (content : Bytes) (offset : Nat) (bytes : Bytes) : Bytes :=
  let front := content.take offset
  front ++ List.replicate (offset - front.length) 0 ++ bytes
    ++ content.drop (offset + bytes.length)

/-- Writes to a descriptor, and says how many bytes were taken.  A full pipe
gives no answer; one that nobody reads ends the writer by a signal. -/
def write (system : System) (id : ProcessId) (descriptor : Nat) (bytes : Bytes) :
    Option (Except SystemFault Nat × System) :=
  match system.opened? id descriptor with
  | none => some (.error .badDescriptor, system)
  | some (number, opened) =>
      if !opened.writable then some (.error .badDescriptor, system)
      else
        match opened.target with
        | .elsewhere => some (.ok bytes.length, system)
        | .pipe pipe =>
            let content := system.pipeContent pipe
            let space := pipeCapacity - content.length
            if !system.hasReader pipe then
              some (.error .brokenPipe, system.deliver Signal.brokenPipe id)
            else if bytes.length ≤ space then
              some (.ok bytes.length, system.setPipe pipe (content ++ bytes))
            else if pipeUnit < bytes.length && 0 < space then
              some (.ok space, system.setPipe pipe (content ++ bytes.take space))
            else if (system.process? id).any fun process => !process.arrived.isEmpty then
              some (.error .interrupted, system)
            else none
        | .inode inode =>
            match (system.files.inodes[inode]?).map Inode.node with
            | some (.file content) =>
                let offset := if opened.appends then content.length else opened.offset
                let files := system.files.change { number := 0, inode } fun old =>
                  overwritten old offset bytes
                some (.ok bytes.length,
                  { system with files }.moveTo number (offset + bytes.length))
            | _ => some (.ok bytes.length, system)

inductive OpenMode where
  | read
  | readWrite
  | write
  | append
deriving DecidableEq, Repr

def mask (system : System) (id : ProcessId) : Nat :=
  ((system.process? id).map Process.mask).getD 0

def withFiles {α : Type} (system : System) (id : ProcessId) (act : Files → α × Files) :
    α × System :=
  let directory := ((system.process? id).map Process.directory).getD []
  let (result, files) := system.files.within directory act
  (result, { system with files })

/-- The number of the inode that a path leads to, made if the mode asks for
it. -/
def openInode (files : Files) (path : String) (mode : OpenMode) (permissions : Nat) :
    Except SystemFault Nat × Files :=
  match mode with
  | .read =>
      match files.find path with
      | .error fault => (.error fault, files)
      | .ok (position, _) =>
          match files.lookup? position with
          | some inode => (.ok inode, files)
          | none => (.error .notFound, files)
  | mode =>
      match files.openFile path permissions with
      | .error fault => (.error fault, files)
      | .ok (file, files) =>
          (.ok file.inode, if mode = .write then files.change file fun _ => [] else files)

def openPath (system : System) (id : ProcessId) (least : Nat) (path : String)
    (mode : OpenMode) : Except SystemFault Nat × System :=
  let permissions := Mode.without 0o666 (system.mask id)
  let (found, system) := system.withFiles id fun files => openInode files path mode permissions
  match found with
  | .error fault => (.error fault, system)
  | .ok inode =>
      match (system.files.inodes[inode]?).map Inode.node with
      | some (.descriptor descriptor) =>
          match system.number? id descriptor with
          | none => (.error .notFound, system)
          | some number =>
              let (descriptor, system) := system.leadFree id least number
              (.ok descriptor, system)
      | some (.socket _) => (.error .notFound, system)
      | _ =>
          let (descriptor, system) := system.openAt id least
            { target := .inode inode
              readable := mode == .read || mode == .readWrite
              writable := mode != .read
              appends := mode == .append }
          (.ok descriptor, system)

/-! ### Time -/

def nextAlarm? (system : System) : Option Nat :=
  (system.processes.filterMap fun entry => if entry.2.paused then none else entry.2.alarm).min?

end System
end TraceForward
