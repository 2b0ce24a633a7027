/-
Files, the names that lead to them, and their locks.

A path is a row of names from the root; it leads to an inode, which holds the
content and outlives its name.  Opening a file makes an open file of its own,
and an exclusive lock belongs to the open file that took it.  So two openings
of one path compete for one lock, while a file that was removed and made again
has a lock of its own.
-/

import TraceForward.Daemon.Stream
import TraceForward.Posix.Fault

namespace TraceForward

inductive Node where
  | file (content : Bytes)
  | directory
  | null
  | zeros
  | descriptor (number : Nat)
  | program (name : String)
  | socket (stream : ScriptedStream)
deriving DecidableEq, Repr

structure Inode where
  node : Node
  mode : Nat
deriving DecidableEq, Repr

abbrev Position := List String

structure OpenFile where
  number : Nat
  inode : Nat
deriving DecidableEq, Repr

def fileMode : Nat := 0o644

def programMode : Nat := 0o755

structure Files where
  inodes : List Inode
  entries : List (Position × Nat)
  workingDirectory : Position
  /-- The locked inodes, with the number of the open file that holds the lock. -/
  locks : List (Nat × Nat) := []
  openings : Nat := 0
deriving DecidableEq, Repr

/-! ### Paths -/

def Position.names : List Char → List String
  | [] => [""]
  | char :: rest =>
      if char = '/' then "" :: names rest
      else
        match names rest with
        | [] => [char.toString]
        | name :: others => (char.toString ++ name) :: others

namespace Files

def maxName : Nat := 255

def maxPath : Nat := 4095

def lookup? (files : Files) (position : Position) : Option Nat :=
  files.entries.lookup position

def inodeAt? (files : Files) (position : Position) : Option Inode :=
  (files.lookup? position).bind (files.inodes[·]?)

def isDirectory (files : Files) (position : Position) : Bool :=
  (files.inodeAt? position).any (·.node == .directory)

def follow (files : Files) (position : Position) (name : String) :
    Except SystemFault Position :=
  if !files.isDirectory position then .error .notADirectory
  else if name = "" ∨ name = "." then .ok position
  else if name = ".." then .ok position.dropLast
  else if maxName < name.utf8ByteSize then .error .nameTooLong
  else .ok (position ++ [name])

def walk (files : Files) : Position → List String → Except SystemFault Position
  | position, [] => .ok position
  | position, name :: rest =>
      match files.follow position name with
      | .error fault => .error fault
      | .ok next =>
          if rest.isEmpty || (files.lookup? next).isSome then walk files next rest
          else .error .notFound

structure Place where
  position : Position
  inode : Option Nat
  asDirectory : Bool
deriving DecidableEq, Repr

def locate (files : Files) (path : String) : Except SystemFault Place :=
  let chars := path.toList
  if '\x00' ∈ chars then .error .nulInFileName
  else if path.isEmpty then .error .notFound
  else if maxPath < path.utf8ByteSize then .error .nameTooLong
  else
    let start := if chars.head? = some '/' then [] else files.workingDirectory
    match files.walk start ((Position.names chars).filter (!·.isEmpty)) with
    | .error fault => .error fault
    | .ok position =>
        .ok
          { position, inode := files.lookup? position
            asDirectory := chars.getLast? = some '/' }

def find (files : Files) (path : String) : Except SystemFault (Position × Inode) :=
  match files.locate path with
  | .error fault => .error fault
  | .ok place =>
      match files.inodeAt? place.position with
      | none => .error .notFound
      | some inode =>
          if place.asDirectory && inode.node != .directory then .error .notADirectory
          else .ok (place.position, inode)

/-! ### Making and removing names -/

def put (files : Files) (position : Position) (node : Node) (mode : Nat) : Files :=
  { files with
    inodes := files.inodes ++ [{ node, mode }]
    entries := (position, files.inodes.length) :: files.entries }

def makeDirectory (files : Files) (path : String) (mode : Nat := programMode) :
    Except SystemFault Files :=
  match files.locate path with
  | .error fault => .error fault
  | .ok place =>
      if place.inode.isSome then .error .exists
      else .ok (files.put place.position .directory mode)

def remove (files : Files) (path : String) : Except SystemFault Files :=
  match files.find path with
  | .error fault => .error fault
  | .ok (position, inode) =>
      if inode.node = .directory then .error .isADirectory
      else .ok { files with entries := files.entries.filter (·.1 != position) }

/-! ### Open files and their locks -/

def openFile (files : Files) (path : String) (mode : Nat := fileMode) :
    Except SystemFault (OpenFile × Files) :=
  match files.locate path with
  | .error fault => .error fault
  | .ok place =>
      if place.asDirectory || files.isDirectory place.position then .error .isADirectory
      else
        let opened := { files with openings := files.openings + 1 }
        match place.inode with
        | some inode => .ok ({ number := files.openings, inode }, opened)
        | none =>
            .ok ({ number := files.openings, inode := files.inodes.length },
              opened.put place.position (.file []) mode)

def holder? (files : Files) (inode : Nat) : Option Nat :=
  files.locks.lookup inode

def lock? (files : Files) (file : OpenFile) : Option Files :=
  match files.holder? file.inode with
  | none => some { files with locks := (file.inode, file.number) :: files.locks }
  | some holder => if holder = file.number then some files else none

def change (files : Files) (file : OpenFile) (content : Bytes → Bytes) : Files :=
  { files with
    inodes := files.inodes.modify file.inode fun inode =>
      match inode.node with
      | .file old => { inode with node := .file (content old) }
      | _ => inode }

def overwrite (files : Files) (file : OpenFile) (content : Bytes) :
    Except SystemFault Files :=
  match (files.inodes[file.inode]?).map Inode.node with
  | some (.file _) => .ok (files.change file fun _ => content)
  | _ => .error .invalidArgument

def close (files : Files) (file : OpenFile) : Files :=
  { files with locks := files.locks.filter fun lock => lock.2 != file.number }

/-! ### Whole files -/

def read (files : Files) (path : String) : Except SystemFault Bytes :=
  match files.find path with
  | .error fault => .error fault
  | .ok (_, inode) =>
      match inode.node with
      | .file content => .ok content
      | .directory => .error .isADirectory
      | .null => .ok []
      | _ => .error .invalidArgument

def write (files : Files) (path : String) (content : Bytes) : Except SystemFault Files :=
  match files.openFile path with
  | .error fault => .error fault
  | .ok (file, files) => .ok (files.change file fun _ => content)

def makeWay (files : Files) (start : Position) : List String → Files
  | [] => files
  | name :: rest =>
      let position := start ++ [name]
      let files :=
        if (files.lookup? position).isSome then files
        else files.put position .directory programMode
      makeWay files position rest

def install (files : Files) (path : String) (content : Bytes) : Files :=
  let chars := path.toList
  let start := if chars.head? = some '/' then [] else files.workingDirectory
  let names := (Position.names chars).filter fun name => !name.isEmpty && name != "."
  (files.makeWay start names.dropLast).put (start ++ names) (.file content) programMode

def listen (files : Files) (name : String) (stream : ScriptedStream) : Files :=
  files.put (files.workingDirectory ++ [name]) (.socket stream) programMode

def maxSocketName : Nat := 107

def connect (files : Files) (path : String) : Except SystemFault ScriptedStream :=
  if '\x00' ∈ path.toList then
    .error (if path.toList.head? = some '\x00' then .connectionRefused else .nulInSocketName)
  else if maxSocketName < path.utf8ByteSize then .error .socketNameTooLong
  else if path.isEmpty then .error .invalidArgument
  else
    match files.find path with
    | .error fault => .error fault
    | .ok (_, inode) =>
        match inode.node with
        | .socket stream => .ok stream
        | _ => .error .connectionRefused

def fresh : Files :=
  let directories : List Position :=
    [[], ["tmp"], ["tmp", "work"], ["var"], ["var", "run"], ["dev"], ["dev", "fd"], ["bin"],
      ["usr"], ["usr", "bin"], ["etc"], ["root"]]
  let devices : List (Position × Node) :=
    [(["dev", "null"], .null), (["dev", "zero"], .zeros), (["dev", "stdin"], .descriptor 0),
      (["dev", "stdout"], .descriptor 1), (["dev", "stderr"], .descriptor 2),
      (["dev", "fd", "0"], .descriptor 0), (["dev", "fd", "1"], .descriptor 1),
      (["dev", "fd", "2"], .descriptor 2), (["dev", "fd", "3"], .descriptor 3)]
  let bare : Files := { inodes := [], entries := [], workingDirectory := ["tmp", "work"] }
  let tree := directories.foldl (fun files position =>
    files.put position .directory programMode) bare
  devices.foldl (fun files (position, node) => files.put position node 0o666) tree

def programDirectories : List Position :=
  [["usr", "bin"], ["bin"]]

def equipped (names : List String) : Files :=
  programDirectories.foldl (fun files directory =>
    names.foldl (fun files name =>
      files.put (directory ++ [name]) (.program name) programMode) files) fresh

end Files

end TraceForward
