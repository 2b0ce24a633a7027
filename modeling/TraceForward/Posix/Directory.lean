/-
The names in directories: listing, removing, moving and copying them.
-/

import TraceForward.Posix.Files

namespace TraceForward
namespace Files

/-- The names in the directory at a position, each once and in no given
order. -/
def children (files : Files) (position : Position) : List String :=
  (files.entries.filterMap fun entry =>
    match entry.1.getLast? with
    | some name => if entry.1.dropLast = position then some name else none
    | none => none).eraseDups

def moved (source target position : Position) : Position :=
  if source.isPrefixOf position then target ++ position.drop source.length else position

def removeTree (files : Files) (position : Position) : Files :=
  { files with entries := files.entries.filter fun entry => !position.isPrefixOf entry.1 }

def removeDirectory (files : Files) (path : String) : Except SystemFault Files :=
  match files.find path with
  | .error fault => .error fault
  | .ok (position, inode) =>
      if inode.node != .directory then .error .notADirectory
      else if (files.children position).isEmpty then .ok (files.removeTree position)
      else .error .notEmpty

def rename (files : Files) (source target : String) : Except SystemFault Files := do
  let (old, inode) ← files.find source
  let place ← files.locate target
  if place.position = old then return files
  else if inode.node == .directory && old.isPrefixOf place.position then
    .error .invalidArgument
  else if files.isDirectory place.position then .error .isADirectory
  else
    let cleared := files.removeTree place.position
    return { cleared with
      entries := cleared.entries.map fun entry =>
        (moved old place.position entry.1, entry.2) }

def setMode (files : Files) (path : String) (mode : Nat → Nat) : Except SystemFault Files := do
  let (position, _) ← files.find path
  match files.lookup? position with
  | some number =>
      return { files with
        inodes := files.inodes.modify number fun inode =>
          { inode with mode := mode inode.mode } }
  | none => .error .notFound

def within {α : Type} (files : Files) (directory : Position) (act : Files → α × Files) :
    α × Files :=
  let (result, after) := act { files with workingDirectory := directory }
  (result, { after with workingDirectory := files.workingDirectory })

end Files
end TraceForward
