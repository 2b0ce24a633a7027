/-
How a program is found.

A path leads to a program of the system or to a script.  A script begins with a
line that names the program to be called instead: with the word behind that
name, the path of the script, and what the script was called with.  That
program may be a script again, to a certain depth.
-/

import TraceForward.Posix.Proc
import TraceForward.Text.Utf8

namespace TraceForward

structure Call where
  program : String
  invocation : Invocation
deriving DecidableEq, Repr

structure Shebang where
  interpreter : Bytes
  option : Option Bytes := none
deriving DecidableEq, Repr

namespace Shebang

def window : Nat := 256

def isSpace (byte : UInt8) : Bool :=
  byte == 0x20 || byte == 0x09

def endsName (byte : UInt8) : Bool :=
  isSpace byte || byte == 0

def trimEnd (bytes : Bytes) : Bytes :=
  (bytes.reverse.dropWhile isSpace).reverse

/-- The first line of a script, behind its mark.  A line that does not end in
the window must at least end the name of the program there. -/
def line? (content : Bytes) : Option Bytes :=
  let start := content.take window
  let seen := start ++ List.replicate (window - start.length) 0
  match seen with
  | 0x23 :: 0x21 :: rest =>
      if rest.contains 0x0A then some (trimEnd (rest.takeWhile (· != 0x0A)))
      else if (rest.dropWhile isSpace).any endsName then some (trimEnd rest)
      else none
  | _ => none

def ofContent? (content : Bytes) : Option Shebang :=
  match line? content with
  | none => none
  | some line =>
      let bare := line.dropWhile isSpace
      let interpreter := bare.takeWhile fun byte => !endsName byte
      let behind := bare.drop interpreter.length
      let option := (behind.dropWhile isSpace).takeWhile (· != 0)
      if interpreter.isEmpty then none
      else
        some
          { interpreter
            option :=
              if behind.head? = some 0 || option.isEmpty then none else some option }

end Shebang

/-- A word as a file name: text if it is UTF-8, and otherwise a character for
each byte. -/
def fileName (word : Bytes) : String :=
  (Utf8.decode? word).getD word.latin

namespace Files

def maxScripts : Nat := 5

def maxWord : Nat := 131072

def callWithin (files : Files) : Nat → String → Invocation → Except SystemFault Call
  | depth, path, invocation =>
      match files.find path with
      | .error fault => .error fault
      | .ok (_, inode) =>
          match inode.node with
          | .program program => .ok { program, invocation }
          | .file content =>
              if inode.mode &&& 0o111 = 0 then .error .permissionDenied
              else
                match Shebang.ofContent? content, depth with
                | none, _ => .error .badFormat
                | some _, 0 => .error .tooManyLinks
                | some line, depth + 1 =>
                    callWithin files depth (fileName line.interpreter)
                      { invocation with
                        name := line.interpreter
                        words :=
                          line.option.toList ++ Bytes.ofText path :: invocation.words }
          | _ => .error .permissionDenied

def call (files : Files) (path : String) (invocation : Invocation) : Except SystemFault Call :=
  if (invocation.name :: invocation.words).any fun word => maxWord ≤ word.length then
    match files.find path with
    | .error fault => .error fault
    | .ok _ => .error .argumentsTooLong
  else files.callWithin maxScripts path invocation

/-- Tries the places of a search path one after the other.  A place where the
program may not be run is remembered, and one where it is not is passed over. -/
def firstCall (files : Files) (invocation : Invocation) :
    List String → SystemFault → Except SystemFault Call
  | [], fault => .error fault
  | path :: rest, fault =>
      match files.call path invocation with
      | .ok call => .ok call
      | .error .permissionDenied => firstCall files invocation rest .permissionDenied
      | .error .notFound | .error .notADirectory => firstCall files invocation rest fault
      | .error other => .error other

/-- The places of a search path where a program may be.  An empty place is the
working directory. -/
def placesOf (searchPath name : String) : List String :=
  (searchPath.splitOn ":").map fun place => if place.isEmpty then name else place ++ "/" ++ name

def defaultSearchPath : String :=
  "/usr/local/sbin:/usr/local/bin:/usr/sbin:/usr/bin:/sbin:/bin"

/-- Finds a program, by a path or by its name among those on the search
path. -/
def search (files : Files) (searchPath name : String) (invocation : Invocation) :
    Except SystemFault Call :=
  if name.isEmpty then .error .notFound
  else if name.toList.contains '/' then files.call name invocation
  else files.firstCall invocation (placesOf searchPath name) .notFound

/-- The places where a program may be: its path, or those of the search path. -/
def candidates (searchPath name : String) : List String :=
  if name.isEmpty then []
  else if name.toList.contains '/' then [name]
  else placesOf searchPath name

end Files

namespace Proc

/-- Becomes the program at one of the given places.  A file that is no program
is taken for a script. -/
def becomeFirst (invocation : Invocation) : List String → SystemFault → Proc SystemFault
  | [], fault => pure fault
  | path :: rest, fault => do
      match ← exec path invocation with
      | .badFormat =>
          let script := Bytes.ofText path
          exec "/bin/sh"
            { invocation with
              name := Bytes.ofText "/bin/sh", words := script :: invocation.words }
      | .notFound | .notADirectory => becomeFirst invocation rest fault
      | other => becomeFirst invocation rest other

def become (searchPath : String) (invocation : Invocation) : Proc SystemFault :=
  becomeFirst invocation (Files.candidates searchPath (fileName invocation.name)) .notFound

end Proc
end TraceForward
