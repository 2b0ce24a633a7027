/-
Fields: what a word comes to.

The value of an expansion is split at the separators unless it is quoted; what
stands next to it in the word is joined to its first and last field.  A field
with wildcards that are not quoted then stands for the names that it matches.
-/

import TraceForward.Posix.Directory
import TraceForward.Shell.Pattern
import TraceForward.Posix.Launch

namespace TraceForward
namespace Shell

structure Fields where
  done : List Marked := []
  current : Option Marked := none
  afterSpace : Bool := false
deriving DecidableEq, Repr

namespace Fields

def add (fields : Fields) (quoted : Bool) (bytes : Bytes) : Fields :=
  { fields with
    current := some ((Marked.ofBytes quoted bytes).reverse ++ fields.current.getD [])
    afterSpace := false }

def cut (fields : Fields) : Fields :=
  match fields.current with
  | none => fields
  | some field => { done := field.reverse :: fields.done }

def isSpace (byte : UInt8) : Bool :=
  byte == 0x20 || byte == 0x09 || byte == 0x0A

/-- Adds a byte that may be a separator.  Spaces around another separator
belong to it. -/
def addByte (separators : Bytes) (fields : Fields) (byte : UInt8) : Fields :=
  if !separators.contains byte then fields.add false [byte]
  else
    match fields.current with
    | some field => { done := field.reverse :: fields.done, afterSpace := isSpace byte }
    | none =>
        if isSpace byte then fields
        else if fields.afterSpace then { fields with afterSpace := false }
        else { fields with done := [] :: fields.done }

def addSplit (separators : Bytes) (fields : Fields) (bytes : Bytes) : Fields :=
  bytes.foldl (addByte separators) fields

/-- Adds words, each a field of its own, the first and the last of which are
joined to what stands next to them. -/
def addAll (fields : Fields) (addOne : Fields → Bytes → Fields) : List Bytes → Fields
  | [] => fields
  | [word] => addOne fields word
  | word :: rest => addAll (addOne fields word).cut addOne rest

def toList (fields : Fields) : List Marked :=
  fields.cut.done.reverse

def whole (fields : Fields) : Marked :=
  fields.toList.flatten

end Fields

/-! ### Names of files -/

/-- A pattern cut at its slashes: the pieces between them, each with the
slashes behind it. -/
def Marked.steps : Marked → List (Marked × Bytes)
  | [] => []
  | (byte, quoted) :: rest =>
      if byte = 0x2F then
        match steps rest with
        | ([], slashes) :: others => ([], byte :: slashes) :: others
        | others => ([], [byte]) :: others
      else
        match steps rest with
        | [] => [([(byte, quoted)], [])]
        | (step, slashes) :: others => ((byte, quoted) :: step, slashes) :: others

def isLess : Bytes → Bytes → Bool
  | _, [] => false
  | [], _ :: _ => true
  | a :: left, b :: right => if a = b then isLess left right else a < b

def sortWords (words : List Bytes) : List Bytes :=
  words.mergeSort fun left right => !isLess right left

namespace Glob

/-- The names in a directory that a step of a pattern matches.  A leading dot
must be matched by a dot. -/
def matching (files : Files) (base : Bytes) (pieces : List Glob) : List Bytes :=
  match files.find (if base.isEmpty then "." else fileName base) with
  | .error _ => []
  | .ok (position, _) =>
      let names := (files.children position).map Bytes.ofText
      (["." , ".."].map Bytes.ofText ++ names).filter fun name =>
        Glob.accept pieces name && (name.head? != some 0x2E || pieces.head? == some (.exactly 0x2E))

/-- The names of files that the steps of a pattern lead to from a name. -/
def expand (files : Files) : Bytes → List (Marked × Bytes) → List Bytes
  | base, [] => if (files.find (fileName base)).isOk then [base] else []
  | base, (step, slashes) :: rest =>
      let pieces := Glob.pieces step
      if Glob.isWild pieces then
        (matching files base pieces).flatMap fun name => expand files (base ++ name ++ slashes) rest
      else expand files (base ++ step.bytes ++ slashes) rest

def namesFor (files : Files) (field : Marked) : List Bytes :=
  if Glob.isWild (Glob.pieces field) then
    match sortWords (expand files [] field.steps) with
    | [] => [field.bytes]
    | names => names
  else [field.bytes]

end Glob

end Shell
end TraceForward
