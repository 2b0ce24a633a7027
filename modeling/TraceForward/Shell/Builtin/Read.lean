/-
Reading a line into variables.

The line is parted at the separators; the last variable takes what is left of
it.  A backslash quotes the character behind it, and one at the end of a line
joins the next line to it, unless lines are taken as they are.
-/

import TraceForward.Shell.Fields
import TraceForward.Shell.State

namespace TraceForward
namespace Shell
namespace Builtin

/-- A line without its end, marked where a backslash quoted; and whether the
line goes on behind its end. -/
def markLine (raw : Bool) : Bytes → Marked × Bool
  | [] => ([], false)
  | byte :: rest =>
      let add (mark : UInt8 × Bool) (rest : Marked × Bool) : Marked × Bool :=
        (mark :: rest.1, rest.2)
      if byte = 0x0A then ([], false)
      else if byte = 0x5C && !raw then
        match rest with
        | [] => ([], false)
        | next :: rest =>
            if next = 0x0A then ([], true) else add (next, true) (markLine raw rest)
      else add (byte, false) (markLine raw rest)

def parts (separators : Bytes) (mark : UInt8 × Bool) : Bool :=
  !mark.2 && separators.contains mark.1

def isGap (separators : Bytes) (mark : UInt8 × Bool) : Bool :=
  parts separators mark && Fields.isSpace mark.1

def takeField (separators : Bytes) (line : Marked) : Marked × Marked :=
  let line := line.dropWhile (isGap separators)
  let field := line.takeWhile fun mark => !parts separators mark
  let behind := (line.drop field.length).dropWhile (isGap separators)
  match behind with
  | mark :: rest =>
      if parts separators mark then (field, rest.dropWhile (isGap separators))
      else (field, behind)
  | [] => (field, [])

def lastValue (separators : Bytes) (line : Marked) : Bytes :=
  let (field, rest) := takeField separators line
  if rest.isEmpty then field.bytes
  else
    let shown := line.dropWhile (isGap separators)
    Marked.bytes (shown.reverse.dropWhile (isGap separators)).reverse

def valuesOf (separators : Bytes) : List String → Marked → List (String × Bytes)
  | [], _ => []
  | [name], line => [(name, lastValue separators line)]
  | name :: rest, line =>
      let (field, behind) := takeField separators line
      (name, field.bytes) :: valuesOf separators rest behind

/-- Reads a line with those that it is joined to; and whether it is whole. -/
def readMarked (raw : Bool) : Nat → Script (Marked × Bool)
  | 0 => Script.lift Proc.endless
  | fuel + 1 => do
      match ← Script.lift (Proc.readLine 0) with
      | .error _ => return ([], false)
      | .ok bytes =>
          let (line, goesOn) := markLine raw (bytes.filter (· != 0))
          if goesOn then
            let (more, isWhole) ← readMarked raw fuel
            return (line ++ more, isWhole)
          else return (line, bytes.getLast? == some 0x0A)

def readOptions : Bool → List Bytes → Option (Bool × List Bytes)
  | raw, [] => some (raw, [])
  | raw, word :: rest =>
      match word.chars with
      | ['-', 'r'] => readOptions true rest
      | ['-', '-'] => some (raw, rest)
      | ['-', 'p'] =>
          match rest with
          | [] => some (raw, [])
          | _ :: rest => readOptions raw rest
      | '-' :: _ :: _ => none
      | _ => some (raw, word :: rest)

def read (words : List Bytes) : Script Nat := do
  match readOptions false words with
  | none => Script.fail "Illegal option"
  | some (_, []) => Script.fail "arg count"
  | some (raw, names) =>
      let (line, isWhole) ← readMarked raw 100000
      let state ← get
      (valuesOf state.separators (names.map Bytes.latin) line).forM fun (name, value) =>
        if isName name.toList then Script.assign name value
        else Script.fail (name ++ ": bad variable name")
      return if isWhole then 0 else 1

end Builtin
end Shell
end TraceForward
