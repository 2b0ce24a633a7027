/-
Finding the lines that match an expression.
-/

import TraceForward.Tools.Lines
import TraceForward.Tools.Regex

namespace TraceForward
namespace Tool

structure Searching where
  regexes : List Regex
  given : Given
  isNamed : Bool

def literalRegex (text : Bytes) : Regex :=
  text.foldr (fun byte regex => .seq (.byte byte) regex) .empty

def patternRegex? (given : Given) (pattern : Bytes) : Option Regex :=
  let read :=
    match given.last? "EFG" with
    | some ('F', _) => some (literalRegex pattern)
    | some ('E', _) => Regex.parse? { isExtended := true } pattern.chars
    | _ => Regex.parse? {} pattern.chars
  read.map fun regex =>
    if given.has 'x' then .seq .start (.seq regex .finish)
    else if given.has 'w' then .seq (.apart false) (.seq regex (.apart true))
    else regex

namespace Searching

/-- The first match in a line from a place on; of several at one place, the
longest. -/
def find? (searching : Searching) (subject : Regex.Subject) (place : Nat) :
    Option Regex.Match :=
  let found := searching.regexes.filterMap fun regex => regex.search subject place
  found.foldl (fun best? one =>
    match best? with
    | none => some one
    | some best =>
        if one.first < best.first || (one.first = best.first && best.last < one.last) then some one
        else some best) none

def allIn (searching : Searching) (subject : Regex.Subject) : Nat → Nat → List Bytes
  | 0, _ => []
  | fuel + 1, place =>
      match searching.find? subject place with
      | none => []
      | some found =>
          if found.last = found.first then
            if found.last < subject.bytes.size then allIn searching subject fuel (found.last + 1)
            else []
          else subject.between found.first found.last :: allIn searching subject fuel found.last

structure Progress where
  line : Nat := 0
  count : Nat := 0
deriving DecidableEq, Repr

def step (searching : Searching) (name : Bytes) (progress : Progress) (line : Bytes) :
    Proc (Progress × Bool) := do
  let given := searching.given
  let text := bare line
  let subject : Regex.Subject :=
    { bytes := text.toArray, foldsCase := given.has 'i' || given.has 'y' }
  let isFound := (searching.find? subject 0).isSome != given.has 'v'
  let progress := { progress with line := progress.line + 1 }
  if !isFound then return (progress, false)
  let progress := { progress with count := progress.count + 1 }
  let head :=
    (if searching.isNamed then name ++ [0x3A] else [])
      ++ (if given.has 'n' then digits progress.line ++ [0x3A] else [])
  let isSilent := given.has 'q' || given.has 'c' || given.has 'l' || given.has 'L'
  if !isSilent then
    let shown :=
      if given.has 'o' then
        if given.has 'v' then [] else searching.allIn subject (text.length + 1) 0
      else [text]
    let _ ← print "grep" (shown.flatMap fun part => head ++ part ++ [0x0A]) 0
  let limit := ((given.value? 'm').bind natural?).getD (progress.count + 1)
  return (progress, given.has 'q' || given.has 'l' || limit ≤ progress.count)

def searchFile (searching : Searching) (word : Bytes) : Proc (Option Nat) := do
  let given := searching.given
  match ← openOperand word with
  | .error fault => do
      if !given.has 's' then complain (Bytes.ofText "grep") s!"{fileName word}: {fault.reason}"
      return none
  | .ok descriptor => do
      let name := if word = [0x2D] then Bytes.ofText "(standard input)" else word
      let (progress, _) ← eachLine (searching.step name) descriptor rounds [] {}
      if descriptor != 0 then Proc.close descriptor
      let line :=
        if given.has 'q' then []
        else if given.has 'l' then if 0 < progress.count then name ++ [0x0A] else []
        else if given.has 'L' then if progress.count = 0 then name ++ [0x0A] else []
        else if given.has 'c' then
          (if searching.isNamed then name ++ [0x3A] else []) ++ digits progress.count ++ [0x0A]
        else []
      let _ ← print "grep" line 0
      return some progress.count

def searchAll (searching : Searching) : List Bytes → Proc (Nat × Bool)
  | [] => return (0, false)
  | word :: rest => do
      let found ← searching.searchFile word
      let (count, failed) ← searchAll searching rest
      return (found.getD 0 + count, failed || found.isNone)

end Searching

def grep (usual : String) : Tool :=
  withOptions
    { flags := "EFGivcnqslLoxwhHyaUIr", valued := "emf"
      long := [("extended-regexp", 'E'), ("fixed-strings", 'F'), ("ignore-case", 'i'),
        ("invert-match", 'v'), ("count", 'c'), ("line-number", 'n'), ("quiet", 'q'),
        ("silent", 'q'), ("no-messages", 's'), ("files-with-matches", 'l'),
        ("only-matching", 'o'), ("line-regexp", 'x'), ("word-regexp", 'w'),
        ("max-count", 'm'), ("regexp", 'e')] } 2 fun given => do
    let given := { given with options := usual.toList.map (·, []) ++ given.options }
    let written := given.options.filterMap fun option =>
      if option.1 = 'e' then some option.2 else none
    let (patterns, operands) :=
      if written.isEmpty then (given.operands.take 1, given.operands.drop 1)
      else (written, given.operands)
    let lines := patterns.flatMap fun pattern => splitAt 0x0A pattern
    match if patterns.isEmpty then none else lines.mapM (patternRegex? given) with
    | none => refuse "grep" "invalid pattern" 2
    | some regexes =>
        let isNamed := (1 < operands.length || given.has 'H') && !given.has 'h'
        let (count, failed) ←
          Searching.searchAll { regexes, given, isNamed }
            (if operands.isEmpty then [[0x2D]] else operands)
        if failed && !(given.has 'q' && 0 < count) then return 2
        else return if 0 < count then 0 else 1

end Tool
end TraceForward
