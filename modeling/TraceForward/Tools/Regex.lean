/-
Regular expressions over bytes.

An expression is read in one of two ways: in the basic way brackets and signs of
repetition are written with a backslash, in the extended way without one.  Of
all matches at the first place that has one, the longest counts.
-/

import TraceForward.Shell.Pattern

namespace TraceForward

inductive Regex where
  | empty
  | among (isMember : Bool) (ranges : List Shell.ByteRange)
  | start
  | finish
  | edge (atStart atEnd : Bool)
  | apart (behind : Bool)
  | seq (first second : Regex)
  | either (first second : Regex)
  | repeated (least : Nat) (most : Option Nat) (part : Regex)
  | group (number : Nat) (part : Regex)
  | again (number : Nat)
deriving DecidableEq, Repr

namespace Regex

/-! ### Reading -/

structure Dialect where
  isExtended : Bool := false
deriving DecidableEq, Repr

structure Taken where
  regex : Regex
  rest : List Char
  groups : Nat

def byte (byte : UInt8) : Regex :=
  .among true [⟨byte, byte⟩]

def ofChar (char : Char) : Regex :=
  byte (UInt8.ofNat char.toNat)

def any : Regex :=
  .among false []

def wordBytes : List Shell.ByteRange :=
  [⟨0x30, 0x39⟩, ⟨0x41, 0x5A⟩, ⟨0x5F, 0x5F⟩, ⟨0x61, 0x7A⟩]

def spaceBytes : List Shell.ByteRange :=
  [⟨0x20, 0x20⟩, ⟨0x09, 0x0D⟩]

def takeClass (chars : List Char) : Option (List Shell.ByteRange × List Char) :=
  let name := chars.takeWhile (· != ':')
  match chars.drop name.length with
  | ':' :: ']' :: rest => (Shell.Glob.classes.lookup (String.ofList name)).map (·, rest)
  | _ => none

def takeMembers : Nat → Bool → List Char → Option (List Shell.ByteRange × List Char)
  | 0, _, _ => none
  | _ + 1, _, [] => none
  | fuel + 1, isFirst, char :: rest =>
      let add (ranges : List Shell.ByteRange) (rest : List Char) :=
        (takeMembers fuel false rest).map fun (more, rest) => (ranges ++ more, rest)
      let code (char : Char) : UInt8 := UInt8.ofNat char.toNat
      if char = ']' && !isFirst then some ([], rest)
      else
        match char, rest with
        | '[', ':' :: behind => (takeClass behind).bind fun (ranges, rest) => add ranges rest
        | '\\', 'n' :: behind => add [⟨0x0A, 0x0A⟩] behind
        | '\\', 't' :: behind => add [⟨0x09, 0x09⟩] behind
        | char, '-' :: last :: behind =>
            if last = ']' then add [⟨code char, code char⟩] rest
            else if code last < code char then none
            else add [⟨code char, code last⟩] behind
        | char, rest => add [⟨code char, code char⟩] rest

def takeSet (chars : List Char) : Option (Regex × List Char) :=
  let (isMember, members) :=
    match chars with
    | '^' :: rest => (false, rest)
    | chars => (true, chars)
  (takeMembers (members.length + 1) true members).map fun (ranges, rest) =>
    (.among isMember ranges, rest)

def takeBounds (isExtended : Bool) (chars : List Char) :
    Option (Nat × Option Nat × List Char) :=
  let first := chars.takeWhile Char.isDigit
  let least := (String.ofList first).toNat?.getD 0
  let (most, behind) : Option Nat × List Char :=
    match chars.drop first.length with
    | ',' :: rest =>
        let last := rest.takeWhile Char.isDigit
        ((String.ofList last).toNat?, rest.drop last.length)
    | rest => (some least, rest)
  match isExtended, behind with
  | true, '}' :: rest => some (least, most, rest)
  | false, '\\' :: '}' :: rest => some (least, most, rest)
  | _, _ => none

def takeRepetition (dialect : Dialect) (chars : List Char) :
    Option (Nat × Option Nat × List Char) :=
  match chars with
  | '*' :: rest => some (0, none, rest)
  | '+' :: rest => if dialect.isExtended then some (1, none, rest) else none
  | '?' :: rest => if dialect.isExtended then some (0, some 1, rest) else none
  | '{' :: rest => if dialect.isExtended then takeBounds true rest else none
  | '\\' :: '+' :: rest => if dialect.isExtended then none else some (1, none, rest)
  | '\\' :: '?' :: rest => if dialect.isExtended then none else some (0, some 1, rest)
  | '\\' :: '{' :: rest => if dialect.isExtended then none else takeBounds false rest
  | _ => none

def repeatBySigns (dialect : Dialect) : Nat → Regex → List Char → Regex × List Char
  | 0, regex, chars => (regex, chars)
  | fuel + 1, regex, chars =>
      match takeRepetition dialect chars with
      | none => (regex, chars)
      | some (least, most, rest) =>
          repeatBySigns dialect fuel (.repeated least most regex) rest

def escaped (char : Char) : Regex :=
  match char with
  | 'n' => byte 0x0A
  | 't' => byte 0x09
  | 'w' => .among true wordBytes
  | 'W' => .among false wordBytes
  | 's' => .among true spaceBytes
  | 'S' => .among false spaceBytes
  | '<' => .edge true false
  | '>' => .edge false true
  | 'b' => .edge true true
  | char => if char.isDigit && char != '0' then .again (char.toNat - 48) else ofChar char

def atEnd (dialect : Dialect) (chars : List Char) : Bool :=
  match dialect.isExtended, chars with
  | _, [] => true
  | true, '|' :: _ | true, ')' :: _ => true
  | false, '\\' :: '|' :: _ | false, '\\' :: ')' :: _ => true
  | _, _ => false

mutual

def takeEither (dialect : Dialect) : Nat → Nat → List Char → Option Taken
  | 0, _, _ => none
  | fuel + 1, groups, chars => do
      let first ← takeRow dialect fuel true groups chars
      let more (rest : List Char) : Option Taken := do
        let second ← takeEither dialect fuel first.groups rest
        return { second with regex := .either first.regex second.regex }
      match dialect.isExtended, first.rest with
      | true, '|' :: rest => more rest
      | false, '\\' :: '|' :: rest => more rest
      | _, _ => return first

def takeRow (dialect : Dialect) : Nat → Bool → Nat → List Char → Option Taken
  | 0, _, _, _ => none
  | fuel + 1, isFirst, groups, chars =>
      if atEnd dialect chars then some { regex := .empty, rest := chars, groups }
      else do
        let part ← takePart dialect fuel isFirst groups chars
        let (regex, rest) :=
          if part.regex = .start then (part.regex, part.rest)
          else repeatBySigns dialect (part.rest.length + 1) part.regex part.rest
        let more ← takeRow dialect fuel (part.regex = .start) part.groups rest
        return { more with
          regex := if more.regex = .empty then regex else .seq regex more.regex }

def takePart (dialect : Dialect) : Nat → Bool → Nat → List Char → Option Taken
  | 0, _, _, _ => none
  | fuel + 1, isFirst, groups, chars =>
      let single (regex : Regex) (rest : List Char) : Option Taken :=
        some { regex, rest, groups }
      let grouped (rest : List Char) : Option Taken := do
        let inner ← takeEither dialect fuel (groups + 1) rest
        let regex := Regex.group (groups + 1) inner.regex
        match dialect.isExtended, inner.rest with
        | true, ')' :: rest => return { inner with regex, rest }
        | false, '\\' :: ')' :: rest => return { inner with regex, rest }
        | _, _ => none
      match chars with
      | [] => none
      | '.' :: rest => single any rest
      | '[' :: rest => (takeSet rest).bind fun (regex, rest) => single regex rest
      | '^' :: rest =>
          if dialect.isExtended || isFirst then single .start rest else single (ofChar '^') rest
      | '$' :: rest =>
          if dialect.isExtended || atEnd dialect rest then single .finish rest
          else single (ofChar '$') rest
      | '(' :: rest => if dialect.isExtended then grouped rest else single (ofChar '(') rest
      | '\\' :: '(' :: rest =>
          if dialect.isExtended then single (ofChar '(') rest else grouped rest
      | '\\' :: char :: rest => single (escaped char) rest
      | ['\\'] => none
      | char :: rest =>
          let isSign := dialect.isExtended && ['*', '+', '?'].contains char
          if isSign && isFirst then none else single (ofChar char) rest

end

def parse? (dialect : Dialect) (chars : List Char) : Option Regex :=
  match takeEither dialect (4 * chars.length + 8) 0 chars with
  | some { regex, rest := [], .. } => some regex
  | _ => none

/-! ### Matching -/

/-- A place in a text, with what the groups have matched: where each begins and
ends. -/
structure Spot where
  place : Nat
  groups : List (Nat × Nat × Nat) := []
deriving DecidableEq, Repr

structure Subject where
  bytes : Array UInt8
  foldsCase : Bool := false

namespace Subject

def isWord (subject : Subject) (place : Nat) : Bool :=
  (subject.bytes[place]?).any (Shell.Glob.isIn wordBytes)

def otherCase (byte : UInt8) : UInt8 :=
  if 0x61 ≤ byte && byte ≤ 0x7A then byte - 0x20
  else if 0x41 ≤ byte && byte ≤ 0x5A then byte + 0x20
  else byte

def accepts (subject : Subject) (isMember : Bool) (ranges : List Shell.ByteRange)
    (byte : UInt8) : Bool :=
  (Shell.Glob.isIn ranges byte
    || (subject.foldsCase && Shell.Glob.isIn ranges (otherCase byte))) == isMember

def repeats (subject : Subject) (first second : Nat) : Nat → Bool
  | 0 => true
  | count + 1 =>
      let one := subject.bytes[first + count]?
      let other := subject.bytes[second + count]?
      one.isSome && one == other && repeats subject first second count

end Subject

/-- The places where a match that begins at a spot may end, the preferred ones
first. -/
def ends (subject : Subject) : Nat → Regex → Spot → List Spot
  | 0, _, _ => []
  | fuel + 1, regex, spot =>
      match regex with
      | .empty => [spot]
      | .among isMember ranges =>
          match subject.bytes[spot.place]? with
          | some byte =>
              if subject.accepts isMember ranges byte then
                [{ spot with place := spot.place + 1 }]
              else []
          | none => []
      | .start => if spot.place = 0 then [spot] else []
      | .finish => if spot.place = subject.bytes.size then [spot] else []
      | .edge atStart atEnd =>
          let before := 0 < spot.place && subject.isWord (spot.place - 1)
          let behind := subject.isWord spot.place
          if (atStart && !before && behind) || (atEnd && before && !behind) then [spot] else []
      | .apart behind =>
          let isWord :=
            if behind then subject.isWord spot.place
            else 0 < spot.place && subject.isWord (spot.place - 1)
          if isWord then [] else [spot]
      | .seq first second =>
          (ends subject fuel first spot).flatMap (ends subject fuel second)
      | .either first second =>
          ends subject fuel first spot ++ ends subject fuel second spot
      | .repeated least most part =>
          let further :=
            if most = some 0 then []
            else
              (ends subject fuel part spot).flatMap fun next =>
                if next.place = spot.place && least = 0 then []
                else ends subject fuel (.repeated (least - 1) (most.map (· - 1)) part) next
          further ++ (if least = 0 then [spot] else [])
      | .group number part =>
          (ends subject fuel part spot).map fun next =>
            { next with
              groups := (number, spot.place, next.place)
                :: next.groups.filter (·.1 != number) }
      | .again number =>
          match spot.groups.lookup number with
          | some (first, last) =>
              if subject.repeats first spot.place (last - first) then
                [{ spot with place := spot.place + (last - first) }]
              else []
          | none => []

/-- A match: where it begins and ends, and what its groups have matched. -/
structure Match where
  first : Nat
  last : Nat
  groups : List (Nat × Nat × Nat) := []
deriving DecidableEq, Repr

def depth (subject : Subject) : Nat :=
  2 * subject.bytes.size + 100000

def matchAt (regex : Regex) (subject : Subject) (place : Nat) : Option Match :=
  let found := ends subject (depth subject) regex { place }
  match found with
  | [] => none
  | spot :: spots =>
      let best := spots.foldl (fun best spot =>
        if best.place < spot.place then spot else best) spot
      some { first := place, last := best.place, groups := best.groups }

def searchFrom (regex : Regex) (subject : Subject) : Nat → Nat → Option Match
  | 0, _ => none
  | left + 1, place =>
      match matchAt regex subject place with
      | some found => some found
      | none => searchFrom regex subject left (place + 1)

def search (regex : Regex) (subject : Subject) (place : Nat) : Option Match :=
  searchFrom regex subject (subject.bytes.size + 1 - place) place

def Subject.between (subject : Subject) (first last : Nat) : Bytes :=
  (subject.bytes.extract first last).toList

def Match.group (found : Match) (subject : Subject) (number : Nat) : Bytes :=
  if number = 0 then subject.between found.first found.last
  else
    match found.groups.lookup number with
    | some (first, last) => subject.between first last
    | none => []

end Regex
end TraceForward
