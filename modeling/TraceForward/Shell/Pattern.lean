/-
Patterns: what the wildcards in a word match.

Every byte of a word is marked as quoted or not, since a quoted wildcard stands
for itself.
-/

import TraceForward.Bytes

namespace TraceForward
namespace Shell

abbrev Marked := List (UInt8 × Bool)

namespace Marked

def ofBytes (quoted : Bool) (bytes : Bytes) : Marked :=
  bytes.map (·, quoted)

def bytes (marked : Marked) : Bytes :=
  marked.map Prod.fst

end Marked

structure ByteRange where
  first : UInt8
  last : UInt8
deriving DecidableEq, Repr

inductive Glob where
  | exactly (byte : UInt8)
  | any
  | many
  | among (isMember : Bool) (ranges : List ByteRange)
deriving DecidableEq, Repr

namespace Glob

def classes : List (String × List ByteRange) :=
  let lower : ByteRange := ⟨0x61, 0x7A⟩
  let upper : ByteRange := ⟨0x41, 0x5A⟩
  let digit : ByteRange := ⟨0x30, 0x39⟩
  [("lower", [lower]), ("upper", [upper]), ("digit", [digit]), ("alpha", [lower, upper]),
    ("alnum", [lower, upper, digit]), ("xdigit", [digit, ⟨0x61, 0x66⟩, ⟨0x41, 0x46⟩]),
    ("space", [⟨0x20, 0x20⟩, ⟨0x09, 0x0D⟩]), ("blank", [⟨0x20, 0x20⟩, ⟨0x09, 0x09⟩]),
    ("cntrl", [⟨0, 0x1F⟩, ⟨0x7F, 0x7F⟩]), ("print", [⟨0x20, 0x7E⟩]), ("graph", [⟨0x21, 0x7E⟩]),
    ("punct", [⟨0x21, 0x2F⟩, ⟨0x3A, 0x40⟩, ⟨0x5B, 0x60⟩, ⟨0x7B, 0x7E⟩])]

def isIn (ranges : List ByteRange) (byte : UInt8) : Bool :=
  ranges.any fun range => range.first ≤ byte && byte ≤ range.last

/-- The name of a set behind a bracket and a colon, and what follows it. -/
def takeClass (marked : Marked) : Option (List ByteRange × Marked) :=
  let name := marked.bytes.chars.takeWhile Char.isAlpha
  match marked.drop name.length with
  | (0x3A, _) :: (0x5D, _) :: rest => (classes.lookup (String.ofList name)).map (·, rest)
  | _ => none

/-- The members of a set up to its closing bracket, which is a member itself
where it comes first or is quoted, and what follows it. -/
def takeMembers : Nat → Bool → Marked → Option (List ByteRange × Marked)
  | 0, _, _ => none
  | _ + 1, _, [] => none
  | fuel + 1, isFirst, (member, quoted) :: rest =>
      let add (ranges : List ByteRange) (rest : Marked) : Option (List ByteRange × Marked) :=
        (takeMembers fuel false rest).map fun (more, rest) => (ranges ++ more, rest)
      let single : List ByteRange := [⟨member, member⟩]
      if member = 0x5D && !isFirst && !quoted then some ([], rest)
      else
        match rest with
        | (0x3A, _) :: behind =>
            match if member = 0x5B then takeClass behind else none with
            | some (ranges, rest) => add ranges rest
            | none => add single rest
        | (0x2D, false) :: (last, closing) :: behind =>
            if last = 0x5D && !closing then add single rest else add [⟨member, last⟩] behind
        | rest => add single rest

def takeSet (marked : Marked) : Option (Glob × Marked) :=
  let (isMember, members) :=
    match marked with
    | (0x21, false) :: rest => (false, rest)
    | marked => (true, marked)
  (takeMembers (members.length + 1) true members).map fun (ranges, rest) =>
    (.among isMember ranges, rest)

def piecesWithin : Nat → Marked → List Glob
  | 0, _ => []
  | _ + 1, [] => []
  | fuel + 1, (byte, quoted) :: rest =>
      if quoted then .exactly byte :: piecesWithin fuel rest
      else if byte = 0x2A then .many :: piecesWithin fuel rest
      else if byte = 0x3F then .any :: piecesWithin fuel rest
      else if byte = 0x5B then
        match takeSet rest with
        | some (set, rest) => set :: piecesWithin fuel rest
        | none => .exactly byte :: piecesWithin fuel rest
      else if byte = 0x5C then
        match rest with
        | (next, _) :: rest => .exactly next :: piecesWithin fuel rest
        | [] => [.exactly byte]
      else .exactly byte :: piecesWithin fuel rest

def pieces (marked : Marked) : List Glob :=
  piecesWithin (marked.length + 1) marked

def accepts : Glob → UInt8 → Bool
  | .exactly byte, other => byte == other
  | .any, _ => true
  | .many, _ => false
  | .among isMember ranges, byte =>
      isIn ranges byte == isMember

def accept : List Glob → Bytes → Bool
  | [], bytes => bytes.isEmpty
  | .many :: rest, [] => accept rest []
  | .many :: rest, byte :: bytes => accept rest (byte :: bytes) || accept (.many :: rest) bytes
  | _ :: _, [] => false
  | piece :: rest, byte :: bytes => piece.accepts byte && accept rest bytes
termination_by pieces bytes => pieces.length + bytes.length

def isWild (pieces : List Glob) : Bool :=
  pieces.any fun piece =>
    match piece with
    | .exactly _ => false
    | _ => true

/-- The bytes without the shortest or the longest part at the end or at the
start that pieces match. -/
def trim (atEnd longest : Bool) (pieces : List Glob) (bytes : Bytes) : Bytes :=
  let counts := List.range (bytes.length + 1)
  let counts := if longest then counts.reverse else counts
  let part (count : Nat) : Bytes :=
    if atEnd then bytes.drop (bytes.length - count) else bytes.take count
  match counts.find? fun count => accept pieces (part count) with
  | none => bytes
  | some count =>
      if atEnd then bytes.take (bytes.length - count) else bytes.drop count

end Glob

end Shell
end TraceForward
