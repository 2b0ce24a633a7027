/-
Replacing, deleting and squeezing bytes.

A set is written as a row of bytes, ranges and classes.  A byte of the first set
is replaced by the one at the same place in the second, whose last byte is
repeated if it is shorter.
-/

import TraceForward.Shell.Format
import TraceForward.Shell.Pattern
import TraceForward.Tools.Basic

namespace TraceForward
namespace Tool
namespace ByteSet

inductive Piece where
  | bytes (bytes : Bytes)
  | repeated (byte : UInt8) (count : Option Nat)
deriving DecidableEq, Repr

def range (first last : UInt8) : Bytes :=
  (List.range (last.toNat + 1 - first.toNat)).map fun offset => first + UInt8.ofNat offset

def all : Bytes :=
  range 0 255

def takeEscape (chars : List Char) : UInt8 × List Char :=
  let digits := (chars.take 3).takeWhile Shell.isOctal
  if !digits.isEmpty then
    let used := if 255 < Shell.octalValue digits then digits.take 2 else digits
    (Shell.octalByte used, chars.drop used.length)
  else
    match chars with
    | [] => (0x5C, [])
    | 'e' :: rest => (0x65, rest)
    | char :: rest => ((Shell.escapeByte? char).getD (UInt8.ofNat char.toNat), rest)

def takeByte : List Char → Option (UInt8 × List Char)
  | [] => none
  | '\\' :: rest => some (takeEscape rest)
  | char :: rest => some (UInt8.ofNat char.toNat, rest)

def takeNamed (mark : Char) (chars : List Char) : Option (String × List Char) :=
  let name := chars.takeWhile (· != mark)
  match chars.drop name.length with
  | closing :: ']' :: rest => if closing = mark then some (String.ofList name, rest) else none
  | _ => none

def takeRepeated (chars : List Char) : Option (Piece × List Char) :=
  match takeByte chars with
  | some (byte, '*' :: rest) =>
      let digits := rest.takeWhile Char.isDigit
      match rest.drop digits.length with
      | ']' :: behind =>
          let count :=
            if digits.head? = some '0' then Shell.octalValue digits
            else (String.ofList digits).toNat?.getD 0
          some (.repeated byte (if count = 0 then none else some count), behind)
      | _ => none
  | _ => none

def takeBracket (chars : List Char) : Option (Piece × List Char) :=
  match chars with
  | ':' :: rest =>
      (takeNamed ':' rest).bind fun (name, rest) =>
        (Shell.Glob.classes.lookup name).map fun ranges =>
          (.bytes (all.filter (Shell.Glob.isIn ranges)), rest)
  | '=' :: rest =>
      match takeByte rest with
      | some (byte, '=' :: ']' :: behind) => some (.bytes [byte], behind)
      | _ => none
  | chars => takeRepeated chars

def pieces? : Nat → List Char → Option (List Piece)
  | 0, _ => none
  | _ + 1, [] => some []
  | fuel + 1, char :: rest =>
      match if char = '[' then takeBracket rest else none with
      | some (piece, behind) => (pieces? fuel behind).map (piece :: ·)
      | none =>
          match takeByte (char :: rest) with
          | none => none
          | some (first, '-' :: behind) =>
              match takeByte behind with
              | none => some [.bytes [first, 0x2D]]
              | some (last, behind) =>
                  if last < first then none
                  else (pieces? fuel behind).map (.bytes (range first last) :: ·)
          | some (byte, behind) => (pieces? fuel behind).map (.bytes [byte] :: ·)

def bytesOf (length : Nat) (pieces : List Piece) : Bytes :=
  let fixed := pieces.foldl (fun fixed piece =>
    match piece with
    | .bytes bytes => fixed + bytes.length
    | .repeated _ count => fixed + count.getD 0) 0
  pieces.flatMap fun piece =>
    match piece with
    | .bytes bytes => bytes
    | .repeated byte count => List.replicate (count.getD (length - fixed)) byte

def parse? (length : Nat) (word : Bytes) : Option Bytes :=
  (pieces? (word.length + 1) word.chars).map (bytesOf length)

def extended (length : Nat) (set : Bytes) : Bytes :=
  match set.getLast? with
  | none => []
  | some last => set ++ List.replicate (length - set.length) last

/-- What each byte is replaced by; of two places of a byte the later counts. -/
def table (first second : Bytes) : Array UInt8 :=
  (first.zip second).foldl (fun table (byte, image) => table.setIfInBounds byte.toNat image)
    all.toArray

/-- Leaves out a byte that is the same as the one before, if it is in a set. -/
def squeeze (isIn : UInt8 → Bool) : Option UInt8 → Bytes → Bytes
  | _, [] => []
  | previous, byte :: rest =>
      if previous = some byte && isIn byte then squeeze isIn previous rest
      else byte :: squeeze isIn (some byte) rest

end ByteSet

structure Translation where
  deleted : UInt8 → Bool := fun _ => false
  image : Array UInt8 := ByteSet.all.toArray
  squeezed : UInt8 → Bool := fun _ => false

def Translation.apply (translation : Translation) (text : Bytes) : Bytes :=
  let kept := text.filter fun byte => !translation.deleted byte
  ByteSet.squeeze translation.squeezed none
    (kept.map fun byte => translation.image.getD byte.toNat byte)

def Translation.ofGiven? (given : Given) : Option Translation := do
  let isComplement := given.has 'c' || given.has 'C'
  let first ← (given.operands.head?).bind (ByteSet.parse? 0)
  let first := if isComplement then ByteSet.all.filter (!first.contains ·) else first
  let second? := (given.operands[1]?).map (ByteSet.parse? first.length)
  let isSqueezed (set : Bytes) : UInt8 → Bool :=
    if given.has 's' then (set.contains ·) else fun _ => false
  match given.has 'd', second? with
  | true, none => if given.has 's' then none else some { deleted := (first.contains ·) }
  | true, some second =>
      if given.has 's' then
        return { deleted := (first.contains ·), squeezed := isSqueezed (← second) }
      else none
  | false, none => if given.has 's' then some { squeezed := isSqueezed first } else none
  | false, some second =>
      let second ← second
      if second.isEmpty && !given.has 't' then none
      else
        let images :=
          if given.has 't' then second else ByteSet.extended first.length second
        return { image := ByteSet.table first images, squeezed := isSqueezed second }

def translate : Tool :=
  withOptions
    { flags := "cCdst", isMixed := false
      long := [("complement", 'c'), ("delete", 'd'), ("squeeze-repeats", 's'),
        ("truncate-set1", 't')] } 1 fun given => do
    match if given.operands.length ≤ 2 then Translation.ofGiven? given else none with
    | none => do
        complain (Bytes.ofText "tr") "invalid sets"
        return 1
    | some translation => do
        print "tr" (translation.apply (← input)) 0

end Tool
end TraceForward
