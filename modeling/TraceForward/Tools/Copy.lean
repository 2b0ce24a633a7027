/-
Programs that copy: whole files, their beginnings and their ends.
-/

import TraceForward.Tools.Basic

namespace TraceForward
namespace Tool

/-! ### Whole files -/

structure Showing where
  numbersAll : Bool := false
  numbersText : Bool := false
  squeezes : Bool := false
  marksEnds : Bool := false
  marksTabs : Bool := false
  marksOthers : Bool := false
deriving DecidableEq, Repr

namespace Showing

def isPlain (showing : Showing) : Bool :=
  showing == {}

def lowByte (byte : UInt8) : Bytes :=
  if byte < 0x20 then [0x5E, byte + 0x40] else if byte = 0x7F then [0x5E, 0x3F] else [byte]

def showByte (showing : Showing) (byte : UInt8) : Bytes :=
  if byte = 0x0A then if showing.marksEnds then [0x24, 0x0A] else [0x0A]
  else if byte = 0x09 then if showing.marksTabs then [0x5E, 0x49] else [0x09]
  else if !showing.marksOthers then [byte]
  else if byte < 0x80 then lowByte byte
  else [0x4D, 0x2D] ++ lowByte (byte - 0x80)

/-- A line as it is shown.  Without the marks of other bytes, a carriage return
in front of a marked end is marked nevertheless. -/
def showLine (showing : Showing) (line : Bytes) : Bytes :=
  match line.reverse with
  | 0x0A :: 0x0D :: front =>
      if showing.marksEnds && !showing.marksOthers then
        front.reverse.flatMap showing.showByte ++ [0x5E, 0x4D, 0x24, 0x0A]
      else line.flatMap showing.showByte
  | _ => line.flatMap showing.showByte

def numbered (number : Nat) (line : Bytes) : Bytes :=
  let digits := Bytes.ofChars (Nat.toDigits 10 number)
  List.replicate (6 - digits.length) 0x20 ++ digits ++ [0x09] ++ line

/-- Lines as they are shown, from a number on.  `afterEmpty` says whether the
line before was empty. -/
def showLines (showing : Showing) (number : Nat) (afterEmpty : Bool) : List Bytes → List Bytes
  | [] => []
  | line :: rest =>
      let isEmpty := line == [0x0A]
      if showing.squeezes && afterEmpty && isEmpty then
        showLines showing number true rest
      else
        let isNumbered := if showing.numbersText then !isEmpty else showing.numbersAll
        let shown := showing.showLine line
        if isNumbered then
          numbered number shown :: showLines showing (number + 1) isEmpty rest
        else shown :: showLines showing number isEmpty rest

def ofGiven (given : Given) : Showing :=
  let all := given.has 'A'
  { numbersText := given.has 'b'
    numbersAll := given.has 'n'
    squeezes := given.has 's'
    marksEnds := given.has 'E' || given.has 'e' || all
    marksTabs := given.has 'T' || given.has 't' || all
    marksOthers := given.has 'v' || given.has 'e' || given.has 't' || all }

end Showing

def copyFrom (descriptor : Nat) : Nat → Proc (Option SystemFault)
  | 0 => Proc.endless
  | fuel + 1 => do
      match ← Proc.read descriptor System.pipeCapacity with
      | .error fault => return some fault
      | .ok bytes =>
          if bytes.isEmpty then return none
          match ← Proc.write 1 bytes with
          | some fault => return some fault
          | none => copyFrom descriptor fuel

def copyAll : List Bytes → Proc Bool
  | [] => return false
  | word :: rest => do
      let failed ←
        if word = [0x2D] then
          pure (← copyFrom 0 rounds)
        else
          match ← Proc.openPath 3 (fileName word) .read with
          | .error fault => pure (some fault)
          | .ok descriptor => do
              let fault ← copyFrom descriptor rounds
              Proc.close descriptor
              pure fault
      match failed with
      | none => copyAll rest
      | some fault => do
          complain (Bytes.ofText "cat") s!"{fileName word}: {fault.reason}"
          let _ ← copyAll rest
          return true

def cat : Tool :=
  withOptions
    { flags := "AbeEnstTuv"
      long := [("show-all", 'A'), ("number-nonblank", 'b'), ("show-ends", 'E'),
        ("number", 'n'), ("squeeze-blank", 's'), ("show-tabs", 'T'),
        ("show-nonprinting", 'v')] } 1
    fun given => do
      let showing := Showing.ofGiven given
      let operands := if given.operands.isEmpty then [[0x2D]] else given.operands
      if showing.isPlain then
        return if ← copyAll operands then 1 else 0
      else
        let (content, failed) ← joined "cat" operands
        let shown := (showing.showLines 1 false (linesOf content)).flatten
        print "cat" shown (if failed then 1 else 0)

/-! ### Beginnings and ends -/

structure Extent where
  isLines : Bool := true
  count : Nat := 10
  isRest : Bool := false
deriving DecidableEq, Repr

namespace Extent

def parse? (isLines : Bool) (mark : UInt8) (word : Bytes) : Option Extent :=
  match word with
  | [] => none
  | byte :: rest =>
      if byte = mark then (size? rest).map ({ isLines, count := ·, isRest := true })
      else if byte = 0x2D || byte = 0x2B then (size? rest).map ({ isLines, count := · })
      else (size? word).map ({ isLines, count := · })

def ofGiven? (mark : UInt8) (given : Given) : Option Extent :=
  match given.last? "nc" with
  | none => some {}
  | some (letter, word) => parse? (letter == 'n') mark word

def front (extent : Extent) (text : Bytes) : Bytes :=
  if extent.isLines then
    let lines := linesOf text
    let count := if extent.isRest then lines.length - extent.count else extent.count
    (lines.take count).flatten
  else
    text.take (if extent.isRest then text.length - extent.count else extent.count)

def back (extent : Extent) (text : Bytes) : Bytes :=
  if extent.isLines then
    let lines := linesOf text
    let skipped := if extent.isRest then extent.count - 1 else lines.length - extent.count
    (lines.drop skipped).flatten
  else
    text.drop (if extent.isRest then extent.count - 1 else text.length - extent.count)

end Extent

def giveBack (descriptor count : Nat) : Proc Unit :=
  Proc.change fun id system =>
    match system.opened? id descriptor with
    | some (number, opened) =>
        match opened.target with
        | .inode _ => system.moveTo number (opened.offset - count)
        | _ => system
    | none => system

def unit : Nat := 8192

def readFront (extent : Extent) (descriptor : Nat) : Nat → Bytes → Proc Bytes
  | 0, _ => Proc.endless
  | fuel + 1, text => do
      let needed := extent.front text
      let isWhole :=
        if extent.isLines then (needed.count 0x0A) = extent.count
        else needed.length = extent.count
      if isWhole && !extent.isRest then
        giveBack descriptor (text.length - needed.length)
        return needed
      else
        let count := if extent.isLines then unit else min unit (extent.count - text.length)
        match ← Proc.read descriptor (if extent.isRest then unit else count) with
        | .error _ => return needed
        | .ok bytes =>
            if bytes.isEmpty then return extent.front text
            else readFront extent descriptor fuel (text ++ bytes)

def banner (isFirst : Bool) (word : Bytes) : Bytes :=
  let name := if word = [0x2D] then Bytes.ofText "standard input" else word
  (if isFirst then [] else [0x0A]) ++ Bytes.ofText "==> " ++ name ++ Bytes.ofText " <==\n"

def copyParts (name : String) (part : Nat → Proc Bytes) (isNamed : Bool) :
    Bool → List Bytes → Proc Nat
  | _, [] => return 0
  | isFirst, word :: rest => do
      let copy (descriptor : Nat) : Proc Nat := do
        let bytes ← part descriptor
        print name ((if isNamed then banner isFirst word else []) ++ bytes) 0
      let fault ←
        if word = [0x2D] then do
          let _ ← copy 0
          pure none
        else
          match ← Proc.openPath 3 (fileName word) .read with
          | .error fault => pure (some (s!"cannot open '{fileName word}' for reading", fault))
          | .ok descriptor => do
              match ← Proc.read descriptor 0 with
              | .error fault => do
                  Proc.close descriptor
                  pure (some (s!"error reading '{fileName word}'", fault))
              | .ok _ => do
                  let _ ← copy descriptor
                  Proc.close descriptor
                  pure none
      let code ← copyParts name part isNamed (isFirst && fault.isSome) rest
      match fault with
      | none => return code
      | some (text, fault) => do
          complain (Bytes.ofText name) s!"{text}: {fault.reason}"
          return 1

def modernWords : List Bytes → List Bytes
  | (0x2D :: first :: digits) :: rest =>
      if 0x30 ≤ first && first ≤ 0x39 then
        Bytes.ofText "-n" :: (first :: digits) :: rest
      else (0x2D :: first :: digits) :: rest
  | words => words

def partOptions : Known :=
  { flags := "qvzfF", valued := "nc"
    long := [("lines", 'n'), ("bytes", 'c'), ("quiet", 'q'), ("silent", 'q'), ("verbose", 'v'),
      ("zero-terminated", 'z'), ("follow", 'f')] }

def partOf (name : String) (mark : UInt8) (part : Extent → Nat → Proc Bytes) : Tool :=
  fun invocation =>
    let words := modernWords invocation.words
    withOptions partOptions 1 (fun given => do
      match Extent.ofGiven? mark given with
      | none => do
          complain (Bytes.ofText name) "invalid number"
          return 1
      | some extent =>
          let operands := if given.operands.isEmpty then [[0x2D]] else given.operands
          let isNamed := (1 < operands.length && !given.has 'q') || given.has 'v'
          copyParts name (part extent) isNamed true operands) { invocation with words }

def head : Tool :=
  partOf "head" 0x2D fun extent descriptor => readFront extent descriptor rounds []

def tail : Tool :=
  partOf "tail" 0x2B fun extent descriptor => do
    return extent.back (← Proc.readAll descriptor rounds)

/-! ### Copies to several places -/

def tee : Tool :=
  withOptions { flags := "aip", long := [("append", 'a'), ("ignore-interrupts", 'i')] } 1
    fun given => do
      let mode : System.OpenMode := if given.has 'a' then .append else .write
      let opened ← given.operands.mapM fun word => do
        let found ← Proc.openPath 3 (fileName word) mode
        match found with
        | .ok descriptor => pure (some descriptor)
        | .error fault => do
            complain (Bytes.ofText "tee") s!"{fileName word}: {fault.reason}"
            pure none
      let failed := opened.any Option.isNone
      copy (1 :: opened.filterMap id) rounds (if failed then 1 else 0)
where
  copy (targets : List Nat) : Nat → Nat → Proc Nat
    | 0, _ => Proc.endless
    | fuel + 1, code => do
        match ← Proc.read 0 System.pipeCapacity with
        | .error _ => return 1
        | .ok bytes =>
            if bytes.isEmpty then return code
            targets.forM fun target => do
              let _ ← Proc.write target bytes
            copy targets fuel code

def yes : Tool := fun invocation => do
  let known : Known := { isMixed := false }
  match known.part invocation.words with
  | none => do
      complain invocation.name "invalid option"
      return 1
  | some given =>
      let words := if given.operands.isEmpty then [[0x79]] else given.operands
      let line : Bytes := List.intercalate [0x20] words ++ [0x0A]
      repeatLine (List.replicate (max 1 (4096 / line.length)) line).flatten rounds
where
  repeatLine (lines : Bytes) : Nat → Proc Nat
    | 0 => Proc.endless
    | fuel + 1 => do
        match ← Proc.write 1 lines with
        | none => repeatLine lines fuel
        | some _ => return 1

end Tool
end TraceForward
