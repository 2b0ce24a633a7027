/-
Programs that count, part, join and order lines.
-/

import TraceForward.Tools.Basic

namespace TraceForward
namespace Tool

def changed (name : String) (given : Given) (change : Bytes → Bytes) : Proc Nat := do
  let (text, failed) ← joined name given.operands
  print name (change text) (if failed then 1 else 0)

def refuse (name text : String) (code : Nat := 1) : Proc Nat := do
  complain (Bytes.ofText name) text
  return code

def digits (value : Nat) : Bytes :=
  Bytes.ofChars (Nat.toDigits 10 value)

def padLeft (width : Nat) (word : Bytes) : Bytes :=
  List.replicate (width - word.length) 0x20 ++ word

def isBlankByte (byte : UInt8) : Bool :=
  byte == 0x20 || byte == 0x09

def isSpaceByte (byte : UInt8) : Bool :=
  byte == 0x20 || (0x09 ≤ byte && byte ≤ 0x0D)

/-! ### Counting -/

/-- The numbers of line feeds, words and bytes of a text, and the length of its
longest line. -/
structure Tally where
  lines : Nat := 0
  words : Nat := 0
  bytes : Nat := 0
  longest : Nat := 0
deriving DecidableEq, Repr

namespace Tally

def countWords : Bool → Bytes → Nat
  | _, [] => 0
  | inWord, byte :: rest =>
      if isSpaceByte byte then countWords false rest
      else (if inWord then 0 else 1) + countWords true rest

def ofText (text : Bytes) : Tally :=
  { lines := text.count 0x0A
    words := countWords false text
    bytes := text.length
    longest := ((bareLines text).map List.length).foldl max 0 }

def add (one other : Tally) : Tally :=
  { lines := one.lines + other.lines
    words := one.words + other.words
    bytes := one.bytes + other.bytes
    longest := max one.longest other.longest }

def shown (letters : String) (tally : Tally) : List Nat :=
  [('l', tally.lines), ('w', tally.words), ('m', tally.bytes), ('c', tally.bytes),
    ('L', tally.longest)].filterMap fun (letter, count) =>
      if letters.toList.contains letter then some count else none

def line (width : Nat) (letters : String) (tally : Tally) (name : Bytes) : Bytes :=
  let fields := (tally.shown letters).map fun count => padLeft width (digits count)
  List.intercalate [0x20] fields ++ (if name.isEmpty then [] else 0x20 :: name) ++ [0x0A]

end Tally

def isPlainFile (descriptor : Nat) : Proc Bool :=
  Proc.look fun id system =>
    match system.opened? id descriptor with
    | some (_, { target := .inode inode, .. }) =>
        (system.files.inodes[inode]?).any fun inode => (inode.node matches .file _)
    | _ => false

def wc : Tool :=
  withOptions
    { flags := "clmwL"
      long := [("lines", 'l'), ("words", 'w'), ("bytes", 'c'), ("chars", 'm'),
        ("max-line-length", 'L')] } 1 fun given => do
    let letters :=
      if given.options.isEmpty then "lwc" else String.ofList (given.options.map Prod.fst)
    let isInput := given.operands.isEmpty
    let isPlain ← if isInput then isPlainFile 0 else pure true
    let (found, failed) ← contents "wc" (if isInput then [[0x2D]] else given.operands)
    let tallies := found.map fun (word, text) => (word, Tally.ofText text)
    let total := (tallies.map Prod.snd).foldl Tally.add {}
    let single := given.operands.length ≤ 1 && (total.shown letters).length = 1
    let width :=
      if single then 1
      else if isPlain && !given.operands.contains [0x2D] then (digits total.bytes).length
      else 7
    let shown := tallies.flatMap fun (word, tally) =>
      tally.line width letters (if isInput then [] else word)
    let sum :=
      if 1 < given.operands.length then total.line width letters (Bytes.ofText "total") else []
    print "wc" (shown ++ sum) (if failed then 1 else 0)

/-! ### Turning round -/

def startsWith (start text : Bytes) : Bool :=
  text.take start.length == start

def partsBehind (separator : Bytes) : Nat → Bytes → Bytes → List Bytes
  | 0, _, _ => []
  | _ + 1, part, [] => if part.isEmpty then [] else [part.reverse]
  | fuel + 1, part, byte :: rest =>
      if startsWith separator (byte :: rest) then
        (part.reverse ++ separator)
          :: partsBehind separator fuel [] ((byte :: rest).drop separator.length)
      else partsBehind separator fuel (byte :: part) rest

def tac : Tool :=
  withOptions
    { flags := "br", valued := "s", long := [("before", 'b'), ("separator", 's')] } 1
    fun given => do
      let separator := (given.value? 's').getD [0x0A]
      let (found, failed) ←
        contents "tac" (if given.operands.isEmpty then [[0x2D]] else given.operands)
      let turn (text : Bytes) : Bytes :=
        let parts :=
          if separator = [0x0A] then linesOf text
          else partsBehind separator (text.length + 1) [] text
        parts.reverse.flatten
      if separator.isEmpty then refuse "tac" "separator cannot be empty"
      else print "tac" (found.flatMap fun entry => turn entry.2) (if failed then 1 else 0)

def rev : Tool :=
  withOptions {} 1 fun given =>
    changed "rev" given fun text =>
      (linesOf text).flatMap fun line =>
        (bare line).reverse ++ line.drop (bare line).length

/-! ### Numbering and breaking -/

def nl : Tool :=
  withOptions { flags := "p", valued := "bsvwinhfdl" } 1 fun given => do
    let all := (given.value? 'b').map Bytes.latin == some "a"
    let none := (given.value? 'b').map Bytes.latin == some "n"
    let separator := (given.value? 's').getD [0x09]
    let width := ((given.value? 'w').bind natural?).getD 6
    let start := ((given.value? 'v').bind natural?).getD 1
    let step := ((given.value? 'i').bind natural?).getD 1
    let field (number : Nat) : Bytes :=
      match (given.value? 'n').map Bytes.latin with
      | some "ln" => digits number ++ List.replicate (width - (digits number).length) 0x20
      | some "rz" => List.replicate (width - (digits number).length) 0x30 ++ digits number
      | _ => padLeft width (digits number)
    let (text, failed) ← joined "nl" given.operands
    let lines := bareLines text
    let (shown, _) := lines.foldl
      (fun (shown, number) line =>
        if none || (line.isEmpty && !all) then
          (shown ++ [List.replicate (width + separator.length) 0x20 ++ line], number)
        else (shown ++ [field number ++ separator ++ line], number + step)) ([], start)
    print "nl" (joinLines shown) (if failed then 1 else 0)

def columnAfter (column : Nat) (byte : UInt8) : Nat :=
  if byte = 0x09 then column + 8 - column % 8
  else if byte = 0x08 then column - 1
  else if byte = 0x0D then 0
  else column + 1

/-- Breaks a line that is wider than some columns; `held` is what is in front
of the place, latest first. -/
def breakLine (width : Nat) (column : Nat → UInt8 → Nat) (atBlanks : Bool) :
    Nat → Bytes → Nat → Bytes → Bytes
  | 0, _, _, rest => rest
  | _ + 1, held, _, [] => held.reverse
  | fuel + 1, held, place, byte :: rest =>
      let next := column place byte
      if next ≤ width || held.isEmpty then
        breakLine width column atBlanks fuel (byte :: held) next rest
      else
        let behind : Bytes := held.takeWhile fun byte => !isBlankByte byte
        if atBlanks && behind.length < held.length then
          (held.drop behind.length).reverse ++ 0x0A
            :: breakLine width column atBlanks fuel behind (behind.reverse.foldl column 0)
              (byte :: rest)
        else held.reverse ++ 0x0A :: breakLine width column atBlanks fuel [] 0 (byte :: rest)

def fold : Tool :=
  withOptions { flags := "bs", valued := "w", long := [("width", 'w'), ("spaces", 's')] } 1
    fun given => do
      match ((given.value? 'w').map natural?).getD (some 80) with
      | none | some 0 => refuse "fold" "invalid number of columns"
      | some width =>
          let column := if given.has 'b' then fun place _ => place + 1 else columnAfter
          changed "fold" given fun text =>
            (linesOf text).flatMap fun line =>
              breakLine width column (given.has 's') (2 * line.length + 1) [] 0 (bare line)
                ++ line.drop (bare line).length

/-! ### Fields -/

def isListed (ranges : List (Nat × Option Nat)) (place : Nat) : Bool :=
  ranges.any fun (first, last?) => first ≤ place && last?.all (place ≤ ·)

def ranges? (word : Bytes) : Option (List (Nat × Option Nat)) :=
  (word.latin.splitOn ",").mapM fun part =>
    match part.splitOn "-" with
    | [single] => (single.toNat?.filter (0 < ·)).map fun place => (place, some place)
    | [first, last] =>
        if first.isEmpty && last.isEmpty then none
        else
          let first? := if first.isEmpty then some 1 else first.toNat?.filter (0 < ·)
          let last? := if last.isEmpty then some none else last.toNat?.map some
          match first?, last? with
          | some first, some last => if last.all (first ≤ ·) then some (first, last) else none
          | _, _ => none
    | _ => none

def splitAt (separator : UInt8) : Bytes → List Bytes
  | [] => [[]]
  | byte :: rest =>
      if byte = separator then [] :: splitAt separator rest
      else
        match splitAt separator rest with
        | [] => [[byte]]
        | part :: parts => (byte :: part) :: parts

def pick {α : Type} (isWanted : Nat → Bool) (items : List α) : List α :=
  (items.zipIdx 1).filterMap fun (item, place) => if isWanted place then some item else none

def cut : Tool :=
  withOptions
    { flags := "nsC", valued := "bcdfO"
      long := [("bytes", 'b'), ("characters", 'c'), ("fields", 'f'), ("delimiter", 'd'),
        ("only-delimited", 's'), ("complement", 'C'), ("output-delimiter", 'O')] } 1
    fun given => do
      let delimiter := (given.value? 'd').getD [0x09]
      match given.last? "bcf" with
      | none => refuse "cut" "you must specify a list of bytes, characters, or fields"
      | some (letter, list) =>
          match ranges? list with
          | none => refuse "cut" "invalid list"
          | some ranges =>
              if delimiter.length != 1 || (letter != 'f' && (given.has 'd' || given.has 's')) then
                refuse "cut" "an input delimiter may be specified only when operating on fields"
              else
                let isWanted (place : Nat) : Bool := isListed ranges place != given.has 'C'
                let part (line : Bytes) : Option Bytes :=
                  if letter != 'f' then some (pick isWanted line)
                  else
                    let fields := splitAt (delimiter.headD 0x09) line
                    if fields.length ≤ 1 then if given.has 's' then none else some line
                    else
                      some (List.intercalate ((given.value? 'O').getD delimiter)
                        (pick isWanted fields))
                let step (_ : Unit) (line : Bytes) : Proc (Unit × Bool) := do
                  match part (bare line) with
                  | none => return ((), false)
                  | some shown =>
                      let _ ← print "cut" (shown ++ [0x0A]) 0
                      return ((), false)
                let operands := if given.operands.isEmpty then [[0x2D]] else given.operands
                let (_, failed) ← eachLineOf "cut" step operands false ()
                return if failed then 1 else 0

def besides (delimiters : Bytes) : List Bytes → Bytes
  | [] => []
  | first :: rest =>
      first ++ (rest.zipIdx.flatMap fun (column, index) =>
        (delimiters[index % max 1 delimiters.length]?).toList ++ column)

def paste : Tool :=
  withOptions
    { flags := "sz", valued := "d", long := [("serial", 's'), ("delimiters", 'd')] } 1
    fun given => do
      let delimiters := (given.value? 'd').map fun word =>
        Bytes.ofText (((word.latin.replace "\\n" "\n").replace "\\t" "\t").replace "\\0" "")
      let operands := if given.operands.isEmpty then [[0x2D]] else given.operands
      let (found, failed) ← contents "paste" operands
      let lists := found.map fun entry => bareLines entry.2
      let delimiters := delimiters.getD [0x09]
      let rows :=
        if given.has 's' then lists
        else
          (List.range ((lists.map List.length).foldl max 0)).map fun index =>
            lists.map fun lines => lines.getD index []
      let shown := joinLines (rows.map (besides delimiters))
      if failed then return 1 else print "paste" shown 0

end Tool
end TraceForward
