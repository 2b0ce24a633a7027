/-
Ordering lines, and leaving out those that are repeated.

Lines are compared by keys, the first that tells them apart deciding, and in the
end byte by byte as a whole.
-/

import TraceForward.Tools.Lines

namespace TraceForward
namespace Tool

def upperByte (byte : UInt8) : UInt8 :=
  if 0x61 ≤ byte && byte ≤ 0x7A then byte - 0x20 else byte

def compareBytes : Bytes → Bytes → Ordering
  | [], [] => .eq
  | [], _ => .lt
  | _, [] => .gt
  | a :: as, b :: bs => if a < b then .lt else if b < a then .gt else compareBytes as bs

/-- The number at the start of a text, as digits and how many of them stand
behind the point. -/
def leadingNumber (text : Bytes) : Int × Nat :=
  let (isNegative, rest) :=
    match text.dropWhile isBlankByte with
    | 0x2D :: rest => (true, rest)
    | rest => (false, rest)
  let isDigit (byte : UInt8) : Bool := 0x30 ≤ byte && byte ≤ 0x39
  let whole : Bytes := rest.takeWhile isDigit
  let places : Bytes :=
    match rest.drop whole.length with
    | 0x2E :: rest => rest.takeWhile isDigit
    | _ => []
  let value : Int := (whole ++ places).foldl
    (fun value byte => value * 10 + (byte.toNat - 48)) 0
  (if isNegative then -value else value, places.length)

def compareNumbers (one other : Bytes) : Ordering :=
  let (a, aPlaces) := leadingNumber one
  let (b, bPlaces) := leadingNumber other
  compare (a * Int.pow 10 bPlaces) (b * Int.pow 10 aPlaces)

structure KeyOrder where
  isNumeric : Bool := false
  isReverse : Bool := false
  foldsCase : Bool := false
  skipsBlanks : Bool := false
deriving DecidableEq, Repr

def KeyOrder.ofLetters (letters : List Char) : KeyOrder :=
  { isNumeric := letters.any "ngh".toList.contains, isReverse := letters.contains 'r'
    foldsCase := letters.contains 'f', skipsBlanks := letters.contains 'b' }

def KeyOrder.compare (order : KeyOrder) (one other : Bytes) : Ordering :=
  let result :=
    if order.isNumeric then compareNumbers one other
    else if order.foldsCase then compareBytes (one.map upperByte) (other.map upperByte)
    else compareBytes one other
  if order.isReverse then result.swap else result

/-- A place in a line: a field, and a byte in it, both counted from one; zero is
the end of the field. -/
structure KeyPlace where
  field : Nat
  byte : Nat
deriving DecidableEq, Repr

structure Key where
  first : KeyPlace
  last : Option KeyPlace := none
  order : Option KeyOrder := none
deriving DecidableEq, Repr

namespace Key

def takePlace (isFirst : Bool) (chars : List Char) : Option (KeyPlace × List Char) := do
  let field := chars.takeWhile Char.isDigit
  let number ← (String.ofList field).toNat?
  match chars.drop field.length with
  | '.' :: rest =>
      let byte := rest.takeWhile Char.isDigit
      return ({ field := number, byte := ← (String.ofList byte).toNat? },
        rest.drop byte.length)
  | rest => return ({ field := number, byte := if isFirst then 1 else 0 }, rest)

def parse? (word : Bytes) : Option Key := do
  let (first, rest) ← takePlace true word.chars
  let letters := rest.takeWhile (· != ',')
  let (last, more) ←
    match rest.drop letters.length with
    | ',' :: rest => (takePlace false rest).map fun (place, rest) => (some place, rest)
    | _ => some (none, [])
  let all := letters ++ more
  if first.field = 0 || first.byte = 0 || !all.all "bdfgiMnhRrV".toList.contains then none
  else
    return { first, last, order := if all.isEmpty then none else some (.ofLetters all) }

def skipFields (separator : Option UInt8) : Nat → Bytes → Bytes
  | 0, rest => rest
  | count + 1, rest =>
      match separator with
      | some separator => skipFields (some separator) count
          ((rest.dropWhile (· != separator)).drop 1)
      | none => skipFields none count
          ((rest.dropWhile isBlankByte).dropWhile fun byte => !isBlankByte byte)

def text (key : Key) (separator : Option UInt8) (order : KeyOrder) (line : Bytes) : Bytes :=
  let skip (rest : Bytes) : Bytes :=
    if order.skipsBlanks then rest.dropWhile isBlankByte else rest
  let start := (skip (skipFields separator (key.first.field - 1) line)).drop (key.first.byte - 1)
  match key.last with
  | none => start
  | some place =>
      let behind :=
        if place.byte = 0 then
          let rest := skipFields separator (place.field - 1) line
          match separator with
          | some separator => rest.dropWhile (· != separator)
          | none => (rest.dropWhile isBlankByte).dropWhile fun byte => !isBlankByte byte
        else (skip (skipFields separator (place.field - 1) line)).drop place.byte
      start.take (start.length - behind.length)

end Key

def compareKeys (separator : Option UInt8) (order : KeyOrder) (one other : Bytes) :
    List Key → Ordering
  | [] => .eq
  | key :: keys =>
      let own := key.order.getD order
      (own.compare (key.text separator own one) (key.text separator own other)).then
        (compareKeys separator order one other keys)

def dropRepeated (isSame : Bytes → Bytes → Bool) : List Bytes → List Bytes
  | one :: other :: rest =>
      if isSame one other then dropRepeated isSame (one :: rest)
      else one :: dropRepeated isSame (other :: rest)
  | lines => lines
termination_by lines => lines.length

def sort : Tool :=
  withOptions
    { flags := "bcCdfghiMmnrRsuVz", valued := "kotST"
      long := [("key", 'k'), ("field-separator", 't'), ("numeric-sort", 'n'), ("reverse", 'r'),
        ("unique", 'u'), ("ignore-case", 'f'), ("ignore-leading-blanks", 'b'), ("check", 'c'),
        ("stable", 's'), ("output", 'o')] } 2 fun given => do
    let order := KeyOrder.ofLetters (given.options.map Prod.fst)
    let separator := (given.value? 't').bind List.head?
    let written := given.options.filterMap fun option =>
      if option.1 = 'k' then some option.2 else none
    match written.mapM Key.parse? with
    | none => refuse "sort" "invalid key" 2
    | some keys =>
        let keys := if keys.isEmpty then [{ first := ⟨1, 1⟩ }] else keys
        let byKeys (one other : Bytes) : Ordering := compareKeys separator order one other keys
        let whole (one other : Bytes) : Ordering :=
          if given.has 's' || given.has 'u' then .eq
          else if order.isReverse then compareBytes other one
          else compareBytes one other
        let isBefore (one other : Bytes) : Bool :=
          ((byKeys one other).then (whole one other)) != .gt
        let (text, failed) ← joined "sort" given.operands
        let lines := bareLines text
        if failed then return 2
        else if given.has 'c' || given.has 'C' then
          let isOrdered := (lines.zip (lines.drop 1)).all fun (one, other) =>
            if given.has 'u' then byKeys one other == .lt else isBefore one other
          return if isOrdered then 0 else 1
        else
          let ordered := lines.mergeSort isBefore
          let shown :=
            if given.has 'u' then dropRepeated (fun one other => byKeys one other == .eq) ordered
            else ordered
          match given.value? 'o' with
          | none => print "sort" (joinLines shown) 0
          | some path =>
              match ← Proc.openPath 3 (fileName path) .write with
              | .error _ => return 2
              | .ok descriptor => do
                  let _ ← Proc.write descriptor (joinLines shown)
                  Proc.close descriptor
                  return 0

/-! ### Repeated lines -/

/-- Runs of lines that are the same, each with its first line and its length. -/
def runs (isSame : Bytes → Bytes → Bool) (lines : List Bytes) : List (Bytes × Nat) :=
  (lines.foldl (fun done line =>
    match done with
    | (first, count) :: rest =>
        if isSame first line then (first, count + 1) :: rest else (line, 1) :: done
    | [] => [(line, 1)]) ([] : List (Bytes × Nat))).reverse

def uniq : Tool :=
  withOptions
    { flags := "cdDiuz", valued := "fsw"
      long := [("count", 'c'), ("repeated", 'd'), ("unique", 'u'), ("ignore-case", 'i'),
        ("skip-fields", 'f'), ("skip-chars", 's'), ("check-chars", 'w')] } 1 fun given => do
    let number (letter : Char) : Option (Option Nat) :=
      match given.value? letter with
      | none => some none
      | some word => (natural? word).map some
    match number 'f', number 's', number 'w' with
    | some fields, some bytes, some width =>
        let part (line : Bytes) : Bytes :=
          let rest := (Key.skipFields none (fields.getD 0) line).drop (bytes.getD 0)
          let shown := (width.map fun width => rest.take width).getD rest
          if given.has 'i' then shown.map upperByte else shown
        let source := given.operands.take 1
        let (text, failed) ← joined "uniq" source
        let shown := (runs (fun one other => part one == part other) (bareLines text)).filterMap
          fun (line, count) =>
            if (given.has 'd' && count = 1) || (given.has 'u' && count != 1) then none
            else if given.has 'c' then some (padLeft 7 (digits count) ++ 0x20 :: line)
            else some line
        match given.operands[1]? with
        | some path =>
            match ← Proc.openPath 3 (fileName path) .write with
            | .error _ => return 1
            | .ok descriptor => do
                let _ ← Proc.write descriptor (joinLines shown)
                Proc.close descriptor
                return 0
        | none => print "uniq" (joinLines shown) (if failed then 1 else 0)
    | _, _, _ => refuse "uniq" "invalid number"

end Tool
end TraceForward
