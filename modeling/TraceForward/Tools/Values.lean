/-
Programs that write values, pass time or only end.
-/

import TraceForward.Shell.Condition
import TraceForward.Shell.Format
import TraceForward.Tools.Basic

namespace TraceForward
namespace Tool

def always (code : Nat) : Tool :=
  fun _ => pure code

/-! ### Words -/

def echoLetters? (word : Bytes) : Option (List Char) :=
  match word.chars with
  | '-' :: first :: letters =>
      if (first :: letters).all "neE".toList.contains then some (first :: letters) else none
  | _ => none

def echoOptions : List Bytes → List Char × List Bytes
  | [] => ([], [])
  | word :: rest =>
      match echoLetters? word with
      | some letters =>
          let (more, words) := echoOptions rest
          (letters ++ more, words)
      | none => ([], word :: rest)

def echo : Tool := fun invocation => do
  let (letters, words) := echoOptions invocation.words
  let text : Bytes := List.intercalate [0x20] words
  let escapes := (letters.reverse.find? (· != 'n')) == some 'e'
  let (bytes, stop) := if escapes then Shell.unescape true text.chars else (text, false)
  let ending := if stop || letters.contains 'n' then [] else [0x0A]
  print "echo" (bytes ++ ending) 0

def printf : Tool := fun invocation => do
  match if invocation.words.head? = some [0x2D, 0x2D] then invocation.words.tail
    else invocation.words with
  | [] => do
      complain invocation.name "missing operand"
      return 1
  | format :: words =>
      let printing := Shell.Printing.ofWords format words
      print "printf" printing.output (if printing.status = 0 then 0 else 1)

def test : Tool := fun invocation =>
  Proc.viewFiles fun files => Shell.Condition.status files invocation.words

def bracket : Tool := fun invocation => do
  if invocation.words.getLast?.map Bytes.latin = some "]" then
    test { invocation with words := invocation.words.dropLast }
  else
    complain invocation.name "missing ']'"
    return 2

/-! ### Numbers -/

/-- A number with decimal places: its digits as a whole number, and how many of
them stand behind the point. -/
structure Scaled where
  digits : Int
  places : Nat := 0
deriving DecidableEq, Repr

namespace Scaled

def parse? (word : Bytes) : Option Scaled :=
  let natural (chars : List Char) : Option (Nat × Nat) :=
    let whole := chars.takeWhile Char.isDigit
    match chars.drop whole.length with
    | [] => (String.ofList whole).toNat?.map (·, 0)
    | '.' :: fraction =>
        if fraction.all Char.isDigit && !(whole.isEmpty && fraction.isEmpty) then
          (String.ofList ('0' :: whole ++ fraction)).toNat?.map (·, fraction.length)
        else none
    | _ => none
  match word.chars with
  | '-' :: rest => (natural rest).map fun (digits, places) => { digits := -digits, places }
  | '+' :: rest => (natural rest).map fun (digits, places) => { digits, places }
  | rest => (natural rest).map fun (digits, places) => { digits, places }

def withPlaces (scaled : Scaled) (places : Nat) : Int :=
  scaled.digits * Int.pow 10 (places - scaled.places)

def text (digits : Int) (places : Nat) : Bytes :=
  let shown := Nat.toDigits 10 digits.natAbs
  let padded := List.replicate (places + 1 - shown.length) '0' ++ shown
  let (whole, fraction) := padded.splitAt (padded.length - places)
  let sign := if digits < 0 then ['-'] else []
  Bytes.ofChars (sign ++ whole ++ if places = 0 then [] else '.' :: fraction)

end Scaled

def progression (first step last : Int) : List Int :=
  if step = 0 || (0 < step && last < first) || (step < 0 && first < last) then []
  else
    let count := ((last - first).tdiv step).toNat + 1
    (List.range count).map fun index => first + step * Int.ofNat index

def isNegative (word : Bytes) : Bool :=
  match word with
  | 0x2D :: byte :: _ => (0x30 ≤ byte && byte ≤ 0x39) || byte == 0x2E
  | _ => false

def seqWords : Nat → List Bytes → Option Given
  | 0, _ => none
  | fuel + 1, words =>
      let known : Known :=
        { flags := "w", valued := "sf", isMixed := false
          long := [("separator", 's'), ("equal-width", 'w'), ("format", 'f')] }
      match words with
      | [] => some {}
      | word :: rest =>
          if isNegative word then some { operands := words }
          else if word.head? = some 0x2D && 1 < word.length then
            let count := if word = [0x2D, 0x73] || word = [0x2D, 0x66] then 2 else 1
            if word = [0x2D, 0x2D] then some { operands := rest }
            else
              match known.part (words.take count) with
              | none => none
              | some given =>
                  (seqWords fuel (words.drop count)).map fun more =>
                    { more with options := given.options ++ more.options }
          else some { operands := words }

def seq : Tool := fun invocation => do
  let refuse (text : String) : Proc Nat := do
    complain invocation.name text
    return 1
  match seqWords (invocation.words.length + 1) invocation.words with
  | none => refuse "invalid option"
  | some given =>
      match given.operands.mapM Scaled.parse? with
      | none => refuse "invalid floating point argument"
      | some numbers =>
          let one : Scaled := { digits := 1 }
          let write (first step last : Scaled) : Proc Nat :=
            let places := max first.places step.places
            let scale := max places last.places
            let shown := (progression (first.withPlaces scale)
              (step.withPlaces scale) (last.withPlaces scale)).map
              fun digits => Scaled.text (digits / Int.pow 10 (scale - places)) places
            let width := if given.has 'w' then (shown.map List.length).foldl max 0 else 0
            let padded := shown.map fun text =>
              match text with
              | 0x2D :: digits => 0x2D :: List.replicate (width - text.length) 0x30 ++ digits
              | digits => List.replicate (width - text.length) 0x30 ++ digits
            let separator := (given.value? 's').getD [0x0A]
            if step.digits = 0 then refuse "invalid Zero increment value: '0'"
            else if padded.isEmpty then pure 0
            else print "seq" (List.intercalate separator padded ++ [0x0A]) 0
          match numbers with
          | [last] => write one one last
          | [first, last] => write first one last
          | [first, step, last] => write first step last
          | [] => refuse "missing operand"
          | _ => refuse "extra operand"

/-! ### Time -/

def nanoseconds? (word : Bytes) : Option Nat := do
  let isDigit (byte : UInt8) : Bool := (0x30 ≤ byte && byte ≤ 0x39) || byte == 0x2E
  let number : Bytes := word.takeWhile isDigit
  let seconds ←
    match Bytes.latin (word.drop number.length) with
    | "" | "s" => some 1
    | "m" => some 60
    | "h" => some 3600
    | "d" => some 86400
    | _ => none
  let scaled ← Scaled.parse? number
  return scaled.digits.toNat * seconds * 1000000000 / Nat.pow 10 scaled.places

def sleep : Tool :=
  withOptions {} 1 fun given => do
    match given.operands.mapM nanoseconds? with
    | some (span :: spans) => do
        Proc.sleep (spans.foldl (· + ·) span)
        return 0
    | some [] => do
        complain (Bytes.ofText "sleep") "missing operand"
        return 1
    | none => do
        if given.operands.any fun word => ["inf", "infinity"].contains word.latin then
          Proc.sleepForever
        complain (Bytes.ofText "sleep") "invalid time interval"
        return 1

/-! ### Surroundings -/

def printenv : Tool := fun invocation => do
  match invocation.words with
  | [] =>
      print "printenv" (invocation.environment.flatMap fun (name, value) =>
        Bytes.ofText name ++ [0x3D] ++ value ++ [0x0A]) 0
  | words =>
      let values := words.map fun word => invocation.environment.lookup word.latin
      print "printenv" ((values.filterMap id).flatMap (· ++ [0x0A]))
        (if values.all Option.isSome then 0 else 1)

def pwd : Tool := fun _ => do
  let position ← Proc.directory
  print "pwd" (Bytes.ofText ("/" ++ "/".intercalate position ++ "\n")) 0

def constant (text : String) : Tool :=
  fun _ => print "" (Bytes.ofText (text ++ "\n")) 0

end Tool
end TraceForward
