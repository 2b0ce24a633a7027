/-
Escapes and formats of the printing commands.

`echo` writes its words with a blank between them; `printf` writes its format
again and again until its arguments are used up.  Both turn a backslash and
what follows it into a byte.
-/

import TraceForward.Shell.Real
import TraceForward.Shell.Sum

namespace TraceForward
namespace Shell

def isOctal (char : Char) : Bool :=
  '0' ≤ char && char ≤ '7'

def octalValue (digits : List Char) : Nat :=
  digits.foldl (fun value digit => 8 * value + (digit.toNat - 48)) 0

def octalByte (digits : List Char) : UInt8 :=
  UInt8.ofNat (octalValue digits)

def escapeByte? : Char → Option UInt8
  | 'a' => some 7
  | 'b' => some 8
  | 't' => some 9
  | 'n' => some 10
  | 'v' => some 11
  | 'f' => some 12
  | 'r' => some 13
  | 'e' => some 0x1B
  | '\\' => some 0x5C
  | _ => none

/-- What a text with escapes comes to: its bytes, and whether it asks for the
output to end.  In an argument an octal number may have a zero in front. -/
def unescapeWithin (inArgument : Bool) : Nat → List Char → Bytes × Bool
  | 0, _ => ([], false)
  | _ + 1, [] => ([], false)
  | fuel + 1, char :: rest =>
      let add (byte : UInt8) (rest : List Char) : Bytes × Bool :=
        let (bytes, stop) := unescapeWithin inArgument fuel rest
        (byte :: bytes, stop)
      let octal (start : List Char) : Bytes × Bool :=
        let digits := (start.take 3).takeWhile isOctal
        add (octalByte digits) (start.drop digits.length)
      if char != '\\' then add (UInt8.ofNat char.toNat) rest
      else
        match rest with
        | [] => add 0x5C []
        | next :: behind =>
            if inArgument && next = 'c' then ([], true)
            else if inArgument && next = '0' then octal behind
            else if isOctal next then octal rest
            else
              match escapeByte? next with
              | some byte => add byte behind
              | none => add 0x5C rest

def unescape (inArgument : Bool) (chars : List Char) : Bytes × Bool :=
  unescapeWithin inArgument (chars.length + 1) chars

def echoBytes (words : List Bytes) : Bytes :=
  let (newline, words) : Bytes × List Bytes :=
    match words with
    | first :: rest => if first.chars = ['-', 'n'] then ([], rest) else ([0x0A], words)
    | [] => ([0x0A], [])
  let (bytes, stop) := unescape true (Bytes.chars (List.intercalate [0x20] words))
  if stop then bytes else bytes ++ newline

/-! ### Conversions -/

structure Conversion where
  flags : List Char := []
  width : Nat := 0
  precision : Option Nat := none
  letter : Char
deriving DecidableEq, Repr

namespace Conversion

def isLeft (conversion : Conversion) : Bool :=
  conversion.flags.contains '-'

/-- A value in a field of the conversion's width; the sign of a number stays in
front of the zeros that fill the field. -/
def pad (conversion : Conversion) (zeros : Bool) (sign digits : Bytes) : Bytes :=
  let missing := conversion.width - (sign.length + digits.length)
  if conversion.isLeft then sign ++ digits ++ List.replicate missing 0x20
  else if zeros && conversion.flags.contains '0' then
    sign ++ List.replicate missing 0x30 ++ digits
  else List.replicate missing 0x20 ++ sign ++ digits

def sign (conversion : Conversion) (isNegative : Bool) : Bytes :=
  if isNegative then [0x2D]
  else if conversion.flags.contains '+' then [0x2B]
  else if conversion.flags.contains ' ' then [0x20]
  else []

/-- Digits with zeros in front up to the precision; none for a zero of
precision zero. -/
def digits (conversion : Conversion) (base value : Nat) : Bytes :=
  let shown := Bytes.ofChars (Nat.toDigits base value)
  match conversion.precision with
  | none => shown
  | some precision =>
      if precision = 0 && value = 0 then []
      else List.replicate (precision - shown.length) 0x30 ++ shown

def integer (conversion : Conversion) (value : Int) : Bytes :=
  let zeros := conversion.precision.isNone
  let marked (mark : String) (digits : Bytes) : Bytes :=
    let mark :=
      if conversion.flags.contains '#' && value != 0 then Bytes.ofText mark else []
    conversion.pad zeros mark digits
  let natural := Operator.bits value
  match conversion.letter with
  | 'o' => marked "0" (conversion.digits 8 natural)
  | 'x' => marked "0x" (conversion.digits 16 natural)
  | 'X' =>
      marked "0X" ((conversion.digits 16 natural).map fun byte =>
        if 0x61 ≤ byte then byte - 0x20 else byte)
  | 'u' => conversion.pad zeros [] (conversion.digits 10 natural)
  | _ =>
      conversion.pad zeros (conversion.sign (value < 0)) (conversion.digits 10 value.natAbs)

def real (conversion : Conversion) (value : Real) : Bytes :=
  conversion.pad true (conversion.sign value.isNegative)
    (Bytes.ofChars (Real.digitsBy conversion.letter (conversion.flags.contains '#')
      (conversion.precision.getD 6) value))

def text (conversion : Conversion) (bytes : Bytes) : Bytes :=
  let shown :=
    match conversion.precision with
    | none => bytes
    | some count => bytes.take count
  conversion.pad false [] shown

end Conversion

/-- The number that an argument is, and whether it is one as a whole that is
not too great.  Behind a
quote it is the number of the byte that follows. -/
def argumentNumber (isSigned : Bool) (word : Bytes) : Int × Bool :=
  let greatest : Int := if isSigned then 0x7FFFFFFFFFFFFFFF else 0xFFFFFFFFFFFFFFFF
  let least : Int := if isSigned then -0x8000000000000000 else -0xFFFFFFFFFFFFFFFF
  match word with
  | [] => (0, true)
  | [0x27] | [0x22] => (0, true)
  | 0x27 :: byte :: _ | 0x22 :: byte :: _ => (Int.ofNat byte.toNat, true)
  | word =>
      match takeSigned? word.chars with
      | none => (0, false)
      | some (value, rest) =>
          (max least (min greatest value),
            rest.isEmpty && least ≤ value && value ≤ greatest)

/-- The number with decimal places that an argument is, and whether it is one
as a whole. -/
def argumentReal (word : Bytes) : Real × Bool :=
  match word with
  | [] => ({ top := 0 }, true)
  | 0x27 :: byte :: _ | 0x22 :: byte :: _ => ({ top := byte.toNat }, true)
  | word =>
      match Real.take? word.chars with
      | none => ({ top := 0 }, false)
      | some (real, rest) => (real, rest.isEmpty)

/-! ### Formats -/

structure Printing where
  written : List Bytes := []
  words : List Bytes := []
  status : Nat := 0
  stopped : Bool := false
deriving DecidableEq, Repr

namespace Printing

def add (printing : Printing) (bytes : Bytes) : Printing :=
  { printing with written := bytes :: printing.written }

def next (printing : Printing) : Bytes × Printing :=
  (printing.words.headD [], { printing with words := printing.words.tail })

/-- A number in front of a conversion, which a star takes from the arguments,
and what follows it. -/
def takeCount (printing : Printing) (chars : List Char) : Int × List Char × Printing :=
  match chars with
  | '*' :: rest =>
      let (word, printing) := printing.next
      ((argumentNumber true word).1, rest, printing)
  | chars =>
      let digits := chars.takeWhile Char.isDigit
      (((String.ofList digits).toInt?).getD 0, chars.drop digits.length, printing)

def conversion? (printing : Printing) (chars : List Char) :
    Option (Conversion × List Char × Printing) :=
  let flags := chars.takeWhile fun char => "-0+ #".toList.contains char
  let (width, chars, printing) := printing.takeCount (chars.drop flags.length)
  let flags := if width < 0 then '-' :: flags else flags
  let (precision, chars, printing) : Option Int × List Char × Printing :=
    match chars with
    | '.' :: rest =>
        let (count, rest, printing) := printing.takeCount rest
        (some count, rest, printing)
    | chars => (none, chars, printing)
  match chars with
  | letter :: rest =>
      some
        ({ flags, width := width.natAbs
           precision := (precision.filter (0 ≤ ·)).map Int.toNat, letter }, rest, printing)
  | [] => none

def convert (printing : Printing) (conversion : Conversion) : Printing :=
  let (word, after) := printing.next
  match conversion.letter with
  | 's' => after.add (conversion.text word)
  | 'b' =>
      let (bytes, stop) := unescape true word.chars
      { after.add (conversion.text bytes) with stopped := stop }
  | 'c' => after.add (conversion.pad false [] (if word.isEmpty then [0] else word.take 1))
  | letter =>
      if "diouxX".toList.contains letter then
        let (value, isWhole) := argumentNumber (letter == 'd' || letter == 'i') word
        { after.add (conversion.integer value) with
          status := if isWhole then after.status else 1 }
      else if "eEfFgG".toList.contains letter then
        let (value, isWhole) := argumentReal word
        { after.add (conversion.real value) with
          status := if isWhole then after.status else 1 }
      else { printing with stopped := true, status := 2 }

def pass : Nat → List Char → Printing → Printing
  | 0, _, printing => { printing with stopped := true }
  | _ + 1, [], printing => printing
  | fuel + 1, '%' :: '%' :: rest, printing => pass fuel rest (printing.add [0x25])
  | fuel + 1, '%' :: rest, printing =>
      match printing.conversion? rest with
      | none => { printing with stopped := true, status := 2 }
      | some (conversion, rest, printing) =>
          let after := printing.convert conversion
          if after.stopped then after else pass fuel rest after
  | fuel + 1, char :: rest, printing =>
      let literal := (char :: rest).takeWhile (· != '%')
      let (bytes, _) := unescape false literal
      pass fuel ((char :: rest).drop literal.length) (printing.add bytes)

/-- Passes over a format until the arguments are used up.  A format that takes
none is written once. -/
def passes (format : List Char) : Nat → Printing → Printing
  | 0, printing => printing
  | fuel + 1, printing =>
      let after := pass (format.length + 1) format printing
      if after.stopped || after.words.isEmpty || after.words.length = printing.words.length then
        after
      else passes format fuel after

def ofWords (format : Bytes) (words : List Bytes) : Printing :=
  passes format.chars (words.length + 1) { words }

def output (printing : Printing) : Bytes :=
  printing.written.reverse.flatten

end Printing

end Shell
end TraceForward
