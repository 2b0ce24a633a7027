/-
Numbers with decimal places, as they are read and written by a format.

A number is read into the nearest of the numbers with a significand of 53 bits;
of two that are equally near, into the one with the even significand.  Writing
rounds by the same rule to the decimal places that are asked for.
-/

namespace TraceForward
namespace Shell

structure Real where
  isNegative : Bool := false
  top : Nat
  bottom : Nat := 1
deriving DecidableEq, Repr

namespace Real

def roundHalfEven (top bottom : Nat) : Nat :=
  let whole := top / bottom
  let rest := 2 * (top % bottom)
  if bottom < rest || (rest = bottom && whole % 2 = 1) then whole + 1 else whole

def scaled (base : Nat) (power : Int) (top bottom : Nat) : Nat × Nat :=
  if 0 ≤ power then (top * base.pow power.toNat, bottom)
  else (top, bottom * base.pow (-power).toNat)

def lastBit (top bottom : Nat) : Int :=
  let guess : Int := Int.ofNat top.log2 - Int.ofNat bottom.log2 - 52
  let (above, below) := scaled 2 (-guess) top bottom
  max (-1074) (if above < below * 0x10000000000000 then guess - 1 else guess)

/-- The nearest number with a significand of 53 bits. -/
def nearest (real : Real) : Real :=
  if real.top = 0 then real
  else
    let power := lastBit real.top real.bottom
    let (top, bottom) := scaled 2 (-power) real.top real.bottom
    let (top, bottom) := scaled 2 power (roundHalfEven top bottom) 1
    { real with top, bottom }

def ofDigits (digits : List Char) : Nat :=
  digits.foldl (fun value digit => value * 10 + (digit.toNat - 48)) 0

def takeExponent (chars : List Char) : Int × List Char :=
  let number (make : Nat → Int) (rest : List Char) : Int × List Char :=
    let digits := rest.takeWhile Char.isDigit
    if digits.isEmpty then (0, chars) else (make (ofDigits digits), rest.drop digits.length)
  match chars with
  | 'e' :: '-' :: rest | 'E' :: '-' :: rest => number (fun value => -value) rest
  | 'e' :: '+' :: rest | 'E' :: '+' :: rest => number Int.ofNat rest
  | 'e' :: rest | 'E' :: rest => number Int.ofNat rest
  | _ => (0, chars)

/-- The number at the start of characters, and what follows it; none if there
are no digits. -/
def take? (chars : List Char) : Option (Real × List Char) :=
  let (isNegative, chars) :=
    match chars.dropWhile fun char => char == ' ' || ('\t' ≤ char && char ≤ '\r') with
    | '-' :: rest => (true, rest)
    | '+' :: rest => (false, rest)
    | rest => (false, rest)
  let whole := chars.takeWhile Char.isDigit
  let behind := chars.drop whole.length
  let places :=
    match behind with
    | '.' :: rest => rest.takeWhile Char.isDigit
    | _ => []
  if whole.isEmpty && places.isEmpty then none
  else
    let behind := if behind.head? = some '.' then behind.drop (places.length + 1) else behind
    let (exponent, rest) := takeExponent behind
    let bounded := max (-400) (min 400 exponent)
    let (top, bottom) :=
      scaled 10 (bounded - Int.ofNat places.length) (ofDigits (whole ++ places)) 1
    some (nearest { isNegative, top, bottom }, rest)

/-! ### Writing -/

/-- The digits of a whole number with a point in front of the last places. -/
def withPoint (keepsPoint : Bool) (places value : Nat) : List Char :=
  let digits := Nat.toDigits 10 value
  let padded := List.replicate (places + 1 - digits.length) '0' ++ digits
  let (whole, fraction) := padded.splitAt (padded.length - places)
  whole ++ (if places = 0 && !keepsPoint then [] else ['.']) ++ fraction

def positional (keepsPoint : Bool) (places : Nat) (real : Real) : List Char :=
  withPoint keepsPoint places (roundHalfEven (real.top * Nat.pow 10 places) real.bottom)

def powerBelow (top bottom : Nat) : Nat → Int → Int
  | 0, power => power
  | fuel + 1, power =>
      let (above, below) := scaled 10 (-power) top bottom
      if above < below then powerBelow top bottom fuel (power - 1) else power

/-- The digits of a fraction, one in front of the point, and the power of ten
behind them. -/
def scientific (places : Nat) (real : Real) : Nat × Int :=
  if real.top = 0 then (0, 0)
  else
    let power := powerBelow real.top real.bottom 700 310
    let (above, below) := scaled 10 (Int.ofNat places - power) real.top real.bottom
    let digits := roundHalfEven above below
    if digits = Nat.pow 10 (places + 1) then (Nat.pow 10 places, power + 1) else (digits, power)

def exponentText (mark : Char) (power : Int) : List Char :=
  let digits := Nat.toDigits 10 power.natAbs
  mark :: (if power < 0 then '-' else '+') :: List.replicate (2 - digits.length) '0' ++ digits

def trimZeros (chars : List Char) : List Char :=
  if !chars.contains '.' then chars
  else
    let shown := chars.reverse.dropWhile (· == '0')
    (if shown.head? = some '.' then shown.drop 1 else shown).reverse

/-- A fraction by a letter: with decimal places, with an exponent, or in the
shorter of the two ways. -/
def digitsBy (letter : Char) (keepsPoint : Bool) (precision : Nat) (real : Real) : List Char :=
  let mark := if letter.isUpper then 'E' else 'e'
  match letter.toLower with
  | 'f' => positional keepsPoint precision real
  | 'e' =>
      let (digits, power) := scientific precision real
      withPoint keepsPoint precision digits ++ exponentText mark power
  | _ =>
      let significant := max 1 precision
      let (digits, power) := scientific (significant - 1) real
      let trim (chars : List Char) : List Char := if keepsPoint then chars else trimZeros chars
      if -4 ≤ power && power < Int.ofNat significant then
        trim (positional keepsPoint (Int.ofNat significant - 1 - power).toNat real)
      else trim (withPoint keepsPoint (significant - 1) digits) ++ exponentText mark power

end Real

end Shell
end TraceForward
