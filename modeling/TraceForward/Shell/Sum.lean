/-
Sums inside scripts: whole numbers of 64 bits, variables and operators.

A sum is read as a whole before it is worked out, and the side of a choice that
is not taken assigns nothing.
-/

import TraceForward.Shell.Token

namespace TraceForward
namespace Shell

inductive Operator where
  | add | subtract | multiply | divide | remainder
  | shiftLeft | shiftRight
  | less | lessEqual | greater | greaterEqual | equal | notEqual
  | bitAnd | bitXor | bitOr
  | both | either
deriving DecidableEq, Repr

inductive Sum where
  | number (value : Int)
  | variable (name : String)
  | negate (sum : Sum)
  | complement (sum : Sum)
  | isZero (sum : Sum)
  | binary (operator : Operator) (left right : Sum)
  | choose (test yes no : Sum)
  | assign (name : String) (operator : Option Operator) (value : Sum)
deriving DecidableEq, Repr

namespace Operator

def table : List (List Char × Operator × Nat) :=
  [(['|', '|'], .either, 1), (['&', '&'], .both, 2), (['=', '='], .equal, 6),
    (['!', '='], .notEqual, 6), (['<', '<'], .shiftLeft, 8), (['>', '>'], .shiftRight, 8),
    (['<', '='], .lessEqual, 7), (['>', '='], .greaterEqual, 7), (['<'], .less, 7),
    (['>'], .greater, 7), (['|'], .bitOr, 3), (['^'], .bitXor, 4), (['&'], .bitAnd, 5),
    (['+'], .add, 9), (['-'], .subtract, 9), (['*'], .multiply, 10), (['/'], .divide, 10),
    (['%'], .remainder, 10)]

def assigns : Operator → Bool
  | .add | .subtract | .multiply | .divide | .remainder | .shiftLeft | .shiftRight
  | .bitAnd | .bitXor | .bitOr => true
  | _ => false

def take? (chars : List Char) : Option (Operator × Nat × List Char) :=
  table.findSome? fun (sign, operator, binding) =>
    if sign.isPrefixOf chars then some (operator, binding, chars.drop sign.length) else none

def takeAssignment? (chars : List Char) : Option (Option Operator × List Char) :=
  match chars with
  | '=' :: '=' :: _ => none
  | '=' :: rest => some (none, rest)
  | chars =>
      match take? chars with
      | some (operator, _, '=' :: rest) =>
          if operator.assigns then some (some operator, rest) else none
      | _ => none

def wrap (value : Int) : Int :=
  Int.bmod value 0x10000000000000000

def bits (value : Int) : Nat :=
  (value % 0x10000000000000000).toNat

def ofBool (value : Bool) : Int :=
  if value then 1 else 0

def result? (operator : Operator) (left right : Int) : Option Int :=
  match operator with
  | .add => some (wrap (left + right))
  | .subtract => some (wrap (left - right))
  | .multiply => some (wrap (left * right))
  | .divide => if right = 0 then none else some (wrap (left.tdiv right))
  | .remainder => if right = 0 then none else some (wrap (left.tmod right))
  | .shiftLeft => some (wrap (left * Int.pow 2 (bits right % 64)))
  | .shiftRight => some (left.fdiv (Int.pow 2 (bits right % 64)))
  | .less => some (ofBool (left < right))
  | .lessEqual => some (ofBool (left ≤ right))
  | .greater => some (ofBool (right < left))
  | .greaterEqual => some (ofBool (right ≤ left))
  | .equal => some (ofBool (left == right))
  | .notEqual => some (ofBool (left != right))
  | .bitAnd => some (wrap (bits left &&& bits right : Nat))
  | .bitXor => some (wrap (bits left ^^^ bits right : Nat))
  | .bitOr => some (wrap (bits left ||| bits right : Nat))
  | .both => some (ofBool (left != 0 && right != 0))
  | .either => some (ofBool (left != 0 || right != 0))

end Operator

/-! ### Numbers -/

def digitValue? (char : Char) : Option Nat :=
  if char.isDigit then some (char.toNat - 48)
  else if char.isAlpha then some (char.toLower.toNat - 87)
  else none

/-- The number of digits in a base, and what follows them; none if there are
no digits. -/
def takeDigits? (base : Nat) (chars : List Char) : Option (Nat × List Char) :=
  let isDigit (char : Char) : Bool := (digitValue? char).any (· < base)
  let digits := chars.takeWhile isDigit
  if digits.isEmpty then none
  else
    some
      (digits.foldl (fun value digit => value * base + (digitValue? digit).getD 0) 0,
        chars.drop digits.length)

/-- A number without a sign, with the marks of base sixteen and eight, and
what follows it. -/
def takeNatural? (chars : List Char) : Option (Nat × List Char) :=
  let hex (rest : List Char) : Option (Nat × List Char) :=
    (takeDigits? 16 rest).orElse fun _ => takeDigits? 8 chars
  match chars with
  | '0' :: 'x' :: rest => hex rest
  | '0' :: 'X' :: rest => hex rest
  | '0' :: _ => takeDigits? 8 chars
  | _ => takeDigits? 10 chars

def clamp (value : Int) : Int :=
  max (-0x8000000000000000) (min 0x7FFFFFFFFFFFFFFF value)

def isSpaceChar (char : Char) : Bool :=
  char == ' ' || ('\t' ≤ char && char ≤ '\r')

def takeSigned? (chars : List Char) : Option (Int × List Char) :=
  match chars.dropWhile isSpaceChar with
  | '-' :: rest => (takeNatural? rest).map fun (value, rest) => (-value, rest)
  | '+' :: rest => (takeNatural? rest).map fun (value, rest) => (value, rest)
  | rest => (takeNatural? rest).map fun (value, rest) => (value, rest)

def takeInteger? (chars : List Char) : Option (Int × List Char) :=
  (takeSigned? chars).map fun (value, rest) => (clamp value, rest)

def numberOf? (value : Bytes) : Option Int :=
  if value.chars.all isSpaceChar then some 0
  else
    match takeInteger? value.chars with
    | some (value, rest) => if rest.all isSpaceChar then some value else none
    | none => none

/-! ### Reading sums -/

def skipSpace (chars : List Char) : List Char :=
  chars.dropWhile isSpaceChar

mutual

def sumAtom : Nat → List Char → Option (Sum × List Char)
  | 0, _ => none
  | fuel + 1, chars =>
      let signed (make : Sum → Sum) (rest : List Char) : Option (Sum × List Char) :=
        (sumAtom fuel rest).map fun (sum, rest) => (make sum, rest)
      match skipSpace chars with
      | '-' :: rest => signed .negate rest
      | '+' :: rest => signed id rest
      | '~' :: rest => signed .complement rest
      | '!' :: rest => signed .isZero rest
      | '(' :: rest =>
          match sumWhole fuel rest with
          | some (sum, rest) =>
              match skipSpace rest with
              | ')' :: rest => some (sum, rest)
              | _ => none
          | none => none
      | chars =>
          let name := chars.takeWhile isNameChar
          if isName name then some (.variable (String.ofList name), chars.drop name.length)
          else
            match takeNatural? chars with
            | some (value, rest) =>
                if rest.head?.any isNameChar then none else some (.number (clamp value), rest)
            | none => none

def sumFrom : Nat → Nat → List Char → Option (Sum × List Char)
  | 0, _, _ => none
  | fuel + 1, level, chars =>
      match sumAtom fuel chars with
      | some (sum, rest) => sumRest fuel level sum rest
      | none => none

def sumRest : Nat → Nat → Sum → List Char → Option (Sum × List Char)
  | 0, _, _, _ => none
  | fuel + 1, level, left, chars =>
      match Operator.take? (skipSpace chars) with
      | none => some (left, chars)
      | some (operator, binding, rest) =>
          if binding ≤ level then some (left, chars)
          else
            match sumFrom fuel binding rest with
            | some (right, rest) => sumRest fuel level (.binary operator left right) rest
            | none => none

def sumChoice : Nat → List Char → Option (Sum × List Char)
  | 0, _ => none
  | fuel + 1, chars => do
      let (test, rest) ← sumFrom fuel 0 chars
      match skipSpace rest with
      | '?' :: rest =>
          let (yes, rest) ← sumWhole fuel rest
          match skipSpace rest with
          | ':' :: rest =>
              let (no, rest) ← sumChoice fuel rest
              return (.choose test yes no, rest)
          | _ => none
      | _ => return (test, rest)

def sumWhole : Nat → List Char → Option (Sum × List Char)
  | 0, _ => none
  | fuel + 1, chars =>
      let start := skipSpace chars
      let name := start.takeWhile isNameChar
      match
        if isName name then
          Operator.takeAssignment? (skipSpace (start.drop name.length))
        else none
      with
      | some (operator, rest) =>
          (sumWhole fuel rest).map fun (value, rest) =>
            (.assign (String.ofList name) operator value, rest)
      | none => sumChoice fuel start

end

def Sum.ofChars? (chars : List Char) : Option Sum :=
  if (skipSpace chars).isEmpty then some (.number 0)
  else
    match sumWhole (8 * chars.length + 16) chars with
    | some (sum, rest) => if (skipSpace rest).isEmpty then some sum else none
    | none => none

/-! ### Working sums out -/

abbrev Assigned := List (String × Int)

def Sum.value? (number? : String → Option Int) :
    Sum → Assigned → Option (Int × Assigned)
  | .number value, assigned => some (value, assigned)
  | .variable name, assigned =>
      ((assigned.lookup name).orElse fun _ => number? name).map (·, assigned)
  | .negate sum, assigned =>
      (sum.value? number? assigned).map fun (value, assigned) =>
        (Operator.wrap (-value), assigned)
  | .complement sum, assigned =>
      (sum.value? number? assigned).map fun (value, assigned) => (-value - 1, assigned)
  | .isZero sum, assigned =>
      (sum.value? number? assigned).map fun (value, assigned) =>
        (Operator.ofBool (value == 0), assigned)
  | .binary operator left right, assigned =>
      match left.value? number? assigned with
      | none => none
      | some (first, assigned) =>
          if operator = .both && first = 0 then some (0, assigned)
          else if operator = .either && first != 0 then some (1, assigned)
          else
            match right.value? number? assigned with
            | none => none
            | some (second, assigned) =>
                (operator.result? first second).map (·, assigned)
  | .choose test yes no, assigned =>
      match test.value? number? assigned with
      | none => none
      | some (value, assigned) =>
          if value != 0 then yes.value? number? assigned else no.value? number? assigned
  | .assign name operator? sum, assigned =>
      match sum.value? number? assigned with
      | none => none
      | some (value, assigned) =>
          let result :=
            match operator? with
            | none => some value
            | some operator =>
                ((assigned.lookup name).orElse fun _ => number? name).bind fun old =>
                  operator.result? old value
          result.map fun value => (value, (name, value) :: assigned)

end Shell
end TraceForward
