/-
Values of expressions that are given as words.

An operator and each of its operands is a word of its own.  A value is a text;
where an operator needs a number, the text must be one.
-/

import TraceForward.Tools.Lines
import TraceForward.Tools.Order
import TraceForward.Tools.Regex

namespace TraceForward
namespace Expression

inductive Failure where
  | malformed
  | notNumeric
  | byZero
deriving DecidableEq, Repr

abbrev Result := Except Failure (Bytes × List Bytes)

def number? (value : Bytes) : Option Int :=
  match value with
  | 0x2D :: digits => if digits.isEmpty then none else (Tool.natural? digits).map fun n => -n
  | digits => if digits.isEmpty then none else (Tool.natural? digits).map Int.ofNat

def ofNumber (number : Int) : Bytes :=
  Bytes.ofText (toString number)

def ofBool (value : Bool) : Bytes :=
  if value then [0x31] else [0x30]

def isNull (value : Bytes) : Bool :=
  value.isEmpty || number? value == some 0

def order (left right : Bytes) : Ordering :=
  match number? left, number? right with
  | some left, some right => compare left right
  | _, _ => Tool.compareBytes left right

/-- What a text has in common with an expression that it begins with: the first
group, or the length of the match. -/
def matched (text pattern : Bytes) : Except Failure Bytes :=
  match Regex.parse? {} pattern.chars with
  | none => .error .malformed
  | some regex =>
      let subject : Regex.Subject := { bytes := text.toArray }
      let hasGroup := Bytes.latin pattern |>.splitOn "\\(" |>.length |> (1 < ·)
      match regex.matchAt subject 0 with
      | none => .ok (if hasGroup then [] else [0x30])
      | some found =>
          .ok (if hasGroup then found.group subject 1 else ofNumber found.last)

/-- The operators between two values, how tightly they bind, and what they make
of the values. -/
def binary? (operator : String) :
    Option (Nat × (Bytes → Bytes → Except Failure Bytes)) :=
  let comparison (test : Ordering → Bool) : Bytes → Bytes → Except Failure Bytes :=
    fun left right => .ok (ofBool (test (order left right)))
  let arithmetic (result : Int → Int → Except Failure Int) :
      Bytes → Bytes → Except Failure Bytes := fun left right =>
    match number? left, number? right with
    | some left, some right => (result left right).map ofNumber
    | _, _ => .error .notNumeric
  let divided (result : Int → Int → Int) : Int → Int → Except Failure Int := fun left right =>
    if right = 0 then .error .byZero else .ok (result left right)
  match operator with
  | "|" => some (1, fun left right =>
      .ok (if !isNull left then left else if isNull right then [0x30] else right))
  | "&" => some (2, fun left right => .ok (if isNull left || isNull right then [0x30] else left))
  | "=" | "==" => some (3, comparison (· == .eq))
  | "!=" => some (3, comparison (· != .eq))
  | "<" => some (3, comparison (· == .lt))
  | "<=" => some (3, comparison (· != .gt))
  | ">" => some (3, comparison (· == .gt))
  | ">=" => some (3, comparison (· != .lt))
  | "+" => some (4, arithmetic fun left right => .ok (left + right))
  | "-" => some (4, arithmetic fun left right => .ok (left - right))
  | "*" => some (5, arithmetic fun left right => .ok (left * right))
  | "/" => some (5, arithmetic (divided Int.tdiv))
  | "%" => some (5, arithmetic (divided Int.tmod))
  | ":" => some (6, matched)
  | _ => none

/-- The place of the first byte that is in a set, counted from one; zero if
there is none. -/
def indexOf (text set : Bytes) : Nat :=
  ((text.findIdx? set.contains).map (· + 1)).getD 0

def stretch (text : Bytes) (first length : Option Int) : Bytes :=
  match first, length with
  | some first, some length =>
      if first ≤ 0 || length ≤ 0 then [] else (text.drop (first.toNat - 1)).take length.toNat
  | _, _ => []

mutual

def atom : Nat → List Bytes → Result
  | 0, _ => .error .malformed
  | fuel + 1, words =>
      match words with
      | [] => .error .malformed
      | word :: rest => do
          match word.latin with
          | "(" =>
              let (value, rest) ← level fuel 1 rest
              match rest with
              | closing :: rest =>
                  if closing.latin = ")" then .ok (value, rest) else .error .malformed
              | [] => .error .malformed
          | "length" =>
              let (text, rest) ← atom fuel rest
              .ok (ofNumber text.length, rest)
          | "match" =>
              let (text, rest) ← atom fuel rest
              let (pattern, rest) ← atom fuel rest
              .ok (← matched text pattern, rest)
          | "index" =>
              let (text, rest) ← atom fuel rest
              let (set, rest) ← atom fuel rest
              .ok (ofNumber (indexOf text set), rest)
          | "substr" =>
              let (text, rest) ← atom fuel rest
              let (first, rest) ← atom fuel rest
              let (length, rest) ← atom fuel rest
              .ok (stretch text (number? first) (number? length), rest)
          | "+" =>
              match rest with
              | text :: rest => .ok (text, rest)
              | [] => .error .malformed
          | ")" => .error .malformed
          | _ => .ok (word, rest)

def level : Nat → Nat → List Bytes → Result
  | 0, _, _ => .error .malformed
  | fuel + 1, least, words => do
      let (value, rest) ← atom fuel words
      more fuel least value rest

def more : Nat → Nat → Bytes → List Bytes → Result
  | 0, _, _, _ => .error .malformed
  | fuel + 1, least, left, words =>
      match words with
      | [] => .ok (left, [])
      | word :: rest =>
          match binary? word.latin with
          | none => .ok (left, words)
          | some (binding, apply) =>
              if binding < least then .ok (left, words)
              else do
                let (right, rest) ← level fuel (binding + 1) rest
                more fuel least (← apply left right) rest

end

def value (words : List Bytes) : Except Failure Bytes :=
  match level (4 * words.length + 4) 1 words with
  | .ok (value, []) => .ok value
  | .ok _ => .error .malformed
  | .error failure => .error failure

end Expression

namespace Tool

def expr : Tool := fun invocation => do
  let words :=
    if invocation.words.head? = some [0x2D, 0x2D] then invocation.words.tail else invocation.words
  match Expression.value words with
  | .error .malformed => refuse "expr" "syntax error" 2
  | .error .notNumeric => refuse "expr" "non-integer argument" 2
  | .error .byZero => refuse "expr" "division by zero" 2
  | .ok value => print "expr" (value ++ [0x0A]) (if Expression.isNull value then 1 else 0)

/-! ### Blocks -/

def namedValues : List Bytes → Option (List (String × Bytes))
  | [] => some []
  | word :: rest =>
      let name : Bytes := word.takeWhile (· != 0x3D)
      if name.length = word.length then none
      else
        (namedValues rest).map fun values =>
          (name.latin, word.drop (name.length + 1)) :: values

def copyBlocks (input output size : Nat) (change : Bytes → Bytes) :
    Nat → Option Nat → Proc Nat
  | 0, _ => Proc.endless
  | fuel + 1, limit => do
      if limit = some 0 then return 0
      match ← Proc.read input size with
      | .error _ => return 1
      | .ok bytes =>
          if bytes.isEmpty then return 0
          match ← Proc.write output (change bytes) with
          | some _ => return 1
          | none => copyBlocks input output size change fuel (limit.map (· - 1))

def dd : Tool := fun invocation => do
  match namedValues invocation.words with
  | none => refuse "dd" "unrecognized operand"
  | some values =>
      let count (name : String) (fallback : Nat) : Option Nat :=
        ((values.lookup name).map size?).getD (some fallback)
      let conversions := ((values.lookup "conv").map fun word => word.latin.splitOn ",").getD []
      let change (bytes : Bytes) : Bytes :=
        if conversions.contains "ucase" then bytes.map upperByte
        else if conversions.contains "lcase" then
          bytes.map fun byte => if 0x41 ≤ byte && byte ≤ 0x5A then byte + 0x20 else byte
        else bytes
      let limit := (values.lookup "count").map size?
      let size? := (values.lookup "bs").map fun _ => count "bs" 512
      match size?.getD (count "ibs" 512), count "skip" 0, limit with
      | some 0, _, _ | none, _, _ | _, none, _ | _, _, some none => refuse "dd" "invalid number"
      | some size, some skip, limit => do
          let opened (name : String) (mode : System.OpenMode) (usual : Nat) :
              Proc (Except SystemFault Nat) :=
            match values.lookup name with
            | some path => Proc.openPath 3 (fileName path) mode
            | none => pure (.ok usual)
          let mode : System.OpenMode :=
            if conversions.contains "notrunc" then .readWrite else .write
          match ← opened "if" .read 0, ← opened "of" mode 1 with
          | .ok input, .ok output => do
              let _ ← (List.range skip).mapM fun _ => Proc.read input size
              copyBlocks input output size change rounds (limit.bind id)
          | _, _ => refuse "dd" "failed to open"

end Tool
end TraceForward
