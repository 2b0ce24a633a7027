/-
Conditions on words, numbers and files.

A condition is a row of words.  Which of them are operators depends on those
around them, so that a word that looks like an operator can be compared.
-/

import TraceForward.Posix.Launch
import TraceForward.Shell.Sum

namespace TraceForward
namespace Shell
namespace Condition

def unary : List String :=
  ["-n", "-z", "-t", "-e", "-f", "-d", "-r", "-w", "-x", "-s", "-h", "-L", "-p", "-S", "-b",
    "-c", "-u", "-g", "-k", "-O", "-G"]

def binary : List String :=
  ["=", "!=", "<", ">", "-eq", "-ne", "-gt", "-ge", "-lt", "-le", "-nt", "-ot", "-ef"]

inductive Lead where
  | nothing
  | unary (operator : String)
  | binary
  | conjunction
  | disjunction
  | negation
  | bracket
  | operand
deriving DecidableEq, Repr

def isBinary (word : Bytes) : Bool :=
  binary.contains word.latin || ["-a", "-o"].contains word.latin

/-- What a row of words begins with.  An operator that has nothing to work on,
or that stands in front of another, is a plain word. -/
def lead : List Bytes → Lead
  | [] => .nothing
  | word :: rest =>
      let text := word.latin
      let isPlain :=
        match rest with
        | [] => true
        | [_] => false
        | next :: _ => isBinary next
      if unary.contains text then if isPlain then .operand else .unary text
      else if binary.contains text then .binary
      else if text = "-a" then .conjunction
      else if text = "-o" then .disjunction
      else if text = "!" then if isPlain then .operand else .negation
      else if text = "(" then if rest.isEmpty then .operand else .bracket
      else .operand

def holdsOfFile (files : Files) (operator : String) (word : Bytes) : Bool :=
  match files.find (fileName word) with
  | .error _ => false
  | .ok (_, inode) =>
      match operator, inode.node with
      | "-e", _ | "-r", _ | "-w", _ | "-O", _ | "-G", _ => true
      | "-f", .file _ | "-f", .program _ | "-d", .directory | "-S", .socket _
      | "-c", .null | "-c", .zeros | "-s", .directory | "-s", .program _ => true
      | "-s", .file content => !content.isEmpty
      | "-x", .directory => true
      | "-x", _ => inode.mode &&& 0o111 != 0
      | "-u", _ => inode.mode &&& 0o4000 != 0
      | "-g", _ => inode.mode &&& 0o2000 != 0
      | "-k", _ => inode.mode &&& 0o1000 != 0
      | _, _ => false

def isBefore (left right : Bytes) : Bool :=
  match left, right with
  | _, [] => false
  | [], _ :: _ => true
  | a :: left, b :: right => if a = b then isBefore left right else a < b

def decimal? (word : Bytes) : Option Int :=
  let natural (chars : List Char) : Option Int :=
    match takeDigits? 10 chars with
    | some (value, rest) => if rest.all isSpaceChar then some value else none
    | none => none
  match word.chars.dropWhile isSpaceChar with
  | '-' :: rest => (natural rest).map fun value => clamp (-value)
  | '+' :: rest => (natural rest).map clamp
  | rest => (natural rest).map clamp

def compare? (files : Files) (operator : String) (left right : Bytes) : Option Bool :=
  let numbers (holds : Int → Int → Bool) : Option Bool := do
    return holds (← decimal? left) (← decimal? right)
  match operator with
  | "=" => some (left == right)
  | "!=" => some (left != right)
  | "<" => some (isBefore left right)
  | ">" => some (isBefore right left)
  | "-eq" => numbers (· == ·)
  | "-ne" => numbers (· != ·)
  | "-gt" => numbers fun a b => b < a
  | "-ge" => numbers fun a b => b ≤ a
  | "-lt" => numbers fun a b => a < b
  | "-le" => numbers fun a b => a ≤ b
  | "-ef" =>
      let inode (word : Bytes) : Option Nat :=
        (files.locate (fileName word)).toOption.bind Files.Place.inode
      some ((inode left).isSome && inode left == inode right)
  | _ => some false

mutual

def disjunction (files : Files) : Nat → List Bytes → Option (Bool × List Bytes)
  | 0, _ => none
  | fuel + 1, words => do
      let (first, rest) ← conjunction files fuel words
      match rest with
      | word :: rest =>
          if lead (word :: rest) = .disjunction then
            let (second, rest) ← disjunction files fuel rest
            return (first || second, rest)
          else return (first, word :: rest)
      | [] => return (first, [])

def conjunction (files : Files) : Nat → List Bytes → Option (Bool × List Bytes)
  | 0, _ => none
  | fuel + 1, words => do
      let (first, rest) ← term files fuel words
      match rest with
      | word :: rest =>
          if lead (word :: rest) = .conjunction then
            let (second, rest) ← conjunction files fuel rest
            return (first && second, rest)
          else return (first, word :: rest)
      | [] => return (first, [])

def term (files : Files) : Nat → List Bytes → Option (Bool × List Bytes)
  | 0, _ => none
  | fuel + 1, words =>
      match lead words, words with
      | .negation, _ :: rest => (term files fuel rest).map fun (holds, rest) => (!holds, rest)
      | _, words => primary files fuel words

def primary (files : Files) : Nat → List Bytes → Option (Bool × List Bytes)
  | 0, _ => none
  | fuel + 1, words =>
      match lead words, words with
      | .nothing, _ => some (false, [])
      | .bracket, _ :: rest =>
          match disjunction files fuel rest with
          | some (holds, word :: rest) => if word.latin = ")" then some (holds, rest) else none
          | _ => none
      | .unary operator, _ :: word :: rest =>
          match operator with
          | "-n" => some (!word.isEmpty, rest)
          | "-z" => some (word.isEmpty, rest)
          | "-t" => some (false, rest)
          | operator => some (holdsOfFile files operator word, rest)
      | .unary _, _ => none
      | _, left :: operator :: rest =>
          if binary.contains operator.latin then
            match rest with
            | right :: rest =>
                (compare? files operator.latin left right).map (·, rest)
            | [] => none
          else some (!left.isEmpty, operator :: rest)
      | _, [word] => some (!word.isEmpty, [])
      | _, [] => some (false, [])

end

/-- Whether words make up a condition that holds; none if they make up no
condition. -/
def holdsWithin (files : Files) : Nat → List Bytes → Option Bool
  | 0, _ => none
  | fuel + 1, words =>
      let whole (words : List Bytes) : Option Bool :=
        match disjunction files (4 * words.length + 8) words with
        | some (holds, []) => some holds
        | _ => none
      match words with
      | [left, operator, right] =>
          if binary.contains operator.latin then compare? files operator.latin left right
          else if operator.latin = "-a" then some (!left.isEmpty && !right.isEmpty)
          else if operator.latin = "-o" then some (!left.isEmpty || !right.isEmpty)
          else if left.latin = "(" && right.latin = ")" then
            holdsWithin files fuel [operator]
          else if left.latin = "!" then
            (holdsWithin files fuel [operator, right]).map (!·)
          else whole words
      | [first, second, third, fourth] =>
          if first.latin = "(" && fourth.latin = ")" then holdsWithin files fuel [second, third]
          else if first.latin = "!" then
            (holdsWithin files fuel [second, third, fourth]).map (!·)
          else whole words
      | words => whole words

def status (files : Files) (words : List Bytes) : Nat :=
  match holdsWithin files (words.length + 1) words with
  | some true => 0
  | some false => 1
  | none => 2

end Condition
end Shell
end TraceForward
