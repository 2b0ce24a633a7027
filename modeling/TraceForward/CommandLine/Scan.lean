/-
Reading the words of a command line.

A switch is given by a letter behind one hyphen or by a name behind two, and
its value in the same word or in the next.  The first word that is neither a
switch nor a value begins the arguments of the trace script, and everything
from there on is one of them.

A switch takes effect when the next one is met or the words end.  Until then
it is pending, so that what is wrong with its value may be found after
something else is.
-/

import TraceForward.CommandLine.Switch

namespace TraceForward

inductive UsageError where
  | help
  | version
  | missing
  | noValue
  | badValue
  | repeated
  | surplusValue
deriving DecidableEq, Repr

def UsageError.message : UsageError → String
  | .help => "relays trace frames between a broker and a trace interpreter"
  | .version => Limits.programVersion
  | .missing => "a required switch is missing"
  | .noValue => "a switch needs a value"
  | .badValue => "a value is not a number"
  | .repeated => "a switch is given twice"
  | .surplusValue => "a switch takes no value"

/-- A command line that has been read up to some word. -/
structure Scan where
  given : List (Switch × String) := []
  /-- The switch that is yet to take effect, with the values it has. -/
  pending : Option (Switch × List String) := none
  /-- Whether the pending switch takes the next word for its value. -/
  awaiting : Bool := false
  trailing : Bool := false
  arguments : List String := []
deriving DecidableEq, Repr

namespace Scan

/-- The number that a word gives: digits, perhaps behind a plus sign. -/
def number? (word : String) : Option Nat :=
  let digits :=
    match word.toList with
    | '+' :: rest => rest
    | chars => chars
  if digits.isEmpty || !digits.all Char.isDigit then none
  else
    let value := digits.foldl (fun value digit => 10 * value + (digit.toNat - 48)) 0
    if value < Limits.wordCount then some value else none

def checkValue (kind : ValueKind) (value : String) : Except UsageError Unit :=
  match kind with
  | .text => .ok ()
  | .path => if value.isEmpty then .error .noValue else .ok ()
  | .number => if (number? value).isSome then .ok () else .error .badValue

def apply (scan : Scan) (switch : Switch) (values : List String) : Except UsageError Scan :=
  match switch, switch.arity, values with
  | .help, _, _ => .error .help
  | .version, _, _ => .error .version
  | _, .one, [] => .error .noValue
  | _, arity, values =>
      let value :=
        match arity, values with
        | _, value :: _ => value
        | .optional missing, [] => missing
        | _, [] => ""
      if scan.given.any fun entry => entry.1 == switch then .error .repeated
      else
        let record : Scan := { scan with given := scan.given ++ [(switch, value)] }
        match arity with
        | .flag => .ok record
        | _ => (checkValue switch.kind value).map fun () => record

def settle (scan : Scan) : Except UsageError Scan :=
  match scan.pending with
  | none => .ok scan
  | some (switch, values) =>
      { scan with pending := none, awaiting := false }.apply switch values

def meet (scan : Scan) (switch : Switch) (values : List String) : Except UsageError Scan :=
  match scan.settle with
  | .ok scan => scan.apply switch values
  | .error fault => .error fault

def await (scan : Scan) (switch : Switch) : Except UsageError Scan :=
  match scan.settle with
  | .ok scan => .ok { scan with pending := some (switch, []), awaiting := true }
  | .error fault => .error fault

def argument (scan : Scan) (word : String) : Except UsageError Scan :=
  match scan.settle with
  | .ok scan => .ok { scan with trailing := true, arguments := scan.arguments ++ [word] }
  | .error fault => .error fault

/-- Meets a word that is no switch: the value that is awaited, or an argument. -/
def plain (scan : Scan) (word : String) : Except UsageError Scan :=
  match scan.pending, scan.awaiting with
  | some (switch, values), true =>
      .ok { scan with pending := some (switch, values ++ [word]), awaiting := false }
  | _, _ => scan.argument word

/-- Meets switches by their letters.  The letters behind a switch that takes a
value are that value. -/
def letters (scan : Scan) : List Char → Except UsageError Scan
  | [] => .ok scan
  | letter :: rest =>
      match Switch.ofShort? letter with
      | none => .ok scan
      | some switch =>
          match switch.arity with
          | .flag =>
              match scan.meet switch [] with
              | .ok scan => letters scan rest
              | .error fault => .error fault
          | _ =>
              if rest.isEmpty then scan.await switch
              else scan.meet switch [String.ofList rest]

/-- Meets a switch by its name, with the value in the same word if there is
one. -/
def named (scan : Scan) (switch : Switch) (value : Option String) : Except UsageError Scan :=
  match switch.arity, value with
  | .flag, some _ => .error .surplusValue
  | .flag, none => scan.meet switch []
  | _, some value => scan.meet switch [value]
  | _, none => scan.await switch

/-- A word read as a name behind two hyphens, and perhaps a value behind an
equals sign. -/
def name? (word : String) : Option (String × Option String) :=
  match word.toList with
  | '-' :: '-' :: chars =>
      let name := chars.takeWhile (· != '=')
      match chars.drop name.length with
      | [] => some (String.ofList name, none)
      | _ :: value => some (String.ofList name, some (String.ofList value))
  | _ => none

/-- A word read as letters behind one hyphen, all of which are switches. -/
def letters? (word : String) : Option (List Char) :=
  match word.toList with
  | '-' :: chars =>
      if !chars.isEmpty && chars.all fun letter => (Switch.ofShort? letter).isSome then some chars
      else none
  | _ => none

def step (scan : Scan) (word : String) : Except UsageError Scan :=
  if scan.trailing then scan.argument word
  else if word = "--" then .ok { scan with trailing := true }
  else
    match name? word with
    | some (name, value) =>
        match Switch.ofLong? name with
        | some switch => scan.named switch value
        | none => scan.plain word
    | none =>
        match letters? word with
        | some chars => scan.letters chars
        | none => scan.plain word

def run (scan : Scan) : List String → Except UsageError Scan
  | [] =>
      match scan.settle with
      | .error fault => .error fault
      | .ok scan =>
          if Switch.required.all fun switch => scan.given.any fun entry => entry.1 == switch then
            .ok scan
          else .error .missing
  | word :: rest =>
      match scan.step word with
      | .ok scan => run scan rest
      | .error fault => .error fault

def value? (scan : Scan) (switch : Switch) : Option String :=
  scan.given.lookup switch

def isGiven (scan : Scan) (switch : Switch) : Bool :=
  (scan.value? switch).isSome

end Scan

end TraceForward
