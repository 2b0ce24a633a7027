/-
What the programs of the system have in common.

A program is called with words, of which some are options and the others name
what it works on; it ends with an exit code.
-/

import TraceForward.Posix.Launch

namespace TraceForward

abbrev Tool := Invocation → Proc Nat

namespace Tool

/-- The options that a program is called with, each with the word that belongs
to it, and the other words. -/
structure Given where
  options : List (Char × Bytes) := []
  operands : List Bytes := []
deriving DecidableEq, Repr

structure Known where
  flags : String := ""
  valued : String := ""
  long : List (String × Char) := []
  isMixed : Bool := true

namespace Known

/-- Takes the letters of one word; the word behind it belongs to the last of
them if one is missing. -/
def takeLetters (known : Known) : Bytes → List Bytes → Option (List (Char × Bytes) × List Bytes)
  | [], rest => some ([], rest)
  | byte :: bytes, rest =>
      let letter := Char.ofNat byte.toNat
      if known.valued.toList.contains letter then
        if !bytes.isEmpty then some ([(letter, bytes)], rest)
        else
          match rest with
          | value :: rest => some ([(letter, value)], rest)
          | [] => none
      else if known.flags.toList.contains letter then
        (takeLetters known bytes rest).map fun (options, rest) =>
          ((letter, []) :: options, rest)
      else none

def longOption? (known : Known) (name : String) : Option Char :=
  match known.long.lookup name with
  | some letter => some letter
  | none =>
      match known.long.filter fun entry => name.toList.isPrefixOf entry.1.toList with
      | [entry] => some entry.2
      | _ => none

def takeLong (known : Known) (word : Bytes) (rest : List Bytes) :
    Option ((Char × Bytes) × List Bytes) :=
  let name : Bytes := word.takeWhile (· != 0x3D)
  match known.longOption? name.latin with
  | none => none
  | some letter =>
      let value := word.drop (name.length + 1)
      if !known.valued.toList.contains letter then
        if name.length = word.length then some ((letter, []), rest) else none
      else if name.length < word.length then some ((letter, value), rest)
      else
        match rest with
        | value :: rest => some ((letter, value), rest)
        | [] => none

def partWithin (known : Known) : Nat → List Bytes → Option Given
  | 0, _ => none
  | _ + 1, [] => some {}
  | fuel + 1, word :: rest =>
      let add (options : List (Char × Bytes)) (rest : List Bytes) : Option Given :=
        (partWithin known fuel rest).map fun given =>
          { given with options := options ++ given.options }
      match word with
      | [0x2D, 0x2D] => some { operands := rest }
      | 0x2D :: 0x2D :: name =>
          match known.takeLong name rest with
          | some (option, rest) => add [option] rest
          | none => none
      | 0x2D :: first :: letters =>
          match known.takeLetters (first :: letters) rest with
          | some (options, rest) => add options rest
          | none => none
      | word =>
          if known.isMixed then
            (partWithin known fuel rest).map fun given =>
              { given with operands := word :: given.operands }
          else some { operands := word :: rest }

def part (known : Known) (words : List Bytes) : Option Given :=
  known.partWithin (words.length + 1) words

end Known

namespace Given

def has (given : Given) (letter : Char) : Bool :=
  given.options.any (·.1 == letter)

def value? (given : Given) (letter : Char) : Option Bytes :=
  (given.options.reverse.find? (·.1 == letter)).map Prod.snd

def last? (given : Given) (letters : String) : Option (Char × Bytes) :=
  given.options.reverse.find? fun option => letters.toList.contains option.1

end Given

/-! ### What programs do alike -/

def complain (name : Bytes) (text : String) : Proc Unit := do
  let _ ← Proc.write 2 (name ++ Bytes.ofText (": " ++ text ++ "\n"))

def withOptions (known : Known) (fault : Nat) (run : Given → Proc Nat) : Tool :=
  fun invocation => do
    match known.part invocation.words with
    | some given => run given
    | none => do
        complain invocation.name "invalid option"
        return fault

def print (name : String) (bytes : Bytes) (code : Nat) : Proc Nat := do
  if bytes.isEmpty then return code
  match ← Proc.write 1 bytes with
  | none => return code
  | some fault => do
      complain (Bytes.ofText name) s!"write error: {fault.reason}"
      return 1

def rounds : Nat := 1000000

def input : Proc Bytes :=
  Proc.readAll 0 rounds

/-- Opens what a word names, unless it cannot be read; a hyphen names the
input. -/
def openOperand (word : Bytes) : Proc (Except SystemFault Nat) := do
  if word = [0x2D] then return .ok 0
  match ← Proc.openPath 3 (fileName word) .read with
  | .error fault => return .error fault
  | .ok descriptor =>
      match ← Proc.read descriptor 0 with
      | .ok _ => return .ok descriptor
      | .error fault => do
          Proc.close descriptor
          return .error fault

def contentOf (word : Bytes) : Proc (Except SystemFault Bytes) := do
  match ← openOperand word with
  | .error fault => return .error fault
  | .ok descriptor => do
      let bytes ← Proc.readAll descriptor rounds
      if descriptor != 0 then Proc.close descriptor
      return .ok bytes

/-- The contents of what words name, or of the input; and whether one could not
be read. -/
def contents (name : String) : List Bytes → Proc (List (Bytes × Bytes) × Bool)
  | [] => return ([], false)
  | word :: rest => do
      match ← contentOf word with
      | .ok content => do
          let (others, failed) ← contents name rest
          return ((word, content) :: others, failed)
      | .error fault => do
          complain (Bytes.ofText name) s!"{fileName word}: {fault.reason}"
          let (others, _) ← contents name rest
          return (others, true)

def joined (name : String) (words : List Bytes) : Proc (Bytes × Bool) := do
  let (found, failed) ← contents name (if words.isEmpty then [[0x2D]] else words)
  return (found.flatMap Prod.snd, failed)

def linesOf : Bytes → List Bytes
  | [] => []
  | byte :: rest =>
      if byte = 0x0A then [byte] :: linesOf rest
      else
        match linesOf rest with
        | [] => [[byte]]
        | line :: lines => (byte :: line) :: lines

def bare (line : Bytes) : Bytes :=
  if line.getLast? = some 0x0A then line.dropLast else line

def bareLines (text : Bytes) : List Bytes :=
  (linesOf text).map bare

def joinLines (lines : List Bytes) : Bytes :=
  lines.flatMap (· ++ [0x0A])

/-- Gives the lines of a descriptor one by one to a step, each with its line feed
if it has one, until the step has enough. -/
def eachLine {σ : Type} (step : σ → Bytes → Proc (σ × Bool)) (descriptor : Nat) :
    Nat → Bytes → σ → Proc (σ × Bool)
  | 0, _, _ => Proc.endless
  | fuel + 1, unfinished, state => do
      let bytes := (← Proc.read descriptor System.pipeCapacity).toOption.getD []
      if bytes.isEmpty then
        if unfinished.isEmpty then return (state, false) else step state unfinished
      else
        let lines := linesOf (unfinished ++ bytes)
        let isWhole := bytes.getLast? == some 0x0A
        let whole := if isWhole then lines else lines.dropLast
        let (state, isEnough) ← steps state whole
        if isEnough then return (state, true)
        else
          let unfinished := if isWhole then [] else lines.getLast?.getD []
          eachLine step descriptor fuel unfinished state
where
  steps (state : σ) : List Bytes → Proc (σ × Bool)
    | [] => return (state, false)
    | line :: rest => do
        let (state, isEnough) ← step state line
        if isEnough then return (state, true) else steps state rest

/-- Gives the lines of what words name one by one to a step, and says whether
something could not be read. -/
def eachLineOf {σ : Type} (name : String) (step : σ → Bytes → Proc (σ × Bool)) :
    List Bytes → Bool → σ → Proc (σ × Bool)
  | [], failed, state => return (state, failed)
  | word :: rest, failed, state => do
      let opened ← openOperand word
      match opened with
      | .error fault => do
          complain (Bytes.ofText name) s!"{fileName word}: {fault.reason}"
          eachLineOf name step rest true state
      | .ok descriptor => do
          let (state, isEnough) ← eachLine step descriptor rounds [] state
          if descriptor != 0 then Proc.close descriptor
          if isEnough then return (state, failed) else eachLineOf name step rest failed state

def natural? (word : Bytes) : Option Nat :=
  if word.chars.all Char.isDigit then word.latin.toNat? else none

def factors : List (String × Nat) :=
  [("", 1), ("b", 512), ("k", 1024), ("K", 1024), ("KiB", 1024), ("kB", 1000), ("KB", 1000),
    ("M", 1048576), ("MiB", 1048576), ("MB", 1000000), ("G", 1073741824)]

def size? (word : Bytes) : Option Nat := do
  let digits : Bytes := word.takeWhile fun byte => 0x30 ≤ byte && byte ≤ 0x39
  let number ← natural? digits
  let factor ← factors.lookup (Bytes.latin (word.drop digits.length))
  if digits.isEmpty then none else return number * factor

end Tool
end TraceForward
