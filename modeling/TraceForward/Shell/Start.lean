/-
How a shell is called.

A shell takes its script from a word, from a file, or from its input.  A script
on the input is carried out as it comes, line by line.
-/

import TraceForward.Shell.Run

namespace TraceForward
namespace Shell

structure Startup where
  options : List Char := []
  isWord : Bool := false
  isInput : Bool := false
  operands : List Bytes := []
deriving DecidableEq, Repr

namespace Startup

def takeLetters (isOn : Bool) : List Char → Startup → Option Startup
  | [], startup => some startup
  | letter :: rest, startup =>
      if letter = 'c' then takeLetters isOn rest { startup with isWord := true }
      else if letter = 'l' then takeLetters isOn rest startup
      else if (Builtin.optionNames.lookup letter).isSome then
        takeLetters isOn rest
          { startup with
            options := Builtin.switchOption isOn letter startup.options
            isInput := startup.isInput || letter = 's' }
      else none

def ofWords : List Bytes → Startup → Option Startup
  | [], startup => some startup
  | word :: rest, startup =>
      match word.chars, rest with
      | ['-'], rest | ['-', '-'], rest => some { startup with operands := rest }
      | [sign, 'o'], name :: rest =>
          if sign = '-' || sign = '+' then
            match Builtin.optionNames.find? (·.2 == name.latin) with
            | some entry => (takeLetters (sign = '-') [entry.1] startup).bind (ofWords rest)
            | none => none
          else some { startup with operands := word :: name :: rest }
      | '-' :: letters, rest => (takeLetters true letters startup).bind (ofWords rest)
      | '+' :: first :: letters, rest =>
          (takeLetters false (first :: letters) startup).bind (ofWords rest)
      | _, rest => some { startup with operands := word :: rest }

end Startup

def inputUnit : Nat := 8192

def runInput : Nat → Nat → List Char → Script Unit
  | 0, _, _ => Script.lift Proc.endless
  | fuel + 1, line, source => do
      match readScript (← get).aliasTokens line false source with
      | .commands commands rest =>
          runAll run commands
          let taken := source.take (source.length - rest.length)
          runInput fuel (line + taken.count '\n') rest
      | .open => do
          match ← Script.lift (Proc.read 0 inputUnit) with
          | .error .interrupted => do
              serveSignals run
              runInput fuel line source
          | .error _ => runScript run false rounds line source
          | .ok bytes =>
              if bytes.isEmpty then runScript run false rounds line source
              else runInput fuel line (source ++ bytes.chars)

def begin (state : State) (step : Script Unit) : Proc Empty :=
  lastly run step state

def main (invocation : Invocation) : Proc Empty := do
  let id ← Proc.self
  let parent ← Proc.parent
  let directory := Builtin.positionBytes (← Proc.directory)
  let fresh := State.ofInvocation invocation directory
  let known := { fresh.setVariable "PPID" (numberBytes parent) with id }
  let complain (text : Bytes) : Proc Unit := do
    let _ ← Proc.write 2 (invocation.name ++ Bytes.ofText ": 0: " ++ text ++ [0x0A])
  match Startup.ofWords invocation.words {} with
  | none => do
      complain (Bytes.ofText "Illegal option")
      Proc.exit 2
  | some startup =>
      let state := { known with options := startup.options }
      if startup.isWord then
        match startup.operands with
        | [] => do
            complain (Bytes.ofText "-c requires an argument")
            Proc.exit 2
        | script :: rest =>
            let named := { state with
              name := rest.headD invocation.name, arguments := rest.drop 1
              isLast := !startup.isInput }
            begin named (run (.script 1 script.chars))
      else
        match startup.operands, startup.isInput with
        | [], _ => do
            let options := Builtin.switchOption true 's' state.options
            begin { state with options } (runInput rounds 1 [])
        | arguments, true => begin { state with arguments } (runInput rounds 1 [])
        | word :: arguments, false => do
            match ← Proc.viewFiles fun files => files.read (fileName word) with
            | .ok content =>
                begin { state with name := word, arguments }
                  (runScript run false rounds 1 content.chars)
            | .error fault => do
                complain (Bytes.ofText (openFailure false word fault))
                Proc.exit 2

end Shell
end TraceForward
