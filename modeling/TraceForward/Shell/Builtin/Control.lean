/-
The commands of a shell that change what is carried out next.
-/

import TraceForward.Shell.Builtin.Text
import TraceForward.Shell.Builtin.Variables

namespace TraceForward
namespace Shell
namespace Builtin

def greatestCount : Nat := 2147483647

def countOf (word : Bytes) : Script Nat := do
  match (count? word).filter (· ≤ greatestCount) with
  | some count => return count
  | none => Script.fail s!"Illegal number: {word.latin}"

def leaveLoop (goesOn : Bool) (words : List Bytes) : Script Nat := do
  let count ←
    match words with
    | [] => pure 1
    | word :: _ => countOf word
  if count = 0 then Script.fail s!"Illegal number: 0"
  let loops := (← get).loops
  if loops = 0 then return 0
  else
    Script.setStatus 0
    throw (.loop (min count loops) goesOn)

def leaveFunction (words : List Bytes) : Script Nat := do
  match words with
  | [] => pure ()
  | word :: _ => Script.setStatus (← countOf word)
  throw .function

def exit (words : List Bytes) : Script Nat := do
  match words with
  | [] =>
      let state ← get
      Script.abort (state.statusBefore.getD state.status)
  | word :: _ => Script.abort (← countOf word)

section Scripts

-- Carries out a command.
variable (again : Command → Script Unit)

def eval (words : List Bytes) : Script Nat := do
  let source := Bytes.chars (List.intercalate [0x20] words)
  let state ← get
  Script.setStatus 0
  Script.asLast false (again (.script state.line source))
  return (← get).status

def scriptContent (state : State) (name : String) (files : Files) : Except SystemFault Bytes :=
  if name.toList.contains '/' then files.read name
  else
    ((Files.placesOf state.searchPath name).findSome? fun path =>
      match files.find path with
      | .ok (_, inode) =>
          match inode.node with
          | .file content => some (.ok content)
          | _ => none
      | .error _ => none).getD (.error .notFound)

def source (words : List Bytes) : Script Nat := do
  match words with
  | [] => return 0
  | word :: _ =>
      let state ← get
      let name := fileName word
      match ← Script.lift (Proc.viewFiles (scriptContent state name)) with
      | .error fault =>
          if name.toList.contains '/' then Script.fail (openFailure false word fault)
          else Script.fail (name ++ ": not found")
      | .ok content =>
          Script.setStatus 0
          let change (state : State) : State := { state with isTested := false, isLast := false }
          let putBack (before after : State) : State :=
            { after with isTested := before.isTested, isLast := before.isLast, line := before.line }
          match ← Script.outcome (Script.within change putBack
            (again (.script 1 content.chars))) with
          | .ok () | .error .function => return (← get).status
          | .error leave => throw leave

end Scripts

/-! ### Traps -/

def signal? (word : Bytes) : Option Signal :=
  if word.latin.toUpper = "EXIT" then some 0 else Signal.parse? word.latin

/-- Sets what is done with a signal.  One that was ignored when the shell
started stays so. -/
def setTrap (action : Option Bytes) (signal : Signal) : Script Unit := do
  let state ← get
  let isOwn := state.traps.any (·.1 == signal)
  let isFixed := !isOwn && (← Script.lift (Proc.isIgnored signal))
  if !isFixed then
    modify fun state =>
      { state with
        traps := (action.map (signal, ·)).toList ++ state.traps.filter (·.1 != signal) }
    if signal != 0 then
      Script.lift (Proc.dispose signal (action.map fun script =>
        if script.isEmpty then .ignored else .handled))

def setTraps (action : Option Bytes) : List Bytes → Script Nat
  | [] => return 0
  | word :: rest => do
      match signal? word with
      | some signal => do
          setTrap action signal
          setTraps action rest
      | none => do
          Script.complain s!"{word.latin}: bad trap"
          return 1

def trapListing (state : State) : Bytes :=
  let ordered := state.traps.mergeSort fun a b => a.1 ≤ b.1
  ordered.flatMap fun (signal, script) =>
    let name := if signal = 0 then "EXIT" else Signal.name signal
    Bytes.ofText "trap -- " ++ quote script ++ Bytes.ofText (" " ++ name ++ "\n")

def trap (words : List Bytes) : Script Nat := do
  match ← behindOptions "" words with
  | [] => Script.print (trapListing (← get))
  | [word] => setTraps none [word]
  | action :: signals =>
      if action.chars = ['-'] then setTraps none signals
      else if (count? action).isSome && !action.isEmpty then setTraps none (action :: signals)
      else setTraps (some action) signals

end Builtin
end Shell
end TraceForward
