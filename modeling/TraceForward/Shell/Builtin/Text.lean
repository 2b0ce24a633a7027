/-
The commands of a shell that print and compare.
-/

import TraceForward.Shell.Condition
import TraceForward.Shell.Children

namespace TraceForward
namespace Shell
namespace Builtin

def echo (words : List Bytes) : Script Nat :=
  Script.print (echoBytes words)

def printf (words : List Bytes) : Script Nat := do
  let (isChecked, words) :=
    match words with
    | [0x2D, 0x2D] :: rest => (false, rest)
    | words => (true, words)
  match words with
  | [] => Script.fail "usage: printf format [arg ...]"
  | format :: arguments =>
      if isChecked && format.head? = some 0x2D && 1 < format.length then
        Script.fail s!"Illegal option {Bytes.latin (format.take 2)}"
      else
        let printing := Printing.ofWords format arguments
        let status ← Script.print printing.output
        if printing.status = 2 then Script.fail "invalid directive"
        else return if status = 0 then printing.status else status

def test (words : List Bytes) : Script Nat := do
  let status ← Script.lift (Proc.viewFiles fun files => Condition.status files words)
  if status = 2 then Script.fail "unexpected operator" else return status

def bracket (words : List Bytes) : Script Nat := do
  if words.getLast?.map Bytes.latin = some "]" then test words.dropLast
  else Script.fail "missing ]"

def positionBytes (position : Position) : Bytes :=
  Bytes.ofText ("/" ++ "/".intercalate position)

def behindOptions (known : String) : List Bytes → Script (List Bytes)
  | [] => return []
  | word :: rest => do
      match word.chars with
      | ['-', '-'] => return rest
      | '-' :: first :: letters =>
          match (first :: letters).find? (!known.toList.contains ·) with
          | none => behindOptions known rest
          | some letter => Script.fail s!"Illegal option -{letter}"
      | _ => return word :: rest

def pwd (words : List Bytes) : Script Nat := do
  let _ ← behindOptions "LP" words
  Script.print (positionBytes (← Script.lift Proc.directory) ++ [0x0A])

def cd (words : List Bytes) : Script Nat := do
  let state ← get
  let words ← behindOptions "LP" words
  let target : Bytes :=
    match words with
    | [] => (state.binding? "HOME").getD []
    | word :: _ => if word.chars = ['-'] then (state.binding? "OLDPWD").getD [] else word
  let path := if target.isEmpty then "." else fileName target
  let found ← Script.lift (Proc.viewFiles fun files => files.find path)
  match found with
  | .ok (position, inode) =>
      if inode.node != .directory then Script.fail s!"can't cd to {target.latin}"
      else
        let old := positionBytes (← Script.lift Proc.directory)
        Script.lift (Proc.setDirectory position)
        modify fun state =>
          (state.setVariable "OLDPWD" old).setVariable "PWD" (positionBytes position)
        if (words.head?.map Bytes.chars) = some ['-'] then
          Script.print (positionBytes position ++ [0x0A])
        else return 0
  | .error _ => Script.fail s!"can't cd to {target.latin}"

def ulimit (words : List Bytes) : Script Nat := do
  let isSet := words.any fun word => word.head? != some 0x2D
  if isSet then return 0 else Script.print (Bytes.ofText "unlimited\n")

def umask (words : List Bytes) : Script Nat := do
  let operands ← behindOptions "S" words
  let mask ← Script.lift Proc.mask
  match operands with
  | [] =>
      let text :=
        if words.isEmpty then Mode.octal 4 mask else Mode.display (Mode.without 0o777 mask)
      Script.print (Bytes.ofText (text ++ "\n"))
  | word :: _ =>
      let changed :=
        match word.chars.head? with
        | some first =>
            if first.isDigit then Mode.octal? word.chars
            else
              (Mode.parse? word.latin 0 false).map fun change =>
                Mode.without 0o777 (change (Mode.without 0o777 mask))
        | none => none
      match changed with
      | none => Script.fail s!"Illegal number: {word.latin}"
      | some mask => do
          Script.lift (Proc.setMask (mask &&& 0o777))
          return 0

end Builtin
end Shell
end TraceForward
