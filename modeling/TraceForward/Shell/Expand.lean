/-
What the words of a script come to.

A word is expanded part by part, from the left.  What a part assigns is seen by
the parts behind it.  How the output of a command is taken is left open here.
-/

import TraceForward.Shell.Fields
import TraceForward.Shell.State

namespace TraceForward
namespace Shell

structure Splitting where
  values : Bool := false
  text : Bool := false
deriving DecidableEq, Repr

/-- The output of a command without the line ends at its end, and without
zero bytes. -/
def trimOutput (bytes : Bytes) : Bytes :=
  ((bytes.filter (· != 0)).reverse.dropWhile (· == 0x0A)).reverse

def withoutTilde (home : Bytes) : Word → Word
  | .text (0x7E :: bytes) false :: rest =>
      if bytes.isEmpty && rest.isEmpty || bytes.head? == some 0x2F then
        .text home true :: .text bytes false :: rest
      else .text (0x7E :: bytes) false :: rest
  | word => word

section Expansion

-- Carries out a script and gives its output.
variable (capture : List Char → Script Bytes)

def place (splitting : Splitting) (quoted : Bool) (fields : Fields) (name : String)
    (value : Bytes) : Script Fields := do
  let state ← get
  let split (fields : Fields) (word : Bytes) : Fields :=
    fields.addSplit state.separators word
  if quoted then
    if name = "@" && splitting.values then
      return fields.addAll (fun fields word => fields.add true word) state.arguments
    else if name = "@" then
      return fields.add true (List.intercalate [0x20] state.arguments)
    else return fields.add true value
  else if !splitting.values then return fields.add false value
  else if name = "@" || name = "*" then return fields.addAll split state.arguments
  else return split fields value

def needed (name : String) (value? : Option Bytes) : Script Bytes := do
  match value? with
  | some value => return value
  | none =>
      if (← get).isOn 'u' && name != "@" && name != "*" then
        Script.fail (name ++ ": parameter not set")
      else return []

mutual

def expandPart : Nat → Splitting → Fields → WordPart → Script Fields
  | 0, _, _, _ => Script.lift Proc.endless
  | fuel + 1, splitting, fields, part => do
      match part with
      | .text bytes quoted =>
          if !quoted && splitting.text && splitting.values then
            return fields.addSplit (← get).separators bytes
          else return fields.add quoted bytes
      | .parameter name operation quoted =>
          let value? := (← get).value? name
          match operation with
          | .plain => place splitting quoted fields name (← needed name value?)
          | .length =>
              let value ← needed name value?
              place splitting quoted fields "" (numberBytes value.length)
          | .trim atEnd longest pattern =>
              let value ← needed name value?
              let pieces := Glob.pieces (← expandWhole fuel (operandParts false pattern))
              place splitting quoted fields "" (Glob.trim atEnd longest pieces value)
          | .fallback kind emptyToo operand =>
              let isSet := value?.any fun value => !emptyToo || !value.isEmpty
              let insert : Script Fields := do
                let fields := if quoted then fields.add true [] else fields
                expandParts fuel { values := splitting.values && !quoted, text := true } fields
                  (operandParts quoted operand)
              let usual : Script Fields := place splitting quoted fields name (value?.getD [])
              match kind with
              | .use => if isSet then usual else insert
              | .replace =>
                  if isSet then insert
                  else return if quoted then fields.add true [] else fields
              | .assign =>
                  if isSet then usual
                  else if !isName name.toList then Script.fail (name ++ ": bad variable name")
                  else
                    let value := (← expandWhole fuel (operandParts quoted operand)).bytes
                    Script.assign name value
                    place splitting quoted fields "" value
              | .refuse =>
                  if isSet then usual
                  else
                    let text := (← expandWhole fuel (operandParts quoted operand)).bytes
                    let reason :=
                      if !operand.isEmpty then text.latin
                      else if emptyToo then "parameter null or not set"
                      else "parameter not set"
                    Script.fail (name ++ ": " ++ reason)
          | .unknown => Script.fail "Bad substitution"
      | .sum source quoted =>
          let text := (← expandWhole fuel (documentParts source)).bytes
          let state ← get
          match (Sum.ofChars? text.chars).bind (·.value? state.number? []) with
          | none => Script.fail s!"arithmetic expression: syntax error: \"{text.latin}\""
          | some (value, assigned) =>
              assigned.reverse.forM fun (name, value) =>
                Script.assign name (Bytes.ofText (toString value))
              place splitting quoted fields "" (Bytes.ofText (toString value))
      | .output source quoted =>
          place splitting quoted fields "" (trimOutput (← capture source))

def expandParts : Nat → Splitting → Fields → Word → Script Fields
  | 0, _, _, _ => Script.lift Proc.endless
  | _ + 1, _, fields, [] => pure fields
  | fuel + 1, splitting, fields, part :: rest => do
      let fields ← expandPart fuel splitting fields part
      expandParts fuel splitting fields rest

def expandWhole : Nat → Word → Script Marked
  | 0, _ => Script.lift Proc.endless
  | fuel + 1, word => do
      return (← expandParts fuel {} {} word).whole

end

/-- How deep the parts of words may be nested, and how many there may be. -/
def expansionBound : Nat := 100000

def expandMarked (word : Word) : Script Marked := do
  let home := ((← get).binding? "HOME").getD [0x7E]
  expandWhole capture expansionBound (withoutTilde home word)

def expandValue (word : Word) : Script Bytes := do
  return (← expandMarked capture word).bytes

def expandWord (word : Word) : Script (List Bytes) := do
  let home := ((← get).binding? "HOME").getD [0x7E]
  let fields ← expandParts capture expansionBound { values := true } {} (withoutTilde home word)
  if (← get).isOn 'f' then return fields.toList.map Marked.bytes
  else if fields.toList.any fun field => Glob.isWild (Glob.pieces field) then
    Script.lift (Proc.viewFiles fun files => fields.toList.flatMap (Glob.namesFor files))
  else return fields.toList.map Marked.bytes

/-- The words that words come to.  With `isDeclaring`, those that look like an
assignment are not split. -/
def expandWords (isDeclaring : Bool) : List Word → Script (List Bytes)
  | [] => return []
  | word :: rest => do
      let words ←
        if isDeclaring && (assignment? word).isSome then
          pure [← expandValue capture word]
        else expandWord capture word
      return words ++ (← expandWords isDeclaring rest)

end Expansion

end Shell
end TraceForward
