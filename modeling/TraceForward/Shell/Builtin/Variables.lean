/-
The commands of a shell that change its variables, arguments and options.
-/

import TraceForward.Shell.Children

namespace TraceForward
namespace Shell
namespace Builtin

def optionNames : List (Char × String) :=
  [('e', "errexit"), ('f', "noglob"), ('I', "ignoreeof"), ('i', "interactive"),
    ('m', "monitor"), ('n', "noexec"), ('s', "stdin"), ('x', "xtrace"), ('v', "verbose"),
    ('V', "vi"), ('E', "emacs"), ('C', "noclobber"), ('a', "allexport"), ('b', "notify"),
    ('u', "nounset"), ('p', "privileged")]

/-- Turns an option on or off.  The letters are kept in an order of their own.
-/
def switchOption (isOn : Bool) (letter : Char) (letters : List Char) : List Char :=
  (optionNames.map Prod.fst).reverse.filter fun other =>
    if other = letter then isOn else letters.contains other

def takeOptions : List Char → List Bytes → Option (List Char × List Bytes × Bool)
  | letters, [] => some (letters, [], false)
  | letters, word :: rest =>
      let switched (isOn : Bool) (flags : List Char) : Option (List Char) :=
        flags.foldlM (fun letters flag =>
          if (optionNames.lookup flag).isSome then some (switchOption isOn flag letters)
          else none) letters
      let named (isOn : Bool) (name : Bytes) : Option (List Char) :=
        (optionNames.find? (·.2 == name.latin)).map fun entry =>
          switchOption isOn entry.1 letters
      match word.chars, rest with
      | ['-', '-'], rest => some (letters, rest, true)
      | ['-'], rest => (switched false ['x', 'v']).map (·, rest, !rest.isEmpty)
      | ['+'], rest => takeOptions letters rest
      | ['-', 'o'], name :: rest => (named true name).bind (takeOptions · rest)
      | ['+', 'o'], name :: rest => (named false name).bind (takeOptions · rest)
      | '-' :: first :: flags, rest => (switched true (first :: flags)).bind (takeOptions · rest)
      | '+' :: first :: flags, rest => (switched false (first :: flags)).bind (takeOptions · rest)
      | _, _ => some (letters, word :: rest, true)

/-- A value with its single quotes between double quotes, and everything else
between single quotes. -/
def quoteWithin : Nat → Bytes → Bytes
  | 0, _ => []
  | fuel + 1, value =>
      let plain : Bytes := value.takeWhile (· != 0x27)
      let marks : Bytes := (value.drop plain.length).takeWhile (· == 0x27)
      let rest := value.drop (plain.length + marks.length)
      [0x27] ++ plain ++ [0x27]
        ++ (if marks.isEmpty then [] else [0x22] ++ marks ++ [0x22])
        ++ (if rest.isEmpty then [] else quoteWithin fuel rest)

def quote (value : Bytes) : Bytes :=
  quoteWithin (value.length + 1) value

def listing (lead : String) (isShown : Variable → Bool) (state : State) : Bytes :=
  let shown := state.bindings.filter fun entry => isShown entry.2
  let ordered := shown.mergeSort fun a b => !isLess (Bytes.ofText b.1) (Bytes.ofText a.1)
  ordered.flatMap fun (name, entry) =>
    let value :=
      match entry.value with
      | some value => [0x3D] ++ quote value
      | none => []
    Bytes.ofText (lead ++ name) ++ value ++ [0x0A]

def setOptions (words : List Bytes) : Script Nat := do
  let state ← get
  match words.map Bytes.latin with
  | [] => Script.print (listing "" (·.value.isSome) state)
  | ["-o"] =>
      let lines := optionNames.map fun (letter, name) =>
        let padding := "".pushn ' ' (16 - name.length)
        name ++ padding ++ (if state.isOn letter then "on" else "off") ++ "\n"
      Script.print (Bytes.ofText ("Current option settings\n" ++ String.join lines))
  | ["+o"] =>
      let lines := optionNames.map fun (letter, name) =>
        "set " ++ (if state.isOn letter then "-o " else "+o ") ++ name ++ "\n"
      Script.print (Bytes.ofText (String.join lines))
  | _ =>
      match takeOptions state.options words with
      | none => Script.fail "Illegal option"
      | some (options, rest, isGiven) =>
          modify fun state =>
            { state with
              options, arguments := if isGiven then rest else state.arguments }
          return 0

def count? (word : Bytes) : Option Nat :=
  if word.chars.all Char.isDigit then word.latin.toNat? else none

def shift (words : List Bytes) : Script Nat := do
  let arguments := (← get).arguments
  match words with
  | [] =>
      if arguments.isEmpty then Script.fail "can't shift that many"
      modify ({ · with arguments := arguments.tail })
      return 0
  | word :: _ =>
      match count? word with
      | none => Script.fail s!"Illegal number: {word.latin}"
      | some count =>
          if arguments.length < count then Script.fail "can't shift that many"
          modify ({ · with arguments := arguments.drop count })
          return 0

def splitAssignment (word : Bytes) : String × Option Bytes :=
  let name : Bytes := word.takeWhile (· != 0x3D)
  (name.latin, if word.length = name.length then none else some (word.drop (name.length + 1)))

def declare (mark : Variable → Variable) (words : List Bytes) : Script Nat := do
  words.forM fun word => do
    let (name, value?) := splitAssignment word
    if !isName name.toList then Script.fail (name ++ ": bad variable name")
    match value? with
    | some value => Script.assign name value
    | none => pure ()
    modify (·.modifyVariable name mark)
  return 0

def exported (words : List Bytes) : Script Nat := do
  match words.map Bytes.latin with
  | [] | ["-p"] => Script.print (listing "export " Variable.isExported (← get))
  | _ =>
      declare ({ · with isExported := true }) (words.filter fun word => word.latin != "--")

def readonly (words : List Bytes) : Script Nat := do
  match words.map Bytes.latin with
  | [] | ["-p"] => Script.print (listing "readonly " Variable.isReadonly (← get))
  | _ =>
      declare ({ · with isReadonly := true }) (words.filter fun word => word.latin != "--")

def unset (words : List Bytes) : Script Nat := do
  let (isFunction, names) :=
    match words.map Bytes.latin with
    | "-f" :: names => (true, names)
    | "-v" :: names => (false, names)
    | names => (false, names)
  names.forM fun name => do
    if isFunction then
      modify fun state =>
        { state with functions := state.functions.filter (·.1 != name) }
    else if !isName name.toList then Script.fail (name ++ ": bad variable name")
    else if (← get).isReadonly name then Script.fail (name ++ ": is read only")
    else
      modify fun state =>
        { state with bindings := state.bindings.filter (·.1 != name) }
  return 0

def localVariables (words : List Bytes) : Script Nat := do
  if (← get).hidden.isEmpty then Script.fail "not in a function"
  words.forM fun word => do
    let (name, value?) := splitAssignment word
    if !isName name.toList then Script.fail (name ++ ": bad variable name")
    modify fun state =>
      match state.hidden with
      | [] => state
      | entries :: rest =>
          if (entries.lookup name).isSome then state
          else
            { state with hidden := ((name, state.bindings.lookup name) :: entries) :: rest }
    match value? with
    | some value => Script.assign name value
    | none => pure ()
  return 0

def restoreHidden (state : State) (entries : List (String × Option Variable)) : State :=
  entries.foldl (fun state (name, old?) =>
    let others := state.bindings.filter (·.1 != name)
    { state with
      bindings :=
        match old? with
        | some old => (name, old) :: others
        | none => others }) state

/-! ### Aliases -/

def aliasLine (entry : String × Bytes) : Bytes :=
  Bytes.ofText (entry.1 ++ "=") ++ quote entry.2 ++ [0x0A]

def aliased (words : List Bytes) : Script Nat := do
  let state ← get
  if words.isEmpty then Script.print (state.aliases.reverse.flatMap aliasLine)
  else
    words.foldlM (fun status word => do
      match splitAssignment word with
      | (name, some text) => do
          modify fun state =>
            { state with aliases := (name, text) :: state.aliases.filter (·.1 != name) }
          return status
      | (name, none) =>
          match state.aliases.lookup name with
          | some text => do
              let _ ← Script.print (aliasLine (name, text))
              return status
          | none => return 1) 0

def unalias (words : List Bytes) : Script Nat := do
  let names := words.map Bytes.latin
  let known := (← get).aliases.map Prod.fst
  modify fun state =>
    { state with
      aliases :=
        if names.head? = some "-a" then []
        else state.aliases.filter fun entry => !names.contains entry.1 }
  return if names.head? = some "-a" || names.all known.contains then 0 else 1

/-! ### Options of scripts -/

structure NextOption where
  name : Bytes
  argument : Option Bytes := none
  index : Nat
  place : Nat := 1
  fault : Option String := none
  isEnd : Bool := false
deriving DecidableEq, Repr

/-- Takes the next option from words.  `index` counts from one and is that of
the word behind the one whose options are being taken. -/
def NextOption.take (letters : List Char) (words : List Bytes) (index place : Nat) :
    NextOption :=
  let isQuiet := letters.head? = some ':'
  let done (index : Nat) : NextOption := { name := [0x3F], index, isEnd := true }
  let current := if place = 1 then index else index - 1
  match words[current - 1]? with
  | none => done index
  | some word =>
      if place = 1 && (word.head? != some 0x2D || word.length = 1) then done index
      else if place = 1 && word.chars = ['-', '-'] then done (index + 1)
      else
        let letter := word.chars.getD place '?'
        let isLast := word.length ≤ place + 1
        let next := current + 1
        let nextPlace := if isLast then 1 else place + 1
        let behind := (letters.dropWhile (· != letter)).drop 1
        if letter = ':' || !letters.contains letter then
          { name := [0x3F], index := next, place := nextPlace
            argument := if isQuiet then some (Bytes.ofChars [letter]) else none
            fault := if isQuiet then none else some s!"Illegal option -{letter}" }
        else if behind.head? = some ':' then
          if !isLast then
            { name := Bytes.ofChars [letter], index := next
              argument := some (word.drop (place + 1)) }
          else
            match words[current]? with
            | some argument =>
                { name := Bytes.ofChars [letter], index := next + 1, argument := some argument }
            | none =>
                if isQuiet then
                  { name := [0x3A], index := next
                    argument := some (Bytes.ofChars [letter]) }
                else
                  { name := [0x3F], index := next
                    fault := some s!"No arg for -{letter} option" }
        else
          { name := Bytes.ofChars [letter], index := next, place := nextPlace
            argument := some [] }

def getopts (words : List Bytes) : Script Nat := do
  match words with
  | letters :: name :: rest =>
      let state ← get
      let index := ((state.binding? "OPTIND").bind count?).getD 1
      let source := if rest.isEmpty then state.arguments else rest
      let next := NextOption.take letters.chars source (max 1 index) state.optionPlace
      (next.fault.map Script.complain).getD (pure ())
      modify fun state =>
        let state := state.setVariable "OPTIND" (numberBytes next.index)
        let state :=
          match next.argument with
          | some argument => state.setVariable "OPTARG" argument
          | none =>
              if next.isEnd then state
              else { state with bindings := state.bindings.filter (·.1 != "OPTARG") }
        { state with optionPlace := next.place }
      Script.assign name.latin next.name
      return if next.isEnd then 1 else 0
  | _ => Script.fail "Usage: getopts optstring var [arg]"

end Builtin
end Shell
end TraceForward
