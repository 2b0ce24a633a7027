/-
Editing lines by a script.

Each line of the input is taken into a working line, the commands of the script
whose addresses fit are carried out on it, and it is written at the end.
-/

import TraceForward.Tools.Lines
import TraceForward.Tools.Regex

namespace TraceForward
namespace Editing

/-! ### Scripts -/

inductive Address where
  | line (number : Nat)
  | step (first step : Nat)
  | last
  | found (regex : Option Regex) (foldsCase : Bool)
deriving DecidableEq, Repr

inductive RangeEnd where
  | address (address : Address)
  | lines (count : Nat)
deriving DecidableEq, Repr

structure Selection where
  first : Option Address := none
  last : Option RangeEnd := none
  isNegated : Bool := false
deriving DecidableEq, Repr

inductive Piece where
  | text (bytes : Bytes)
  | group (number : Nat)
deriving DecidableEq, Repr

structure Substitution where
  regex : Option Regex
  pieces : List Piece
  isGlobal : Bool := false
  prints : Bool := false
  foldsCase : Bool := false
  number : Nat := 1
deriving DecidableEq, Repr

inductive Action where
  | block (length : Nat)
  | substitute (substitution : Substitution)
  | replace (images : List (UInt8 × UInt8))
  | append (text : Bytes)
  | insert (text : Bytes)
  | change (text : Bytes)
  | jump (label : String)
  | jumpIf (replaced : Bool) (label : String)
  | label (name : String)
  | quit (silent : Bool) (code : Nat)
  | plain (letter : Char)
deriving DecidableEq, Repr

structure Command where
  selection : Selection
  action : Action
deriving DecidableEq, Repr

/-! ### Reading scripts -/

/-- The text up to a mark that no backslash quotes, outside sets, and the rest.
-/
def takeDelimited (mark : Char) : Nat → Bool → List Char → Option (List Char × List Char)
  | 0, _, _ => none
  | _ + 1, _, [] => none
  | fuel + 1, inSet, char :: rest =>
      let keep (taken : List Char) (inSet : Bool) (rest : List Char) :=
        (takeDelimited mark fuel inSet rest).map fun (text, rest) => (taken ++ text, rest)
      if char = '\\' then
        match rest with
        | next :: rest =>
            if next = mark && !inSet then keep [next] false rest
            else keep ['\\', next] inSet rest
        | [] => none
      else if char = mark && !inSet then some ([], rest)
      else if char = '[' then keep ['['] true rest
      else if char = ']' then keep [']'] false rest
      else keep [char] inSet rest

def takeImage (mark : Char) : List Char → Option (List Char × List Char)
  | [] => none
  | '\\' :: next :: rest =>
      let taken := if next = mark && next != '&' then [next] else ['\\', next]
      (takeImage mark rest).map fun (text, rest) => (taken ++ text, rest)
  | char :: rest =>
      if char = mark then some ([], rest)
      else (takeImage mark rest).map fun (text, rest) => (char :: text, rest)

def piecesOf : List Char → List Piece
  | [] => []
  | '&' :: rest => .group 0 :: piecesOf rest
  | '\\' :: char :: rest =>
      if char.isDigit then .group (char.toNat - 48) :: piecesOf rest
      else
        let byte : UInt8 :=
          match char with
          | 'n' => 0x0A
          | 't' => 0x09
          | char => UInt8.ofNat char.toNat
        .text [byte] :: piecesOf rest
  | char :: rest => .text [UInt8.ofNat char.toNat] :: piecesOf rest

structure Reading where
  dialect : Regex.Dialect

def isGap (char : Char) : Bool :=
  char == ' ' || char == '\t'

def takeNumber? (chars : List Char) : Option (Nat × List Char) :=
  let digits := chars.takeWhile Char.isDigit
  ((String.ofList digits).toNat?).map (·, chars.drop digits.length)

def regexOf? (reading : Reading) (source : List Char) : Option (Option Regex) :=
  if source.isEmpty then some none else (Regex.parse? reading.dialect source).map some

def takeAddress? (reading : Reading) (chars : List Char) :
    Option (Option Address × List Char) :=
  let found (mark : Char) (rest : List Char) : Option (Option Address × List Char) := do
    let (source, rest) ← takeDelimited mark (rest.length + 1) false rest
    let regex ← regexOf? reading source
    match rest with
    | 'I' :: rest => return (some (.found regex true), rest)
    | rest => return (some (.found regex false), rest)
  match chars with
  | '$' :: rest => some (some .last, rest)
  | '/' :: rest => found '/' rest
  | '\\' :: mark :: rest => found mark rest
  | chars =>
      match takeNumber? chars with
      | none => some (none, chars)
      | some (first, '~' :: rest) =>
          (takeNumber? rest).map fun (step, rest) => (some (.step first step), rest)
      | some (number, rest) => some (some (.line number), rest)

def takeSelection? (reading : Reading) (chars : List Char) : Option (Selection × List Char) := do
  let (first, rest) ← takeAddress? reading chars
  let rest := rest.dropWhile isGap
  let (last, rest) : Option RangeEnd × List Char ←
    match first, rest with
    | some _, ',' :: '+' :: rest =>
        (takeNumber? rest).map fun (count, rest) => (some (RangeEnd.lines count), rest)
    | some _, ',' :: rest =>
        match takeAddress? reading (rest.dropWhile isGap) with
        | some (some address, rest) => some (some (RangeEnd.address address), rest)
        | _ => none
    | _, rest => some (none, rest)
  let rest := rest.dropWhile isGap
  let marks := rest.takeWhile fun char => char == '!' || isGap char
  return ({ first, last, isNegated := marks.contains '!' }, rest.drop marks.length)

def takeFlags : Nat → Substitution → List Char → Option (Substitution × List Char)
  | 0, _, _ => none
  | fuel + 1, substitution, chars =>
      match chars with
      | 'g' :: rest => takeFlags fuel { substitution with isGlobal := true } rest
      | 'p' :: rest => takeFlags fuel { substitution with prints := true } rest
      | 'i' :: rest | 'I' :: rest => takeFlags fuel { substitution with foldsCase := true } rest
      | chars =>
          match takeNumber? chars with
          | some (number, rest) =>
              if number = 0 then none else takeFlags fuel { substitution with number } rest
          | none => some (substitution, chars)

def takeSubstitution? (reading : Reading) (chars : List Char) :
    Option (Substitution × List Char) :=
  match chars with
  | [] => none
  | mark :: rest => do
      if mark = '\n' || mark = '\\' then none
      let (source, rest) ← takeDelimited mark (rest.length + 1) false rest
      let (image, rest) ← takeImage mark rest
      let regex ← regexOf? reading source
      takeFlags (rest.length + 1) { regex, pieces := piecesOf image } rest

def takeBytes (mark : Char) (chars : List Char) : Option (Bytes × List Char) :=
  (takeImage mark chars).map fun (text, rest) =>
    ((piecesOf text).flatMap fun piece =>
      match piece with
      | .text bytes => bytes
      | .group _ => [0x26], rest)

/-- A text behind its command, up to a line end that no backslash quotes, and
the rest. -/
def takeText (chars : List Char) : Bytes × List Char :=
  let start :=
    match chars.dropWhile isGap with
    | '\\' :: rest =>
        match rest.dropWhile isGap with
        | '\n' :: rest => rest
        | rest => rest
    | rest => rest
  let (text, rest) := lines start
  (Bytes.ofChars text ++ [0x0A], rest)
where
  lines : List Char → List Char × List Char
    | [] => ([], [])
    | '\\' :: next :: rest =>
        let (text, rest) := lines rest
        (next :: text, rest)
    | '\n' :: rest => ([], rest)
    | char :: rest =>
        let (text, rest) := lines rest
        (char :: text, rest)

def takeLabel (chars : List Char) : String × List Char :=
  let start := chars.dropWhile isGap
  let name := start.takeWhile fun char => char != ';' && char != '\n' && char != '}'
  (String.ofList (name.reverse.dropWhile isGap).reverse, start.drop name.length)

def takeEnd? (chars : List Char) : Option (List Char) :=
  match chars.dropWhile isGap with
  | [] => some []
  | ';' :: rest | '\n' :: rest => some rest
  | '}' :: rest => some ('}' :: rest)
  | '#' :: rest => some ('#' :: rest)
  | _ => none

def takeAction? (reading : Reading) (letter : Char) (rest : List Char) :
    Option (Action × List Char) :=
  let ended (action : Action) (rest : List Char) : Option (Action × List Char) :=
    (takeEnd? rest).map (action, ·)
  let text (make : Bytes → Action) : Option (Action × List Char) :=
    if (rest.dropWhile isGap).isEmpty then none
    else
      let (text, rest) := takeText rest
      some (make text, rest)
  let label (make : String → Action) : Option (Action × List Char) :=
    let (name, rest) := takeLabel rest
    ended (make name) rest
  match letter with
  | 's' => (takeSubstitution? reading rest).bind fun (one, rest) => ended (.substitute one) rest
  | 'y' =>
      match rest with
      | mark :: rest => do
          let (sources, rest) ← takeBytes mark rest
          let (images, rest) ← takeBytes mark rest
          if sources.length = images.length then ended (.replace (sources.zip images)) rest
          else none
      | [] => none
  | 'a' => text .append
  | 'i' => text .insert
  | 'c' => text .change
  | 'b' => label .jump
  | 't' => label (.jumpIf true)
  | 'T' => label (.jumpIf false)
  | 'q' | 'Q' =>
      let (code, rest) := (takeNumber? (rest.dropWhile isGap)).getD (0, rest)
      ended (.quit (letter == 'Q') code) rest
  | letter =>
      if "=dDgGhHlnNpPxz".toList.contains letter then ended (.plain letter) rest else none

/-- The commands of a script, and what follows them; inside a block up to its
end. -/
def takeCommands? (reading : Reading) :
    Nat → Bool → List Char → Option (List Command × List Char)
  | 0, _, _ => none
  | fuel + 1, inBlock, chars =>
      let start := chars.dropWhile fun char => isGap char || char == ';' || char == '\n'
      match start with
      | [] => if inBlock then none else some ([], [])
      | '}' :: rest => if inBlock then (takeEnd? rest).map ([], ·) else none
      | '#' :: rest => takeCommands? reading fuel inBlock (rest.dropWhile (· != '\n'))
      | start => do
          let (selection, rest) ← takeSelection? reading start
          match rest with
          | [] => none
          | '{' :: rest =>
              let (inner, rest) ← takeCommands? reading fuel true rest
              let (more, rest) ← takeCommands? reading fuel inBlock rest
              return ({ selection, action := .block inner.length } :: inner ++ more, rest)
          | ':' :: rest =>
              if selection.first.isSome then none
              else
                let (name, rest) := takeLabel rest
                let (more, rest) ← takeCommands? reading fuel inBlock rest
                return ({ selection, action := .label name } :: more, rest)
          | letter :: rest =>
              let (action, rest) ← takeAction? reading letter rest
              let (more, rest) ← takeCommands? reading fuel inBlock rest
              return ({ selection, action } :: more, rest)

def targetOf : Action → Option String
  | .jump name | .jumpIf _ name => if name.isEmpty then none else some name
  | _ => none

def parse? (reading : Reading) (chars : List Char) : Option (List Command) :=
  match takeCommands? reading (chars.length + 2) false chars with
  | some (commands, []) =>
      let isKnown (name : String) : Bool := commands.any (·.action == .label name)
      if (commands.filterMap fun command => targetOf command.action).all isKnown then
        some commands
      else none
  | _ => none

/-! ### Carrying out -/

structure State where
  input : List Bytes
  line : Bytes := []
  kept : Bytes := []
  number : Nat := 0
  written : List Bytes := []
  behind : List Bytes := []
  /-- Where the range of a command that has begun ends, by its place. -/
  ranges : List (Nat × Nat) := []
  lastRegex : Option Regex := none
  replaced : Bool := false
  isWhole : Bool := true

namespace State

def isLast (state : State) : Bool :=
  state.input.isEmpty

def write (state : State) (line : Bytes) : State :=
  { state with written := (line ++ if state.isWhole then [0x0A] else []) :: state.written }

def flush (state : State) : State :=
  { state with written := state.behind ++ state.written, behind := [] }

def next? (state : State) : Option (Bytes × State) :=
  match state.input with
  | [] => none
  | line :: input =>
      some (Tool.bare line,
        { state with
          input, number := state.number + 1
          isWhole := line.getLast? == some 0x0A || !input.isEmpty })

def regexFor (state : State) (regex : Option Regex) : Regex × State :=
  let meant := (regex <|> state.lastRegex).getD .empty
  (meant, { state with lastRegex := some meant })

def fits (state : State) : Address → Bool × State
  | .line number => (state.number = number, state)
  | .step first step =>
      (if step = 0 then state.number == first
        else first ≤ state.number && (state.number - first) % step == 0, state)
  | .last => (state.isLast, state)
  | .found regex foldsCase =>
      let (regex, state) := state.regexFor regex
      ((regex.search { bytes := state.line.toArray, foldsCase } 0).isSome, state)

/-- Whether the range of a command that has begun goes on, and whether this is
its last line. -/
def goesOn (state : State) (last : RangeEnd) (begun : Nat) : Bool × Bool × State :=
  match last with
  | .lines count => (state.number ≤ begun + count, begun + count ≤ state.number, state)
  | .address (.line number) =>
      (state.number ≤ number || state.number = begun, number ≤ state.number, state)
  | .address address =>
      let (fits, state) := state.fits address
      (true, fits, state)

def selects (state : State) (place : Nat) (selection : Selection) : Bool × State :=
  let settle (found : Bool) (state : State) : Bool × State := (found != selection.isNegated, state)
  let without (state : State) : State :=
    { state with ranges := state.ranges.filter (·.1 != place) }
  match selection.first, selection.last with
  | none, _ => settle true state
  | some first, none =>
      let (found, state) := state.fits first
      settle found state
  | some first, some last =>
      match state.ranges.lookup place with
      | some begun =>
          let (found, isOver, state) := state.goesOn last begun
          let state := if isOver then without state else state
          if found then settle true state
          else
            let (again, state) := (without state).fits first
            settle again state
      | none =>
          let (found, state) := state.fits first
          let isSingle :=
            match last with
            | .lines 0 => true
            | .address (.line number) => number ≤ state.number
            | _ => false
          if found && !isSingle then
            settle true { state with ranges := (place, state.number) :: state.ranges }
          else settle found state

end State

def imageOf (subject : Regex.Subject) (found : Regex.Match) (pieces : List Piece) : Bytes :=
  pieces.flatMap fun piece =>
    match piece with
    | .text bytes => bytes
    | .group number => found.group subject number

def replaceFrom (substitution : Substitution) (regex : Regex) (subject : Regex.Subject) :
    Nat → Nat → Nat → Bool → Bytes × Bool
  | 0, _, place, _ => (subject.between place subject.bytes.size, false)
  | fuel + 1, index, place, afterMatch =>
      match regex.search subject place with
      | none => (subject.between place subject.bytes.size, false)
      | some found =>
          let front := subject.between place found.first
          let isEmpty := found.first = found.last
          let step := subject.between found.last (found.last + 1)
          let isSkipped := isEmpty && afterMatch && found.first = place
          let isWanted := !isSkipped
            && (index = substitution.number || (substitution.isGlobal && substitution.number ≤ index))
          let image :=
            if isWanted then imageOf subject found substitution.pieces
            else subject.between found.first found.last
          let isOver := (isWanted && !substitution.isGlobal)
            || (isEmpty && subject.bytes.size ≤ found.last)
          let next := if isEmpty then found.last + 1 else found.last
          let (rest, more) : Bytes × Bool :=
            if isOver then (subject.between next subject.bytes.size, false)
            else
              replaceFrom substitution regex subject fuel
                (if isSkipped then index else index + 1) next (!isEmpty)
          (front ++ image ++ (if isEmpty then step else []) ++ rest, isWanted || more)

def substitute (substitution : Substitution) (state : State) : State :=
  let (regex, state) := state.regexFor substitution.regex
  let subject : Regex.Subject :=
    { bytes := state.line.toArray, foldsCase := substitution.foldsCase }
  let (line, isDone) :=
    replaceFrom substitution regex subject (state.line.length + 2) 1 0 false
  if !isDone then state
  else
    let state := { state with line, replaced := true }
    if substitution.prints then state.write line else state

inductive Next where
  | command (place : Nat)
  | done (silent : Bool)
  | again
  | quit (silent : Bool) (code : Nat)
deriving DecidableEq, Repr

def firstLine (line : Bytes) : Bytes :=
  line.takeWhile (· != 0x0A)

def shownBytes (line : Bytes) : Bytes :=
  line.flatMap fun byte =>
    match byte with
    | 0x5C => [0x5C, 0x5C]
    | 0x07 => [0x5C, 0x61]
    | 0x08 => [0x5C, 0x62]
    | 0x09 => [0x5C, 0x74]
    | 0x0A => [0x5C, 0x6E]
    | 0x0B => [0x5C, 0x76]
    | 0x0C => [0x5C, 0x66]
    | 0x0D => [0x5C, 0x72]
    | byte =>
        if 0x20 ≤ byte && byte < 0x7F then [byte]
        else 0x5C :: Bytes.ofText (Mode.octal 3 byte.toNat)

def carryOutPlain (isSilent : Bool) (place : Nat) (letter : Char) (state : State) :
    Next × State :=
  let go (state : State) : Next × State := (.command (place + 1), state)
  match letter with
  | '=' => go { state with written := (Tool.digits state.number ++ [0x0A]) :: state.written }
  | 'd' => (.done true, state)
  | 'D' =>
      let rest := state.line.drop ((firstLine state.line).length + 1)
      if state.line.contains 0x0A then (.again, { state with line := rest })
      else (.done true, state)
  | 'g' => go { state with line := state.kept }
  | 'G' => go { state with line := state.line ++ 0x0A :: state.kept }
  | 'h' => go { state with kept := state.line }
  | 'H' => go { state with kept := state.kept ++ 0x0A :: state.line }
  | 'l' => go { state with written := (shownBytes state.line ++ [0x24, 0x0A]) :: state.written }
  | 'n' =>
      if state.isLast then (.quit isSilent 0, state)
      else
        let shown := if isSilent then state else state.write state.line
        match shown.flush.next? with
        | some (line, state) => go { state with line }
        | none => (.quit true 0, shown)
  | 'N' =>
      match state.flush.next? with
      | some (line, state) => go { state with line := state.line ++ 0x0A :: line }
      | none => (.quit isSilent 0, state)
  | 'p' => go (state.write state.line)
  | 'P' => go { state with written := (firstLine state.line ++ [0x0A]) :: state.written }
  | 'x' => go { state with line := state.kept, kept := state.line }
  | _ => go { state with line := [] }

def placeOf (commands : Array Command) (name : String) : Nat :=
  (commands.findIdx? (·.action == .label name)).getD commands.size

def carryOut (commands : Array Command) (isSilent : Bool) (place : Nat) (command : Command)
    (state : State) : Next × State :=
  let go (state : State) : Next × State := (.command (place + 1), state)
  match command.action with
  | .block _ | .label _ => go state
  | .substitute substitution => go (substitute substitution state)
  | .replace images =>
      go { state with line := state.line.map fun byte => (images.lookup byte).getD byte }
  | .append text => go { state with behind := text :: state.behind }
  | .insert text => go { state with written := text :: state.written }
  | .change text =>
      let isWithin := (state.ranges.lookup place).isSome && !command.selection.isNegated
      (.done true, if isWithin then state else { state with written := text :: state.written })
  | .jump name => (.command (placeOf commands name), state)
  | .jumpIf replaced name =>
      if state.replaced = replaced then
        (.command (placeOf commands name), { state with replaced := false })
      else go { state with replaced := false }
  | .quit silent code => (.quit (silent || isSilent) code, state)
  | .plain letter => carryOutPlain isSilent place letter state

/-- Carries out commands on the working line; none if they do not seem to end.
-/
def runLine (commands : Array Command) (isSilent : Bool) : Nat → Nat → State →
    Option (Next × State)
  | 0, _, _ => none
  | fuel + 1, place, state =>
      match commands[place]? with
      | none => some (.done isSilent, state)
      | some command =>
          let (isSelected, state) := state.selects place command.selection
          let (next, state) : Next × State :=
            if isSelected then carryOut commands isSilent place command state
            else
              match command.action with
              | .block length => (.command (place + length + 1), state)
              | _ => (.command (place + 1), state)
          match next with
          | .command place => runLine commands isSilent fuel place state
          | next => some (next, state)

/-- Edits line after line, and gives the exit code; none if a script does not
seem to end. -/
def runAll (commands : Array Command) (isSilent : Bool) :
    Nat → Bool → State → Option (Nat × State)
  | 0, _, _ => none
  | fuel + 1, keepsLine, state =>
      let taken :=
        if keepsLine then some state
        else state.next?.map fun (line, state) => { state with line, replaced := false }
      match taken with
      | none => some (0, state)
      | some state =>
          match runLine commands isSilent 100000 0 state with
          | none => none
          | some (next, state) =>
              let finish (silent : Bool) : State :=
                (if silent then state else state.write state.line).flush
              match next with
              | .done silent => runAll commands isSilent fuel false (finish silent)
              | .again => runAll commands isSilent fuel true state.flush
              | .quit silent code => some (code, finish silent)
              | .command _ => none

end Editing

namespace Tool

def editText (commands : List Editing.Command) (isSilent : Bool) (text : Bytes) :
    Option (Nat × Bytes) :=
  let lines := linesOf text
  (Editing.runAll commands.toArray isSilent (1000 * (lines.length + 100)) false
    { input := lines }).map fun (code, state) => (code, state.written.reverse.flatten)

def editFiles (commands : List Editing.Command) (isSilent : Bool) :
    List Bytes → Nat → Proc Nat
  | [], code => return code
  | word :: rest, code => do
      match ← contentOf word with
      | .error fault => do
          complain (Bytes.ofText "sed") s!"can't read {fileName word}: {fault.reason}"
          editFiles commands isSilent rest 2
      | .ok content =>
          match editText commands isSilent content with
          | none => Proc.endless
          | some (ended, text) => do
              let _ ← Proc.changeFiles (·.write (fileName word) text)
              editFiles commands isSilent rest (max code ended)

def sed : Tool :=
  withOptions
    { flags := "nErsuz", valued := "ef"
      long := [("quiet", 'n'), ("silent", 'n'), ("regexp-extended", 'E'), ("expression", 'e'),
        ("separate", 's'), ("in-place", 'i'), ("file", 'f')] } 1
    fun given => edit given
where
  edit (given : Given) : Proc Nat := do
    let written ← (given.options.filter fun option => option.1 = 'e' || option.1 = 'f').mapM
      fun (letter, word) => do
        if letter = 'e' then return some word else return (← contentOf word).toOption
    let (sources, operands) :=
      if written.isEmpty then ((given.operands.take 1).map some, given.operands.drop 1)
      else (written, given.operands)
    let isExtended := given.has 'E' || given.has 'r'
    let source : Option Bytes := (sources.mapM id).map fun sources => List.intercalate [0x0A] sources
    match if sources.isEmpty then none else
        source.bind fun source => Editing.parse? { dialect := { isExtended } } source.chars with
    | none => refuse "sed" "invalid script"
    | some commands =>
        let isSilent := given.has 'n' || (source.getD []).take 3 == [0x23, 0x6E, 0x0A]
        if given.has 'i' then editFiles commands isSilent operands 0
        else
          let (found, failed) ←
            contents "sed" (if operands.isEmpty then [[0x2D]] else operands)
          let texts := found.map Prod.snd
          let parts := if given.has 's' then texts else [texts.flatten]
          match parts.mapM (editText commands isSilent) with
          | none => Proc.endless
          | some edited =>
              let code := (edited.map Prod.fst).foldl max 0
              print "sed" (edited.flatMap Prod.snd) (if failed then 2 else code)

def sedInPlace : Tool := fun invocation =>
  let (marks, words) := invocation.words.partition fun word => word.take 2 == [0x2D, 0x69]
  if marks.isEmpty then sed invocation
  else sed { invocation with words := Bytes.ofText "--in-place" :: words }

end Tool
end TraceForward
