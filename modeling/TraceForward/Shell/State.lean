/-
The state of a script that is being carried out.

What a shell knows belongs to its process; a process that it starts takes a
copy along.  A step may leave the commands around it: a loop, a function, or
the shell itself.
-/

import TraceForward.Posix.Launch
import TraceForward.Shell.Command
import TraceForward.Shell.Format

namespace TraceForward
namespace Shell

structure Variable where
  value : Option Bytes := none
  isExported : Bool := false
  isReadonly : Bool := false
deriving DecidableEq, Repr

structure Job where
  number : Nat
  id : ProcessId
  status : Option Nat := none
deriving DecidableEq, Repr

/-- The commands that a step leaves. -/
inductive Leave where
  | loop (count : Nat) (goesOn : Bool)
  | function
  | shell (status : Nat)
  | error (status : Nat)
deriving DecidableEq, Repr

structure State where
  name : Bytes
  arguments : List Bytes := []
  bindings : List (String × Variable) := []
  functions : List (String × Command) := []
  aliases : List (String × Bytes) := []
  traps : List (Signal × Bytes) := []
  options : List Char := []
  status : Nat := 0
  outputStatus : Nat := 0
  /-- Whether a status is about to be tested, so that a failure is none. -/
  isTested : Bool := false
  isLast : Bool := false
  lastJob : Option ProcessId := none
  jobs : List Job := []
  loops : Nat := 0
  /-- The functions around the step, each with the variables it hides. -/
  hidden : List (List (String × Option Variable)) := []
  id : ProcessId := 0
  parent : ProcessId := 0
  statusBefore : Option Nat := none
  optionPlace : Nat := 1
  line : Nat := 1
  command : Option String := none

abbrev Script := ExceptT Leave (StateT State Proc)

namespace Script

def lift {α : Type} (proc : Proc α) : Script α :=
  ExceptT.lift (StateT.lift proc)

def setStatus (status : Nat) : Script Unit :=
  modify ({ · with status })

def abort {α : Type} (status : Nat) : Script α :=
  throw (.shell status)

def outcome {α : Type} (step : Script α) : Script (Except Leave α) :=
  ExceptT.lift step.run

def resume {α : Type} : Except Leave α → Script α
  | .ok value => pure value
  | .error leave => throw leave

def ensuring {α : Type} (step : Script α) (last : Script Unit) : Script α := do
  let result ← outcome step
  last
  resume result

end Script

def numberBytes (value : Nat) : Bytes :=
  Bytes.ofText (toString value)

namespace State

def isOn (state : State) (option : Char) : Bool :=
  state.options.contains option

/-! ### Variables -/

def binding? (state : State) (name : String) : Option Bytes :=
  (state.bindings.lookup name).bind Variable.value

def modifyVariable (state : State) (name : String) (change : Variable → Variable) : State :=
  let old := (state.bindings.lookup name).getD {}
  { state with bindings := (name, change old) :: state.bindings.filter (·.1 != name) }

def setVariable (state : State) (name : String) (value : Bytes) : State :=
  state.modifyVariable name fun old =>
    { old with
      value := some value
      isExported := old.isExported || state.isOn 'a' }

def isReadonly (state : State) (name : String) : Bool :=
  (state.bindings.lookup name).any Variable.isReadonly

def separators (state : State) : Bytes :=
  (state.binding? "IFS").getD [0x20, 0x09, 0x0A]

def joined (state : State) : Bytes :=
  List.intercalate (state.separators.take 1) state.arguments

def value? (state : State) (name : String) : Option Bytes :=
  match name with
  | "@" | "*" => if state.arguments.isEmpty then none else some state.joined
  | "#" => some (numberBytes state.arguments.length)
  | "?" => some (numberBytes state.status)
  | "$" => some (numberBytes state.id)
  | "!" => state.lastJob.map numberBytes
  | "-" => some (Bytes.ofChars state.options)
  | _ =>
      match name.toNat? with
      | some 0 => some state.name
      | some index => state.arguments[index - 1]?
      | none => state.binding? name

def number? (state : State) (name : String) : Option Int :=
  numberOf? ((state.value? name).getD [])

def environment (state : State) : List (String × Bytes) :=
  state.bindings.filterMap fun entry =>
    if entry.2.isExported then entry.2.value.map (entry.1, ·) else none

def aliasTokens (state : State) : Aliases :=
  state.aliases.map fun (name, text) =>
    (name, ((scanLine true text.chars).map Prod.fst).getD [])

def searchPath (state : State) : String :=
  match state.binding? "PATH" with
  | some path => path.latin
  | none => Files.defaultSearchPath

/-! ### Traps -/

/-- What a process that the shell starts keeps of its traps: it still ignores
what was ignored. -/
def forChild (state : State) : State :=
  { state with
    traps := state.traps.filter fun trap => trap.2.isEmpty && trap.1 != 0
    jobs := [], loops := 0 }

def ofInvocation (invocation : Invocation) (directory : Bytes) : State :=
  let imported := (invocation.environment.filter fun entry => isName entry.1.toList).map
    fun (name, value) => (name, ({ value := some value, isExported := true } : Variable))
  let kept := imported.filter fun entry => entry.1 != "IFS" && entry.1 != "OPTIND"
  let start : List (String × Bytes) :=
    [("IFS", [0x20, 0x09, 0x0A]), ("OPTIND", [0x31]), ("PS1", [0x23, 0x20]),
      ("PS2", [0x3E, 0x20]), ("PS4", [0x2B, 0x20]),
      ("PATH", Bytes.ofText Files.defaultSearchPath)]
  let missing := start.filter fun entry => (kept.lookup entry.1).isNone
  let bare : State := { name := invocation.name, bindings := kept }
  let filled := missing.foldl (fun state entry => state.setVariable entry.1 entry.2) bare
  filled.modifyVariable "PWD" fun old => { old with value := some directory }

end State

namespace Script

def complain (text : String) : Script Unit := do
  let state ← get
  let command :=
    match state.command with
    | some command => command ++ ": "
    | none => ""
  let _ ← lift (Proc.write 2
    (state.name ++ Bytes.ofText (": " ++ toString state.line ++ ": " ++ command)
      ++ Bytes.ofText text ++ [0x0A]))

def fail {α : Type} (text : String) : Script α := do
  complain text
  throw (.error 2)

def within {α : Type} (change : State → State) (putBack : State → State → State)
    (step : Script α) : Script α := do
  let before ← get
  modify change
  ensuring step (modify (putBack before))

def asLast {α : Type} (isLast : Bool) (step : Script α) : Script α :=
  within ({ · with isLast }) (fun before after => { after with isLast := before.isLast }) step

def asTested {α : Type} (step : Script α) : Script α :=
  within ({ · with isTested := true, isLast := false })
    (fun before after => { after with isTested := before.isTested, isLast := before.isLast })
    step

def print (bytes : Bytes) : Script Nat := do
  if bytes.isEmpty then return 0
  match ← lift (Proc.write 1 bytes) with
  | none => return 0
  | some _ => do
      complain "I/O error"
      return 1

def assign (name : String) (value : Bytes) : Script Unit := do
  if (← get).isReadonly name then fail (name ++ ": is read only")
  modify (·.setVariable name value)
  if name = "OPTIND" then modify ({ · with optionPlace := 1 })

end Script

end Shell
end TraceForward
