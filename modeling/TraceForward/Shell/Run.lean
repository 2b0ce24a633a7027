/-
Carrying out commands.

A command is carried out with the help of something that carries out those
inside it; the two are tied together once, with a bound on how deep commands
may be nested.  Between two commands the scripts for signals that have come are
carried out.
-/

import TraceForward.Shell.Builtin.Jobs
import TraceForward.Shell.Builtin.Read
import TraceForward.Shell.Builtin.Text

namespace TraceForward
namespace Shell

def rounds : Nat := 10000000

section Running

-- Carries out a command.
variable (again : Command → Script Unit)

/-! ### Commands of the shell -/

def specials : List (String × (List Bytes → Script Nat)) :=
  [(":", fun _ => pure 0), (".", Builtin.source again), ("eval", Builtin.eval again),
    ("break", Builtin.leaveLoop false), ("continue", Builtin.leaveLoop true),
    ("exit", Builtin.exit), ("return", Builtin.leaveFunction), ("export", Builtin.exported),
    ("readonly", Builtin.readonly), ("set", Builtin.setOptions), ("shift", Builtin.shift),
    ("trap", Builtin.trap), ("unset", Builtin.unset), ("local", Builtin.localVariables), ("times", fun _ =>
      Script.print (Bytes.ofText "0m0.000000s 0m0.000000s\n0m0.000000s 0m0.000000s\n")),
    ("exec", fun words =>
      match words with
      | [] => pure 0
      | name :: words => do Script.abort (← execProgram name words))]

def regulars : List (String × (List Bytes → Script Nat)) :=
  [("true", fun _ => pure 0), ("false", fun _ => pure 1), ("echo", Builtin.echo),
    ("printf", Builtin.printf), ("test", Builtin.test), ("[", Builtin.bracket),
    ("read", Builtin.read), ("cd", Builtin.cd), ("chdir", Builtin.cd), ("pwd", Builtin.pwd),
    ("getopts", Builtin.getopts), ("wait", Builtin.wait),
    ("kill", Builtin.kill), ("jobs", Builtin.jobs), ("alias", Builtin.aliased),
    ("unalias", Builtin.unalias), ("ulimit", Builtin.ulimit),
    ("umask", Builtin.umask),
    ("fg", fun _ => Script.fail "No current job"), ("bg", fun _ => Script.fail "No current job")]

def keywords : List String :=
  ["!", "case", "do", "done", "elif", "else", "esac", "fi", "for", "if", "in", "then",
    "until", "while", "\x7b", "\x7d"]

def lookingUp : List String :=
  ["command", "type", "hash"]

inductive Found where
  | special (run : List Bytes → Script Nat)
  | function (body : Command)
  | regular (run : List Bytes → Script Nat)
  | lookingUp
  | program

def find (state : State) (name : String) : Found :=
  match (specials again).lookup name with
  | some run => .special run
  | none =>
      match state.functions.lookup name with
      | some body => .function body
      | none =>
          match regulars.lookup name with
          | some run => .regular run
          | none => if lookingUp.contains name then .lookingUp else .program

def programPath? (state : State) (files : Files) (name : String) : Option String :=
  (Files.candidates state.searchPath name).find? fun path =>
    match files.find path with
    | .ok (_, inode) => inode.node != .directory && inode.mode &&& 0o111 != 0
    | .error _ => false

def describeAll (isShort : Bool) : Nat → List Bytes → Script Nat
  | status, [] => return status
  | status, word :: rest => do
      let name := fileName word
      let state ← get
      let path? ← Script.lift (Proc.viewFiles fun files => programPath? state files name)
      let text :=
        if keywords.contains name then some "a shell keyword"
        else
          match find again state name with
          | .special _ => some "a special shell builtin"
          | .function _ => some "a shell function"
          | .regular _ | .lookingUp => some "a shell builtin"
          | .program => path?
      match text with
      | none =>
          if !isShort then
            let _ ← Script.print (Bytes.ofText (name ++ ": not found\n"))
          describeAll isShort notFoundStatus rest
      | some text =>
          let shown := if path? = some text || !isShort then text else name
          let line := if isShort then shown else s!"{name} is {shown}"
          let _ ← Script.print (Bytes.ofText (line ++ "\n"))
          describeAll isShort status rest

def seekAll (words : List Bytes) : Script Nat := do
  let state ← get
  let names := (words.filter (·.head? != some 0x2D)).map fileName
  let leads (name : String) (files : Files) : Bool :=
    match find again state name with
    | .program => (programPath? state files name).isSome
    | _ => true
  let found ← Script.lift (Proc.viewFiles fun files => names.all (leads · files))
  return if found then 0 else 1

/-! ### Simple commands -/

def guarded (run : Script Nat) : Script Nat := do
  match ← Script.outcome run with
  | .ok status => return status
  | .error (.error status) => return status
  | .error leave => throw leave

def named (name : String) (run : Script Nat) : Script Nat :=
  Script.within ({ · with command := some name })
    (fun before after => { after with command := before.command }) run

def callFunction (body : Command) (words : List Bytes) : Script Unit := do
  let before ← get
  if 1000 ≤ before.hidden.length then
    Script.fail "Maximum function recursion depth (1000) reached"
  set
    { before with
      arguments := words, hidden := [] :: before.hidden, loops := 0, optionPlace := 1
      isLast := false }
  let result ← Script.outcome (again body)
  modify fun after =>
    let entries := after.hidden.headD []
    Builtin.restoreHidden
      { after with
        arguments := before.arguments, hidden := before.hidden, loops := before.loops
        optionPlace := before.optionPlace, isLast := before.isLast } entries
  match result with
  | .ok () | .error .function => pure ()
  | .error leave => throw leave

def withValues (values : List (String × Bytes)) (step : Script Unit) : Script Unit := do
  let before ← get
  let old := values.map fun entry => (entry.1, before.bindings.lookup entry.1)
  values.forM fun (name, value) => do
    Script.assign name value
    modify (·.modifyVariable name ({ · with isExported := true }))
  Script.ensuring step (modify fun after => Builtin.restoreHidden after old)

def runCommand : List Bytes → Script Unit
  | [] => Script.setStatus 0
  | option :: rest => do
      match option.chars, rest with
      | ['-', 'v'], names => Script.setStatus (← describeAll again true 0 names)
      | ['-', 'V'], names => Script.setStatus (← describeAll again false 0 names)
      | ['-', 'p'], name :: words | ['-', '-'], name :: words => run name words
      | ['-', 'p'], [] | ['-', '-'], [] => Script.setStatus 0
      | '-' :: letter :: _, _ => do
          Script.complain s!"Illegal option -{letter}"
          Script.setStatus 2
      | _, words => run option words
where
  run (name : Bytes) (words : List Bytes) : Script Unit := do
    let text := name.latin
    match ((specials again) ++ regulars).lookup text with
    | some run => Script.setStatus (← guarded (named text (run words)))
    | none =>
        if text = "type" then Script.setStatus (← describeAll again false 0 words)
        else if text = "hash" then Script.setStatus (← seekAll again words)
        else
          inChild again do
            Script.abort (← execProgram name words)

def runNamed (values : List (String × Bytes)) (name : Bytes) (words : List Bytes) :
    Script Unit := do
  let state ← get
  let text := name.latin
  match find again state text with
  | .special run =>
      values.forM fun (name, value) => do
        Script.assign name value
        if text = "exec" && !words.isEmpty then
          modify (·.modifyVariable name ({ · with isExported := true }))
      Script.setStatus (← named text (run words))
  | .function body => withValues values (callFunction again body words)
  | .regular run =>
      withValues values do
        Script.setStatus (← guarded (named text (run words)))
  | .lookingUp =>
      withValues values do
        if text = "command" then runCommand again words
        else if text = "type" then Script.setStatus (← describeAll again false 0 words)
        else Script.setStatus (← seekAll again words)
  | .program =>
      let step : Script Unit := withValues values do
        Script.abort (← execProgram name words)
      if state.isLast && state.traps.all (·.2.isEmpty) then step else inChild again step

def trace (values : List (String × Bytes)) (words : List Bytes) : Script Unit := do
  let state ← get
  if state.isOn 'x' then
    let shown := (values.map fun (name, value) => Bytes.ofText name ++ [0x3D] ++ value) ++ words
    let lead := (state.binding? "PS4").getD []
    let _ ← Script.lift (Proc.write 2 (lead ++ List.intercalate [0x20] shown ++ [0x0A]))

def expandAssignments : List (String × Word) → Script (List (String × Bytes))
  | [] => return []
  | (name, word) :: rest => do
      let value ← expandValue (capture again) word
      return (name, value) :: (← expandAssignments rest)

def assignAll : List (String × Word) → Script Unit
  | [] => pure ()
  | (name, word) :: rest => do
      let value ← expandValue (capture again) word
      trace [(name, value)] []
      Script.assign name value
      assignAll rest

def declaring : List String :=
  ["export", "readonly", "local", "alias"]

def runSimple (assignments : List (String × Word)) (words : List Word)
    (redirections : List Redirection) : Script Unit := do
  modify ({ · with outputStatus := 0 })
  let isDeclaring := ((words.head?).bind bareText?).any fun name =>
    declaring.contains (String.ofList name)
  let expanded ← expandWords (capture again) isDeclaring words
  let redirects ← expandRedirections (capture again) redirections
  match expanded with
  | [] =>
      let _ ← redirected redirects do
        assignAll again assignments
        modify fun state => { state with status := state.outputStatus }
  | name :: words =>
      let text := name.latin
      let step : Script Unit := do
        let values ← expandAssignments again assignments
        trace values (name :: words)
        runNamed again values name words
      let isMade ←
        if text = "exec" then
          let isMade ← redirectForGood redirects
          if isMade then step
          pure isMade
        else redirected redirects step
      if !isMade && ((specials again).lookup text).isSome then throw (.error 2)

/-! ### Other commands -/

def checkFailure : Script Unit := do
  let state ← get
  if state.status != 0 && state.isOn 'e' && !state.isTested then Script.abort state.status

def runHandlers : List Signal → Script Unit
  | [] => pure ()
  | signal :: rest => do
      let state ← get
      match state.traps.lookup signal with
      | none | some [] => runHandlers rest
      | some script => do
          let change (state : State) : State :=
            { state with isTested := false, isLast := false, statusBefore := some state.status }
          let putBack (before after : State) : State :=
            { after with
              isTested := before.isTested, isLast := before.isLast
              statusBefore := before.statusBefore }
          Script.within change putBack (again (.script state.line script.chars))
          Script.setStatus state.status
          runHandlers rest

def serveSignals : Script Unit := do
  runHandlers again (← Script.lift Proc.takeArrived)

def runAll : List Command → Script Unit
  | [] => pure ()
  | [command] => again command
  | command :: rest => do
      Script.asLast false (again command)
      runAll rest

def afterRound : Except Leave Unit → Script Bool
  | .ok () => return true
  | .error (.loop count goesOn) =>
      if 1 < count then throw (.loop (count - 1) goesOn) else return goesOn
  | .error leave => throw leave

def runRound (body : List Command) : Script Bool := do
  let step := Script.within (fun state => { state with loops := state.loops + 1, isLast := false })
    (fun before after => { after with loops := before.loops, isLast := before.isLast })
    (runAll again body)
  afterRound (← Script.outcome step)

/-- Repeats a body as long as a test succeeds, or as long as it fails. -/
def runLoop (whileSuccess : Bool) (test body : List Command) : Nat → Nat → Script Unit
  | 0, _ => Script.lift Proc.endless
  | fuel + 1, status => do
      let isTrue : Script Bool := do
        Script.asTested (runAll again test)
        return ((← get).status == 0) == whileSuccess
      let step := Script.within (fun state => { state with loops := state.loops + 1 })
        (fun before after => { after with loops := before.loops }) isTrue
      match ← Script.outcome step with
      | .ok true => do
          let goesOn ← runRound again body
          let status := (← get).status
          if goesOn then runLoop whileSuccess test body fuel status else pure ()
      | .ok false => Script.setStatus status
      | .error leave => do
          if ← afterRound (.error leave) then runLoop whileSuccess test body fuel status

def runEach (name : String) (body : List Command) : List Bytes → Script Unit
  | [] => pure ()
  | word :: rest => do
      Script.assign name word
      if ← runRound again body then runEach name body rest

def matchesOne (subject : Bytes) : List Word → Script Bool
  | [] => return false
  | pattern :: rest => do
      let pieces := Glob.pieces (← expandMarked (capture again) pattern)
      if Glob.accept pieces subject then return true else matchesOne subject rest

def runArms (subject : Bytes) : List (List Word × List Command) → Script Unit
  | [] => Script.setStatus 0
  | (patterns, body) :: rest => do
      if ← matchesOne again subject patterns then
        Script.setStatus 0
        runAll again body
      else runArms subject rest

def runScript (isLast : Bool) : Nat → Nat → List Char → Script Unit
  | 0, _, _ => Script.lift Proc.endless
  | fuel + 1, line, source => do
      match readScript (← get).aliasTokens line true source with
      | .commands commands rest =>
          let isDone := isLast && rest.all fun char => isBlank char || char == '\n'
          if !commands.isEmpty then Script.asLast isDone (runAll again commands)
          let taken := source.take (source.length - rest.length)
          runScript isLast fuel (line + taken.count '\n') rest
      | .open =>
          if source.isEmpty then pure ()
          else
            modify ({ · with line })
            Script.fail "Syntax error"

def perform : Command → Script Unit
  | .simple line assignments words redirections => do
      modify ({ · with line })
      runSimple again assignments words redirections
      checkFailure
      serveSignals again
  | .chain onSuccess first second => do
      Script.asTested (again first)
      if ((← get).status == 0) == onSuccess then again second
  | .negation command => do
      Script.asTested (again command)
      modify fun state => { state with status := if state.status = 0 then 1 else 0 }
  | .pipe commands => do
      let ids ← startPipe again none commands
      Script.setStatus (← awaitAll ids)
      checkFailure
      serveSignals again
  | .group commands => runAll again commands
  | .subshell commands => do
      let state ← get
      if state.isLast && state.traps.all (·.2.isEmpty) then
        set state.forChild
        runAll again commands
      else inChild again (runAll again commands)
      checkFailure
      serveSignals again
  | .background command => startJob again command
  | .choice test body otherwise => do
      Script.asTested (runAll again test)
      if (← get).status = 0 then runAll again body
      else
        Script.setStatus 0
        runAll again otherwise
  | .loop whileSuccess test body => runLoop again whileSuccess test body rounds 0
  | .each name items body => do
      let words ←
        match items with
        | some items => expandWords (capture again) false items
        | none => pure (← get).arguments
      Script.setStatus 0
      runEach again name body words
  | .cases subject arms => do
      runArms again (← expandValue (capture again) subject) arms
  | .define name body => do
      modify fun state =>
        { state with
          functions := (name, body) :: state.functions.filter (·.1 != name), status := 0 }
  | .redirected command redirections => do
      let redirects ← expandRedirections (capture again) redirections
      let _ ← redirected redirects (Script.asLast false (again command))
  | .script line source => do
      let isLast := (← get).isLast
      runScript again isLast rounds line source

end Running

def carryOut : Nat → Command → Script Unit
  | 0, _ => Script.lift Proc.endless
  | depth + 1, command => do
      if !(← get).isOn 'n' then perform (carryOut depth) command

def depthBound : Nat := 100000

def run (command : Command) : Script Unit :=
  carryOut depthBound command

end Shell
end TraceForward
