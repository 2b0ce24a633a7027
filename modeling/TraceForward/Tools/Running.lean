/-
Programs that run other programs.
-/

import TraceForward.Tools.Lines

namespace TraceForward
namespace Tool

def searchPath (environment : List (String × Bytes)) : String :=
  match environment.lookup "PATH" with
  | some path => path.latin
  | none => Files.defaultSearchPath

def failureCode : SystemFault → Nat
  | .notFound | .notADirectory => 127
  | _ => 126

def replaceBy (caller : String) (words : List Bytes) (environment : List (String × Bytes)) :
    Proc Nat := do
  match words with
  | [] => refuse caller "missing operand" 125
  | name :: words =>
      let fault ← Proc.become (searchPath environment) { name, words, environment }
      refuse caller s!"{fileName name}: {fault.reason}" (failureCode fault)

def start (caller : String) (words : List Bytes) (environment : List (String × Bytes)) :
    Proc ProcessId :=
  Proc.fork do
    let code ← replaceBy caller words environment
    Proc.exit code

def codeOf : Except SystemFault (ProcessId × ExitStatus) → Nat
  | .ok (_, status) => status.shellStatus
  | .error _ => 125

/-! ### Surroundings -/

def takeValues : List Bytes → List (String × Bytes) × List Bytes
  | [] => ([], [])
  | word :: rest =>
      let name : Bytes := word.takeWhile (· != 0x3D)
      if name.length = word.length then ([], word :: rest)
      else
        let (values, words) := takeValues rest
        ((name.latin, word.drop (name.length + 1)) :: values, words)

def env : Tool := fun invocation =>
  withOptions
    { flags := "i0v", valued := "uC", isMixed := false
      long := [("ignore-environment", 'i'), ("unset", 'u'), ("chdir", 'C')] } 125
    (fun given => do
      let words := given.operands.dropWhile (· == [0x2D])
      let isBare := given.has 'i' || words.length < given.operands.length
      let unset := given.options.filterMap fun (letter, name) =>
        if letter = 'u' then some name.latin else none
      let kept := if isBare then [] else invocation.environment
      let kept := kept.filter fun entry => !unset.contains entry.1
      let (values, words) := takeValues words
      let environment := values.foldl (fun environment entry =>
        environment.filter (·.1 != entry.1) ++ [entry]) kept
      if words.isEmpty then
        print "env" (environment.flatMap fun (name, value) =>
          Bytes.ofText name ++ [0x3D] ++ value ++ [0x0A]) 0
      else replaceBy "env" words environment) invocation

def passOn (name : String) (known : Known) (prepare : Proc Unit) : Tool := fun invocation =>
  withOptions { known with isMixed := false } 125 (fun given => do
    prepare
    replaceBy name given.operands invocation.environment) invocation

def nohup : Tool :=
  passOn "nohup" {} (Proc.dispose 1 (some .ignored))

def nice : Tool := fun invocation =>
  if invocation.words.isEmpty then print "nice" (Bytes.ofText "0\n") 0
  else passOn "nice" { valued := "n", long := [("adjustment", 'n')] } (pure ()) invocation

def stdbuf : Tool :=
  passOn "stdbuf" { valued := "ioe" } (pure ())

/-! ### Limited time -/

def waitUntil (child : ProcessId) (span : Nat) :
    Proc (Option (Except SystemFault (ProcessId × ExitStatus))) := do
  Proc.change fun id system =>
    system.modify id ({ · with alarm := some (system.clock + span) })
  Proc.attempt fun id system =>
    let quiet (system : System) : System := system.modify id ({ · with alarm := none })
    match system.reap id (some child) with
    | some (answer, system) => some (some answer, quiet system)
    | none =>
        let isUp := ((system.process? id).bind Process.alarm).all (· ≤ system.clock)
        if isUp then some (none, quiet system) else none

def timeout (nanoseconds? : Bytes → Option Nat) : Tool := fun invocation =>
  withOptions
    { flags := "fpv", valued := "ks", isMixed := false
      long := [("signal", 's'), ("kill-after", 'k'), ("preserve-status", 'p'),
        ("foreground", 'f')] } 125
    (fun given => do
      let asked := ((given.value? 's').map fun word => Signal.parse? word.latin).getD
        (some Signal.terminate)
      match asked, given.operands with
      | some signal, span :: first :: words =>
          match nanoseconds? span with
          | none => refuse "timeout" "invalid time interval" 125
          | some nanoseconds => do
              let child ← start "timeout" (first :: words) invocation.environment
              let ended ←
                if nanoseconds = 0 then do
                  pure (some (← Proc.wait (some child)))
                else waitUntil child nanoseconds
              match ended with
              | some answer => return codeOf answer
              | none => do
                  let _ ← Proc.signal signal (Int.ofNat child)
                  let later := (given.value? 'k').bind nanoseconds?
                  let answer ←
                    match ← waitUntil child (later.getD 1000000000000000) with
                    | some answer => pure answer
                    | none => do
                        let _ ← Proc.signal Signal.kill (Int.ofNat child)
                        Proc.wait (some child)
                  let code := codeOf answer
                  return if given.has 'p' || code = 128 + Signal.kill then code else 124
      | none, _ => refuse "timeout" "invalid signal" 125
      | _, _ => refuse "timeout" "missing operand" 125) invocation

/-! ### Programs for words of the input -/

def quotedWords : Nat → Option UInt8 → Option Bytes → Bytes → List Bytes
  | 0, _, _, _ => []
  | _ + 1, _, word, [] => word.toList.map List.reverse
  | fuel + 1, quote, word, byte :: rest =>
      match quote with
      | some mark =>
          if byte = mark then quotedWords fuel none word rest
          else quotedWords fuel quote (some (byte :: word.getD [])) rest
      | none =>
          if byte = 0x22 || byte = 0x27 then quotedWords fuel (some byte) (some (word.getD [])) rest
          else if byte = 0x5C then
            match rest with
            | next :: rest => quotedWords fuel none (some (next :: word.getD [])) rest
            | [] => word.toList.map List.reverse
          else if isSpaceByte byte then
            match word with
            | some word => word.reverse :: quotedWords fuel none none rest
            | none => quotedWords fuel none none rest
          else quotedWords fuel none (some (byte :: word.getD [])) rest

def substitute (mark text : Bytes) : Nat → Bytes → Bytes
  | 0, word => word
  | _ + 1, [] => []
  | fuel + 1, byte :: rest =>
      if !mark.isEmpty && (byte :: rest).take mark.length == mark then
        text ++ substitute mark text fuel ((byte :: rest).drop mark.length)
      else byte :: substitute mark text fuel rest

def chunks (size : Nat) : Nat → List Bytes → List (List Bytes)
  | 0, _ => []
  | fuel + 1, words =>
      if words.isEmpty then [] else words.take size :: chunks size fuel (words.drop size)

def xargs : Tool := fun invocation =>
  withOptions
    { flags := "0rtx", valued := "InLPdas", isMixed := false
      long := [("null", '0'), ("no-run-if-empty", 'r'), ("max-args", 'n'), ("replace", 'I')] } 1
    (fun given => do
      let text ← input
      let lines := bareLines text
      let words :=
        if given.has '0' then (splitAt 0 text).filter (!·.isEmpty)
        else if given.has 'I' then
          (lines.map fun line => line.dropWhile isBlankByte).filter (!·.isEmpty)
        else quotedWords (text.length + 1) none none text
      let command := if given.operands.isEmpty then [Bytes.ofText "echo"] else given.operands
      let size := ((given.value? 'n').bind natural?).getD (max 1 words.length)
      let calls :=
        match given.value? 'I' with
        | some mark => words.map fun word =>
            command.map fun part => substitute mark word (part.length + 1) part
        | none =>
            if words.isEmpty then if given.has 'r' then [] else [command]
            else (chunks (max 1 size) words.length words).map (command ++ ·)
      let valid := ((given.value? 's').map fun word => (natural? word).isSome).getD true
      if valid then run invocation.environment 0 calls
      else refuse "xargs" "invalid number") invocation
where
  run (environment : List (String × Bytes)) (code : Nat) : List (List Bytes) → Proc Nat
    | [] => return code
    | call :: rest => do
        let child ← start "xargs" call environment
        let ended := codeOf (← Proc.wait (some child))
        if ended = 255 then return 124
        else if 128 < ended then return 125
        else if ended = 126 || ended = 127 then return ended
        else run environment (if ended = 0 then code else 123) rest

def which : Tool := fun invocation =>
  withOptions { flags := "as" } 2 (fun given => do
    let path := searchPath invocation.environment
    let isProgram (files : Files) (path : String) : Bool :=
      match files.find path with
      | .ok (_, inode) => inode.node != .directory && inode.mode &&& 0o111 != 0
      | .error _ => false
    let found ← Proc.viewFiles fun files => given.operands.map fun word =>
      (Files.candidates path (fileName word)).find? (isProgram files)
    let shown :=
      if given.has 's' then [] else joinLines ((found.filterMap id).map Bytes.ofText)
    let isWhole := found.all Option.isSome && !found.isEmpty
    print "which" shown (if isWhole then 0 else 1)) invocation

end Tool
end TraceForward
