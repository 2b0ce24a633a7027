/-
The commands of a shell that wait for jobs and send signals.
-/

import TraceForward.Shell.Builtin.Control

namespace TraceForward
namespace Shell
namespace Builtin

def job? (state : State) (word : Bytes) : Option Job :=
  match word.chars with
  | '%' :: rest =>
      if rest.isEmpty || rest = ['%'] || rest = ['+'] then state.jobs.getLast?
      else
        (String.ofList rest).toNat?.bind fun number =>
          state.jobs.find? (·.number == number)
  | _ => none

def cutShort : Script Nat := do
  let arrived ← Script.lift (Proc.look fun id system =>
    ((system.process? id).map Process.arrived).getD [])
  return 128 + arrived.headD 0

def awaitJobs : List Job → Script Bool
  | [] => return true
  | job :: rest => do
      if job.status.isSome then awaitJobs rest
      else
        match ← awaitOrSignal job.id with
        | none => return false
        | some status => do
            noteStatus job.id status
            awaitJobs rest

/-- The job that a word names by a percent sign or by its process, if there is
one. -/
def jobOf (word : Bytes) : Script (Option Job) := do
  let state ← get
  match word.chars with
  | '%' :: _ =>
      match job? state word with
      | some job => return some job
      | none => Script.fail s!"No such job: {word.latin}"
  | _ => do
      let id ← countOf word
      return state.jobs.find? (·.id == id)

def awaitJob (word : Bytes) : Script (Option Nat) := do
  match ← jobOf word with
  | none => return some notFoundStatus
  | some job =>
      match job.status with
      | some status => return some status
      | none =>
          match ← awaitOrSignal job.id with
          | none => return none
          | some status => do
              noteStatus job.id status
              return some status

def awaitWords : Nat → List Bytes → Script Nat
  | status, [] => return status
  | _, word :: rest => do
      match ← awaitJob word with
      | none => cutShort
      | some status => awaitWords status rest

def wait (words : List Bytes) : Script Nat := do
  if words.isEmpty then
    if ← awaitJobs (← get).jobs then
      modify ({ · with jobs := [] })
      return 0
    else cutShort
  else awaitWords 0 words

/-- The process that a word names.  A job is signalled as a group, which it is
not. -/
def target (word : Bytes) : Script Int := do
  match job? (← get) word with
  | some job => return -(Int.ofNat job.id)
  | none =>
      match word.chars with
      | '%' :: _ => Script.fail s!"No such job: {word.latin}"
      | '-' :: digits =>
          match count? (Bytes.ofChars digits) with
          | some id => return -(Int.ofNat id)
          | none => Script.fail s!"Illegal number: {word.latin}"
      | _ => return Int.ofNat (← countOf word)

def send (signal : Signal) (words : List Bytes) : Script Nat := do
  if words.isEmpty then Script.fail "Usage: kill [-s sigspec | -signum | -sigspec] [pid | job]..."
  let targets ← words.mapM target
  let faults ← Script.lift (targets.mapM (Proc.signal signal))
  faults.forM fun fault =>
    match fault with
    | some fault => Script.complain (fault.reason ++ "\n")
    | none => pure ()
  return if faults.any Option.isSome then 1 else 0

def kill (words : List Bytes) : Script Nat := do
  let dropMark (words : List Bytes) : List Bytes :=
    if words.head?.map Bytes.chars = some ['-', '-'] then words.drop 1 else words
  match words with
  | [] => send Signal.terminate []
  | option :: rest =>
      match option.chars, rest with
      | ['-', 'l'], [] =>
          Script.print (Bytes.ofText (String.join ((List.range 32).map fun signal =>
            Signal.name signal ++ "\n")))
      | ['-', 'l'], word :: _ =>
          let number ← countOf word
          Script.print (Bytes.ofText (Signal.name (if number < 128 then number else number - 128)
            ++ "\n"))
      | ['-', 's'], name :: rest =>
          match Signal.parse? name.latin with
          | some signal => send signal (dropMark rest)
          | none => Script.fail s!"invalid signal number or name: {name.latin}"
      | ['-', '-'], rest => send Signal.terminate rest
      | '-' :: name, rest =>
          match Signal.parse? (String.ofList name) with
          | some signal => send signal (dropMark rest)
          | none => Script.fail s!"Illegal option -{String.ofList (name.take 1)}"
      | _, _ => send Signal.terminate words

def jobs (_ : List Bytes) : Script Nat := do
  let shown := (← get).jobs.filter (·.status.isNone)
  let last := (shown.getLast?).map Job.number
  Script.print (shown.flatMap fun job =>
    let mark := if last = some job.number then "+" else "-"
    Bytes.ofText s!"[{job.number}] {mark} Running                    \n")

end Builtin
end Shell
end TraceForward
