/-
Redirections of a command.

The words of all redirections are expanded first; then each is made, in order.
What a descriptor led to before is kept at a descriptor out of the way and put
back behind the command, unless the redirection is made for good.
-/

import TraceForward.Shell.Expand

namespace TraceForward

namespace Proc

def firstHidden : Nat := 10

def keep (descriptor : Nat) : Proc (Option Nat) :=
  act fun id system =>
    match system.number? id descriptor with
    | none => (none, system)
    | some number =>
        let (copy, system) := system.leadFree id firstHidden number
        (some copy, system)

def moveBack (source target : Nat) : Proc Unit := do
  let _ ← duplicate source target
  if source != target then close source

end Proc

namespace Shell

structure Redirect where
  descriptor : Nat
  kind : RedirectKind
  target : Bytes
deriving DecidableEq, Repr

structure Kept where
  descriptor : Nat
  copy : Option Nat
deriving DecidableEq, Repr

def openFailure (isCreated : Bool) (name : Bytes) (fault : SystemFault) : String :=
  let reason :=
    match fault with
    | .notFound | .notADirectory => if isCreated then "Directory nonexistent" else "No such file"
    | fault => fault.reason
  let action := if isCreated then "create" else "open"
  s!"cannot {action} {name.latin}: {reason}"

namespace Redirect

def isPlainFile (path : String) (files : Files) : Bool :=
  match files.find path with
  | .ok (_, { node := .file _, .. }) => true
  | _ => false

def opened (redirect : Redirect) : Proc (Except String Nat) := do
  let name := redirect.target
  if redirect.kind = .write then
    if ← Proc.viewFiles (isPlainFile (fileName name)) then
      return .error (openFailure true name .exists)
  let mode : System.OpenMode :=
    match redirect.kind with
    | .write | .overwrite => .write
    | .append => .append
    | .readWrite => .readWrite
    | _ => .read
  match ← Proc.openPath Proc.firstHidden (fileName name) mode with
  | .ok descriptor => return .ok descriptor
  | .error fault => return .error (openFailure (mode != .read) name fault)

/-- Makes a text readable.  A long one is written by a process of its own. -/
def document (text : Bytes) : Proc Nat := do
  let (reader, writer) ← Proc.makePipe Proc.firstHidden
  if text.length ≤ System.pipeUnit then
    let _ ← Proc.write writer text
  else
    let _ ← Proc.fork do
      Proc.close reader
      let _ ← Proc.write writer text
      Proc.exit 0
  Proc.close writer
  return reader

def make (redirect : Redirect) : Proc (Except String Unit) := do
  let descriptor := redirect.descriptor
  match redirect.kind with
  | .document =>
      Proc.moveBack (← document redirect.target) descriptor
      return .ok ()
  | .duplicate =>
      match redirect.target.chars with
      | ['-'] =>
          Proc.close descriptor
          return .ok ()
      | [digit] =>
          if digit.isDigit then
            match ← Proc.duplicate (digit.toNat - 48) descriptor with
            | none => return .ok ()
            | some fault => return .error s!"{digit}: {fault.reason}"
          else return .error "Bad fd number"
      | _ => return .error "Bad fd number"
  | _ =>
      match ← opened redirect with
      | .error reason => return .error reason
      | .ok source =>
          Proc.moveBack source descriptor
          return .ok ()

end Redirect

def putBack : List Kept → Proc Unit
  | [] => pure ()
  | kept :: rest => do
      match kept.copy with
      | some copy => Proc.moveBack copy kept.descriptor
      | none => Proc.close kept.descriptor
      putBack rest

def makeAll : List Redirect → List Kept → Proc (Except String (List Kept))
  | [], kept => return .ok kept
  | redirect :: rest, kept => do
      let kept :=
        { descriptor := redirect.descriptor, copy := ← Proc.keep redirect.descriptor } :: kept
      match ← redirect.make with
      | .ok () => makeAll rest kept
      | .error reason => do
          putBack kept
          return .error reason

/-- The kind of redirection that a kind comes to: a file is written over
unless that is forbidden. -/
def RedirectKind.under (state : State) (kind : RedirectKind) : RedirectKind :=
  if kind = .write && !state.isOn 'C' then .overwrite else kind

def expandRedirections (capture : List Char → Script Bytes) :
    List Redirection → Script (List Redirect)
  | [] => return []
  | { descriptor, kind, target } :: rest => do
      let target ← expandValue capture target
      let kind := kind.under (← get)
      return { descriptor, kind, target } :: (← expandRedirections capture rest)

def redirected (redirects : List Redirect) (step : Script Unit) : Script Bool := do
  if redirects.isEmpty then
    step
    return true
  match ← Script.lift (makeAll redirects []) with
  | .error reason => do
      Script.complain reason
      Script.setStatus 2
      return false
  | .ok kept => do
      Script.ensuring step (Script.lift (putBack kept))
      return true

def redirectForGood (redirects : List Redirect) : Script Bool := do
  match ← Script.lift (makeAll redirects []) with
  | .error reason => do
      Script.complain reason
      Script.setStatus 2
      return false
  | .ok kept => do
      Script.lift (kept.forM fun kept => (kept.copy.map Proc.close).getD (pure ()))
      return true

end Shell
end TraceForward
