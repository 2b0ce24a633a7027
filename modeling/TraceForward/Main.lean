/-
The command line program.

It reads the files that its command line names, runs the daemon over them, and
writes what the daemon copies to its output.
-/

import TraceForward.CommandLine.Start
import TraceForward.Program

namespace TraceForward

def namedFiles (words : List String) : List String :=
  match ({} : Scan).run words with
  | .error _ => []
  | .ok scan => [scan.value? .interpreter, scan.value? .script].filterMap id ++ scan.arguments

def takeFile (files : Files) (path : String) : IO Files := do
  try
    let content ← IO.FS.readBinFile path
    return files.install path content.toList
  catch _ =>
    return files

end TraceForward

open TraceForward in
def main (words : List String) : IO UInt32 := do
  let files ← (namedFiles words).foldlM takeFile (Files.equipped programs.names)
  match Start.ofWords? programs words files 1 with
  | none =>
      IO.eprintln "the interpreter does not end"
      return 1
  | some start =>
      let output ← IO.getStdout
      output.write ⟨start.echo.toArray⟩
      match start with
      | .usage .version => pure ()
      | .usage error => IO.eprintln error.message
      | _ => (start.failure?.map IO.eprintln).getD (pure ())
      return UInt32.ofNat start.exitCode
