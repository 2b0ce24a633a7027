/-
Why a system call fails.

Most causes are error numbers of the kernel and are shown with their number.
Names that cannot be handed to the kernel at all are refused before that, and
have no number.
-/

namespace TraceForward

inductive SystemFault where
  | notPermitted
  | notFound
  | noProcess
  | interrupted
  | argumentsTooLong
  | badFormat
  | badDescriptor
  | noChild
  | permissionDenied
  | exists
  | notADirectory
  | isADirectory
  | invalidArgument
  | brokenPipe
  | nameTooLong
  | notEmpty
  | tooManyLinks
  | connectionRefused
  | nulInFileName
  | nulInCommand
  | nulInSocketName
  | socketNameTooLong
deriving DecidableEq, Repr

namespace SystemFault

def numbered? : SystemFault → Option (Nat × String)
  | .notPermitted => some (1, "Operation not permitted")
  | .notFound => some (2, "No such file or directory")
  | .noProcess => some (3, "No such process")
  | .interrupted => some (4, "Interrupted system call")
  | .argumentsTooLong => some (7, "Argument list too long")
  | .badFormat => some (8, "Exec format error")
  | .badDescriptor => some (9, "Bad file descriptor")
  | .noChild => some (10, "No child processes")
  | .permissionDenied => some (13, "Permission denied")
  | .exists => some (17, "File exists")
  | .notADirectory => some (20, "Not a directory")
  | .isADirectory => some (21, "Is a directory")
  | .invalidArgument => some (22, "Invalid argument")
  | .brokenPipe => some (32, "Broken pipe")
  | .nameTooLong => some (36, "File name too long")
  | .notEmpty => some (39, "Directory not empty")
  | .tooManyLinks => some (40, "Too many levels of symbolic links")
  | .connectionRefused => some (111, "Connection refused")
  | .nulInFileName | .nulInCommand | .nulInSocketName | .socketNameTooLong => none

def refusal : SystemFault → String
  | .nulInFileName => "file name contained an unexpected NUL byte"
  | .nulInCommand => "nul byte found in provided data"
  | .nulInSocketName => "paths must not contain interior null bytes"
  | _ => "path must be shorter than SUN_LEN"

def reason (fault : SystemFault) : String :=
  match fault.numbered? with
  | some (_, meaning) => meaning
  | none => fault.refusal

def message (fault : SystemFault) : String :=
  match fault.numbered? with
  | some (number, meaning) => s!"{meaning} (os error {number})"
  | none => fault.refusal

end SystemFault

end TraceForward
