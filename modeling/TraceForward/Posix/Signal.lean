/-
Signals, and how a process ends.

A signal ends a process that takes no care of it, unless it is one of the few
that only report something or that make a process pause.
-/

namespace TraceForward

abbrev Signal := Nat

namespace Signal

def numbers : List (String × Signal) :=
  [("HUP", 1), ("INT", 2), ("QUIT", 3), ("ILL", 4), ("TRAP", 5), ("ABRT", 6), ("BUS", 7),
    ("FPE", 8), ("KILL", 9), ("USR1", 10), ("SEGV", 11), ("USR2", 12), ("PIPE", 13),
    ("ALRM", 14), ("TERM", 15), ("CHLD", 17), ("CONT", 18), ("STOP", 19), ("TSTP", 20),
    ("TTIN", 21), ("TTOU", 22), ("URG", 23), ("XCPU", 24), ("XFSZ", 25), ("VTALRM", 26),
    ("PROF", 27), ("WINCH", 28), ("IO", 29), ("PWR", 30), ("SYS", 31)]

def interrupt : Signal := 2

def quit : Signal := 3

def kill : Signal := 9

def brokenPipe : Signal := 13

def terminate : Signal := 15

def child : Signal := 17

def resume : Signal := 18

def pause : Signal := 19

def greatest : Nat := 64

def parse? (text : String) : Option Signal :=
  match text.toNat? with
  | some number => if number ≤ greatest then some number else none
  | none => numbers.lookup text.toUpper

def name (signal : Signal) : String :=
  ((numbers.find? (·.2 == signal)).map Prod.fst).getD (toString signal)

def isHarmless (signal : Signal) : Bool :=
  signal == 0 || [17, 18, 23, 28].contains signal

def pauses (signal : Signal) : Bool :=
  19 ≤ signal && signal ≤ 22

def isForced (signal : Signal) : Bool :=
  signal == kill || signal == pause

end Signal

inductive ExitStatus where
  | exited (code : Nat)
  | signalled (signal : Signal)
deriving DecidableEq, Repr

namespace ExitStatus

def code? : ExitStatus → Option Nat
  | .exited code => some code
  | .signalled _ => none

def shellStatus : ExitStatus → Nat
  | .exited code => code
  | .signalled signal => 128 + signal

end ExitStatus

end TraceForward
