/-
Topic names.

A topic is a name that the broker accepts: one to 249 characters out of the
ASCII letters and digits, the period, the underscore and the hyphen, and not
one of the two reserved names.
-/

import TraceForward.Fault
import TraceForward.Limits

namespace TraceForward

namespace Topic

def isNameChar (char : Char) : Bool :=
  char.isAlphanum || char == '.' || char == '_' || char == '-'

inductive Refusal where
  | length (bytes : Nat)
  | reserved (name : String)
  | character (name : String) (bad : Char)
deriving DecidableEq, Repr

def Refusal.message : Refusal → String
  | .length bytes =>
      s!"topic name must be 1..={Limits.maxTopicLength} characters, got {bytes}"
  | .reserved name => s!"topic name \x27{name}\x27 is reserved"
  | .character name bad =>
      s!"topic name \x27{name}\x27 contains invalid character \x27{bad}\x27"

/-- The first reason why a name is no topic: its length in bytes, then the
reserved names, then the first character out of the alphabet. -/
def refusal? (name : String) : Option Refusal :=
  if name.utf8ByteSize = 0 ∨ name.utf8ByteSize > Limits.maxTopicLength then
    some (.length name.utf8ByteSize)
  else if name = "." ∨ name = ".." then
    some (.reserved name)
  else
    (name.toList.find? fun char => !isNameChar char).map (.character name)

end Topic

structure Topic where
  name : String
  accepted : Topic.refusal? name = none

namespace Topic

def ofName (name : String) : Except Fault Topic :=
  match accepted : refusal? name with
  | none => .ok { name, accepted }
  | some refusal => .error (.invalidSetting refusal.message)

instance : Inhabited Topic :=
  ⟨{ name := "out", accepted := by decide +kernel }⟩

end Topic

end TraceForward
