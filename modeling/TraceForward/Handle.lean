/-
Session handles.

A handle is the 64-bit identity under which a session is opened and closed.
It is shown in hexadecimal.
-/

namespace TraceForward

structure Handle where
  id : UInt64
deriving DecidableEq, Repr, Inhabited

/-- A handle as it is shown: `0x` and its lower-case hexadecimal digits. -/
def Handle.display (handle : Handle) : String :=
  "0x" ++ String.ofList (Nat.toDigits 16 handle.id.toNat)

end TraceForward
