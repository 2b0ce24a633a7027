/-
UTF-8 as a machine that reads one byte at a time.

The machine knows how many continuation bytes are owed and which range the
next byte has to lie in.  A byte outside that range breaks the text; the break
names the offset of the character it is in and how many of that character's
bytes were good.
-/

import TraceForward.Bytes

namespace TraceForward
namespace Utf8

/-- Between characters (`owed = 0`), or inside one: the number of bytes owed
and the range of the next one. -/
structure State where
  owed : Nat := 0
  low : Nat := 0x80
  high : Nat := 0xBF
deriving DecidableEq, Repr

def State.announced (byte : Nat) : Option State :=
  if byte ≤ 0x7F then some {}
  else if byte < 0xC2 then none
  else if byte ≤ 0xDF then some { owed := 1 }
  else if byte = 0xE0 then some { owed := 2, low := 0xA0 }
  else if byte = 0xED then some { owed := 2, high := 0x9F }
  else if byte ≤ 0xEF then some { owed := 2 }
  else if byte = 0xF0 then some { owed := 3, low := 0x90 }
  else if byte ≤ 0xF3 then some { owed := 3 }
  else if byte = 0xF4 then some { owed := 3, high := 0x8F }
  else none

def State.next? (state : State) (byte : Nat) : Option State :=
  match state.owed with
  | 0 => State.announced byte
  | owed + 1 =>
      if state.low ≤ byte ∧ byte ≤ state.high then some { owed } else none

structure Break where
  offset : Nat
  /-- Bytes of that character to be skipped; `none` when the bytes end in it. -/
  length : Option Nat
deriving DecidableEq, Repr

def Break.message (fault : Break) : String :=
  match fault.length with
  | some length =>
      s!"invalid utf-8 sequence of {length} bytes from index {fault.offset}"
  | none =>
      s!"incomplete utf-8 byte sequence from index {fault.offset}"

def scan (state : State) (offset taken : Nat) : Bytes → Option Break
  | [] =>
      if taken = 0 then none else some { offset, length := none }
  | byte :: rest =>
      match state.next? byte.toNat with
      | none => some { offset, length := some (max taken 1) }
      | some next =>
          if next.owed = 0 then
            scan next (offset + taken + 1) 0 rest
          else
            scan next offset (taken + 1) rest

def firstBreak (bytes : Bytes) : Option Break :=
  scan {} 0 0 bytes

def isValid (bytes : Bytes) : Bool :=
  (firstBreak bytes).isNone

def decode? (bytes : Bytes) : Option String :=
  String.fromUTF8? (ByteArray.mk bytes.toArray)

end Utf8
end TraceForward
