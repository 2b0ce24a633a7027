/-
Cutting a region of trace records into frames.

A region is a row of records.  Each starts with a clause id, and the clause
decides the size of the record, header included; clause 0 is filler and is its
header alone.  Frames hold whole records and are as long as the size limit
lets them be.  At the first record that is unknown, too large or cut off, the
frames up to it are kept and the rest of the region is given up.
-/

import TraceForward.Bytes
import TraceForward.Fault
import TraceForward.Limits

namespace TraceForward

/-- The size of a clause's records, 0 for a clause that is not known. -/
abbrev Sizer := Nat → Nat

/-- Why framing stops before the end of a region. -/
inductive FramingFault where
  | unknownSize (clause offset : Nat)
  | truncated (offset needed available : Nat)
  | exceedsMtu (clause size mtu : Nat)
deriving DecidableEq, Repr

namespace FramingFault

/-- Whether the fault lies in the session's settings, not in the region. -/
def isFatal : FramingFault → Bool
  | .exceedsMtu .. => true
  | _ => false

/-- The numbers of a fault with the names they are shown by. -/
def fields : FramingFault → List (String × Nat)
  | .unknownSize clause offset => [("clause", clause), ("offset", offset)]
  | .truncated offset needed available =>
      [("offset", offset), ("needed", needed), ("available", available)]
  | .exceedsMtu clause size mtu => [("clause", clause), ("size", size), ("mtu", mtu)]

def toFault : FramingFault → Fault
  | .unknownSize clause offset => .unknownRecordSize clause offset
  | .truncated offset needed available => .truncatedRecord offset needed available
  | .exceedsMtu clause size mtu => .recordExceedsMtu clause size mtu

end FramingFault

structure Framed where
  frames : List Bytes := []
  consumed : Nat := 0
  fault : Option FramingFault := none
deriving DecidableEq, Repr

namespace Framed

/-- The bytes of a region of the given length that framing gave up. -/
def dropped (framed : Framed) (length : Nat) : Nat :=
  length - framed.consumed

end Framed

namespace Record

def sizeOf (size : Sizer) (clause : Nat) : Nat :=
  if clause = Limits.fillerClause then Limits.headerSize else size clause

/-- The size of the record at the head of `rest`, which holds `left` bytes and
starts at `offset`; or why there is no record. -/
def nextSize (mtu : Nat) (size : Sizer) (offset left : Nat) (rest : Bytes) :
    Except FramingFault Nat :=
  match rest.word? Limits.headerSize with
  | none => .error (.truncated offset Limits.headerSize left)
  | some clause =>
      let recordSize := sizeOf size clause
      if recordSize = 0 then
        .error (.unknownSize clause offset)
      else if mtu < recordSize then
        .error (.exceedsMtu clause recordSize mtu)
      else if left < recordSize then
        .error (.truncated offset recordSize left)
      else
        .ok recordSize

/-- A record has at least one byte, fits a frame and lies in the region. -/
theorem nextSize_bounds {mtu : Nat} {size : Sizer} {offset left recordSize : Nat}
    {rest : Bytes} (found : nextSize mtu size offset left rest = .ok recordSize) :
    0 < recordSize ∧ recordSize ≤ mtu ∧ recordSize ≤ left := by
  unfold nextSize at found
  cases header : rest.word? Limits.headerSize with
  | none =>
      simp [header] at found
  | some clause =>
      simp only [header] at found
      split at found
      · contradiction
      · split at found
        · contradiction
        · split at found
          · contradiction
          · have same := Except.ok.inj found
            omega

/-- The frame of the first `length` bytes, none when it would be empty. -/
def closeFrame (start : Bytes) (length : Nat) : List Bytes :=
  if length = 0 then [] else [start.take length]

/-- Frames the `left` bytes of `rest`.  The open frame is the first `length`
bytes of `start`, and `rest` is what follows them at `offset`. -/
def cutFrom (mtu : Nat) (size : Sizer) (start : Bytes) (length : Nat)
    (rest : Bytes) (offset left : Nat) : Framed :=
  if left = 0 then
    { frames := closeFrame start length, consumed := offset }
  else
    match found : nextSize mtu size offset left rest with
    | .error fault =>
        { frames := closeFrame start length, consumed := offset, fault := some fault }
    | .ok recordSize =>
        have _bounds := nextSize_bounds found
        if mtu < length + recordSize then
          let later :=
            cutFrom mtu size rest recordSize (rest.drop recordSize)
              (offset + recordSize) (left - recordSize)
          { later with frames := start.take length :: later.frames }
        else
          cutFrom mtu size start (length + recordSize) (rest.drop recordSize)
            (offset + recordSize) (left - recordSize)
termination_by left
decreasing_by all_goals omega

def cut (region : Bytes) (mtu : Nat) (size : Sizer) : Framed :=
  cutFrom mtu size region 0 region 0 region.length

end Record

end TraceForward
