/-
The two buffers of an execution unit.

Producers append whole records to the active region.  A switch exchanges the
active and the standby region, and the harvest then takes what the standby
region holds.  A record that does not fit is refused and counted.
-/

import TraceForward.Bytes

namespace TraceForward

inductive BufferPolicy where
  | switch
  | ring
  | fill
deriving DecidableEq, Repr

namespace BufferPolicy

def name : BufferPolicy → String
  | .switch => "switch"
  | .ring => "ring"
  | .fill => "fill"

/-- Reads a policy by its name, in either case.  The names have no letter that
a character beyond ASCII lowers to, so lowering ASCII letters is enough. -/
def parse? (text : String) : Option BufferPolicy :=
  [BufferPolicy.switch, .ring, .fill].find? fun policy => policy.name == text.toLower

end BufferPolicy

/-- Tells the regions of a pair from one another and from all others. -/
inductive RegionId where
  | own (index : Nat)
  /-- A region that is not one of the pair. -/
  | foreign
deriving DecidableEq, Repr

/-- One region: what was written to it, and what was counted against it. -/
structure Region where
  id : RegionId
  data : Bytes := []
  drops : Nat := 0
  errors : Nat := 0
deriving DecidableEq, Repr

def Region.cleared (region : Region) : Region :=
  { id := region.id }

/-- What a drain takes out of a region. -/
structure Drained where
  unit : Nat
  region : RegionId
  data : Bytes
  drops : Nat
  errors : Nat
deriving DecidableEq, Repr

/-- The active and the standby region of one unit. -/
structure BufferPair where
  unit : Nat := 0
  policy : BufferPolicy := .switch
  capacity : Nat := 0
  allocated : Bool := true
  front : Region := { id := .own 0 }
  back : Region := { id := .own 1 }
  /-- The next switch fails and exchanges nothing. -/
  failNext : Bool := false
  /-- The next drain answers for a region that is not one of the pair. -/
  foreignNext : Bool := false
  everSwitched : Bool := false
deriving DecidableEq, Repr

namespace BufferPair

def unallocated (unit : Nat) : BufferPair :=
  { unit, allocated := false }

def active (pair : BufferPair) : Option RegionId :=
  if pair.allocated then some pair.front.id else none

def pending (pair : BufferPair) : Nat :=
  pair.front.data.length

/-- Appends a record to the active region, or refuses and counts it when it
does not fit. -/
def write (pair : BufferPair) (record : Bytes) : Bool × BufferPair :=
  if pair.capacity < pair.front.data.length + record.length then
    (false, { pair with front := { pair.front with drops := pair.front.drops + 1 } })
  else
    (true, { pair with front := { pair.front with data := pair.front.data ++ record } })

def recordError (pair : BufferPair) : BufferPair :=
  { pair with front := { pair.front with errors := pair.front.errors + 1 } }

def armFailedSwitch (pair : BufferPair) : BufferPair :=
  { pair with failNext := true }

/-- Makes the next drain answer for a foreign region. -/
def armForeignDrain (pair : BufferPair) : BufferPair :=
  { pair with foreignNext := true }

/-- Exchanges the regions.  The one that becomes active starts out empty.  A
unit without memory is left alone, and so is one whose switch was made to
fail, but for the arming. -/
def switch (pair : BufferPair) : BufferPair :=
  if !pair.allocated then
    pair
  else if pair.failNext then
    { pair with failNext := false }
  else
    { pair with front := pair.back.cleared, back := pair.front, everSwitched := true }

def drain (pair : BufferPair) : Drained × BufferPair :=
  let drained : Drained :=
    { unit := pair.unit
      region := if pair.foreignNext then .foreign else pair.back.id
      data := pair.back.data
      drops := pair.back.drops
      errors := pair.back.errors }
  (drained, { pair with back := pair.back.cleared, foreignNext := false })

end BufferPair

end TraceForward
