/-
Harvesting the buffer units of a session.

One harvest visits the units in order.  A unit without memory is passed over.
A unit is switched, and what its standby region holds is framed, provided the
switch took place and the region that was drained is the one that was active
before.  A fault in one unit leaves the others alone.
-/

import TraceForward.Buffer
import TraceForward.Catalog.Basic
import TraceForward.Framing.Record
import TraceForward.Frame
import TraceForward.Text.Quoted

namespace TraceForward

structure HarvestStats where
  cycles : Nat := 0
  drops : Nat := 0
  errors : Nat := 0
  bytes : Nat := 0
  frames : Nat := 0
  framingAborts : Nat := 0
  bytesDiscarded : Nat := 0
  failedSwaps : Nat := 0
  inconsistentSwaps : Nat := 0
deriving DecidableEq, Repr

def HarvestStats.fields (stats : HarvestStats) : List (String × Nat) :=
  [("cycles", stats.cycles), ("drops", stats.drops), ("errors", stats.errors),
    ("bytes", stats.bytes), ("frames", stats.frames), ("framing_aborts", stats.framingAborts),
    ("bytes_discarded", stats.bytesDiscarded), ("failed_swaps", stats.failedSwaps),
    ("inconsistent_swaps", stats.inconsistentSwaps)]

structure Harvester where
  units : List BufferPair
  sizes : List Nat
  mtu : Nat
  stats : HarvestStats := {}
  /-- The first fault that lies in the settings, if there was one. -/
  fault : Option Fault := none
  /-- When the session was last seen alive, in nanoseconds; 0 before that. -/
  heartbeat : Nat := 0
deriving DecidableEq, Repr

namespace Harvester

/-- A harvester over units that are all switch buffers; of the others, the
first is named. -/
def create (units : List BufferPair) (sizes : List Nat) (mtu : Nat) :
    Except Fault Harvester :=
  match units.find? fun unit => unit.policy != .switch with
  | some unit => .error (.unsupportedPolicy unit.unit unit.policy.name)
  | none => .ok { units, sizes, mtu }

/-- What one visit makes of one unit. -/
inductive Visit where
  | absent
  | failedSwap
  | inconsistent
  | drained (region : Drained)
deriving DecidableEq, Repr

def visit (unit : BufferPair) : Visit × BufferPair :=
  match unit.active with
  | none => (.absent, unit)
  | some before =>
      let switched := unit.switch
      if switched.active = some before then
        (.failedSwap, switched)
      else
        let (drained, unit) := switched.drain
        if drained.region = before then (.drained drained, unit) else (.inconsistent, unit)

def frameRegion (harvester : Harvester) (region : Drained) : Framed :=
  if region.data.isEmpty then
    {}
  else
    Record.cut region.data harvester.mtu (Sizer.ofTable harvester.sizes)

def bookRegion (harvester : Harvester) (region : Drained) (framed : Framed) : Harvester :=
  let stats := harvester.stats
  let aborted := framed.fault.isSome
  { harvester with
    stats :=
      { stats with
        drops := stats.drops + region.drops
        errors := stats.errors + region.errors
        bytes := stats.bytes + region.data.length
        frames := stats.frames + framed.frames.length
        framingAborts := stats.framingAborts + (if aborted then 1 else 0)
        bytesDiscarded :=
          stats.bytesDiscarded +
            (if aborted then framed.dropped region.data.length else 0) }
    fault :=
      harvester.fault <|> (framed.fault.filter FramingFault.isFatal).map FramingFault.toFault }

def book (harvester : Harvester) : Visit → List Frame × Harvester
  | .absent => ([], harvester)
  | .failedSwap =>
      let stats := harvester.stats
      ([], { harvester with stats := { stats with failedSwaps := stats.failedSwaps + 1 } })
  | .inconsistent =>
      let stats := harvester.stats
      ([], { harvester with
              stats := { stats with inconsistentSwaps := stats.inconsistentSwaps + 1 } })
  | .drained region =>
      let framed := harvester.frameRegion region
      (framed.frames.map Frame.trace, harvester.bookRegion region framed)

/-- Visits the unit at a position of the row; past its end nothing happens. -/
def harvestUnit (harvester : Harvester) (position : Nat) : List Frame × Harvester :=
  match harvester.units[position]? with
  | none => ([], harvester)
  | some unit =>
      let (outcome, unit) := visit unit
      book { harvester with units := harvester.units.set position unit } outcome

/-- Ends a harvest at time `now`: the cycle is counted and the session is seen
alive, later than ever before even if the clock stood still. -/
def finishCycle (harvester : Harvester) (now : Nat) : Harvester :=
  let stats := harvester.stats
  { harvester with
    stats := { stats with cycles := stats.cycles + 1 }
    heartbeat := max now (harvester.heartbeat + 1) }

def harvestFrom (harvester : Harvester) : (count position : Nat) → List Frame × Harvester
  | 0, _ => ([], harvester)
  | count + 1, position =>
      let (frames, harvester) := harvester.harvestUnit position
      let (later, harvester) := harvester.harvestFrom count (position + 1)
      (frames ++ later, harvester)

/-- Visits every unit once, in order, and gives the frames of all of them. -/
def harvest (harvester : Harvester) (now : Nat) : List Frame × Harvester :=
  let (frames, harvester) := harvester.harvestFrom harvester.units.length 0
  (frames, harvester.finishCycle now)

def modifyUnit (harvester : Harvester) (position : Nat) (change : BufferPair → BufferPair) :
    Harvester :=
  { harvester with units := harvester.units.modify position change }

def display (harvester : Harvester) : String :=
  Quoted.record "Harvester"
    [("units", toString harvester.units.length),
      ("mtu", toString harvester.mtu),
      ("stats", Quoted.totals "HarvestStats" harvester.stats.fields)]

end Harvester

end TraceForward
