/-
Messages in a stream of text fragments.

A fragment that begins with an opening brace begins a message, one that begins
with a closing brace ends it, and the message is all fragments from the one to
the other.  Fragments outside a message are thrown away, and so is a message
that another one begins in.
-/

import TraceForward.Frame

namespace TraceForward

def openMarker : UInt8 := 0x7B

def closeMarker : UInt8 := 0x7D

def beginsWith (marker : UInt8) (fragment : Bytes) : Bool :=
  fragment.head? == some marker

structure TextFramer where
  message : Option Bytes := none
  /-- Stray fragments and unfinished messages thrown away. -/
  discarded : Nat := 0
deriving DecidableEq, Repr

namespace TextFramer

def isOpen (framer : TextFramer) : Bool :=
  framer.message.isSome

/-- The framer on which a fragment is laid: an opening fragment begins an
empty message in place of one that is open. -/
def opened (framer : TextFramer) (fragment : Bytes) : TextFramer :=
  if beginsWith openMarker fragment then
    { message := some []
      discarded := framer.discarded + (if framer.isOpen then 1 else 0) }
  else
    framer

def push (framer : TextFramer) (fragment : Bytes) : Option Bytes × TextFramer :=
  let framer := framer.opened fragment
  match framer.message with
  | none => (none, { framer with discarded := framer.discarded + 1 })
  | some message =>
      if beginsWith closeMarker fragment then
        (some (message ++ fragment), { framer with message := none })
      else
        (none, { framer with message := some (message ++ fragment) })

end TextFramer

/-- Fragments on one side, trace frames on the other. -/
structure FragmentSource where
  framer : TextFramer := {}
  ready : List Frame := []
  fragments : Nat := 0
deriving DecidableEq, Repr

namespace FragmentSource

def feed (source : FragmentSource) (fragment : Bytes) : FragmentSource :=
  let (message, framer) := source.framer.push fragment
  { framer
    ready := source.ready ++ (message.map Frame.trace).toList
    fragments := source.fragments + 1 }

def pending (source : FragmentSource) : Nat :=
  source.ready.length

def discarded (source : FragmentSource) : Nat :=
  source.framer.discarded

def inMessage (source : FragmentSource) : Bool :=
  source.framer.isOpen

def drain (source : FragmentSource) : List Frame × FragmentSource :=
  (source.ready, { source with ready := [] })

end FragmentSource

end TraceForward
