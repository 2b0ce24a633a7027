/-
The table of registered sessions.

Handles are spread over buckets by a hash.  A bucket is a row of entries: a
new entry goes to its end, and an entry that is taken out is replaced by the
last one.  The table works with any hash; which one is used only decides the
order in which sessions are stopped.
-/

import TraceForward.Handle
import TraceForward.Murmur

namespace TraceForward

structure HandleTable (α : Type) where
  hash : Handle → Nat
  buckets : List (List (Handle × α))

/-- The hash that sessions are registered by: that of the handle's eight
bytes. -/
def Handle.hash (handle : Handle) : Nat :=
  (Murmur.hash Murmur.partitionSeed (Bytes.ofLittleEndian 8 handle.id.toNat)).toNat

namespace HandleTable

variable {α : Type}

def create (hash : Handle → Nat) (count : Nat) : HandleTable α :=
  { hash, buckets := List.replicate count [] }

/-- The position of a handle's bucket: the low bits of its hash, for a number
of buckets that is a power of two. -/
def position (table : HandleTable α) (handle : Handle) : Nat :=
  table.hash handle &&& (table.buckets.length - 1)

def bucket (table : HandleTable α) (handle : Handle) : List (Handle × α) :=
  table.buckets.getD (table.position handle) []

def find? (table : HandleTable α) (handle : Handle) : Option α :=
  (table.bucket handle).lookup handle

def contains (table : HandleTable α) (handle : Handle) : Bool :=
  (table.find? handle).isSome

def insert (table : HandleTable α) (handle : Handle) (value : α) : HandleTable α :=
  { table with
    buckets := table.buckets.modify (table.position handle) (· ++ [(handle, value)]) }

/-- A row without the entry at a position, which the last entry replaces. -/
def swapRemove {β : Type} (row : List β) (position : Nat) : List β :=
  match row.getLast? with
  | none => []
  | some last => (row.set position last).dropLast

def unlink (table : HandleTable α) (handle : Handle) : Option (α × HandleTable α) :=
  let row := table.bucket handle
  match row.findIdx? fun entry => entry.1 == handle with
  | none => none
  | some index =>
      (row[index]?).map fun entry =>
        (entry.2,
          { table with
            buckets :=
              table.buckets.modify (table.position handle) fun row => swapRemove row index })

def handles (table : HandleTable α) : List Handle :=
  table.buckets.flatMap fun row => row.map Prod.fst

def size (table : HandleTable α) : Nat :=
  table.handles.length

end HandleTable

end TraceForward
