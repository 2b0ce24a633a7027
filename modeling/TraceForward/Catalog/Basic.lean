/-
The descriptor tables of the instrumentation.

Format strings and clauses are kept in two tables that only ever grow.  An id
is a position in its table, counted from 1, so an id once given names the same
entry in every later state of the tables.  A clause slot is empty when the
clause is disabled.
-/

import TraceForward.Fault
import TraceForward.Framing.Record

namespace TraceForward

structure Probe where
  id : Nat
  provider : String
  moduleName : String
  function : String
  name : String
deriving DecidableEq, Repr

/-- Where the data of one action lies in a record. -/
structure RecordLayout where
  action : Nat
  size : Nat
  offset : Nat
  alignment : Nat
  format : Nat
  arg : Nat
deriving DecidableEq, Repr

structure Action where
  layout : RecordLayout
  aggregating : Bool := false
  /-- The action is part of an aggregation key. -/
  inTuple : Bool := false
deriving DecidableEq, Repr

/-- Whether the action writes data of its own into the clause's records. -/
def Action.isPlain (action : Action) : Bool :=
  !action.aggregating && !action.inTuple

/-- An enabled clause. -/
structure Clause where
  probe : Option Probe
  userArg : Nat
  /-- The size of the clause's records, clause id included. -/
  size : Nat
  actions : List Action
deriving DecidableEq, Repr

def Clause.plainLayouts (clause : Clause) : List RecordLayout :=
  (clause.actions.filter Action.isPlain).map Action.layout

/-- The tables at one moment. -/
structure Catalog where
  formats : List String := []
  clauses : List (Option Clause) := []
deriving DecidableEq, Repr

namespace Catalog

/-- Appends a format string and gives its id, the length of the table in a word of 32
bits. -/
def addFormat (catalog : Catalog) (format : String) : UInt32 × Catalog :=
  let formats := catalog.formats ++ [format]
  (.ofNat formats.length, { catalog with formats })

def addClause (catalog : Catalog) (clause : Option Clause) : UInt32 × Catalog :=
  let clauses := catalog.clauses ++ [clause]
  (.ofNat clauses.length, { catalog with clauses })

/-- The clause with an id, if there is one and it is enabled. -/
def clause? (catalog : Catalog) : Nat → Option Clause
  | 0 => none
  | position + 1 => catalog.clauses[position]?.join

/-- The enabled clauses with their ids, in the order of the ids. -/
def enabled (catalog : Catalog) : List (Nat × Clause) :=
  catalog.clauses.zipIdx.filterMap fun (slot, position) =>
    slot.map fun clause => (position + 1, clause)

/-- The largest record size of the enabled clauses, 0 if there is none. -/
def maxRecordSize (catalog : Catalog) : Nat :=
  (catalog.enabled.map fun entry => entry.2.size).foldl max 0

/-- Refuses a frame size that the records of an enabled clause exceed, and
names the first such clause. -/
def checkMtu (catalog : Catalog) (mtu : Nat) : Except Fault Unit :=
  match catalog.enabled.find? fun entry => decide (mtu < entry.2.size) with
  | none => .ok ()
  | some (id, clause) => .error (.recordExceedsMtu id clause.size mtu)

/-- The record sizes by clause id; 0 stands for no clause and for an empty
slot. -/
def sizeTable (catalog : Catalog) : List Nat :=
  0 :: catalog.clauses.map fun slot => (slot.map Clause.size).getD 0

end Catalog

/-- Looks sizes up in a table; ids past its end have size 0. -/
def Sizer.ofTable (table : List Nat) : Sizer :=
  fun id => table[id]?.getD 0

end TraceForward
