/-
Descriptor messages.

A record carries a clause id and nothing about its layout, so a session
publishes its tables before its records: one message for every format string,
then two for every clause that is bound to a probe.  The payloads are compact
JSON objects.
-/

import TraceForward.Catalog.Basic
import TraceForward.Frame
import TraceForward.Text.Json

namespace TraceForward

inductive Descriptor where
  | format (id : Nat) (text : String)
  | probe (description : Probe)
  | clause (id probeId userArg size : Nat) (layouts : List RecordLayout)
deriving DecidableEq, Repr

namespace Descriptor

def kind : Descriptor → Kind
  | .format .. => .format
  | .probe .. => .probe
  | .clause .. => .clause

def layoutJson (layout : RecordLayout) : String :=
  Json.object
    [("action", toString layout.action), ("size", toString layout.size),
      ("offset", toString layout.offset), ("alignment", toString layout.alignment),
      ("format", toString layout.format), ("arg", toString layout.arg)]

def json : Descriptor → String
  | .format id text =>
      Json.object [("id", toString id), ("format", Json.quoted text)]
  | .probe description =>
      Json.object
        [("id", toString description.id), ("provider", Json.quoted description.provider),
          ("module", Json.quoted description.moduleName),
          ("function", Json.quoted description.function), ("name", Json.quoted description.name)]
  | .clause id probeId userArg size layouts =>
      Json.object
        [("clause", toString id), ("probe", toString probeId),
          ("user_arg", toString userArg), ("size", toString size),
          ("records", Json.array (layouts.map layoutJson))]

def frame (descriptor : Descriptor) : Frame :=
  { kind := descriptor.kind, payload := Bytes.ofText descriptor.json }

end Descriptor

namespace Catalog

/-- The descriptors of an enabled clause: its probe, then the clause itself;
none when it has no probe. -/
def clauseDescriptors (id : Nat) (clause : Clause) : List Descriptor :=
  match clause.probe with
  | none => []
  | some probe =>
      [.probe probe, .clause id probe.id clause.userArg clause.size clause.plainLayouts]

/-- Every descriptor of the tables, in the order they are published. -/
def descriptors (catalog : Catalog) : List Descriptor :=
  (catalog.formats.zipIdx.map fun (text, position) => .format (position + 1) text)
    ++ catalog.enabled.flatMap fun (id, clause) => clauseDescriptors id clause

end Catalog

end TraceForward
