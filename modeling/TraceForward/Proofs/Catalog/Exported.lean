/-
What the exported descriptors tell about the tables.

A descriptor message is told from every other one, whatever its strings hold and
however large its numbers are.  So whoever has all the messages of an export has
the format table, and every clause that is bound to a probe.
-/

import TraceForward.Proofs.Catalog.Announcing

namespace TraceForward

/-! ### Telling descriptors apart -/

namespace Descriptor

open Json

theorem layout_fieldsTold (left right : RecordLayout) :
    FieldsTold
      [("action", toString left.action), ("size", toString left.size),
        ("offset", toString left.offset), ("alignment", toString left.alignment),
        ("format", toString left.format), ("arg", toString left.arg)]
      [("action", toString right.action), ("size", toString right.size),
        ("offset", toString right.offset), ("alignment", toString right.alignment),
        ("format", toString right.format), ("arg", toString right.arg)] := by
  apply FieldsTold.number
  apply FieldsTold.number
  apply FieldsTold.number
  apply FieldsTold.number
  apply FieldsTold.number
  apply FieldsTold.number
  exact FieldsTold.nil

theorem layoutJson_injective : Function.Injective layoutJson := by
  intro left right same
  have fields := (layout_fieldsTold left right).of_object_eq same
  simp only [List.cons.injEq, Prod.mk.injEq, true_and, and_true] at fields
  obtain ⟨action, size, offset, alignment, format, arg⟩ := fields
  obtain ⟨⟩ := left
  obtain ⟨⟩ := right
  cases toString_injective action
  cases toString_injective size
  cases toString_injective offset
  cases toString_injective alignment
  cases toString_injective format
  cases toString_injective arg
  rfl

theorem layouts_elementsTold (left right : List RecordLayout) :
    ElementsTold (left.map layoutJson) (right.map layoutJson) := by
  constructor
  · rw [List.zip_map]
    intro pair member
    obtain ⟨⟨layout, other⟩, _, rfl⟩ := List.mem_map.mp member
    exact (layout_fieldsTold layout other).told_object
  · rw [← List.map_append]
    intro element member
    obtain ⟨layout, _, rfl⟩ := List.mem_map.mp member
    refine ⟨'\x7b', ?_, by decide⟩
    simp [layoutJson, object]

theorem eq_of_json {left right : Descriptor} (kinds : left.kind = right.kind)
    (same : left.json = right.json) : left = right := by
  cases left with
  | format id text =>
      cases right with
      | format otherId otherText =>
          have fields := (FieldsTold.number "id" id otherId
            (.text "format" text otherText .nil)).of_object_eq same
          simp only [List.cons.injEq, Prod.mk.injEq, true_and, and_true] at fields
          cases toString_injective fields.1
          cases quoted_injective fields.2
          rfl
      | probe | clause => cases kinds
  | probe description =>
      cases right with
      | probe other =>
          have fields := (FieldsTold.number "id" description.id other.id
            (.text "provider" description.provider other.provider
              (.text "module" description.moduleName other.moduleName
                (.text "function" description.function other.function
                  (.text "name" description.name other.name .nil))))).of_object_eq same
          simp only [List.cons.injEq, Prod.mk.injEq, true_and, and_true] at fields
          obtain ⟨id, provider, moduleName, function, name⟩ := fields
          obtain ⟨⟩ := description
          obtain ⟨⟩ := other
          cases toString_injective id
          cases quoted_injective provider
          cases quoted_injective moduleName
          cases quoted_injective function
          cases quoted_injective name
          rfl
      | format | clause => cases kinds
  | clause id probeId userArg size layouts =>
      cases right with
      | clause otherId otherProbe otherArg otherSize others =>
          have told := layouts_elementsTold layouts others
          have fields := (FieldsTold.number "clause" id otherId
            (.number "probe" probeId otherProbe
              (.number "user_arg" userArg otherArg
                (.number "size" size otherSize
                  (.elements "records" told .nil))))).of_object_eq same
          simp only [List.cons.injEq, Prod.mk.injEq, true_and, and_true] at fields
          obtain ⟨sameId, sameProbe, sameArg, sameSize, records⟩ := fields
          cases toString_injective sameId
          cases toString_injective sameProbe
          cases toString_injective sameArg
          cases toString_injective sameSize
          cases layoutJson_injective.list_map (told.of_array_eq records)
          rfl
      | format | probe => cases kinds

theorem message_injective :
    Function.Injective fun descriptor : Descriptor => descriptor.frame.message := by
  intro left right same
  obtain ⟨kinds, payloads⟩ := Frame.mk.inj (Frame.message_injective same)
  exact eq_of_json kinds (Bytes.ofText_injective payloads)

end Descriptor

/-! ### Reading the tables off their descriptors -/

structure DescribedClause where
  id : Nat
  probe : Probe
  userArg : Nat
  size : Nat
  layouts : List RecordLayout
deriving DecidableEq, Repr

def Clause.described? (clause : Clause) (id : Nat) : Option DescribedClause :=
  clause.probe.map fun probe =>
    { id, probe, userArg := clause.userArg, size := clause.size, layouts := clause.plainLayouts }

namespace Descriptor

def formatText? : Descriptor → Option String
  | .format _ text => some text
  | _ => none

def readClauses : List Descriptor → List DescribedClause
  | .probe description :: .clause id _ userArg size layouts :: rest =>
      { id, probe := description, userArg, size, layouts } :: readClauses rest
  | _ :: rest => readClauses rest
  | [] => []

end Descriptor

namespace Catalog

/-- The enabled clauses that are bound to a probe, with what is told of them. -/
def described (catalog : Catalog) : List DescribedClause :=
  catalog.enabled.filterMap fun entry => entry.2.described? entry.1

theorem filterMap_formatText?_descriptors (catalog : Catalog) :
    catalog.descriptors.filterMap Descriptor.formatText? = catalog.formats := by
  unfold descriptors
  rw [List.filterMap_append]
  refine (congrArg₂ (· ++ ·) ?_ ?_).trans (List.append_nil _)
  · rw [List.filterMap_map]
    refine Eq.trans ?_ (List.zipIdx_map_fst 0 catalog.formats)
    exact congrFun (List.filterMap_eq_map (f := Prod.fst)) _
  · rw [List.filterMap_eq_nil_iff]
    intro descriptor member
    obtain ⟨⟨id, clause⟩, _, among⟩ := List.mem_flatMap.mp member
    unfold clauseDescriptors at among
    cases bound : clause.probe with
    | none => simp [bound] at among
    | some probe =>
        simp only [bound, List.mem_cons, List.not_mem_nil, or_false] at among
        rcases among with rfl | rfl <;> rfl

theorem readClauses_formats (formats : List (String × Nat)) (rest : List Descriptor) :
    Descriptor.readClauses
        ((formats.map fun (text, position) => .format (position + 1) text) ++ rest) =
      Descriptor.readClauses rest := by
  induction formats with
  | nil => rfl
  | cons entry formats ih =>
      rw [List.map_cons, List.cons_append, Descriptor.readClauses]
      · exact ih
      · nofun

theorem readClauses_clauseDescriptors (id : Nat) (clause : Clause) (rest : List Descriptor) :
    Descriptor.readClauses (clauseDescriptors id clause ++ rest) =
      (clause.described? id).toList ++ Descriptor.readClauses rest := by
  unfold clauseDescriptors Clause.described?
  cases clause.probe with
  | none => rfl
  | some probe => rfl

theorem readClauses_descriptors (catalog : Catalog) :
    Descriptor.readClauses catalog.descriptors = catalog.described := by
  unfold descriptors described
  rw [readClauses_formats]
  induction catalog.enabled with
  | nil => rfl
  | cons entry rest ih =>
      rw [List.flatMap_cons, readClauses_clauseDescriptors, ih, List.filterMap_cons]
      cases entry.2.described? entry.1 with
      | none => rfl
      | some clause => rfl

theorem eq_of_descriptors {left right : Catalog}
    (same : left.descriptors = right.descriptors) :
    left.formats = right.formats ∧ left.described = right.described := by
  constructor
  · rw [← filterMap_formatText?_descriptors left, same, filterMap_formatText?_descriptors]
  · rw [← readClauses_descriptors left, same, readClauses_descriptors]

end Catalog

/-! ### What a complete export publishes -/

namespace Publisher

variable {Client : Type} [BrokerClient Client]
  {publisher changed : Publisher (Recorded Client)}

theorem exportFrom_taken {tries : Nat} {descriptors : List Descriptor} {stop : StopSignal}
    {summary total : ExportSummary}
    (ran : exportFrom tries summary descriptors publisher stop = some (.ok total, changed)) :
    changed.broker.taken =
      publisher.broker.taken ++ descriptors.map fun descriptor => descriptor.frame.message := by
  rcases exportFrom_exports descriptors publisher stop summary with
    ⟨result, other, sent, attempts, ⟨enough, ends⟩, exports⟩ | ⟨_, _, _, _, none, _⟩
  · have same := (ends tries).symm.trans ran
    split at same
    next =>
      cases same
      have all := exports.taken
      rw [exports.completes.mp ⟨total, rfl⟩, List.map_map] at all
      exact all
    next => cases same
  · rw [none] at ran
    cases ran

end Publisher

/-- Two complete exports that got the same messages taken are exports of the same
formats and of the same clauses, as far as these are described. -/
theorem Catalog.eq_of_exports {Client Other : Type} [BrokerClient Client] [BrokerClient Other]
    {left right : Catalog} {publisher published : Publisher (Recorded Client)}
    {other done : Publisher (Recorded Other)} {stop otherStop : StopSignal}
    {tries otherTries : Nat} {total otherTotal : ExportSummary}
    (fresh : publisher.broker.calls = [] ∧ other.broker.calls = [])
    (exported : publisher.exportCatalog left stop tries = some (.ok total, published))
    (exportedToo : other.exportCatalog right otherStop otherTries = some (.ok otherTotal, done))
    (same : published.broker.taken = done.broker.taken) :
    left.formats = right.formats ∧ left.described = right.described := by
  have messages := Publisher.exportFrom_taken exported
  have others := Publisher.exportFrom_taken exportedToo
  unfold Recorded.taken at messages others same
  rw [fresh.1, List.filterMap_nil, List.nil_append] at messages
  rw [fresh.2, List.filterMap_nil, List.nil_append] at others
  rw [messages, others] at same
  exact eq_of_descriptors (Descriptor.message_injective.list_map same)

/-- A clause with a quote in a name, a large number and an action of each sort. -/
def Clause.detailed : Clause :=
  { probe := some
      { id := 7, provider := "vfs", moduleName := "kernel", function := "open\"at"
        name := "entry" }
    userArg := 18446744073709551615
    size := 16
    actions :=
      [{ layout := { action := 1, size := 8, offset := 8, alignment := 8, format := 1, arg := 0 } },
        { layout := { action := 2, size := 4, offset := 0, alignment := 4, format := 0, arg := 1 }
          aggregating := true }] }

def Catalog.sample : Catalog :=
  { formats := ["%d\n"], clauses := [none, some Clause.detailed] }

def Catalog.sampleTwin : Catalog :=
  { formats := ["%d\n"]
    clauses := [some { Clause.detailed with probe := none }, some Clause.detailed] }

def Publisher.sample : Publisher (Recorded ScriptedBroker) :=
  { broker := { client := { script := [.queueFull, .accepted] } }, topic := default, pumpMs := 50 }

theorem Publisher.sample_exports :
    ∀ catalog ∈ [Catalog.sample, Catalog.sampleTwin], ∃ total published,
      Publisher.sample.exportCatalog catalog .never 2 = some (.ok total, published) ∧
        published.broker.taken =
          Catalog.sample.descriptors.map fun descriptor => descriptor.frame.message := by
  have ends : ∀ catalog ∈ [Catalog.sample, Catalog.sampleTwin],
      ((Publisher.sample.exportCatalog catalog .never 2).map fun ran =>
        (ran.1.isOk, ran.2.broker.taken)) =
      some (true, Catalog.sample.descriptors.map fun descriptor => descriptor.frame.message) := by
    decide +kernel
  intro catalog member
  obtain ⟨⟨result, published⟩, exported, outcome⟩ :=
    Option.map_eq_some_iff.mp (ends catalog member)
  obtain ⟨completed, taken⟩ := Prod.mk.inj outcome
  cases result with
  | ok total => exact ⟨total, published, exported, taken⟩
  | error fault => cases completed

theorem Catalog.eq_of_exports_sample :
    ∃ total otherTotal published done,
      Publisher.sample.exportCatalog Catalog.sample .never 2 = some (.ok total, published) ∧
      Publisher.sample.exportCatalog Catalog.sampleTwin .never 2 = some (.ok otherTotal, done) ∧
      published.broker.taken = done.broker.taken ∧
      Catalog.sample.formats = Catalog.sampleTwin.formats ∧
      Catalog.sample.described = Catalog.sampleTwin.described := by
  obtain ⟨total, published, exported, taken⟩ := Publisher.sample_exports Catalog.sample (by simp)
  obtain ⟨otherTotal, done, exportedToo, takenToo⟩ :=
    Publisher.sample_exports Catalog.sampleTwin (by simp)
  have same := taken.trans takenToo.symm
  exact ⟨total, otherTotal, published, done, exported, exportedToo, same,
    eq_of_exports ⟨rfl, rfl⟩ exported exportedToo same⟩

end TraceForward
