/-
The export of the tables.

Tables are announced by a sequence of descriptors.  An export hands it over from the
front, each descriptor until it is taken, turned down, or given up for the signal.  So
what is taken is the front of the sequence; the first descriptor that is not taken ends
the export, and those behind it are not even tried.
-/

import TraceForward.Proofs.Catalog.Growth
import TraceForward.Proofs.Delivery.Partition
import TraceForward.Proofs.Text.Json

namespace TraceForward

/-! ### The announcement of tables -/

/-- A message about an entry of the tables: what it is keyed with, and its text. -/
@[ext]
structure Notice where
  key : String
  text : String
deriving DecidableEq, Repr

namespace Notice

def message (notice : Notice) : Message :=
  { key := some (Bytes.ofText notice.key), payload := Bytes.ofText notice.text }

def format (id : UInt32) (format : String) : Notice where
  key := "format"
  text := "\x7b\"id\":" ++ toString id.toNat ++ ",\"format\":" ++ Json.quoted format ++ "\x7d"

def probe (probe : Probe) : Notice where
  key := "probe"
  text :=
    "\x7b\"id\":" ++ toString probe.id ++ ",\"provider\":" ++ Json.quoted probe.provider ++
      ",\"module\":" ++ Json.quoted probe.moduleName ++ ",\"function\":" ++
      Json.quoted probe.function ++ ",\"name\":" ++ Json.quoted probe.name ++ "\x7d"

def record (layout : RecordLayout) : String :=
  "\x7b\"action\":" ++ toString layout.action ++ ",\"size\":" ++ toString layout.size ++
    ",\"offset\":" ++ toString layout.offset ++ ",\"alignment\":" ++ toString layout.alignment ++
    ",\"format\":" ++ toString layout.format ++ ",\"arg\":" ++ toString layout.arg ++ "\x7d"

def clause (id : UInt32) (probe userArg size : Nat) (actions : List Action) : Notice where
  key := "eprobe"
  text :=
    "\x7b\"clause\":" ++ toString id.toNat ++ ",\"probe\":" ++ toString probe ++
      ",\"user_arg\":" ++ toString userArg ++ ",\"size\":" ++ toString size ++
      ",\"records\":[" ++
      ",".intercalate ((actions.filter fun action => !(action.aggregating || action.inTuple)).map
        fun action => record action.layout) ++
      "]\x7d"

end Notice

namespace Catalog

def formatsFrom : (id : UInt32) → List String → List Notice
  | _, [] => []
  | id, text :: rest => .format id text :: formatsFrom (id + 1) rest

/-- Slots with ids that count on from `id`.  A slot without a clause or without a probe
uses up its id. -/
def slotsFrom : (id : UInt32) → List (Option Clause) → List Notice
  | _, [] => []
  | id, some { probe := some probe, userArg, size, actions } :: rest =>
      .probe probe :: .clause id probe.id userArg size actions :: slotsFrom (id + 1) rest
  | id, _ :: rest => slotsFrom (id + 1) rest

def announcement (catalog : Catalog) : List Notice :=
  formatsFrom 1 catalog.formats ++ slotsFrom 1 catalog.clauses

example :
    let probe : Probe :=
      { id := 9, provider := "p", moduleName := "m", function := "f\"\\", name := "n\n" }
    let layout : RecordLayout :=
      { action := 1, size := 8, offset := 8, alignment := 4, format := 2, arg := 0 }
    let actions : List Action := [{ layout, aggregating := true }, { layout }]
    announcement
        { formats := ["%d"]
          clauses :=
            [none, some { probe := none, userArg := 0, size := 8, actions },
              some { probe := some probe, userArg := 5, size := 16, actions }] } =
      [{ key := "format", text := "\x7b\"id\":1,\"format\":\"%d\"\x7d" },
        { key := "probe"
          text :=
            "\x7b\"id\":9,\"provider\":\"p\",\"module\":\"m\",\"function\":\"f\\\"\\\\\"" ++
              ",\"name\":\"n\\n\"\x7d" },
        { key := "eprobe"
          text :=
            "\x7b\"clause\":3,\"probe\":9,\"user_arg\":5,\"size\":16,\"records\":[\x7b\"action\":1" ++
              ",\"size\":8,\"offset\":8,\"alignment\":4,\"format\":2,\"arg\":0\x7d]\x7d" }] := by
  decide +kernel

end Catalog

/-! The descriptors of tables are their announcement. -/

namespace Descriptor

def notice (descriptor : Descriptor) : Notice where
  key := descriptor.kind.key
  text := descriptor.json

theorem notice_format {id : Nat} (word : id < UInt32.size) (text : String) :
    (format id text).notice = .format (.ofNat id) text := by
  have number : (UInt32.ofNat id).toNat = id := UInt32.toNat_ofNat_of_lt' word
  apply Notice.ext
  · rfl
  apply String.toList_injective
  simp (disch := decide +kernel) [notice, Notice.format, json, Json.object, Json.quoted_plain,
    String.intercalate_cons_cons, number]

theorem notice_probe (description : Probe) : (probe description).notice = .probe description := by
  apply Notice.ext
  · rfl
  apply String.toList_injective
  simp (disch := decide +kernel) [notice, Notice.probe, json, Json.object, Json.quoted_plain,
    String.intercalate_cons_cons]

theorem layoutJson_eq_record : layoutJson = Notice.record := by
  funext layout
  unfold layoutJson Notice.record
  apply String.toList_injective
  simp (disch := decide +kernel) [Json.object, Json.quoted_plain, String.intercalate_cons_cons]

theorem plainLayouts_eq (clause : Clause) :
    clause.plainLayouts.map layoutJson =
      (clause.actions.filter fun action => !(action.aggregating || action.inTuple)).map
        fun action => Notice.record action.layout := by
  have plain : Action.isPlain = fun action => !(action.aggregating || action.inTuple) := by
    funext action
    exact (Bool.not_or _ _).symm
  rw [Clause.plainLayouts, layoutJson_eq_record, List.map_map, plain]
  rfl

theorem notice_clause {id : Nat} (word : id < UInt32.size) (probeId : Nat) (described : Clause) :
    (clause id probeId described.userArg described.size described.plainLayouts).notice =
      .clause (.ofNat id) probeId described.userArg described.size described.actions := by
  have number : (UInt32.ofNat id).toNat = id := UInt32.toNat_ofNat_of_lt' word
  apply Notice.ext
  · rfl
  apply String.toList_injective
  simp (disch := decide +kernel) [notice, Notice.clause, json, plainLayouts_eq, Json.object,
    Json.array, Json.quoted_plain, String.intercalate_cons_cons, number]

end Descriptor

namespace Catalog

theorem ofNat_succ (number : Nat) : UInt32.ofNat number + 1 = UInt32.ofNat (number + 1) := by
  rw [UInt32.ofNat_add]
  rfl

theorem notices_formats (formats : List String) (start : Nat)
    (words : start + formats.length < UInt32.size) :
    ((formats.zipIdx start).map fun (text, position) =>
        Descriptor.format (position + 1) text).map Descriptor.notice =
      formatsFrom (.ofNat (start + 1)) formats := by
  induction formats generalizing start with
  | nil => rfl
  | cons text rest ih =>
      rw [List.length_cons] at words
      rw [List.zipIdx_cons, List.map_cons, List.map_cons, ih (start + 1) (by omega), formatsFrom,
        ofNat_succ, Descriptor.notice_format (by omega)]

theorem notices_slots (slots : List (Option Clause)) (start : Nat)
    (words : start + slots.length < UInt32.size) :
    (((slots.zipIdx start).filterMap fun (slot, position) =>
        slot.map fun clause => (position + 1, clause)).flatMap
          (fun (id, clause) => clauseDescriptors id clause)).map Descriptor.notice =
      slotsFrom (.ofNat (start + 1)) slots := by
  induction slots generalizing start with
  | nil => rfl
  | cons slot rest ih =>
      rw [List.length_cons] at words
      have later := ih (start + 1) (by omega)
      rw [← ofNat_succ] at later
      rw [List.zipIdx_cons, slotsFrom.eq_def]
      cases slot with
      | none => exact later
      | some clause =>
          obtain ⟨probe, userArg, size, actions⟩ := clause
          cases probe with
          | none => exact later
          | some probe =>
              have word : start + 1 < UInt32.size := by omega
              have ours := Descriptor.notice_clause word probe.id
                { probe := some probe, userArg, size, actions }
              change (Descriptor.probe probe).notice :: (Descriptor.clause (start + 1) probe.id
                userArg size (Clause.plainLayouts _)).notice :: _ = _
              rw [Descriptor.notice_probe, ours]
              exact congrArg (fun later => _ :: _ :: later) later

theorem Numbered.notices_descriptors {catalog : Catalog} (numbered : catalog.Numbered) :
    catalog.descriptors.map Descriptor.notice = catalog.announcement := by
  unfold descriptors announcement enabled
  rw [List.map_append, notices_formats _ 0 (by simpa using numbered.formats),
    notices_slots _ 0 (by simpa using numbered.clauses)]
  rfl

end Catalog

namespace ExportSummary

def plus (summary : ExportSummary) (notices : List Notice) : ExportSummary where
  formats := summary.formats + notices.countP fun notice => notice.key = "format"
  probes := summary.probes + notices.countP fun notice => notice.key = "probe"
  clauses := summary.clauses + notices.countP fun notice => notice.key = "eprobe"

theorem count_plus (summary : ExportSummary) (first : Descriptor) (rest : List Notice) :
    (summary.count first).plus rest = summary.plus (first.notice :: rest) := by
  cases first with
  | format id text =>
      have key : (Descriptor.format id text).notice.key = "format" := rfl
      simp [plus, count, key, Nat.add_assoc, Nat.add_comm 1]
  | probe description =>
      have key : (Descriptor.probe description).notice.key = "probe" := rfl
      simp [plus, count, key, Nat.add_assoc, Nat.add_comm 1]
  | clause id probeId userArg size layouts =>
      have key : (Descriptor.clause id probeId userArg size layouts).notice.key = "eprobe" := rfl
      simp [plus, count, key, Nat.add_assoc, Nat.add_comm 1]

end ExportSummary

theorem StopSignal.eq_never {stop : StopSignal} (looks : Nat)
    (silent : ∀ count, stop.finds (looks + count) = false) : stop = .never := by
  cases stop with
  | never => rfl
  | after fires =>
      have found := of_decide_eq_false (silent fires)
      omega

/-- Enough tries give that result, and fewer give none. -/
def EndsIn {Result : Type} (run : (tries : Nat) → Option Result) (result : Result) : Prop :=
  ∃ enough, ∀ tries, run tries = if enough ≤ tries then some result else none

namespace Publisher

variable {Client : Type} {publisher middle changed : Publisher (Recorded Client)}
  {message : Message} {stop after : StopSignal} {start : ExportSummary}
  {result : Except Fault ExportSummary} {descriptor : Descriptor} {rest : List Descriptor}
  {notices sent : List Notice} {served : List Nat} {attempts : List Attempt}

/-! ### What an export has done -/

def Attempt.AreAt (attempts : List Attempt) (notices : List Notice) : Prop :=
  attempts.map (fun attempt => attempt.frame.message) = notices.map Notice.message

inductive EndsBehind (publisher : Publisher (Recorded Client)) (stop : StopSignal)
    (start : ExportSummary) (notices sent : List Notice) (attempts : List Attempt)
    (changed : Publisher (Recorded Client)) : Except Fault ExportSummary → Prop where
  | complete
      (all : sent = notices)
      (tried : Attempt.AreAt attempts sent)
      (dropped : changed.stats.dropped = publisher.stats.dropped)
      (abandoned : changed.stats.abandoned = publisher.stats.abandoned) :
      EndsBehind publisher stop start notices sent attempts changed
        (.ok (start.plus notices))
  | rejected (next : Notice) (rest : List Notice) (before : List Attempt) (last : Attempt)
      (reason : String)
      (split : notices = sent ++ next :: rest)
      (ends : attempts = before ++ [last])
      (tried : Attempt.AreAt attempts (sent ++ [next]))
      (outcome : last.outcome = .fatal reason)
      (dropped : changed.stats.dropped = publisher.stats.dropped + 1)
      (abandoned : changed.stats.abandoned = publisher.stats.abandoned) :
      EndsBehind publisher stop start notices sent attempts changed
        (.error (.metadataExport s!"{next.key} descriptor rejected: {reason}"))
  | stopped (next : Notice) (rest : List Notice) (before : List Attempt) (last : Attempt)
      (silent : Nat)
      (split : notices = sent ++ next :: rest)
      (ends : attempts = before ++ [last])
      (tried : Attempt.AreAt attempts (sent ++ [next]))
      (outcome : last.outcome = .retry)
      -- The signal is looked at behind each full answer, and found fired behind the last.
      (looks : (attempts.flatMap Attempt.served).length = silent + 1)
      (fired : stop.finds silent = true)
      (dropped : changed.stats.dropped = publisher.stats.dropped)
      (abandoned : changed.stats.abandoned = publisher.stats.abandoned + 1) :
      EndsBehind publisher stop start notices sent attempts changed
        (.error (.metadataExport
          s!"stopped while the delivery queue was full ({next.key} descriptor)"))

structure Exports (publisher : Publisher (Recorded Client)) (stop : StopSignal)
    (start : ExportSummary) (notices : List Notice)
    (result : Except Fault ExportSummary) (changed : Publisher (Recorded Client))
    (sent : List Notice) (attempts : List Attempt) : Prop where
  inOrder : sent <+: notices
  taken : changed.broker.taken = publisher.broker.taken ++ sent.map Notice.message
  enqueued : changed.stats.enqueued = publisher.stats.enqueued + sent.length
  completes : (∃ summary, result = .ok summary) ↔ sent = notices
  calls : changed.broker.calls =
    publisher.broker.calls ++ attempts.flatMap (Attempt.calls publisher.pumpMs)
  ended : publisher.EndsBehind stop start notices sent attempts changed result

theorem EndsBehind.isOk_iff
    (ended : publisher.EndsBehind stop start notices sent attempts changed result) :
    (∃ summary, result = .ok summary) ↔ sent = notices := by
  have short (next : Notice) (rest : List Notice) : sent ≠ sent ++ next :: rest := by
    intro same
    have lengths := congrArg List.length same
    rw [List.length_append, List.length_cons] at lengths
    omega
  cases ended with
  | complete all => exact ⟨fun _ => all, fun _ => ⟨_, rfl⟩⟩
  | rejected next rest before last reason split =>
      subst split
      exact ⟨nofun, fun all => absurd all (short next rest)⟩
  | stopped next rest before last silent split =>
      subst split
      exact ⟨nofun, fun all => absurd all (short next rest)⟩

theorem Leaves.taken {frame : Frame} {outcome : Outcome}
    (leaves : publisher.Leaves frame.message outcome served changed) :
    changed.broker.taken =
      publisher.broker.taken ++
        (outcome.settling frame.message).filterMap BrokerCall.taken? := by
  have calls : changed.broker.calls =
      publisher.broker.calls ++ Attempt.calls publisher.pumpMs ⟨frame, outcome, served⟩ := by
    rw [leaves.calls, List.append_assoc]
    rfl
  rw [Recorded.taken, calls, List.filterMap_append, Attempt.taken_calls]
  rfl

theorem Exports.none (publisher : Publisher (Recorded Client)) (stop : StopSignal)
    (start : ExportSummary) : publisher.Exports stop start [] (.ok start) publisher [] [] := by
  have ended : publisher.EndsBehind stop start [] [] [] publisher (.ok start) :=
    .complete rfl rfl rfl rfl
  constructor
  · exact List.prefix_rfl
  · exact (List.append_nil _).symm
  · rfl
  · exact ended.isOk_iff
  · exact (List.append_nil _).symm
  · exact ended

theorem Exports.cons {pumps : UInt32}
    (leaves : publisher.Leaves descriptor.frame.message (.enqueued pumps) served middle)
    (looks : ∀ count, after.finds count = stop.finds (served.length + count))
    (later : middle.Exports after (start.count descriptor) notices result changed sent attempts) :
    publisher.Exports stop start (descriptor.notice :: notices) result changed
      (descriptor.notice :: sent) (⟨descriptor.frame, .enqueued pumps, served⟩ :: attempts) := by
  have ended : publisher.EndsBehind stop start (descriptor.notice :: notices)
      (descriptor.notice :: sent) (⟨descriptor.frame, .enqueued pumps, served⟩ :: attempts)
      changed result := by
    have dropped : middle.stats.dropped = publisher.stats.dropped := leaves.dropped
    have abandoned : middle.stats.abandoned = publisher.stats.abandoned := leaves.abandoned
    cases later.ended with
    | complete all tried dropped' abandoned' =>
        rw [ExportSummary.count_plus]
        exact .complete (congrArg _ all) (congrArg _ tried) (dropped'.trans dropped)
          (abandoned'.trans abandoned)
    | rejected next rest' before last reason split ends tried outcome dropped' abandoned' =>
        rw [dropped] at dropped'
        exact .rejected next rest' (_ :: before) last reason (congrArg _ split)
          (congrArg _ ends) (congrArg _ tried) outcome dropped' (abandoned'.trans abandoned)
    | stopped next rest' before last silent split ends tried outcome looks' fired dropped'
        abandoned' =>
        rw [abandoned] at abandoned'
        -- The looks behind the full answers to the first descriptor come before the others.
        refine .stopped next rest' (_ :: before) last (served.length + silent)
          (congrArg _ split) (congrArg _ ends) (congrArg _ tried) outcome ?_ ?_
          (dropped'.trans dropped) abandoned'
        · rw [List.flatMap_cons, List.length_append, looks', Nat.add_assoc]
        · rw [← looks]
          exact fired
  constructor
  · exact List.cons_prefix_cons.mpr ⟨rfl, later.inOrder⟩
  · rw [later.taken, leaves.taken, List.append_assoc]
    rfl
  · rw [later.enqueued, leaves.enqueued, List.length_cons, Nat.add_assoc, Nat.add_comm sent.length]
    rfl
  · exact ended.isOk_iff
  · rw [later.calls, leaves.calls, leaves.pumpMs, List.flatMap_cons, Attempt.calls]
    simp only [List.append_assoc]
  · exact ended

theorem Exports.ofFirst {outcome : Outcome}
    (leaves : publisher.Leaves descriptor.frame.message outcome served middle)
    (refused : ∀ pumps, outcome ≠ .enqueued pumps) (broker : changed.broker = middle.broker)
    (enqueued : changed.stats.enqueued = middle.stats.enqueued)
    (ended : publisher.EndsBehind stop start (descriptor.notice :: notices) []
      [⟨descriptor.frame, outcome, served⟩] changed result) :
    publisher.Exports stop start (descriptor.notice :: notices) result changed []
      [⟨descriptor.frame, outcome, served⟩] := by
  have nothing : (outcome.settling descriptor.frame.message).filterMap BrokerCall.taken? = [] ∧
      outcome.enqueuedCount = 0 := by
    cases outcome with
    | enqueued pumps => exact absurd rfl (refused pumps)
    | retry => exact ⟨rfl, rfl⟩
    | fatal reason => exact ⟨rfl, rfl⟩
  constructor
  · exact List.nil_prefix
  · rw [broker, leaves.taken, nothing.1]
    rfl
  · rw [enqueued, leaves.enqueued, nothing.2]
    rfl
  · exact ended.isOk_iff
  · rw [broker, leaves.calls, List.flatMap_singleton, Attempt.calls, List.append_assoc]
  · exact ended

variable [BrokerClient Client]

/-! ### One descriptor -/

/-- All that comes of publishing a message, once there are more than `least` tries. -/
structure Concludes (publisher : Publisher (Recorded Client)) (message : Message)
    (stop : StopSignal) (least : Nat) (outcome : Outcome) (served : List Nat)
    (changed : Publisher (Recorded Client)) (after : StopSignal) : Prop where
  ran : ∀ tries, publisher.publish message stop tries =
    if least < tries then some (outcome, changed, after) else none
  leaves : publisher.Leaves message outcome served changed
  looks : ∀ count, after.finds count = stop.finds (served.length + count)
  fired : outcome = .retry → ∃ silent, served.length = silent + 1 ∧ stop.finds silent = true

theorem exists_concludes (ends : ∃ index, publisher.EndsAt message stop.finds index) :
    ∃ least outcome served changed after,
      publisher.Concludes message stop least outcome served changed after := by
  have tells : stop.Tells stop.finds := fun _ _ => rfl
  obtain ⟨index, last, first⟩ := exists_first ends
  obtain ⟨outcome, changed, after, ran, handed, looks⟩ := publish_of_first tells last first
  refine ⟨index, outcome, _, changed, after, ran, handed.leaves, ?_, ?_⟩
  · intro count
    rw [List.length_map, List.length_range]
    exact looks count
  · rintro rfl
    have full := eq_queueFull_of_retry handed.result
    refine ⟨index, ?_, last.resolve_left (not_not_intro full)⟩
    rw [List.length_map, List.length_range, fullAnswers, if_pos full]

theorem publish_never_ends (never : ¬ ∃ index, publisher.EndsAt message stop.finds index) :
    (∀ tries, publisher.publish message stop tries = none) ∧
      ∀ count, publisher.answerTo message count = .queueFull ∧ stop.finds count = false := by
  have goesOn : ∀ count,
      publisher.answerTo message count = .queueFull ∧ stop.finds count = false := by
    intro count
    exact not_endsAt_iff.mp fun ends => never ⟨count, ends⟩
  refine ⟨?_, goesOn⟩
  intro tries
  exact publishFrom_eq_none 0 fun earlier _ => goesOn earlier

/-! ### Exports that end and exports that do not -/

def exportBehind (tries : Nat) (start : ExportSummary) (descriptor : Descriptor)
    (rest : List Descriptor) (middle : Publisher (Recorded Client)) (after : StopSignal) :
    Outcome → Option (Except Fault ExportSummary × Publisher (Recorded Client))
  | .enqueued _ => exportFrom tries (start.count descriptor) rest middle after
  | .retry => some (.error descriptor.stoppedFault, middle.abandon 1)
  | .fatal reason => some (.error (descriptor.rejectedFault reason), middle)

theorem exportFrom_cons {least : Nat} {outcome : Outcome}
    (first : publisher.Concludes descriptor.frame.message stop least outcome served middle after)
    (start : ExportSummary) (rest : List Descriptor) (tries : Nat) :
    exportFrom tries start (descriptor :: rest) publisher stop =
      if least < tries then exportBehind tries start descriptor rest middle after outcome
      else none := by
  rw [exportFrom, first.ran]
  split
  · cases outcome <;> rfl
  · rfl

theorem endsIn_cons {least : Nat} {pumps : UInt32}
    (first : publisher.Concludes descriptor.frame.message stop least (.enqueued pumps) served
      middle after)
    (later : EndsIn (fun tries => exportFrom tries (start.count descriptor) rest middle after)
      (result, changed)) :
    EndsIn (fun tries => exportFrom tries start (descriptor :: rest) publisher stop)
      (result, changed) := by
  obtain ⟨enough, behind⟩ := later
  refine ⟨max (least + 1) enough, ?_⟩
  intro tries
  refine (exportFrom_cons first start rest tries).trans ?_
  by_cases more : least < tries
  · rw [if_pos more]
    refine (behind tries).trans ?_
    congr 1
    exact propext (by omega)
  · rw [if_neg more, if_neg (by omega)]

theorem endsIn_first {least : Nat} {outcome : Outcome}
    (first : publisher.Concludes descriptor.frame.message stop least outcome served middle after)
    (last : ∀ tries, exportBehind tries start descriptor rest middle after outcome =
      some (result, changed)) :
    EndsIn (fun tries => exportFrom tries start (descriptor :: rest) publisher stop)
      (result, changed) := by
  refine ⟨least + 1, ?_⟩
  intro tries
  refine (exportFrom_cons first start rest tries).trans ?_
  rw [last]
  rfl

/-- An export that comes to no end: behind the messages of `sent` the queue stays full, and
there is no signal. -/
structure HangsBehind (publisher : Publisher (Recorded Client)) (stop : StopSignal)
    (start : ExportSummary) (notices sent : List Notice) (next : Notice)
    (middle : Publisher (Recorded Client)) (attempts : List Attempt) : Prop where
  inOrder : sent ++ [next] <+: notices
  silent : stop = .never
  before : publisher.Exports stop start sent (.ok (start.plus sent)) middle sent attempts
  full : ∀ count, middle.answerTo next.message count = .queueFull

theorem HangsBehind.cons {least : Nat} {pumps : UInt32} {next : Notice}
    (first : publisher.Concludes descriptor.frame.message stop least (.enqueued pumps) served
      middle after)
    (hangs : middle.HangsBehind after (start.count descriptor) notices sent next changed
      attempts) :
    publisher.HangsBehind stop start (descriptor.notice :: notices) (descriptor.notice :: sent)
      next changed (⟨descriptor.frame, .enqueued pumps, served⟩ :: attempts) := by
  constructor
  · exact List.cons_prefix_cons.mpr ⟨rfl, hangs.inOrder⟩
  · apply StopSignal.eq_never served.length
    intro count
    rw [← first.looks, hangs.silent]
    rfl
  · rw [← start.count_plus descriptor sent]
    exact .cons first.leaves first.looks hangs.before
  · exact hangs.full

/-- A first descriptor that is not taken is all that an export comes to. -/
theorem exports_first {least : Nat} {outcome : Outcome}
    (first : publisher.Concludes descriptor.frame.message stop least outcome served middle after)
    (refused : ∀ pumps, outcome ≠ .enqueued pumps) :
    ∃ result changed,
      EndsIn (fun tries => exportFrom tries start (descriptor :: rest) publisher stop)
          (result, changed) ∧
        publisher.Exports stop start ((descriptor :: rest).map Descriptor.notice) result changed
          [] [⟨descriptor.frame, outcome, served⟩] := by
  rw [List.map_cons]
  cases outcome with
  | enqueued pumps => exact absurd rfl (refused pumps)
  | retry =>
      obtain ⟨silent, looks, fired⟩ := first.fired rfl
      refine ⟨_, _, endsIn_first first fun _ => rfl, .ofFirst first.leaves refused rfl rfl ?_⟩
      refine .stopped descriptor.notice _ [] _ silent rfl rfl rfl rfl ?_ fired
        first.leaves.dropped ?_
      · rw [List.flatMap_singleton]
        exact looks
      · exact congrArg (· + 1) first.leaves.abandoned
  | fatal reason =>
      refine ⟨_, _, endsIn_first first fun _ => rfl, .ofFirst first.leaves refused rfl rfl ?_⟩
      exact .rejected descriptor.notice _ [] _ reason rfl rfl rfl rfl first.leaves.dropped
        first.leaves.abandoned

/-- Where the queue stays full for the first descriptor, the export hangs there. -/
theorem hangs_first (start : ExportSummary) (rest : List Descriptor)
    (never : ¬ ∃ index, publisher.EndsAt descriptor.frame.message stop.finds index) :
    (∀ tries, exportFrom tries start (descriptor :: rest) publisher stop = none) ∧
      publisher.HangsBehind stop start ((descriptor :: rest).map Descriptor.notice) []
        descriptor.notice publisher [] := by
  obtain ⟨none, goesOn⟩ := publish_never_ends never
  constructor
  · intro tries
    rw [exportFrom, none]
    rfl
  · constructor
    · exact List.cons_prefix_cons.mpr ⟨rfl, List.nil_prefix⟩
    · apply StopSignal.eq_never 0
      intro count
      rw [Nat.zero_add]
      exact (goesOn count).2
    · exact .none publisher stop start
    · exact fun count => (goesOn count).1

theorem exportFrom_exports (descriptors : List Descriptor)
    (publisher : Publisher (Recorded Client)) (stop : StopSignal) (start : ExportSummary) :
    (∃ result changed sent attempts,
      EndsIn (fun tries => exportFrom tries start descriptors publisher stop)
          (result, changed) ∧
        publisher.Exports stop start (descriptors.map Descriptor.notice) result changed sent
          attempts) ∨
    ∃ sent next middle attempts,
      (∀ tries, exportFrom tries start descriptors publisher stop = none) ∧
        publisher.HangsBehind stop start (descriptors.map Descriptor.notice) sent next middle
          attempts := by
  -- Behind a first descriptor that is taken, the rest is an export of the publisher that
  -- it has left, with the looks that are left.
  induction descriptors generalizing publisher stop start with
  | nil =>
      refine .inl ⟨_, _, _, _, ⟨0, ?_⟩, Exports.none publisher stop start⟩
      intro tries
      rfl
  | cons descriptor rest ih =>
      by_cases ends : ∃ index, publisher.EndsAt descriptor.frame.message stop.finds index
      · obtain ⟨least, outcome, served, middle, after, first⟩ := exists_concludes ends
        cases outcome with
        | retry =>
            obtain ⟨result, changed, ended, exports⟩ := exports_first first nofun
            exact .inl ⟨result, changed, _, _, ended, exports⟩
        | fatal reason =>
            obtain ⟨result, changed, ended, exports⟩ := exports_first first nofun
            exact .inl ⟨result, changed, _, _, ended, exports⟩
        | enqueued pumps =>
            rcases ih middle after (start.count descriptor) with
              ⟨result, changed, sent, attempts, ended, exports⟩ |
              ⟨sent, next, changed, attempts, none, hangs⟩
            · exact .inl ⟨result, changed, _, _, endsIn_cons first ended,
                .cons first.leaves first.looks exports⟩
            · refine .inr ⟨_, next, changed, _, ?_, hangs.cons first⟩
              intro tries
              rw [exportFrom_cons first, exportBehind, none, ite_self]
      · exact .inr ⟨[], _, publisher, [], hangs_first start rest ends⟩

/-- How an export of tables goes: it ends behind the front of their announcement, or the
queue stays full for good. -/
inductive Announces (publisher : Publisher (Recorded Client)) (catalog : Catalog)
    (stop : StopSignal) : Prop where
  | ends {result : Except Fault ExportSummary} {changed : Publisher (Recorded Client)}
      {sent : List Notice} {attempts : List Attempt}
      (ended : EndsIn (publisher.exportCatalog catalog stop) (result, changed))
      (exports : publisher.Exports stop {} catalog.announcement result changed sent attempts)
  | hangs {sent : List Notice} {next : Notice} {middle : Publisher (Recorded Client)}
      {attempts : List Attempt}
      (endless : ∀ tries, publisher.exportCatalog catalog stop tries = none)
      (hangs : publisher.HangsBehind stop {} catalog.announcement sent next middle attempts)

/-- An export of tables gets the front of their announcement taken, and ends with the
first message that is not, unless the queue stays full for good. -/
theorem exportCatalog_exports (publisher : Publisher (Recorded Client)) (catalog : Catalog)
    (stop : StopSignal) (numbered : catalog.Numbered) : publisher.Announces catalog stop := by
  have exported := exportFrom_exports catalog.descriptors publisher stop {}
  rw [numbered.notices_descriptors] at exported
  rcases exported with ⟨result, changed, sent, attempts, ended, exports⟩ |
    ⟨sent, next, middle, attempts, endless, hangs⟩
  · exact .ends ended exports
  · exact .hangs endless hangs

/-- The probe of the second slot is taken behind a full answer, and its clause is turned
down. -/
theorem exportCatalog_exports_sample :
    let probe : Probe :=
      { id := 9, provider := "p", moduleName := "m", function := "f", name := "n" }
    let catalog : Catalog :=
      { formats := ["%d"]
        clauses := [none, some { probe := some probe, userArg := 0, size := 8, actions := [] }] }
    let publisher : Publisher (Recorded ScriptedBroker) :=
      { broker := { client := { script := [.accepted, .queueFull, .accepted, .fatal "no"] } }
        topic := default, pumpMs := 5 }
    catalog.Numbered ∧
      (publisher.exportCatalog catalog .never 2).map
          (fun ran => (ran.1, ran.2.broker.taken, ran.2.stats.dropped)) =
        some
          (.error (.metadataExport "eprobe descriptor rejected: no"),
            [(Notice.format 1 "%d").message, (Notice.probe probe).message], 1) ∧
      publisher.Announces catalog .never := by
  intro probe catalog publisher
  have numbered : catalog.Numbered := ⟨by decide, by decide⟩
  exact ⟨numbered, by decide +kernel, exportCatalog_exports publisher catalog .never numbered⟩

end Publisher
end TraceForward
