/-
When the relay loop waits for the interpreter.

The input pipe hands on what the loop was handed, in order.  A loop that has a
shutdown request or a line before it stands still exactly when the pipe takes no
more of the payload that is being written; then more bytes are unread than the pipe
holds, and it is for the interpreter alone to let the loop go on.  Every pair of
pipes lets it come to that.
-/

import TraceForward.Proofs.Daemon.Coupling

namespace TraceForward

/-! ### What an event does to the interpreter's input -/

def BridgeEvent.feeds : BridgeEvent → Bool
  | .payload _ | .wrote _ => true
  | _ => false

namespace Bridge

variable {bridge next : Bridge}

theorem send_input (bridge : Bridge) (alive : Bool) (frames : List Frame) :
    (bridge.send alive frames).inputOpen = bridge.inputOpen ∧
      (bridge.send alive frames).writing = bridge.writing ∧
      (bridge.send alive frames).written = bridge.written := by
  unfold send
  split
  · exact ⟨rfl, rfl, rfl⟩
  · split
    · exact ⟨rfl, rfl, rfl⟩
    · exact ⟨rfl, rfl, rfl⟩

theorem serveLine_input (bridge : Bridge) (line : Bytes) :
    (bridge.serveLine line).inputOpen = bridge.inputOpen ∧
      (bridge.serveLine line).writing = bridge.writing ∧
      (bridge.serveLine line).written = bridge.written := by
  unfold serveLine
  split
  · exact ⟨rfl, rfl, rfl⟩
  · split
    · exact ⟨rfl, rfl, rfl⟩
    · exact send_input _ _ _

inductive Fed (bridge next : Bridge) : BridgeEvent → Prop where
  | begun {payload : Bytes} (idle : bridge.writing = []) (was : bridge.inputOpen = true)
      (inputOpen : next.inputOpen = true) (writing : next.writing = payload)
      (written : next.written = bridge.written) : Fed bridge next (.payload payload)
  | wrote {count : Nat} (inputOpen : next.inputOpen = bridge.inputOpen)
      (writing : next.writing = bridge.writing.drop count)
      (written : next.written = bridge.written ++ bridge.writing.take count) :
      Fed bridge next (.wrote count)
  | closed {event : BridgeEvent} (other : event.feeds = false)
      (inputOpen : next.inputOpen = false) (writing : next.writing = [])
      (written : next.written = bridge.written) : Fed bridge next event
  | same {event : BridgeEvent} (other : event.feeds = false)
      (inputOpen : next.inputOpen = bridge.inputOpen)
      (writing : next.writing = bridge.writing) (written : next.written = bridge.written) :
      Fed bridge next event

theorem serve?_fed {event : BridgeEvent} (served : bridge.serve? event = some next) :
    bridge.Fed next event := by
  unfold serve? at served
  split at served
  · cases served
  · split at served
    next idle =>
      have nothing : bridge.writing = [] := List.isEmpty_iff.mp idle
      cases event with
      | shutdown requested =>
          cases served
          cases requested with
          | false => exact .same rfl rfl rfl rfl
          | true => exact .same rfl rfl rfl rfl
      | shutdownLost =>
          cases served
          exact .same rfl rfl rfl rfl
      | line bytes =>
          cases served
          obtain ⟨inputOpen, writing, written⟩ := bridge.serveLine_input bytes
          exact .same rfl inputOpen writing written
      | outputEnd =>
          cases served
          exact .same rfl rfl rfl rfl
      | outputFailed reason =>
          cases served
          exact .same rfl rfl rfl rfl
      | echoFailed reason =>
          obtain ⟨_, served⟩ := Option.ite_none_right_eq_some.mp served
          cases served
          exact .same rfl rfl rfl rfl
      | payload bytes =>
          simp only at served
          split at served
          next inputOpen =>
            cases served
            exact .begun nothing inputOpen inputOpen rfl rfl
          next => cases served
      | inputEnd =>
          simp only at served
          split at served
          · cases served
            exact .closed rfl rfl rfl rfl
          · cases served
      | wrote count => cases served
      | writeFailed => cases served
    next =>
      cases event with
      | wrote count =>
          simp only at served
          split at served
          · cases served
            exact .wrote rfl rfl rfl
          · cases served
      | writeFailed =>
          cases served
          exact .closed rfl rfl rfl rfl
      | _ => cases served

/-- A loop that is writing serves no other event than the end of that. -/
theorem serve?_writing {event : BridgeEvent} (writing : bridge.writing ≠ [])
    (served : bridge.serve? event = some next) :
    (∃ count, event = .wrote count) ∨ event = .writeFailed := by
  unfold serve? at served
  rw [if_neg (mt List.isEmpty_iff.mp writing)] at served
  split at served
  · cases served
  · cases event with
    | wrote count => exact .inl ⟨count, rfl⟩
    | writeFailed => exact .inr rfl
    | _ => cases served

theorem serve?_wrote {count : Nat} (running : bridge.ended = none)
    (writing : bridge.writing ≠ []) (within : count ≤ bridge.writing.length) :
    bridge.serve? (.wrote count) =
      some
        { bridge with
          written := bridge.written ++ bridge.writing.take count
          writing := bridge.writing.drop count } := by
  have going : ¬ bridge.ended.isSome = true := by
    rw [running]
    exact Bool.false_ne_true
  rw [serve?, if_neg going, if_neg (mt List.isEmpty_iff.mp writing)]
  exact if_pos within

end Bridge

/-! ### What the interpreter reads -/

namespace Coupling

variable {pipes : Pipes} {coupling next : Coupling}

/-- What the loop was handed is read, in the pipe or being written, in this order. -/
structure Intact (pipes : Pipes) (coupling : Coupling) : Prop where
  within : coupling.input.length ≤ pipes.inputCapacity
  written : coupling.bridge.written = coupling.read ++ coupling.input
  handed : coupling.bridge.inputOpen = true →
    coupling.handed.flatten = coupling.bridge.written ++ coupling.bridge.writing
  idle : coupling.bridge.inputOpen = false → coupling.bridge.writing = []

theorem settle_other {event : BridgeEvent} (other : event.feeds = false) (bridge : Bridge) :
    (coupling.settle event bridge).bridge = bridge ∧
      (coupling.settle event bridge).input = coupling.input ∧
      (coupling.settle event bridge).handed = coupling.handed ∧
      (coupling.settle event bridge).read = coupling.read := by
  cases event with
  | payload bytes => cases other
  | wrote count => cases other
  | _ => exact ⟨rfl, rfl, rfl, rfl⟩

theorem Intact.of_same (intact : coupling.Intact pipes) (input : next.input = coupling.input)
    (handed : next.handed = coupling.handed) (read : next.read = coupling.read)
    (inputOpen : next.bridge.inputOpen = coupling.bridge.inputOpen)
    (writing : next.bridge.writing = coupling.bridge.writing)
    (written : next.bridge.written = coupling.bridge.written) : next.Intact pipes := by
  constructor
  · rw [input]
    exact intact.within
  · rw [written, read, input]
    exact intact.written
  · rw [inputOpen, handed, written, writing]
    exact intact.handed
  · rw [inputOpen, writing]
    exact intact.idle

theorem Intact.served (intact : coupling.Intact pipes) {event : BridgeEvent} {bridge : Bridge}
    (offered : coupling.offers pipes event = true)
    (fed : coupling.bridge.Fed bridge event) :
    (coupling.settle event bridge).Intact pipes := by
  have ⟨within, flow, handed, idle⟩ := intact
  cases fed with
  | begun nothing was inputOpen writing written =>
      refine ⟨within, written.trans flow, ?_, ?_⟩
      · intro _
        change (coupling.handed ++ [_]).flatten = bridge.written ++ bridge.writing
        rw [List.flatten_append, handed was, nothing, written, writing, List.append_nil,
          List.flatten_singleton]
      · intro isClosed
        cases inputOpen.symm.trans isClosed
  | @wrote count inputOpen writing written =>
      simp only [offers, Bool.and_eq_true, beq_iff_eq] at offered
      have room := (pipes.accepts_le (pipes.inputCapacity - coupling.input.length)
        coupling.bridge.writing.length).1
      rw [← accepted, ← offered.2] at room
      refine ⟨?_, ?_, ?_, ?_⟩
      · change (coupling.input ++ coupling.bridge.writing.take count).length ≤ _
        rw [List.length_append, List.length_take]
        omega
      · change bridge.written = coupling.read ++ (coupling.input ++ _)
        rw [written, flow, List.append_assoc]
      · intro isOpen
        change coupling.handed.flatten = bridge.written ++ bridge.writing
        rw [handed (inputOpen.symm.trans isOpen), written, writing, List.append_assoc,
          List.take_append_drop]
      · intro isClosed
        change bridge.writing = []
        rw [writing, idle (inputOpen.symm.trans isClosed), List.drop_nil]
  | closed other inputOpen writing written =>
      obtain ⟨same, input, _, read⟩ := settle_other other bridge
      rw [← same] at inputOpen writing written
      constructor
      · rw [input]
        exact within
      · rw [written, read, input]
        exact flow
      · intro isOpen
        cases inputOpen.symm.trans isOpen
      · exact fun _ => writing
  | same other inputOpen writing written =>
      obtain ⟨same, input, handed, read⟩ := settle_other other bridge
      rw [← same] at inputOpen writing written
      exact intact.of_same input handed read inputOpen writing written

theorem Intact.after (intact : coupling.Intact pipes) {move : Move}
    (happens : coupling.after? pipes move = some next) : next.Intact pipes := by
  cases move with
  | serve event =>
      simp only [after?] at happens
      split at happens
      next offered =>
        obtain ⟨bridge, served, rfl⟩ := Option.map_eq_some_iff.mp happens
        exact intact.served offered (Bridge.serve?_fed served)
      next => cases happens
  | gather =>
      simp only [after?] at happens
      split at happens
      · cases happens
        exact intact.of_same rfl rfl rfl rfl rfl rfl
      · cases happens
  | finish =>
      simp only [after?] at happens
      split at happens
      · cases happens
        exact intact.of_same rfl rfl rfl rfl rfl rfl
      · cases happens
  | receive payload =>
      simp only [after?] at happens
      split at happens
      · cases happens
      · cases happens
        exact intact.of_same rfl rfl rfl rfl rfl rfl
  | closeInbound =>
      cases happens
      exact intact.of_same rfl rfl rfl rfl rfl rfl
  | signal =>
      cases happens
      exact intact.of_same rfl rfl rfl rfl rfl rfl
  | read count =>
      simp only [after?] at happens
      split at happens
      · cases happens
      · cases happens
        obtain ⟨within, flow, handed, idle⟩ := intact
        refine ⟨?_, ?_, handed, idle⟩
        · change (coupling.input.drop count).length ≤ _
          rw [List.length_drop]
          omega
        · change coupling.bridge.written =
            coupling.read ++ coupling.input.take count ++ coupling.input.drop count
          rw [flow, List.append_assoc, List.take_append_drop]
  | closeInput =>
      cases happens
      exact intact.of_same rfl rfl rfl rfl rfl rfl
  | print bytes =>
      simp only [after?] at happens
      split at happens
      · cases happens
      · cases happens
        exact intact.of_same rfl rfl rfl rfl rfl rfl
  | closeOutput =>
      cases happens
      exact intact.of_same rfl rfl rfl rfl rfl rfl

theorem Intact.run {moves : List Move} (intact : coupling.Intact pipes)
    (reached : run? pipes coupling moves = some next) : next.Intact pipes := by
  induction moves generalizing coupling with
  | nil =>
      cases reached
      exact intact
  | cons move rest ih =>
      rw [run?] at reached
      split at reached
      next => cases reached
      next happens => exact ih (intact.after happens) reached

theorem Intact.start (outlet : Outlet) : (start outlet).Intact pipes :=
  ⟨Nat.zero_le _, rfl, fun _ => rfl, fun _ => rfl⟩

/-! ### Standing still -/

theorem accepted_le (pipes : Pipes) (coupling : Coupling) :
    coupling.accepted pipes ≤ pipes.inputCapacity - coupling.input.length ∧
      coupling.accepted pipes ≤ coupling.bridge.writing.length :=
  pipes.accepts_le _ _

/-- The coupling after the pipe has taken what it takes of the payload. -/
def wrote (pipes : Pipes) (coupling : Coupling) : Coupling :=
  let bridge := coupling.bridge
  coupling.settle (.wrote (coupling.accepted pipes))
    { bridge with
      written := bridge.written ++ bridge.writing.take (coupling.accepted pipes)
      writing := bridge.writing.drop (coupling.accepted pipes) }

theorem wrote_length (pipes : Pipes) (coupling : Coupling) :
    (coupling.wrote pipes).input.length =
        coupling.input.length + coupling.accepted pipes ∧
      (coupling.wrote pipes).bridge.writing.length =
        coupling.bridge.writing.length - coupling.accepted pipes := by
  have part := (accepted_le pipes coupling).2
  refine ⟨?_, List.length_drop⟩
  change (coupling.input ++ coupling.bridge.writing.take _).length = _
  rw [List.length_append, List.length_take, Nat.min_eq_left part]

/-- A loop that is writing goes on as far as the pipe takes more. -/
theorem write_accepted (running : coupling.bridge.ended = none)
    (inputOpen : coupling.inputClosed = false) (some_taken : 0 < coupling.accepted pipes) :
    coupling.after? pipes (.serve (.wrote (coupling.accepted pipes))) =
      some (coupling.wrote pipes) := by
  have within := (accepted_le pipes coupling).2
  have writing : coupling.bridge.writing ≠ [] := by
    intro nothing
    rw [nothing, List.length_nil] at within
    omega
  have offered : coupling.offers pipes (.wrote (coupling.accepted pipes)) = true := by
    simp [offers, inputOpen, some_taken]
  rw [after?, if_pos offered, Bridge.serve?_wrote running writing within]
  rfl

theorem Blocked.not_enabled (blocked : coupling.Blocked pipes) :
    ¬ coupling.RelayEnabled pipes := by
  obtain ⟨writing, inputOpen, full⟩ := blocked
  have inattentive : coupling.attends = false := by
    rw [attends, Bool.and_eq_false_iff]
    exact .inr (List.isEmpty_eq_false_iff.mpr writing)
  rintro ⟨move, own, enabled⟩
  obtain ⟨next, happens⟩ := Option.isSome_iff_exists.mp enabled
  cases move with
  | serve event =>
      simp only [after?] at happens
      split at happens
      next offered =>
        obtain ⟨bridge, served, _⟩ := Option.map_eq_some_iff.mp happens
        rcases Bridge.serve?_writing writing served with ⟨count, rfl⟩ | rfl
        · simp only [offers, full, Bool.and_eq_true, decide_eq_true_iff, beq_iff_eq] at offered
          omega
        · rw [offers, inputOpen] at offered
          cases offered
      next => cases happens
  | gather => simp [after?, inattentive] at happens
  | finish => simp [after?, inattentive] at happens
  | _ => cases own

theorem relayEnabled_of_idle (running : coupling.bridge.ended = none)
    (idle : coupling.bridge.writing = [])
    (due : coupling.signalled = true ∨ coupling.LineWaiting) : coupling.RelayEnabled pipes := by
  have serves (event : BridgeEvent) (offered : coupling.offers pipes event = true)
      (served : (coupling.bridge.serve? event).isSome = true) : coupling.RelayEnabled pipes := by
    refine ⟨.serve event, rfl, ?_⟩
    rw [after?, if_pos offered, Option.isSome_map]
    exact served
  rcases due with signalled | waiting | unread
  · refine serves (.shutdown true) ?_ ?_
    · rw [offers, signalled]
      rfl
    · simp [Bridge.serve?, running, idle]
  · obtain ⟨line, rest, lines⟩ := List.exists_cons_of_ne_nil waiting
    refine serves (.line line) ?_ ?_
    · simp [offers, lines]
    · simp [Bridge.serve?, running, idle]
  · have present : coupling.output ≠ [] := List.ne_nil_of_mem unread
    refine ⟨.gather, rfl, ?_⟩
    simp [after?, attends, running, idle, present]

theorem relayEnabled_of_closed (running : coupling.bridge.ended = none)
    (writing : coupling.bridge.writing ≠ []) (inputClosed : coupling.inputClosed = true) :
    coupling.RelayEnabled pipes := by
  refine ⟨.serve .writeFailed, rfl, ?_⟩
  simp [after?, offers, Bridge.serve?, inputClosed, running, writing]

theorem relayEnabled_of_accepted (running : coupling.bridge.ended = none)
    (inputOpen : coupling.inputClosed = false) (some_taken : 0 < coupling.accepted pipes) :
    coupling.RelayEnabled pipes := by
  refine ⟨.serve (.wrote (coupling.accepted pipes)), rfl, ?_⟩
  rw [write_accepted running inputOpen some_taken]
  rfl

theorem not_relayEnabled_iff (running : coupling.bridge.ended = none)
    (due : coupling.signalled = true ∨ coupling.LineWaiting) :
    ¬ coupling.RelayEnabled pipes ↔ coupling.Blocked pipes := by
  constructor
  · intro still
    have writing : coupling.bridge.writing ≠ [] :=
      fun idle => still (relayEnabled_of_idle running idle due)
    have inputOpen : coupling.inputClosed = false := by
      rw [← Bool.not_eq_true]
      exact fun inputClosed => still (relayEnabled_of_closed running writing inputClosed)
    refine ⟨writing, inputOpen, Nat.eq_zero_of_not_pos ?_⟩
    exact fun some_taken => still (relayEnabled_of_accepted running inputOpen some_taken)
  · exact Blocked.not_enabled

/-- A blocked loop goes on once its payload is read, or its input closed. -/
theorem Blocked.released (blocked : coupling.Blocked pipes)
    (running : coupling.bridge.ended = none)
    (happens : coupling.after? pipes (.read coupling.input.length) = some next ∨
      coupling.after? pipes .closeInput = some next) : next.RelayEnabled pipes := by
  rcases happens with happens | happens
  · have readable :
        ¬ (coupling.inputClosed || decide (coupling.input.length < coupling.input.length)) =
          true := by
      simp [blocked.inputOpen]
    rw [after?, if_neg readable] at happens
    cases happens
    refine relayEnabled_of_accepted ?_ ?_ ?_
    · exact running
    · exact blocked.inputOpen
    · have some_left := List.length_pos_iff.mpr blocked.writing
      simp only [accepted, List.drop_length, List.length_nil, Nat.sub_zero]
      exact pipes.accepts_some _ some_left
  · cases happens
    exact relayEnabled_of_closed running blocked.writing rfl

/-- A loop that has a shutdown request or a line before it stands still only while it
writes to a full pipe.  The bytes it was handed and that are unread are then more than
the pipe holds, and whatever the interpreter does with its input lets the loop go on. -/
theorem relay_stands_still_iff {outlet : Outlet} {moves : List Move} {final : Coupling}
    (reached : run? pipes (start outlet) moves = some final)
    (running : final.bridge.ended = none)
    (due : final.signalled = true ∨ final.LineWaiting) :
    (¬ final.RelayEnabled pipes ↔ final.Blocked pipes) ∧
      (final.Blocked pipes →
        final.handed.flatten = final.read ++ final.input ++ final.bridge.writing ∧
          pipes.inputCapacity < final.input.length + final.bridge.writing.length ∧
          ∀ next,
            final.after? pipes (.read final.input.length) = some next ∨
                final.after? pipes .closeInput = some next →
              next.RelayEnabled pipes) := by
  refine ⟨not_relayEnabled_iff running due, ?_⟩
  intro blocked
  have intact := (Intact.start outlet).run reached
  have inputOpen : final.bridge.inputOpen = true := by
    rw [← Bool.not_eq_false]
    exact fun closed => blocked.writing (intact.idle closed)
  have overfull : pipes.inputCapacity - final.input.length < final.bridge.writing.length := by
    rw [← Nat.not_le]
    intro fits
    have taken := pipes.accepts_whole _ _ fits
    have nothing : final.bridge.writing.length = 0 := taken.symm.trans blocked.full
    exact blocked.writing (List.length_eq_zero_iff.mp nothing)
  refine ⟨?_, ?_, fun _ => blocked.released running⟩
  · rw [intact.handed inputOpen, intact.written]
  · have within := intact.within
    omega

/-- The pipe takes a part of the payload, and takes no more with the next. -/
theorem relay_stands_still_sample :
    ∃ final,
      run? (.plain 1 1 Nat.one_pos) (start (.publisher true))
          [.receive [0, 0], .serve (.payload [0, 0]), .serve (.wrote 1), .signal] =
        some final ∧
      ¬ final.RelayEnabled (.plain 1 1 Nat.one_pos) ∧ final.read ++ final.input = [0] := by
  refine ⟨_, rfl, ?_, rfl⟩
  have still := relay_stands_still_iff
    (rfl :
      run? (.plain 1 1 Nat.one_pos) (start (.publisher true))
        [.receive [0, 0], .serve (.payload [0, 0]), .serve (.wrote 1), .signal] = some _)
    rfl (.inl rfl)
  exact still.1.mpr ⟨nofun, rfl, rfl⟩

theorem run?_append {first second : List Move} {middle : Coupling}
    (reached : run? pipes coupling first = some middle) :
    run? pipes coupling (first ++ second) = run? pipes middle second := by
  induction first generalizing coupling with
  | nil =>
      cases reached
      rfl
  | cons move rest ih =>
      rw [run?] at reached
      rw [List.cons_append, run?]
      split at reached
      next => cases reached
      next happens => exact ih reached

/-- The end of a write that is larger than the room for it. -/
theorem exists_full (running : coupling.bridge.ended = none)
    (inputOpen : coupling.inputClosed = false)
    (within : coupling.input.length ≤ pipes.inputCapacity)
    (overfull : pipes.inputCapacity < coupling.input.length + coupling.bridge.writing.length) :
    ∃ moves final, run? pipes coupling moves = some final ∧ final.Blocked pipes ∧
      final.bridge.ended = none ∧ final.signalled = coupling.signalled ∧
      final.output = coupling.output := by
  induction left : coupling.bridge.writing.length using Nat.strongRecOn generalizing coupling with
  | ind length ih =>
      by_cases full : coupling.accepted pipes = 0
      · refine ⟨[], coupling, rfl, ⟨?_, inputOpen, full⟩, running, rfl, rfl⟩
        intro nothing
        rw [nothing, List.length_nil] at overfull
        omega
      · have some_taken : 0 < coupling.accepted pipes := Nat.pos_of_ne_zero full
        obtain ⟨room, part⟩ := accepted_le pipes coupling
        have happens := write_accepted running inputOpen some_taken
        obtain ⟨input, writing⟩ := wrote_length pipes coupling
        obtain ⟨moves, final, reached, blocked, going, signalled, output⟩ :=
          @ih (length - coupling.accepted pipes) (by omega) (coupling.wrote pipes) running
            inputOpen (by omega) (by omega) (left ▸ writing)
        refine
          ⟨.serve (.wrote (coupling.accepted pipes)) :: moves, final, ?_, blocked, going,
            signalled, output⟩
        rw [run?, happens]
        exact reached

theorem print_full (full : coupling.output.length = pipes.outputCapacity) {bytes : Bytes}
    (some_printed : bytes ≠ []) : coupling.after? pipes (.print bytes) = none := by
  have longer := List.length_pos_iff.mpr some_printed
  have refused : pipes.outputCapacity < coupling.output.length + bytes.length := by omega
  rw [after?, if_pos]
  rw [Bool.or_eq_true, decide_eq_true_iff]
  exact .inr refused

/-- Whatever the pipes hold, the loop can come to stand still before a shutdown request
and lines that wait, while an interpreter that prints before it reads waits for it. -/
theorem exists_standstill (pipes : Pipes) (holds : 0 < pipes.outputCapacity) (outlet : Outlet) :
    ∃ moves final,
      run? pipes (start outlet) moves = some final ∧ final.bridge.ended = none ∧
        final.signalled = true ∧ final.LineWaiting ∧ ¬ final.RelayEnabled pipes ∧
        ∀ bytes, bytes ≠ [] → final.after? pipes (.print bytes) = none := by
  let payload : Bytes := List.replicate (pipes.inputCapacity + 1) 0
  let lines : Bytes := List.replicate pipes.outputCapacity lineFeed
  let begun : Coupling :=
    { bridge := Bridge.servePayload { outlet } payload, handed := [payload]
      output := lines, signalled := true }
  have printed : lines.length = pipes.outputCapacity := List.length_replicate
  have prepared :
      run? pipes (start outlet)
          [.receive payload, .serve (.payload payload), .print lines, .signal] =
        some begun := by
    simp [run?, after?, start, offers, Bridge.serve?, settle, begun, printed]
  have length : begun.bridge.writing.length = pipes.inputCapacity + 1 :=
    List.length_replicate
  have overfull : pipes.inputCapacity < begun.input.length + begun.bridge.writing.length := by
    rw [length]
    omega
  obtain ⟨moves, final, reached, blocked, running, signalled, output⟩ :=
    exists_full rfl rfl (Nat.zero_le _) overfull
  have waiting : final.LineWaiting := by
    right
    rw [output]
    exact List.mem_replicate.mpr ⟨Nat.ne_of_gt holds, rfl⟩
  have full : final.output.length = pipes.outputCapacity := by
    rw [output]
    exact printed
  refine ⟨_, final, (run?_append prepared).trans reached, running, signalled, waiting,
    blocked.not_enabled, ?_⟩
  exact fun bytes some_printed => print_full full some_printed

/-- Pipes of a usual size let the loop stand still. -/
theorem not_always_enabled :
    ∃ moves final,
      run? (.plain 65536 65536 (by decide)) (start (.publisher true)) moves = some final ∧
        final.bridge.ended = none ∧ final.signalled = true ∧ final.LineWaiting ∧
        ¬ final.RelayEnabled (.plain 65536 65536 (by decide)) ∧
        ∀ bytes, bytes ≠ [] →
          final.after? (.plain 65536 65536 (by decide)) (.print bytes) = none :=
  exists_standstill _ (by decide : 0 < 65536) _

end Coupling
end TraceForward
