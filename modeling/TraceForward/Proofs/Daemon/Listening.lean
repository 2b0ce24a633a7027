/-
The relay loop and the interpreter's output.

The output is read in pieces of any size and its lines are served one at a time.
Between two of them the loop may serve anything else: payloads, writes that succeed or
fail, notices of a shutdown.  The publisher may be lost at any moment.  What is sent
and counted follows from the lines that were served alone, and these are the first
lines of the output.
-/

import TraceForward.Proofs.Daemon.Lines
import TraceForward.Proofs.Daemon.Rendering
import TraceForward.Proofs.Runs

namespace TraceForward

structure Listening where
  bridge : Bridge
  unread : Bytes
  reader : LineReader := {}
  lines : List Bytes := []
  served : List Bytes := []

def Outlet.lost : Outlet → Outlet
  | .publisher _ => .publisher false
  | .echo => .echo

namespace Listening

def start (outlet : Outlet) (output : Bytes) : Listening :=
  { bridge := { outlet }, unread := output }

inductive Move where
  | read (count : Nat)
  /-- The output is read to its end, and what is behind its last line feed is a line. -/
  | finish
  | serve (event : BridgeEvent)
  | losePublisher

def offers (listening : Listening) : BridgeEvent → Bool
  | .line line => listening.lines.head? == some line
  | .outputEnd =>
      listening.unread.isEmpty && listening.reader.remainder.isEmpty && listening.lines.isEmpty
  | .echoFailed _ => listening.lines.head?.any Utf8.isValid
  | _ => true

/-- What is left after the loop has served an event and become `bridge`.  A line that is
not UTF-8, or cannot be copied, stays where it is. -/
def settle (listening : Listening) (bridge : Bridge) : BridgeEvent → Listening
  | .line line =>
      if Utf8.isValid line then
        { listening with
          bridge, lines := listening.lines.tail, served := listening.served ++ [line] }
      else { listening with bridge }
  | _ => { listening with bridge }

def after? (listening : Listening) : Move → Option Listening
  | .read count =>
      if 0 < count ∧ count ≤ listening.unread.length then
        let (lines, reader) := listening.reader.feed (listening.unread.take count)
        some
          { listening with
            reader, lines := listening.lines ++ lines, unread := listening.unread.drop count }
      else none
  | .finish =>
      if listening.unread.isEmpty then
        some
          { listening with
            reader := {}, lines := listening.lines ++ listening.reader.finish }
      else none
  | .serve event =>
      if listening.offers event then
        (listening.bridge.serve? event).map fun bridge => listening.settle bridge event
      else none
  | .losePublisher =>
      let bridge := listening.bridge
      some { listening with bridge := { bridge with outlet := bridge.outlet.lost } }

variable {output : Bytes} {listening next : Listening} {event : BridgeEvent}

theorem after?_serve (happens : listening.after? (.serve event) = some next) :
    listening.offers event = true ∧
      ∃ bridge, listening.bridge.serve? event = some bridge ∧
        next = listening.settle bridge event := by
  obtain ⟨offered, happens⟩ := Option.ite_none_right_eq_some.mp happens
  obtain ⟨bridge, served, rfl⟩ := Option.map_eq_some_iff.mp happens
  exact ⟨offered, bridge, served, rfl⟩

theorem settle_other (bridge : Bridge) (other : event.line? = none) :
    listening.settle bridge event = { listening with bridge } := by
  cases event with
  | line bytes => cases other
  | _ => rfl

theorem settle_bridge (bridge : Bridge) : (listening.settle bridge event).bridge = bridge := by
  unfold settle
  split
  · split <;> rfl
  · rfl

/-- The line that is served is the first of those that were read. -/
theorem lines_of_offers {line : Bytes} (offered : listening.offers (.line line) = true) :
    listening.lines = line :: listening.lines.tail :=
  (List.cons_head?_tail (eq_of_beq offered)).symm

/-! ### What every move keeps -/

/-- The output is served in order, and what the loop has made of it is what the lines
that were served amount to. -/
structure Faithful (output : Bytes) (listening : Listening) : Prop where
  stream : Lines.all output =
    listening.served ++
      (listening.lines ++ Lines.all (listening.reader.remainder ++ listening.unread))
  unfinished : lineFeed ∉ listening.reader.remainder
  legible : ∀ line ∈ listening.served, Utf8.isValid line = true
  rendered : listening.bridge.Copies listening.served ∨ listening.bridge.Renders listening.served
  complete : listening.bridge.ended = some (.ok .interpreterExited) →
    listening.served = Lines.all output

theorem Faithful.start (outlet : Outlet) (output : Bytes) :
    (start outlet output).Faithful output := by
  refine ⟨rfl, List.not_mem_nil, nofun, ?_, nofun⟩
  cases outlet with
  | echo => exact .inl ⟨rfl, rfl, rfl, rfl, rfl, rfl⟩
  | publisher alive => exact .inr ⟨nofun, rfl, fun _ => rfl, nofun, rfl, rfl, rfl⟩

theorem Faithful.read (faithful : listening.Faithful output) {count : Nat}
    (happens : listening.after? (.read count) = some next) : next.Faithful output := by
  obtain ⟨stream, unfinished, legible, rendered, complete⟩ := faithful
  obtain ⟨_, happens⟩ := Option.ite_none_right_eq_some.mp happens
  cases happens
  refine ⟨?_, LineReader.feed_unfinished _ _, legible, rendered, complete⟩
  have found := listening.reader.feed_all (listening.unread.take count)
    (listening.unread.drop count)
  rw [List.take_append_drop] at found
  rw [stream, found, List.append_assoc]
  rfl

theorem Faithful.finish (faithful : listening.Faithful output)
    (happens : listening.after? .finish = some next) : next.Faithful output := by
  obtain ⟨stream, unfinished, legible, rendered, complete⟩ := faithful
  obtain ⟨exhausted, happens⟩ := Option.ite_none_right_eq_some.mp happens
  have exhausted := List.isEmpty_iff.mp exhausted
  cases happens
  refine ⟨?_, List.not_mem_nil, legible, rendered, complete⟩
  rw [exhausted, List.append_nil, Lines.all_of_unfinished unfinished] at stream
  have nothing : Lines.all ([] ++ listening.unread) = [] := by
    rw [exhausted]
    rfl
  rw [nothing, List.append_nil]
  exact stream

theorem Faithful.losePublisher (faithful : listening.Faithful output)
    (happens : listening.after? .losePublisher = some next) : next.Faithful output := by
  obtain ⟨stream, unfinished, legible, rendered, complete⟩ := faithful
  cases happens
  refine ⟨stream, unfinished, legible, ?_, complete⟩
  rcases rendered with copies | renders
  · obtain ⟨outlet, source, sent, echo, frames, echoed⟩ := copies
    refine .inl ⟨?_, source, sent, echo, frames, echoed⟩
    exact congrArg Outlet.lost outlet
  · obtain ⟨outlet, source, sent, cutOff, echo, frames, echoed⟩ := renders
    refine .inr ⟨?_, source, sent, cutOff, echo, frames, echoed⟩
    change listening.bridge.outlet.lost ≠ .echo
    cases known : listening.bridge.outlet with
    | echo => exact absurd known outlet
    | publisher alive => exact nofun

theorem Faithful.silent (faithful : listening.Faithful output) {bridge : Bridge}
    {ended : Option (Except Fault BridgeExit)} (running : listening.bridge.ended = none)
    (silent : listening.bridge.Silent bridge ended)
    (other : ended ≠ some (.error .publisherGone))
    (complete : ended = some (.ok .interpreterExited) → listening.served = Lines.all output) :
    Faithful output { listening with bridge } := by
  obtain ⟨stream, unfinished, legible, rendered, _⟩ := faithful
  refine ⟨stream, unfinished, legible, ?_, ?_⟩
  · rcases rendered with copies | renders
    · exact .inl (copies.silent silent)
    · exact .inr (renders.silent running silent other)
  · exact fun exited => complete (silent.ended.symm.trans exited)

theorem Faithful.serveOther (faithful : listening.Faithful output) {bridge : Bridge}
    (offered : listening.offers event = true) (other : event.line? = none)
    (served : listening.bridge.serve? event = some bridge) :
    Faithful output { listening with bridge } := by
  refine faithful.silent (Bridge.running_of_serve? served) (Bridge.serve?_silent served other)
    event.exit?_ne_gone ?_
  intro ends
  cases event with
  | outputEnd =>
      simp only [offers, Bool.and_eq_true, List.isEmpty_iff] at offered
      obtain ⟨⟨exhausted, nothing⟩, through⟩ := offered
      have stream := faithful.stream
      rw [through, nothing, exhausted] at stream
      exact (List.append_nil _).symm.trans stream.symm
  | shutdown requested => cases requested <;> cases ends
  | _ => cases ends

theorem Faithful.serveLine (faithful : listening.Faithful output) {line : Bytes}
    {bridge : Bridge} (offered : listening.offers (.line line) = true)
    (served : listening.bridge.serve? (.line line) = some bridge) :
    (listening.settle bridge (.line line)).Faithful output := by
  have running := Bridge.running_of_serve? served
  obtain rfl := Bridge.serve?_line served
  cases broken : Utf8.firstBreak line with
  | some fault =>
      have illegible : ¬ Utf8.isValid line = true := by simp [Utf8.isValid, broken]
      rw [settle, if_neg illegible]
      exact faithful.silent running (Bridge.serveLine_broken broken) nofun nofun
  | none =>
      have whole : Utf8.isValid line = true := by simp [Utf8.isValid, broken]
      obtain ⟨stream, unfinished, legible, rendered, _⟩ := faithful
      rw [settle, if_pos whole]
      refine ⟨?_, unfinished, ?_, ?_, ?_⟩
      · rw [lines_of_offers offered] at stream
        rw [stream, List.append_assoc]
        rfl
      · intro other member
        rcases List.mem_append.mp member with earlier | last
        · exact legible other earlier
        · exact (List.mem_singleton.mp last) ▸ whole
      · rcases rendered with copies | renders
        · exact .inl (copies.serveLine broken).1
        · exact .inr (renders.serveLine running broken).1
      · intro exited
        rcases rendered with copies | renders
        · cases running.symm.trans ((copies.serveLine broken).2.symm.trans exited)
        · rcases (renders.serveLine running broken).2 with goesOn | gone
          · cases goesOn.symm.trans exited
          · cases gone.symm.trans exited

theorem Faithful.after {move : Move} (faithful : listening.Faithful output)
    (happens : listening.after? move = some next) : next.Faithful output := by
  cases move with
  | read count => exact faithful.read happens
  | finish => exact faithful.finish happens
  | losePublisher => exact faithful.losePublisher happens
  | serve event =>
      obtain ⟨offered, bridge, served, rfl⟩ := after?_serve happens
      cases about : event.line? with
      | none =>
          rw [settle_other bridge about]
          exact faithful.serveOther offered about served
      | some line =>
          obtain rfl := event.eq_line about
          exact faithful.serveLine offered served

theorem Faithful.run {outlet : Outlet} {moves : List Move} {final : Listening}
    (reached : runMoves? after? (Listening.start outlet output) moves = some final) :
    final.Faithful output :=
  runMoves?_induction (Faithful output) (fun _ _ _ faithful happens => faithful.after happens)
    (Faithful.start outlet output) reached

/-! ### What is sent and counted -/

/-- How the loop takes a line: it is the next of the output, and one that is not UTF-8
ends the loop before anything comes of it. -/
structure Takes (output : Bytes) (listening next : Listening) (line : Bytes) : Prop where
  inOrder : (Lines.all output)[listening.served.length]? = some line
  whole : Utf8.isValid line = true → next.served = listening.served ++ [line]
  broken : ∀ fault, Utf8.firstBreak line = some fault →
    next.served = listening.served ∧ next.bridge.sent = listening.bridge.sent ∧
      next.bridge.ended = some (.error (.io fault.message))

/-- What the loop has made of the output, whatever else it has served. -/
structure Transcribed (output : Bytes) (listening : Listening) : Prop where
  consumed : listening.served = (Lines.all output).take listening.served.length
  legible : ∀ line ∈ listening.served, Utf8.isValid line = true
  complete : listening.bridge.ended = some (.ok .interpreterExited) →
    listening.served = Lines.all output
  published : listening.bridge.outlet ≠ .echo →
    listening.bridge.ended ≠ some (.error .publisherGone) →
      listening.bridge.sent = Lines.frames listening.served ∧
        listening.bridge.totals =
          { inbound := listening.bridge.stats.inbound
            fragments := listening.served.length
            frames := (Lines.frames listening.served).length
            discarded := (TextFramer.ofLines listening.served).2.discarded }
  cutOff : listening.bridge.outlet ≠ .echo →
    listening.bridge.ended = some (.error .publisherGone) →
      ∃ frame, Lines.frames listening.served = listening.bridge.sent ++ [frame]
  copied : listening.bridge.outlet = .echo →
    listening.bridge.sent = [] ∧
      listening.bridge.totals =
        { inbound := listening.bridge.stats.inbound, echoed := listening.served.length }
  takes : ∀ line next, listening.after? (.serve (.line line)) = some next →
    listening.Takes output next line

theorem Faithful.published (faithful : listening.Faithful output)
    (framed : listening.bridge.outlet ≠ .echo) : listening.bridge.Renders listening.served := by
  rcases faithful.rendered with copies | renders
  · exact absurd copies.outlet framed
  · exact renders

theorem Faithful.copied (faithful : listening.Faithful output)
    (echoing : listening.bridge.outlet = .echo) : listening.bridge.Copies listening.served := by
  rcases faithful.rendered with copies | renders
  · exact copies
  · exact absurd echoing renders.outlet

theorem Faithful.takes (faithful : listening.Faithful output) {line : Bytes}
    (happens : listening.after? (.serve (.line line)) = some next) :
    listening.Takes output next line := by
  obtain ⟨offered, bridge, served, rfl⟩ := after?_serve happens
  obtain rfl := Bridge.serve?_line served
  refine ⟨?_, ?_, ?_⟩
  · rw [faithful.stream, lines_of_offers offered, List.getElem?_append_right (Nat.le_refl _),
      Nat.sub_self]
    rfl
  · intro whole
    rw [settle, if_pos whole]
  · intro fault broken
    have illegible : ¬ Utf8.isValid line = true := by simp [Utf8.isValid, broken]
    have silent : listening.bridge.Silent _ _ := Bridge.serveLine_broken broken
    rw [settle, if_neg illegible]
    exact ⟨rfl, silent.sent, silent.ended⟩

theorem Faithful.transcribed (faithful : listening.Faithful output) :
    listening.Transcribed output := by
  constructor
  · rw [faithful.stream, List.take_left]
  · exact faithful.legible
  · exact faithful.complete
  · intro framed goesOn
    have ⟨_, source, sent, _, _, frames, echoed⟩ := faithful.published framed
    have sent := sent goesOn
    refine ⟨sent, ?_⟩
    simp only [Bridge.totals, source, ← sent, frames, echoed]
    rfl
  · exact fun framed gone => (faithful.published framed).cutOff gone
  · intro echoing
    have ⟨_, source, sent, _, frames, echoed⟩ := faithful.copied echoing
    refine ⟨sent, ?_⟩
    simp only [Bridge.totals, source, frames, echoed]
    rfl
  · exact fun line next happens => faithful.takes happens

theorem outlet_run {outlet : Outlet} {moves : List Move} {final : Listening}
    (reached : runMoves? after? (start outlet output) moves = some final) :
    final.bridge.outlet = .echo ↔ outlet = .echo := by
  refine runMoves?_induction (fun state => state.bridge.outlet = .echo ↔ outlet = .echo)
    ?_ Iff.rfl reached
  intro listening move next kept happens
  cases move with
  | read count =>
      obtain ⟨_, happens⟩ := Option.ite_none_right_eq_some.mp happens
      cases happens
      exact kept
  | finish =>
      obtain ⟨_, happens⟩ := Option.ite_none_right_eq_some.mp happens
      cases happens
      exact kept
  | losePublisher =>
      cases happens
      refine Iff.trans ?_ kept
      change listening.bridge.outlet.lost = .echo ↔ _
      cases listening.bridge.outlet <;> simp [Outlet.lost]
  | serve event =>
      obtain ⟨_, bridge, served, rfl⟩ := after?_serve happens
      rw [settle_bridge, Bridge.serve?_outlet served]
      exact kept

/-- Whatever the schedule, what is sent and counted is what the served lines amount to:
two runs over the same output that have served equally many lines have sent the same
frames, unless one of them lost its publisher. -/
theorem output_transcribed {outlet : Outlet} {moves : List Move} {final : Listening}
    (reached : runMoves? after? (start outlet output) moves = some final) :
    final.Transcribed output ∧
      ∀ moves' final', runMoves? after? (start outlet output) moves' = some final' →
        final'.served.length = final.served.length →
        final.bridge.ended ≠ some (.error .publisherGone) →
        final'.bridge.ended ≠ some (.error .publisherGone) →
        final'.bridge.sent = final.bridge.sent := by
  have transcribed := (Faithful.run reached).transcribed
  refine ⟨transcribed, ?_⟩
  intro moves' final' reached' length goesOn goesOn'
  have faithful := Faithful.run reached
  have faithful' := Faithful.run reached'
  have same : final'.served = final.served := by
    rw [faithful'.transcribed.consumed, length, ← transcribed.consumed]
  by_cases echoing : outlet = .echo
  · have copied := transcribed.copied ((outlet_run reached).mpr echoing)
    have copied' := faithful'.transcribed.copied ((outlet_run reached').mpr echoing)
    exact copied'.1.trans copied.1.symm
  · have framed := transcribed.published (mt (outlet_run reached).mp echoing) goesOn
    have framed' := faithful'.transcribed.published (mt (outlet_run reached').mp echoing) goesOn'
    rw [framed'.1, same, framed.1]

/-- A message with a carriage return in it and a stray line, read in two pieces; the
input fails between them, and a notice comes that asks for nothing. -/
theorem output_transcribed_sample :
    let output : Bytes := [0x7B, 0x0A, 0x61, 0x0D, 0x0A, 0x7D, 0x0A, 0x78]
    let moves : List Move :=
      [.read 4, .serve (.payload [1, 2]), .serve (.wrote 1), .serve .writeFailed,
        .serve (.line [0x7B]), .serve (.shutdown false), .read 4, .serve (.line [0x61]),
        .serve (.line [0x7D]), .finish, .serve (.line [0x78]), .serve .outputEnd]
    ∃ final,
      runMoves? after? (start (.publisher true) output) moves = some final ∧
        final.bridge.ended = some (.ok .interpreterExited) ∧
        final.bridge.sent = [Frame.trace [0x7B, 0x0A, 0x61, 0x0A, 0x7D, 0x0A]] ∧
        final.bridge.totals = { inbound := 1, fragments := 4, frames := 1, discarded := 1 } ∧
        final.Transcribed output := by
  intro output moves
  have outcome :
      (runMoves? after? (start (.publisher true) output) moves).map
          (fun final => (final.bridge.ended, final.bridge.sent, final.bridge.totals)) =
        some
          (some (.ok .interpreterExited), [Frame.trace [0x7B, 0x0A, 0x61, 0x0A, 0x7D, 0x0A]],
            { inbound := 1, fragments := 4, frames := 1, discarded := 1 }) :=
    rfl
  obtain ⟨final, reached, same⟩ := Option.map_eq_some_iff.mp outcome
  obtain ⟨ended, counted⟩ := Prod.mk.inj same
  obtain ⟨sent, totals⟩ := Prod.mk.inj counted
  exact ⟨final, reached, ended, sent, totals, (output_transcribed reached).1⟩

end Listening
end TraceForward
