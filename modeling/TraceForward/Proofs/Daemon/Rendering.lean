/-
What the relay loop makes of the interpreter's lines.

A line that is served is copied, or fed to the framer with its line feed put back; a
message that it completes is sent on, as long as someone takes frames.  No other event
has a say in that, and a line that is not UTF-8 ends the loop as it was before.
-/

import TraceForward.Daemon.Bridge
import TraceForward.Proofs.Framing.Messages

namespace TraceForward

/-- The messages in lines whose line feeds are put back, and the framer behind them. -/
def TextFramer.ofLines (lines : List Bytes) : List Bytes × TextFramer :=
  pushAll {} (lines.map (· ++ [lineFeed]))

def Lines.frames (lines : List Bytes) : List Frame :=
  (TextFramer.ofLines lines).1.map Frame.trace

theorem TextFramer.ofLines_concat (lines : List Bytes) (line : Bytes) :
    ofLines (lines ++ [line]) =
      ((ofLines lines).1 ++ ((ofLines lines).2.push (line ++ [lineFeed])).1.toList,
        ((ofLines lines).2.push (line ++ [lineFeed])).2) := by
  rw [ofLines, List.map_append, List.map_singleton, pushAll_concat]
  rfl

theorem Lines.frames_concat (lines : List Bytes) (line : Bytes) :
    frames (lines ++ [line]) =
      frames lines ++
        (((TextFramer.ofLines lines).2.push (line ++ [lineFeed])).1.map Frame.trace).toList := by
  rw [frames, TextFramer.ofLines_concat, List.map_append, Option.toList_map]
  rfl

namespace BridgeEvent

def line? : BridgeEvent → Option Bytes
  | .line bytes => some bytes
  | _ => none

theorem eq_line (event : BridgeEvent) {line : Bytes} (about : event.line? = some line) :
    event = .line line := by
  cases event with
  | line bytes => exact congrArg BridgeEvent.line (Option.some.inj about)
  | _ => cases about

def exit? : BridgeEvent → Option (Except Fault BridgeExit)
  | .shutdown true | .shutdownLost => some (.ok .shutdown)
  | .outputEnd => some (.ok .interpreterExited)
  | .outputFailed reason | .echoFailed reason => some (.error (.io reason))
  | _ => none

theorem exit?_ne_gone (event : BridgeEvent) : event.exit? ≠ some (.error .publisherGone) := by
  unfold exit?
  split <;> nofun

end BridgeEvent

namespace Bridge

variable {bridge next : Bridge} {lines : List Bytes} {line : Bytes} {event : BridgeEvent}

/-! ### Events -/

theorem running_of_serve? (served : bridge.serve? event = some next) : bridge.ended = none := by
  unfold serve? at served
  split at served
  next => cases served
  next running => exact Option.not_isSome_iff_eq_none.mp running

theorem serve?_line (served : bridge.serve? (.line line) = some next) :
    next = bridge.serveLine line := by
  unfold serve? at served
  split at served
  · cases served
  · split at served
    · cases served
      rfl
    · cases served

/-- Everything that lines are rendered with is left alone, and the loop ends so, or goes
on. -/
structure Silent (bridge next : Bridge) (ended : Option (Except Fault BridgeExit)) : Prop where
  outlet : next.outlet = bridge.outlet
  source : next.source = bridge.source
  sent : next.sent = bridge.sent
  echo : next.echo = bridge.echo
  frames : next.stats.frames = bridge.stats.frames
  echoed : next.stats.echoed = bridge.stats.echoed
  ended : next.ended = ended

theorem serve?_silent (served : bridge.serve? event = some next) (other : event.line? = none) :
    bridge.Silent next event.exit? := by
  have running := running_of_serve? served
  unfold serve? at served
  split at served
  · cases served
  · split at served
    · cases event with
      | line bytes => cases other
      | shutdown requested =>
          cases served
          cases requested with
          | false => exact ⟨rfl, rfl, rfl, rfl, rfl, rfl, running⟩
          | true => exact ⟨rfl, rfl, rfl, rfl, rfl, rfl, rfl⟩
      | shutdownLost =>
          cases served
          exact ⟨rfl, rfl, rfl, rfl, rfl, rfl, rfl⟩
      | outputEnd =>
          cases served
          exact ⟨rfl, rfl, rfl, rfl, rfl, rfl, rfl⟩
      | outputFailed reason =>
          cases served
          exact ⟨rfl, rfl, rfl, rfl, rfl, rfl, rfl⟩
      | echoFailed reason =>
          obtain ⟨_, served⟩ := Option.ite_none_right_eq_some.mp served
          cases served
          exact ⟨rfl, rfl, rfl, rfl, rfl, rfl, rfl⟩
      | payload bytes =>
          obtain ⟨_, served⟩ := Option.ite_none_right_eq_some.mp served
          cases served
          exact ⟨rfl, rfl, rfl, rfl, rfl, rfl, running⟩
      | inputEnd =>
          obtain ⟨_, served⟩ := Option.ite_none_right_eq_some.mp served
          cases served
          exact ⟨rfl, rfl, rfl, rfl, rfl, rfl, running⟩
      | wrote count => cases served
      | writeFailed => cases served
    · cases event with
      | wrote count =>
          obtain ⟨_, served⟩ := Option.ite_none_right_eq_some.mp served
          cases served
          exact ⟨rfl, rfl, rfl, rfl, rfl, rfl, running⟩
      | writeFailed =>
          cases served
          exact ⟨rfl, rfl, rfl, rfl, rfl, rfl, running⟩
      | _ => cases served

/-! ### Lines -/

theorem serveLine_broken {fault : Utf8.Break} (broken : Utf8.firstBreak line = some fault) :
    bridge.Silent (bridge.serveLine line) (some (.error (.io fault.message))) := by
  rw [serveLine, broken]
  exact ⟨rfl, rfl, rfl, rfl, rfl, rfl, rfl⟩

theorem serveLine_copied (copied : bridge.outlet = .echo)
    (whole : Utf8.firstBreak line = none) :
    bridge.serveLine line =
      { bridge with
        echo := bridge.echo ++ (line ++ [lineFeed])
        stats := { bridge.stats with echoed := bridge.stats.echoed + 1 } } := by
  rw [serveLine, whole]
  simp only [copied]

theorem serveLine_fed {alive : Bool} (published : bridge.outlet = .publisher alive)
    (whole : Utf8.firstBreak line = none) :
    bridge.serveLine line =
      { bridge with source := (bridge.source.feed (line ++ [lineFeed])).drain.2 }.send alive
        (bridge.source.feed (line ++ [lineFeed])).drain.1 := by
  rw [serveLine, whole]
  simp only [published]

theorem send_outlet (alive : Bool) (frames : List Frame) :
    (bridge.send alive frames).outlet = bridge.outlet := by
  unfold send
  split
  · rfl
  · split <;> rfl

theorem serve?_outlet (served : bridge.serve? event = some next) :
    next.outlet = bridge.outlet := by
  cases about : event.line? with
  | none => exact (serve?_silent served about).outlet
  | some line =>
      obtain rfl := event.eq_line about
      obtain rfl := serve?_line served
      cases broken : Utf8.firstBreak line with
      | some fault => exact (serveLine_broken broken).outlet
      | none =>
          cases known : bridge.outlet with
          | echo => rw [serveLine_copied known broken, known]
          | publisher alive => rw [serveLine_fed known broken, send_outlet, known]

theorem send_sent (alive : Bool) (frames : List Frame) :
    ∃ more, (bridge.send alive frames).sent = bridge.sent ++ more := by
  unfold send
  split
  · exact ⟨[], (List.append_nil _).symm⟩
  · split
    · exact ⟨_, rfl⟩
    · exact ⟨[], (List.append_nil _).symm⟩

/-- What an event makes the loop send comes behind what it has sent. -/
theorem serve?_sent (served : bridge.serve? event = some next) :
    ∃ more, next.sent = bridge.sent ++ more := by
  cases about : event.line? with
  | none => exact ⟨[], (serve?_silent served about).sent.trans (List.append_nil _).symm⟩
  | some line =>
      obtain rfl := event.eq_line about
      obtain rfl := serve?_line served
      cases broken : Utf8.firstBreak line with
      | some fault => exact ⟨[], (serveLine_broken broken).sent.trans (List.append_nil _).symm⟩
      | none =>
          cases known : bridge.outlet with
          | echo =>
              rw [serveLine_copied known broken]
              exact ⟨[], (List.append_nil _).symm⟩
          | publisher alive =>
              rw [serveLine_fed known broken]
              exact send_sent _ _

theorem send_counted (alive : Bool) (frames : List Frame)
    (counted : bridge.stats.frames = bridge.sent.length) :
    (bridge.send alive frames).stats.frames = (bridge.send alive frames).sent.length := by
  unfold send
  split
  · exact counted
  · split
    · rw [List.length_append, ← counted]
    · exact counted

theorem serve?_counted (served : bridge.serve? event = some next)
    (counted : bridge.stats.frames = bridge.sent.length) :
    next.stats.frames = next.sent.length := by
  cases about : event.line? with
  | none =>
      have silent := serve?_silent served about
      rw [silent.frames, silent.sent, counted]
  | some line =>
      obtain rfl := event.eq_line about
      obtain rfl := serve?_line served
      cases broken : Utf8.firstBreak line with
      | some fault =>
          have silent : bridge.Silent _ _ := serveLine_broken broken
          rw [silent.frames, silent.sent, counted]
      | none =>
          cases known : bridge.outlet with
          | echo =>
              rw [serveLine_copied known broken]
              exact counted
          | publisher alive =>
              rw [serveLine_fed known broken]
              exact send_counted _ _ counted

structure Copies (bridge : Bridge) (lines : List Bytes) : Prop where
  outlet : bridge.outlet = .echo
  source : bridge.source = {}
  sent : bridge.sent = []
  echo : bridge.echo = lines.flatMap (· ++ [lineFeed])
  frames : bridge.stats.frames = 0
  echoed : bridge.stats.echoed = lines.length

theorem Copies.serveLine (copies : bridge.Copies lines) (whole : Utf8.firstBreak line = none) :
    (bridge.serveLine line).Copies (lines ++ [line]) ∧
      (bridge.serveLine line).ended = bridge.ended := by
  obtain ⟨outlet, source, sent, echo, frames, echoed⟩ := copies
  rw [serveLine_copied outlet whole]
  refine ⟨⟨outlet, source, sent, ?_, frames, ?_⟩, rfl⟩
  · simp only [echo, List.flatMap_append, List.flatMap_singleton]
  · simp only [echoed, List.length_append, List.length_singleton]

/-- Lines were framed, and the frames sent on.  The loop ends at the first that nobody
takes. -/
structure Renders (bridge : Bridge) (lines : List Bytes) : Prop where
  outlet : bridge.outlet ≠ .echo
  source : bridge.source =
    { framer := (TextFramer.ofLines lines).2, fragments := lines.length }
  sent : bridge.ended ≠ some (.error .publisherGone) → bridge.sent = Lines.frames lines
  cutOff : bridge.ended = some (.error .publisherGone) →
    ∃ frame, Lines.frames lines = bridge.sent ++ [frame]
  echo : bridge.echo = []
  frames : bridge.stats.frames = bridge.sent.length
  echoed : bridge.stats.echoed = 0

theorem Renders.drain_feed (renders : bridge.Renders lines) (line : Bytes) :
    (bridge.source.feed (line ++ [lineFeed])).drain =
      ((((TextFramer.ofLines lines).2.push (line ++ [lineFeed])).1.map Frame.trace).toList,
        { framer := (TextFramer.ofLines (lines ++ [line])).2
          fragments := (lines ++ [line]).length }) := by
  rw [renders.source, FragmentSource.drain_feed rfl, TextFramer.ofLines_concat,
    List.length_append]
  rfl

theorem Renders.serveLine (renders : bridge.Renders lines) (running : bridge.ended = none)
    (whole : Utf8.firstBreak line = none) :
    (bridge.serveLine line).Renders (lines ++ [line]) ∧
      ((bridge.serveLine line).ended = none ∨
        (bridge.serveLine line).ended = some (.error .publisherGone)) := by
  have fed := renders.drain_feed line
  have more := Lines.frames_concat lines line
  obtain ⟨outlet, _, sent, _, echo, frames, echoed⟩ := renders
  have goesOn : bridge.ended ≠ some (.error .publisherGone) := by
    rw [running]
    exact nofun
  have sent := sent goesOn
  cases known : bridge.outlet with
  | echo => exact absurd known outlet
  | publisher alive =>
      rw [serveLine_fed known whole, fed]
      cases completed : ((TextFramer.ofLines lines).2.push (line ++ [lineFeed])).1 with
      | none =>
          rw [completed, Option.map_none, Option.toList_none, List.append_nil] at more
          refine ⟨⟨outlet, rfl, fun _ => sent.trans more.symm, ?_, echo, frames, echoed⟩,
            .inl running⟩
          exact fun gone => absurd gone goesOn
      | some message =>
          rw [completed, Option.map_some, Option.toList_some, ← sent] at more
          cases alive with
          | false =>
              refine ⟨⟨outlet, rfl, ?_, fun _ => ⟨_, more⟩, echo, frames, echoed⟩, .inr rfl⟩
              exact fun otherwise => absurd rfl otherwise
          | true =>
              refine ⟨⟨outlet, rfl, fun _ => more.symm, ?_, echo, ?_, echoed⟩, .inl running⟩
              · exact fun gone => absurd gone goesOn
              · change bridge.stats.frames + 1 = (bridge.sent ++ [_]).length
                rw [frames, List.length_append]
                rfl

/-! ### Silence -/

variable {ended : Option (Except Fault BridgeExit)}

theorem Copies.silent (copies : bridge.Copies lines) (silent : bridge.Silent next ended) :
    next.Copies lines := by
  obtain ⟨outlet, source, sent, echo, frames, echoed⟩ := copies
  constructor
  · exact silent.outlet.trans outlet
  · exact silent.source.trans source
  · exact silent.sent.trans sent
  · exact silent.echo.trans echo
  · exact silent.frames.trans frames
  · exact silent.echoed.trans echoed

theorem Renders.silent (renders : bridge.Renders lines) (running : bridge.ended = none)
    (silent : bridge.Silent next ended) (other : ended ≠ some (.error .publisherGone)) :
    next.Renders lines := by
  obtain ⟨outlet, source, sent, _, echo, frames, echoed⟩ := renders
  have goesOn : bridge.ended ≠ some (.error .publisherGone) := by
    rw [running]
    exact nofun
  constructor
  · exact silent.outlet ▸ outlet
  · exact silent.source.trans source
  · exact fun _ => silent.sent.trans (sent goesOn)
  · exact fun gone => absurd (silent.ended.symm.trans gone) other
  · exact silent.echo.trans echo
  · rw [silent.frames, frames, silent.sent]
  · exact silent.echoed.trans echoed

end Bridge
end TraceForward
