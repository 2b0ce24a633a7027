/-
What the daemon passes on of the interpreter's text.

Lines are taken off the output without their ends, and a line feed is put back behind
each.  So the text is passed on with the carriage returns in front of its line feeds
removed, and with a line feed behind a last line that has none.  It is passed on as it is
exactly if it has no line of either kind, and a message is exactly if none of its lines is.
-/

import TraceForward.Proofs.Daemon.Listening
import TraceForward.Proofs.Framing.Grammar
import TraceForward.Proofs.Text.Utf8

namespace TraceForward
namespace Lines

variable {bytes line remainder : Bytes} {lines : List Bytes}

theorem Cut.isValid (cut : Cut bytes lines remainder) (valid : Utf8.isValid bytes = true) :
    (∀ line ∈ lines, Utf8.isValid line = true) ∧ Utf8.isValid remainder = true := by
  induction lines generalizing bytes with
  | nil =>
      obtain ⟨rfl, _⟩ := cut
      exact ⟨nofun, valid⟩
  | cons line lines ih =>
      obtain ⟨rest, rfl, _, later⟩ := cut.exists_cons
      obtain ⟨first, valid⟩ := Utf8.isValid_cut (by decide) valid
      obtain ⟨others, last⟩ := ih later valid
      exact ⟨List.forall_mem_cons.mpr ⟨first, others⟩, last⟩

theorem isValid_chomp (valid : Utf8.isValid line = true) : Utf8.isValid (chomp line) = true := by
  unfold chomp
  split
  next ends =>
    have whole : line.dropLast ++ [carriageReturn] = line := by
      apply List.dropLast_append_getLast?
      exact ends
    rw [← whole] at valid
    exact (Utf8.isValid_cut (by decide) valid).1
  next => exact valid

theorem isValid_all (valid : Utf8.isValid bytes = true) :
    ∀ line ∈ all bytes, Utf8.isValid line = true := by
  obtain ⟨finished, last⟩ := (split_cut bytes).isValid valid
  intro line member
  rcases List.mem_append.mp member with earlier | behind
  · obtain ⟨whole, present, rfl⟩ := List.mem_map.mp earlier
    exact isValid_chomp (finished whole present)
  · unfold LineReader.finish at behind
    split at behind
    · cases behind
    · obtain rfl := List.mem_singleton.mp behind
      exact last

/-! ### Lines with their ends -/

def raw (bytes : Bytes) : List Bytes :=
  (split bytes).1.map (· ++ [lineFeed]) ++ LineReader.finish { remainder := (split bytes).2 }

/-- A line with a line feed in place of its own end. -/
def settled (line : Bytes) : Bytes :=
  (if line.getLast? = some lineFeed then chomp line.dropLast else line) ++ [lineFeed]

/-- A line whose end is a line feed alone. -/
def Plain (line : Bytes) : Prop :=
  ∃ text, line = text ++ [lineFeed] ∧ text.getLast? ≠ some carriageReturn

def passed (bytes : Bytes) : Bytes :=
  (raw bytes).flatMap settled

theorem flatten_finish (reader : LineReader) : reader.finish.flatten = reader.remainder := by
  unfold LineReader.finish
  split
  next nothing => rw [List.isEmpty_iff.mp nothing, List.flatten_nil]
  next => exact List.flatten_singleton

theorem flatten_raw (bytes : Bytes) : (raw bytes).flatten = bytes := by
  rw [raw, List.flatten_append, flatten_finish, ← List.flatMap_def]
  exact (split_cut bytes).joined

theorem settled_ended (text : Bytes) : settled (text ++ [lineFeed]) = chomp text ++ [lineFeed] := by
  rw [settled, if_pos List.getLast?_concat, List.dropLast_concat]

theorem settled_unfinished (unfinished : lineFeed ∉ line) : settled line = line ++ [lineFeed] := by
  rw [settled, if_neg]
  exact fun ends => unfinished (List.mem_of_getLast? ends)

theorem settled_raw (bytes : Bytes) :
    (raw bytes).map settled = (all bytes).map (· ++ [lineFeed]) := by
  have unfinished := (split_cut bytes).unfinished
  rw [raw, all, List.map_append, List.map_append, List.map_map, List.map_map]
  congr 1
  · exact List.map_congr_left fun text _ => settled_ended text
  · unfold LineReader.finish
    split
    · rfl
    · exact congrArg (fun line => [line]) (settled_unfinished unfinished)

theorem chomp_eq_iff : chomp line = line ↔ line.getLast? ≠ some carriageReturn := by
  unfold chomp
  split
  next ends =>
    refine iff_of_false ?_ fun other => other ends
    intro same
    have shorter := congrArg List.length same
    rw [List.length_dropLast] at shorter
    have some' := List.length_pos_of_mem (List.mem_of_getLast? ends)
    omega
  next other => exact iff_of_true rfl other

theorem settled_eq_iff : settled line = line ↔ Plain line := by
  by_cases ends : line.getLast? = some lineFeed
  · obtain ⟨text, rfl⟩ : ∃ text, line = text ++ [lineFeed] :=
      ⟨line.dropLast, (List.dropLast_append_getLast? _ ends).symm⟩
    rw [settled_ended, List.append_left_inj, chomp_eq_iff]
    constructor
    · exact fun other => ⟨text, rfl, other⟩
    · rintro ⟨text', same, other⟩
      rwa [List.append_cancel_right same]
  · refine iff_of_false ?_ ?_
    · intro same
      rw [settled, if_neg ends] at same
      exact absurd (congrArg List.length same) (by simp)
    · rintro ⟨text, rfl, _⟩
      exact ends List.getLast?_concat

/-! ### Rows of lines -/

inductive Row : List Bytes → Prop where
  | nil : Row []
  | unfinished {line : Bytes} (some' : line ≠ []) (whole : lineFeed ∉ line) : Row [line]
  | cons {text : Bytes} {rest : List Bytes} (whole : lineFeed ∉ text) (row : Row rest) :
      Row ((text ++ [lineFeed]) :: rest)

theorem row_finish {remainder : Bytes} (unfinished : lineFeed ∉ remainder) :
    Row (LineReader.finish { remainder }) := by
  unfold LineReader.finish
  split
  · exact .nil
  next some' => exact .unfinished (fun none' => some' (List.isEmpty_iff.mpr none')) unfinished

theorem row_raw (bytes : Bytes) : Row (raw bytes) := by
  obtain ⟨_, unbroken, unfinished⟩ := split_cut bytes
  rw [raw]
  generalize (split bytes).1 = texts at unbroken
  induction texts with
  | nil => exact row_finish unfinished
  | cons text texts ih =>
      obtain ⟨whole, unbroken⟩ := List.forall_mem_cons.mp unbroken
      exact .cons whole (ih unbroken)

theorem Row.drop {rows : List Bytes} (row : Row rows) (count : Nat) : Row (rows.drop count) := by
  induction row generalizing count with
  | nil =>
      rw [List.drop_nil]
      exact .nil
  | unfinished some' whole =>
      cases count with
      | zero => exact .unfinished some' whole
      | succ count =>
          rw [List.drop_succ_cons, List.drop_nil]
          exact .nil
  | cons whole row ih =>
      cases count with
      | zero => exact .cons whole row
      | succ count => exact ih count

theorem Row.take {rows : List Bytes} (row : Row rows) (count : Nat) : Row (rows.take count) := by
  induction row generalizing count with
  | nil =>
      rw [List.take_nil]
      exact .nil
  | unfinished some' whole =>
      cases count with
      | zero => exact .nil
      | succ count =>
          rw [List.take_succ_cons, List.take_nil]
          exact .unfinished some' whole
  | cons whole row ih =>
      cases count with
      | zero => exact .nil
      | succ count => exact .cons whole (ih count)

/-- Lines that are passed on as they are, taken together, are so one by one. -/
theorem Row.settled_iff {rows : List Bytes} (row : Row rows) :
    rows.flatMap settled = rows.flatten ↔ ∀ line ∈ rows, Plain line := by
  constructor
  · intro same
    induction row with
    | nil => exact nofun
    | @unfinished line some' whole =>
        rw [List.flatMap_singleton, List.flatten_singleton, settled_unfinished whole] at same
        exact absurd (congrArg List.length same) (by simp)
    | @cons text rest whole row ih =>
        rw [List.flatMap_cons, List.flatten_cons, settled_ended, List.append_assoc,
          List.append_assoc] at same
        have chomped : lineFeed ∉ chomp text := by
          unfold chomp
          split
          · exact fun member => whole (List.dropLast_subset text member)
          · exact whole
        obtain ⟨first, others⟩ := eq_of_append_lineFeed chomped whole same
        exact List.forall_mem_cons.mpr ⟨⟨text, rfl, chomp_eq_iff.mp first⟩, ih others⟩
  · intro plain
    rw [List.flatMap_def]
    congr 1
    exact (List.map_congr_left fun line member => settled_eq_iff.mpr (plain line member)).trans
      (List.map_id rows)

theorem passed_eq_iff (bytes : Bytes) : passed bytes = bytes ↔ ∀ line ∈ raw bytes, Plain line := by
  have same := (row_raw bytes).settled_iff
  rwa [flatten_raw] at same

/-! ### Markers -/

theorem beginsWith_settled {marker : UInt8} (other : marker ≠ lineFeed)
    (other' : marker ≠ carriageReturn) (line : Bytes) :
    beginsWith marker (settled line) = beginsWith marker line := by
  have notFeed : (some lineFeed == some marker) = false := by simp [other.symm]
  have notReturn : (some carriageReturn == some marker) = false := by simp [other'.symm]
  by_cases ends : line.getLast? = some lineFeed
  · obtain ⟨text, rfl⟩ : ∃ text, line = text ++ [lineFeed] :=
      ⟨line.dropLast, (List.dropLast_append_getLast? _ ends).symm⟩
    rw [settled_ended, chomp]
    split
    next returns =>
      obtain ⟨front, rfl⟩ : ∃ front, text = front ++ [carriageReturn] :=
        ⟨text.dropLast, (List.dropLast_append_getLast? _ returns).symm⟩
      rw [List.dropLast_concat]
      cases front with
      | nil => exact notFeed.trans notReturn.symm
      | cons first front => rfl
    next => rfl
  · rw [settled, if_neg ends]
    cases line with
    | nil => exact notFeed
    | cons first line => rfl

theorem marks_settled (marker : UInt8) (other : marker ≠ lineFeed)
    (other' : marker ≠ carriageReturn) (rows : List Bytes) (k : Nat) :
    Fragments.marks (rows.map settled) marker k = Fragments.marks rows marker k := by
  rw [Fragments.marks, List.getElem?_map, Option.any_map, Fragments.marks]
  congr 1
  exact funext fun line => beginsWith_settled other other' line

theorem message_settled (rows : List Bytes) (i j : Nat) :
    Fragments.Message (rows.map settled) i j ↔ Fragments.Message rows i j := by
  have opens := marks_settled openMarker (by decide) (by decide) rows
  have closes := marks_settled closeMarker (by decide) (by decide) rows
  simp only [Fragments.Message, Fragments.Open, Fragments.Unmarked, opens, closes]

end Lines

/-! ### Pieces of a text -/

inductive Pieces : List Bytes → Bytes → Prop where
  | rest (rest : Bytes) : Pieces [] rest
  | next (gap : Bytes) {piece : Bytes} {pieces : List Bytes} {rest : Bytes}
      (behind : Pieces pieces rest) : Pieces (piece :: pieces) (gap ++ (piece ++ rest))

theorem Pieces.of_concat {pieces : List Bytes} {last text : Bytes}
    (all : Pieces (pieces ++ [last]) text) : Pieces pieces text := by
  induction pieces generalizing text with
  | nil => exact .rest text
  | cons piece pieces ih =>
      cases all with
      | next gap behind => exact .next gap (ih behind)

namespace Fragments

theorem slice_append_drop {rows : List Bytes} {i j : Nat} (ordered : i ≤ j) :
    slice rows i j ++ rows.drop (j + 1) = rows.drop i := by
  have behind : (rows.drop i).drop (j + 1 - i) = rows.drop (j + 1) := by
    rw [List.drop_drop, Nat.add_sub_cancel' (Nat.le_succ_of_le ordered)]
  rw [slice, List.drop_take, ← behind, List.take_append_drop]

theorem pieces_of_apart (rows : List Bytes) {spans : List (Nat × Nat)}
    (apart : spans.Pairwise fun first second => first.2 < second.1)
    (forward : ∀ span ∈ spans, span.1 ≤ span.2) :
    Pieces (spans.map (payload rows)) rows.flatten := by
  have onward (start : Nat) (behind : ∀ span ∈ spans, start ≤ span.1) :
      Pieces (spans.map (payload rows)) (rows.drop start).flatten := by
    induction spans generalizing start with
    | nil => exact .rest _
    | cons span spans ih =>
        obtain ⟨first, apart⟩ := List.pairwise_cons.mp apart
        obtain ⟨ordered, forward⟩ := List.forall_mem_cons.mp forward
        have reached := behind span List.mem_cons_self
        have later := ih apart forward (span.2 + 1) fun other member => first other member
        have gap : (rows.drop start).take (span.1 - start) ++ rows.drop span.1 =
            rows.drop start := by
          have same : (rows.drop start).drop (span.1 - start) = rows.drop span.1 := by
            rw [List.drop_drop, Nat.add_sub_cancel' reached]
          rw [← same, List.take_append_drop]
        rw [← gap, ← slice_append_drop ordered, List.flatten_append, List.flatten_append]
        exact .next _ later
  exact onward 0 fun _ _ => Nat.zero_le _

theorem Spans.pieces {rows : List Bytes} {spans : List (Nat × Nat)} (known : Spans rows spans) :
    Pieces (spans.map (payload rows)) rows.flatten := by
  refine pieces_of_apart rows known.apart ?_
  rintro ⟨i, j⟩ member
  exact Nat.le_of_lt ((known.complete i j).mp member).1.1

end Fragments

/-! ### The loop -/

namespace Listening

def Exhausted (listening : Listening) : Prop :=
  listening.unread = [] ∧ listening.reader.remainder = [] ∧ listening.lines = []

/-- Lines `span.1` to `span.2` of the output, as they are. -/
def verbatim (output : Bytes) (span : Nat × Nat) : Bytes :=
  Fragments.payload (Lines.raw output) span

/-- Lines `span.1` to `span.2` of the output, as they are passed on. -/
def rendition (output : Bytes) (span : Nat × Nat) : Bytes :=
  (Fragments.slice (Lines.raw output) span.1 span.2).flatMap Lines.settled

/-- What the loop has made of a text that it has read to its end. -/
structure PassesOn (output : Bytes) (listening : Listening) : Prop where
  legible : ∀ line ∈ Lines.all output, Utf8.isValid line = true
  copied : listening.bridge.outlet = .echo → listening.bridge.echo = Lines.passed output
  pieces : Pieces (listening.bridge.sent.map Frame.payload) (Lines.passed output)
  unaltered : Lines.passed output = output ↔ ∀ line ∈ Lines.raw output, Lines.Plain line
  messages : listening.bridge.outlet ≠ .echo →
    listening.bridge.ended ≠ some (.error .publisherGone) →
      ∃ spans,
        Fragments.Spans (Lines.raw output) spans ∧
          listening.bridge.sent = spans.map (fun span => Frame.trace (rendition output span)) ∧
          Pieces (spans.map (verbatim output)) output ∧
          ∀ span ∈ spans, rendition output span = verbatim output span ↔
            ∀ line ∈ Fragments.slice (Lines.raw output) span.1 span.2, Lines.Plain line

variable {output : Bytes} {listening : Listening}

theorem Faithful.served_all (faithful : listening.Faithful output)
    (exhausted : listening.Exhausted) : listening.served = Lines.all output := by
  obtain ⟨unread, remainder, lines⟩ := exhausted
  have stream := faithful.stream
  rw [unread, remainder, lines] at stream
  exact (List.append_nil _).symm.trans stream.symm

theorem rendition_eq_payload (output : Bytes) (span : Nat × Nat) :
    rendition output span = Fragments.payload ((Lines.raw output).map Lines.settled) span := by
  rw [rendition, Fragments.payload, Fragments.slice, Fragments.slice, ← List.map_take,
    ← List.map_drop, List.flatMap_def]

/-- The frames in the lines of a text are the messages of its lines. -/
theorem frames_all (output : Bytes) :
    ∃ spans,
      Fragments.Spans (Lines.raw output) spans ∧
        Lines.frames (Lines.all output) =
          spans.map fun span => Frame.trace (rendition output span) := by
  obtain ⟨spans, scanned⟩ :=
    Fragments.scanned_pushAll ((Lines.all output).map (· ++ [lineFeed]))
  have payloads := scanned.payloads
  have known := scanned.known
  rw [← Lines.settled_raw] at known
  refine ⟨spans, ⟨known.apart, ?_⟩, ?_⟩
  · intro i j
    exact (known.complete i j).trans (Lines.message_settled _ i j)
  · rw [Lines.frames, TextFramer.ofLines, payloads, List.map_map, ← Lines.settled_raw]
    exact List.map_congr_left fun span _ =>
      congrArg Frame.trace (rendition_eq_payload output span).symm

theorem pieces_frames (output : Bytes) :
    Pieces ((Lines.frames (Lines.all output)).map Frame.payload) (Lines.passed output) := by
  obtain ⟨spans, known, frames⟩ := frames_all output
  have settled : Fragments.Spans ((Lines.raw output).map Lines.settled) spans :=
    ⟨known.apart, fun i j => (known.complete i j).trans (Lines.message_settled _ i j).symm⟩
  have pieces := settled.pieces
  rw [← List.flatMap_def] at pieces
  rw [frames, List.map_map]
  have same : spans.map (Frame.payload ∘ fun span => Frame.trace (rendition output span)) =
      spans.map (Fragments.payload ((Lines.raw output).map Lines.settled)) :=
    List.map_congr_left fun span _ => rendition_eq_payload output span
  rw [same]
  exact pieces

/-- The interpreter's text is passed on line by line, each with a line feed for its end. -/
theorem text_passed_on {outlet : Outlet} {moves : List Move} {final : Listening}
    (valid : Utf8.isValid output = true)
    (reached : runMoves? after? (start outlet output) moves = some final)
    (exhausted : final.Exhausted) : final.PassesOn output := by
  have faithful := Faithful.run reached
  have served := faithful.served_all exhausted
  refine ⟨Lines.isValid_all valid, ?_, ?_, Lines.passed_eq_iff output, ?_⟩
  · intro echoing
    rw [(faithful.copied echoing).echo, served, Lines.passed, List.flatMap_def,
      ← Lines.settled_raw, ← List.flatMap_def]
  · by_cases echoing : final.bridge.outlet = .echo
    · rw [(faithful.copied echoing).sent]
      exact .rest _
    · have pieces := pieces_frames output
      have renders := faithful.published echoing
      by_cases gone : final.bridge.ended = some (.error .publisherGone)
      · obtain ⟨frame, cut⟩ := renders.cutOff gone
        rw [← served, cut, List.map_append] at pieces
        exact pieces.of_concat
      · rw [renders.sent gone, served]
        exact pieces
  · intro framed goesOn
    obtain ⟨spans, known, frames⟩ := frames_all output
    refine ⟨spans, known, ?_, ?_, ?_⟩
    · rw [(faithful.published framed).sent goesOn, served, frames]
    · have pieces := known.pieces
      rwa [Lines.flatten_raw] at pieces
    · intro span _
      exact (((Lines.row_raw output).take _).drop _).settled_iff

/-- A message with one line of either kind, and a last line without an end. -/
theorem text_passed_on_sample :
    let output : Bytes := [0x7B, 0x0D, 0x0A, 0x61, 0x0A, 0x7D, 0x0A, 0x78]
    let moves : List Move :=
      [.read 5, .serve (.payload [1]), .serve (.wrote 1), .serve (.line [0x7B]), .read 3,
        .serve (.line [0x61]), .serve (.line [0x7D]), .finish, .serve (.line [0x78])]
    ∃ final,
      Utf8.isValid output = true ∧
        runMoves? after? (start (.publisher true) output) moves = some final ∧
        final.Exhausted ∧
        final.bridge.sent = [Frame.trace [0x7B, 0x0A, 0x61, 0x0A, 0x7D, 0x0A]] ∧
        final.PassesOn output := by
  intro output moves
  have valid : Utf8.isValid output = true := by decide
  have outcome :
      (runMoves? after? (start (.publisher true) output) moves).map
          (fun final =>
            (final.unread, final.reader.remainder, final.lines, final.bridge.sent)) =
        some ([], [], [], [Frame.trace [0x7B, 0x0A, 0x61, 0x0A, 0x7D, 0x0A]]) :=
    rfl
  obtain ⟨final, reached, same⟩ := Option.map_eq_some_iff.mp outcome
  obtain ⟨unread, same⟩ := Prod.mk.inj same
  obtain ⟨remainder, same⟩ := Prod.mk.inj same
  obtain ⟨lines, sent⟩ := Prod.mk.inj same
  have exhausted : final.Exhausted := ⟨unread, remainder, lines⟩
  exact ⟨final, valid, reached, exhausted, sent, text_passed_on valid reached exhausted⟩

/-- A carriage return in front of a line feed is lost from a message, which is then no
slice of the text, and a last line that has no end is copied with one. -/
theorem text_not_verbatim :
    (let output : Bytes := [0x7B, 0x0D, 0x0A, 0x7D, 0x0D, 0x0A]
      let moves : List Move :=
        [.read 6, .serve (.line [0x7B]), .serve (.line [0x7D]), .serve .outputEnd]
      ∃ final,
        Utf8.isValid output = true ∧
          runMoves? after? (start (.publisher true) output) moves = some final ∧
          final.bridge.ended = some (.ok .interpreterExited) ∧
          ∃ frame ∈ final.bridge.sent, ¬ frame.payload <:+: output) ∧
      (let output : Bytes := [0x78]
        let moves : List Move :=
          [.read 1, .finish, .serve (.line [0x78]), .serve .outputEnd]
        ∃ final,
          Utf8.isValid output = true ∧
            runMoves? after? (start .echo output) moves = some final ∧
            final.bridge.ended = some (.ok .interpreterExited) ∧
            final.bridge.echo ≠ output) := by
  constructor
  · intro output moves
    have outcome :
        (runMoves? after? (start (.publisher true) output) moves).map
            (fun final => (final.bridge.ended, final.bridge.sent)) =
          some
            (some (.ok .interpreterExited), [Frame.trace [0x7B, 0x0A, 0x7D, 0x0A]]) :=
      rfl
    obtain ⟨final, reached, same⟩ := Option.map_eq_some_iff.mp outcome
    obtain ⟨ended, sent⟩ := Prod.mk.inj same
    refine ⟨final, by decide, reached, ended, Frame.trace [0x7B, 0x0A, 0x7D, 0x0A], ?_, by decide⟩
    rw [sent]
    exact List.mem_singleton_self _
  · intro output moves
    have outcome :
        (runMoves? after? (start .echo output) moves).map
            (fun final => (final.bridge.ended, final.bridge.echo)) =
          some (some (.ok .interpreterExited), [0x78, 0x0A]) :=
      rfl
    obtain ⟨final, reached, same⟩ := Option.map_eq_some_iff.mp outcome
    obtain ⟨ended, echo⟩ := Prod.mk.inj same
    refine ⟨final, by decide, reached, ended, ?_⟩
    rw [echo]
    decide

end Listening
end TraceForward
