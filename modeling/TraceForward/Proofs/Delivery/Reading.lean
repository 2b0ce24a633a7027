/-
Messages as a reader of their topic takes them.

The broker keeps the key and the payload of a message that it has accepted.  By
the key a reader tells trace data from everything else, and it hands on payloads
that are not empty.
-/

import TraceForward.Proofs.Daemon.Inflow
import TraceForward.Proofs.Delivery.Tries

namespace TraceForward

def Message.read (message : Message) : Inbound :=
  .ofMessage message.key (some message.payload)

/-- A reader takes trace data for trace data, byte by byte, and nothing else. -/
def Message.Understood (message : Message) : Prop :=
  message.read = if message.isTrace then .trace message.payload else .ignored .foreignKey

namespace Frame

/-- A reader hands on the payload of the frame as it is. -/
def Readable (frame : Frame) : Prop :=
  frame.message.read = .trace frame.payload

theorem read_message_of_trace {frame : Frame} (trace : frame.kind = .trace)
    (filled : frame.payload ≠ []) : frame.message.read = .trace frame.payload := by
  obtain ⟨kind, payload⟩ := frame
  cases trace
  cases payload with
  | nil => exact (filled rfl).elim
  | cons byte rest => simp [Message.read, message, Inbound.ofMessage]

theorem read_message_of_other {frame : Frame} (other : frame.kind ≠ .trace) :
    frame.message.read = .ignored .foreignKey := by
  have keys : frame.kind.keyBytes ≠ Kind.trace.keyBytes := by
    intro same
    exact other (Kind.keyBytes_injective same)
  simp [Message.read, message, Inbound.ofMessage, keys]

theorem readable_iff {frame : Frame} :
    frame.Readable ↔ frame.kind = .trace ∧ frame.payload ≠ [] := by
  constructor
  · intro readable
    have trace : frame.kind = .trace := by
      by_contra other
      rw [Readable, read_message_of_other other] at readable
      cases readable
    refine ⟨trace, ?_⟩
    intro empty
    obtain ⟨kind, payload⟩ := frame
    cases trace
    cases empty
    simp [Readable, Message.read, message, Inbound.ofMessage] at readable
  · rintro ⟨trace, filled⟩
    exact read_message_of_trace trace filled

theorem understood_message {frame : Frame}
    (filled : frame.kind = .trace → frame.payload ≠ []) : frame.message.Understood := by
  by_cases trace : frame.kind = .trace
  · rw [Message.Understood, if_pos (frame.isTrace_message.mpr trace)]
    exact read_message_of_trace trace (filled trace)
  · have other : ¬ frame.message.isTrace = true := fun known =>
      trace (frame.isTrace_message.mp known)
    rw [Message.Understood, if_neg other]
    exact read_message_of_other trace

theorem readable_trace {payload : Bytes} (filled : payload ≠ []) :
    (Frame.trace payload).Readable :=
  readable_iff.mpr ⟨rfl, filled⟩

end Frame

/-! ### What was taken -/

namespace Recorded

variable {Client : Type} {recorded : Recorded Client}

theorem mem_taken_iff {message : Message} :
    message ∈ recorded.taken ↔ .publish message .accepted ∈ recorded.calls := by
  unfold taken
  rw [List.mem_filterMap]
  constructor
  · rintro ⟨call, member, same⟩
    rcases call with ⟨given, _ | _ | reason⟩ | ⟨milliseconds, served⟩ | milliseconds
    all_goals
      cases same
    exact member
  · intro member
    exact ⟨_, member, rfl⟩

theorem taken_eq_settled (recorded : Recorded Client) :
    recorded.taken =
      (recorded.settled.filter fun entry => entry.2 == .accepted).map Prod.fst := by
  obtain ⟨client, calls⟩ := recorded
  simp only [taken, settled]
  induction calls with
  | nil => rfl
  | cons call rest ih =>
      rcases call with ⟨message, _ | _ | reason⟩ | ⟨milliseconds, served⟩ | milliseconds
      all_goals
        simp only [List.filterMap_cons, BrokerCall.settled?, BrokerCall.taken?, ih]
        try rfl

theorem acceptedTraces_eq (recorded : Recorded Client) :
    recorded.acceptedTraces = (recorded.taken.filter Message.isTrace).map Message.payload := by
  rw [taken_eq_settled]
  unfold acceptedTraces settledTraces
  rw [List.filter_map, List.filter_filter, List.filter_filter, List.map_map]
  congr 1
  apply List.filter_congr
  intro entry _
  exact Bool.and_comm _ _

end Recorded

/-! ### The consumer -/

namespace Intake

/-- A consumer that nobody stops hands on the trace payloads of what it polls. -/
theorem run_forwarded (answers : List (Except Fault Inbound)) {intake : Intake}
    (alive : intake.receiverAlive = true)
    (working : intake.ended = false ∧ intake.shutdown = false) :
    (intake.run answers).forwarded = intake.forwarded ++ answers.filterMap Inbound.trace? := by
  induction answers generalizing intake with
  | nil =>
      simp only [run, working.1, working.2, Bool.or_self, Bool.false_eq_true, if_false]
      have idle : Inbound.trace? (.ok .idle) = none := rfl
      rw [serve_pass intake idle, List.filterMap_nil, List.append_nil]
  | cons answer rest ih =>
      simp only [run, working.1, working.2, Bool.or_self, Bool.false_eq_true, if_false]
      cases known : Inbound.trace? answer with
      | none =>
          rw [serve_pass intake known, List.filterMap_cons_none known]
          exact ih alive working
      | some payload =>
          have taken : answer = .ok (.trace payload) := by
            unfold Inbound.trace? at known
            split at known
            · cases known
              rfl
            · cases known
          rw [List.filterMap_cons_some known, taken, serve_taken intake alive]
          let next : Intake :=
            { intake with polls := intake.polls + 1, forwarded := intake.forwarded ++ [payload] }
          have later : (next.run rest).forwarded =
              next.forwarded ++ rest.filterMap Inbound.trace? := ih alive working
          rw [later, List.append_assoc, List.singleton_append]

/-- A consumer of messages that are understood hands on the trace data among
them, whole and in order. -/
theorem run_read {messages : List Message} (understood : ∀ message ∈ messages, message.Understood) :
    (run {} (messages.map fun message => .ok message.read)).forwarded =
      (messages.filter Message.isTrace).map Message.payload := by
  rw [run_forwarded _ rfl ⟨rfl, rfl⟩, List.nil_append]
  induction messages with
  | nil => rfl
  | cons message rest ih =>
      have first := understood message List.mem_cons_self
      have later := ih fun other member => understood other (List.mem_cons_of_mem _ member)
      by_cases trace : message.isTrace = true
      · rw [Message.Understood, if_pos trace] at first
        have given : Inbound.trace? (.ok message.read) = some message.payload := by rw [first]; rfl
        rw [List.map_cons, List.filterMap_cons_some given, List.filter_cons_of_pos trace,
          List.map_cons, later]
      · rw [Message.Understood, if_neg trace] at first
        have passed : Inbound.trace? (.ok message.read) = none := by rw [first]; rfl
        rw [List.map_cons, List.filterMap_cons_none passed, List.filter_cons_of_neg trace, later]

end Intake
end TraceForward
