/-
What a worker hands to the broker.

A client may keep a log of its calls.  A step of the worker adds at most one
message to it: the next descriptor of an export, or the next frame of a batch,
and the frames come from the units of the session.
-/

import TraceForward.Proofs.Session.Flow

namespace TraceForward

/-- Every call of a client comes to stand at the end of its log. -/
structure BrokerClient.LoggedBy {Client : Type} [BrokerClient Client]
    (log : Client → List BrokerCall) : Prop where
  publish : ∀ client topic message,
    log (BrokerClient.publish client topic message).2 =
      log client ++ [.publish message (BrokerClient.publish client topic message).1]
  pump : ∀ client milliseconds,
    log (BrokerClient.pump client milliseconds).2 =
      log client ++ [.pump milliseconds (BrokerClient.pump client milliseconds).1]
  flush : ∀ client milliseconds,
    log (BrokerClient.flush client milliseconds).2 = log client ++ [.flush milliseconds]

theorem Recorded.loggedBy_calls {Client : Type} [BrokerClient Client] :
    BrokerClient.LoggedBy (Recorded.calls : Recorded Client → List BrokerCall) :=
  ⟨fun _ _ _ => rfl, fun _ _ => rfl, fun _ _ => rfl⟩

theorem ScriptedBroker.loggedBy_calls : BrokerClient.LoggedBy ScriptedBroker.calls := by
  constructor
  · intro broker topic message
    simp only [BrokerClient.publish, ScriptedBroker.publish]
    cases broker.nextAnswer <;> rfl
  · intro broker milliseconds
    rfl
  · intro broker milliseconds
    simp only [BrokerClient.flush, ScriptedBroker.flush]
    split <;> rfl

def Phase.isExport : Phase → Bool
  | .starting | .exporting .. | .exportBlocked .. => true
  | _ => false

section Offers

variable {Client : Type} [BrokerClient Client] {log : Client → List BrokerCall}

namespace Publisher

variable {publisher changed : Publisher Client} {message : Message} {answer : Answer}

theorem offer_logged (logged : BrokerClient.LoggedBy log)
    (offered : publisher.offer message = (answer, changed)) :
    ∃ added, log changed.broker = log publisher.broker ++ added ∧
      ∀ other given, .publish other given ∈ added → other = message := by
  have first := logged.publish publisher.broker publisher.topic message
  unfold offer at offered
  generalize BrokerClient.publish publisher.broker publisher.topic message = reply
    at offered first
  obtain ⟨given, client⟩ := reply
  cases given with
  | accepted =>
      obtain ⟨rfl, rfl⟩ := Prod.mk.inj offered
      refine ⟨_, first, ?_⟩
      intro other given member
      cases List.mem_singleton.mp member
      rfl
  | fatal reason =>
      obtain ⟨rfl, rfl⟩ := Prod.mk.inj offered
      refine ⟨_, first, ?_⟩
      intro other given member
      cases List.mem_singleton.mp member
      rfl
  | queueFull =>
      obtain ⟨rfl, rfl⟩ := Prod.mk.inj offered
      have second := logged.pump client publisher.pumpMs
      rw [first, List.append_assoc] at second
      refine ⟨_, second, ?_⟩
      intro other given member
      rcases List.mem_append.mp member with here | pumped
      · cases List.mem_singleton.mp here
        rfl
      · cases List.mem_singleton.mp pumped

theorem pumpReports_logged (logged : BrokerClient.LoggedBy log)
    (publisher : Publisher Client) :
    ∃ added, log publisher.pumpReports.2.broker = log publisher.broker ++ added ∧
      ∀ other given, BrokerCall.publish other given ∉ added := by
  refine ⟨_, logged.pump publisher.broker 0, ?_⟩
  intro other given member
  cases List.mem_singleton.mp member

theorem flush_logged (logged : BrokerClient.LoggedBy log) (publisher : Publisher Client)
    (milliseconds : Nat) :
    ∃ added, log (publisher.flush milliseconds).2.broker = log publisher.broker ++ added ∧
      ∀ other given, BrokerCall.publish other given ∉ added := by
  refine ⟨_, logged.flush publisher.broker milliseconds, ?_⟩
  intro other given member
  cases List.mem_singleton.mp member

end Publisher

namespace Session

variable {session next : Session Client} {moment : Moment}

/-- The message that the worker hands over in its next step, if it hands over
any. -/
def nextMessage? {Client : Type} (session : Session Client) : Option Message :=
  match session.phase with
  | .exporting _ (next :: _) => some next.frame.message
  | .publishing _ (.offering (next :: _)) => some next.message
  | _ => none

omit [BrokerClient Client] in
theorem nextMessage?_cases {message : Message} (due : session.nextMessage? = some message) :
    (∃ done next rest, session.phase = .exporting done (next :: rest) ∧
        message = next.frame.message) ∨
      ∃ final next rest, session.phase = .publishing final (.offering (next :: rest)) ∧
        message = next.message := by
  unfold nextMessage? at due
  split at due
  next done next rest stands => exact .inl ⟨done, next, rest, stands, (Option.some.inj due).symm⟩
  next final next rest stands =>
    exact .inr ⟨final, next, rest, stands, (Option.some.inj due).symm⟩
  next => cases due

theorem Advance.logged (logged : BrokerClient.LoggedBy log)
    (advance : session.Advance moment next) :
    ∃ added, log next.publisher.broker = log session.publisher.broker ++ added ∧
      ∀ message answer, .publish message answer ∈ added →
        session.nextMessage? = some message := by
  -- Nothing is handed over where no message is offered.
  have quiet : ∀ {calls : List BrokerCall},
      (∃ added, calls = log session.publisher.broker ++ added ∧
        ∀ other given, BrokerCall.publish other given ∉ added) →
      ∃ added, calls = log session.publisher.broker ++ added ∧
        ∀ message answer, .publish message answer ∈ added →
          session.nextMessage? = some message := by
    rintro calls ⟨added, same, none⟩
    refine ⟨added, same, ?_⟩
    intro message answer member
    exact (none message answer member).elim
  have still : ∃ added, log session.publisher.broker = log session.publisher.broker ++ added ∧
      ∀ other given, BrokerCall.publish other given ∉ added :=
    ⟨[], (List.append_nil _).symm, fun _ _ => List.not_mem_nil⟩
  cases advance with
  | takeDescriptor done next rest publisher stands offered
  | blockDescriptor done next rest publisher stands offered
  | rejectDescriptor done next rest reason publisher stands offered
  | settleFrame final next rest answer publisher stands offered settled
  | blockFrame final next rest publisher stands offered =>
      obtain ⟨added, same, only⟩ := Publisher.offer_logged logged offered
      refine ⟨added, same, ?_⟩
      intro message answer member
      rw [only message answer member, nextMessage?, stands]
  | endFinalCycle pending stands =>
      exact quiet (session.publisher.pumpReports_logged logged)
  | endCycle pending stands sound => exact quiet (session.publisher.pumpReports_logged logged)
  | endFaultedCycle pending fault stands first faulted =>
      exact quiet (session.publisher.pumpReports_logged logged)
  | flush stands => exact quiet (session.publisher.flush_logged logged moment.settings.flushMs)
  | _ => exact quiet still

theorem after?_logged (logged : BrokerClient.LoggedBy log) {event : SessionEvent}
    (happens : session.after? event = some next) :
    ∃ added, log next.publisher.broker = log session.publisher.broker ++ added ∧
      ∀ message answer, .publish message answer ∈ added →
        session.nextMessage? = some message := by
  rcases after?_cases happens with
    ⟨moment, rfl, advance⟩ | ⟨unit, change, rfl⟩ | ⟨catalog, rfl⟩ | ⟨rfl, free, rfl⟩
  · exact advance.logged logged
  all_goals
    refine ⟨[], (List.append_nil _).symm, ?_⟩
    intro message answer member
    cases member

theorem isExport_of_after {event : SessionEvent} (happens : session.after? event = some next)
    (under : next.phase.isExport = true) : session.phase.isExport = true := by
  rcases after?_cases happens with
    ⟨moment, rfl, advance⟩ | ⟨unit, change, rfl⟩ | ⟨catalog, rfl⟩ | ⟨rfl, free, rfl⟩
  · cases advance with
    | copyTables stands | takeDescriptor _ _ _ _ stands _ | blockDescriptor _ _ _ _ stands _
    | retryDescriptor _ _ _ stands _ =>
        rw [stands]
        rfl
    | rest stands => exact under
    | _ => cases under
  · exact under
  · exact under
  · exact under

/-- A worker holds what it held before and what the unit it visits yields. -/
theorem Advance.held_cases (advance : session.Advance moment next) {frame : Frame}
    (member : frame ∈ next.held) :
    frame ∈ session.held ∨
      ∃ position, frame ∈ (session.harvester.harvestUnit position).1 := by
  cases advance with
  | visitUnit final position frames stands inside =>
      simp only [held, List.mem_append] at member
      rcases member with carried | old | new
      · refine .inl ?_
        simp only [held, stands, List.mem_append]
        exact .inl carried
      · refine .inl ?_
        simp only [held, stands, List.mem_append]
        exact .inr old
      · exact .inr ⟨position, new⟩
  | settleFrame final next rest answer publisher stands offered settled =>
      refine .inl ?_
      simp only [held, stands, Batch.frames]
      exact List.mem_cons_of_mem _ member
  | endFinalCycle pending stands => cases member
  | flush stands => cases member
  | rest stands => exact .inl member
  | copyTables stands | completeExport _ stands | takeDescriptor _ _ _ _ stands _
  | blockDescriptor _ _ _ _ stands _ | rejectDescriptor _ _ _ _ _ stands _
  | abandonDescriptor _ _ _ stands _ | retryDescriptor _ _ _ stands _ | endHarvest _ _ _ stands _
  | endBatch _ stands | blockFrame _ _ _ _ stands _ | leaveFrames _ _ _ stands _
  | retryFrame _ _ _ stands _ | endCycle _ stands _ | endFaultedCycle _ _ stands _ _ =>
      refine .inl ?_
      simpa only [held, stands, Batch.frames] using member
  | beginHarvest stands =>
      refine .inl ?_
      simpa only [held, stands, List.append_nil] using member

end Session
end Offers
end TraceForward
