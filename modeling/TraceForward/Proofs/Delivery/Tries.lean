/-
The calls by which a batch is published.

The frames are offered in order, each until the client takes it or turns it down, and
every full queue is followed by a pump.  So the calls tell which frames were settled
and which are left.
-/

import TraceForward.Proofs.Delivery.Attempts

namespace TraceForward

/-- `log` holds the calls that have published a batch as far as `left`. -/
inductive Tries (pumpMs : Nat) (batch : List Frame) : List BrokerCall → List Frame → Prop where
  | begun : Tries pumpMs batch [] batch
  | full {log : List BrokerCall} {next : Frame} {rest : List Frame} (served : Nat)
      (before : Tries pumpMs batch log (next :: rest)) :
      Tries pumpMs batch
        (log ++ [.publish next.message .queueFull, .pump pumpMs served]) (next :: rest)
  | settled {log : List BrokerCall} {next : Frame} {rest : List Frame} {answer : Answer}
      (last : answer ≠ .queueFull) (before : Tries pumpMs batch log (next :: rest)) :
      Tries pumpMs batch (log ++ [.publish next.message answer]) rest

namespace Tries

variable {pumpMs : Nat} {batch left : List Frame} {log : List BrokerCall}

theorem length_batch (tries : Tries pumpMs batch log left) :
    log.countP BrokerCall.isAccepted + log.countP BrokerCall.isTurnedDown + left.length =
      batch.length := by
  induction tries with
  | begun => simp
  | full served before ih =>
      rw [List.countP_append, List.countP_append]
      exact ih
  | @settled log next rest answer last before ih =>
      rw [← ih, List.countP_append, List.countP_append, List.length_cons]
      cases answer with
      | queueFull => exact absurd rfl last
      | accepted =>
          simp only [List.countP_singleton, BrokerCall.isAccepted, BrokerCall.isTurnedDown]
          simp
          omega
      | fatal reason =>
          simp only [List.countP_singleton, BrokerCall.isAccepted, BrokerCall.isTurnedDown]
          simp
          omega

/-- What was taken stands in the order of the batch, and in front of what is left. -/
theorem taken_sublist (tries : Tries pumpMs batch log left) :
    (log.filterMap BrokerCall.taken? ++ left.map Frame.message).Sublist
      (batch.map Frame.message) := by
  induction tries with
  | begun => exact List.Sublist.refl _
  | full served before ih =>
      rw [List.filterMap_append, List.append_assoc]
      exact ih
  | @settled log next rest answer last before ih =>
      refine List.Sublist.trans ?_ ih
      rw [List.filterMap_append, List.append_assoc, List.map_cons]
      refine (List.Sublist.refl _).append ?_
      cases answer with
      | queueFull => exact absurd rfl last
      | accepted => exact List.Sublist.refl _
      | fatal reason => exact List.sublist_cons_self _ _

theorem not_isFlush (tries : Tries pumpMs batch log left) :
    ∀ call ∈ log, call.isFlush = false := by
  induction tries with
  | begun => exact nofun
  | full served before ih =>
      intro call member
      rcases List.mem_append.mp member with earlier | last
      · exact ih call earlier
      · rcases List.mem_pair.mp last with rfl | rfl <;> rfl
  | settled last before ih =>
      intro call member
      rcases List.mem_append.mp member with earlier | last
      · exact ih call earlier
      · rw [List.mem_singleton.mp last]
        rfl

theorem of_nil (tries : Tries pumpMs batch log left) (nothing : batch = []) :
    log = [] ∧ left = [] := by
  induction tries with
  | begun => exact ⟨rfl, nothing⟩
  | full served before ih => cases ih.2
  | settled last before ih => cases ih.2

end Tries

theorem Recorded.length_taken {Client : Type} (recorded : Recorded Client) :
    recorded.taken.length = recorded.acceptedCount := by
  rw [taken, List.length_filterMap_eq_countP, acceptedCount]
  congr 1
  funext call
  rcases call with ⟨message, _ | _ | reason⟩ | ⟨milliseconds, served⟩ | milliseconds
  all_goals rfl

/-! ### What one offer adds -/

namespace Publisher

variable {Client : Type} [BrokerClient Client]
  {publisher changed : Publisher (Recorded Client)} {message : Message} {answer : Answer}

theorem offer_calls_full (offered : publisher.offer message = (.queueFull, changed)) :
    ∃ served, changed.broker.calls =
      publisher.broker.calls ++ [.publish message .queueFull, .pump publisher.pumpMs served] :=
  ⟨_, offer_calls offered⟩

theorem offer_calls_last (offered : publisher.offer message = (answer, changed))
    (last : answer ≠ .queueFull) :
    changed.broker.calls = publisher.broker.calls ++ [.publish message answer] := by
  rw [offer_calls offered, if_neg last]

theorem offer_pumpMs (offered : publisher.offer message = (answer, changed)) :
    changed.pumpMs = publisher.pumpMs := by
  unfold offer at offered
  generalize BrokerClient.publish publisher.broker publisher.topic message = reply at offered
  obtain ⟨given, client⟩ := reply
  cases given with
  | queueFull =>
      obtain ⟨rfl, rfl⟩ := Prod.mk.inj offered
      rfl
  | accepted =>
      obtain ⟨rfl, rfl⟩ := Prod.mk.inj offered
      rfl
  | fatal reason =>
      obtain ⟨rfl, rfl⟩ := Prod.mk.inj offered
      rfl

end Publisher
end TraceForward
