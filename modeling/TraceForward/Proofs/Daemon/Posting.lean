/-
The daemon's publisher and those who send to it.

Senders put frames into one channel, in any order and until they go away.  The courier
takes what is there as a batch, and the calls of a run are its cycles one after the
other, each ended by a pump that does not wait, and one flush at the end.  Every frame
that was sent is in one batch and has one fate: it is taken, turned down, or given up
because the shutdown flag was found set while the queue was full.
-/

import TraceForward.Daemon.Courier
import TraceForward.Proofs.Delivery.Tries
import TraceForward.Proofs.Runs

namespace TraceForward

/-! ### What a courier's step can do -/

namespace Courier

section Step

variable {Client : Type} [BrokerClient Client]

def takes? (courier : Courier Client) : Option (List Frame) :=
  match courier.phase with
  | .receiving =>
      if courier.queue.isEmpty && courier.sendersGone then none else some courier.queue
  | _ => none

/-- The ways in which a courier's step can go, with the batch that it takes. -/
inductive Works (courier : Courier Client) : Option (List Frame) → Courier Client → Prop where
  | finish (stands : courier.phase = .receiving) (through : courier.queue = [])
      (gone : courier.sendersGone = true) :
      Works courier none
        { courier with
          publisher := (courier.publisher.flush courier.flushMs).2, phase := .finished }
  | take (stands : courier.phase = .receiving) :
      Works courier (some courier.queue)
        { courier with queue := [], phase := .publishing (.offering courier.queue) }
  | endBatch (stands : courier.phase = .publishing (.offering [])) :
      Works courier none { courier with phase := .publishing (.ended []) }
  | settle {next : Frame} {rest : List Frame} {answer : Answer} {publisher : Publisher Client}
      (stands : courier.phase = .publishing (.offering (next :: rest)))
      (offered : courier.publisher.offer next.message = (answer, publisher))
      (last : answer ≠ .queueFull) :
      Works courier none { courier with publisher, phase := .publishing (.offering rest) }
  | block {next : Frame} {rest : List Frame} {publisher : Publisher Client}
      (stands : courier.phase = .publishing (.offering (next :: rest)))
      (offered : courier.publisher.offer next.message = (.queueFull, publisher)) :
      Works courier none { courier with publisher, phase := .publishing (.blocked next rest) }
  | leave {next : Frame} {rest : List Frame}
      (stands : courier.phase = .publishing (.blocked next rest))
      (told : courier.shutdown = true) :
      Works courier none { courier with phase := .publishing (.ended (next :: rest)) }
  | retry {next : Frame} {rest : List Frame}
      (stands : courier.phase = .publishing (.blocked next rest))
      (untold : courier.shutdown = false) :
      Works courier none { courier with phase := .publishing (.offering (next :: rest)) }
  | endCycle {pending : List Frame} (stands : courier.phase = .publishing (.ended pending)) :
      Works courier none
        { courier with
          publisher := courier.publisher.pumpReports.2.abandon pending.length
          phase := .receiving }
  | rest (stands : courier.phase = .finished) : Works courier none courier

theorem step_works (courier : Courier Client) : courier.Works courier.takes? courier.step := by
  unfold step takes?
  cases stands : courier.phase with
  | receiving =>
      simp only
      split
      next finished =>
        rw [Bool.and_eq_true, List.isEmpty_iff] at finished
        exact .finish stands finished.1 finished.2
      next => exact .take stands
  | publishing batch =>
      cases batch with
      | offering frames =>
          cases frames with
          | nil => exact .endBatch stands
          | cons next rest =>
              cases offered : courier.publisher.offer next.message with
              | mk answer publisher =>
                  simp only [Batch.step, offered]
                  cases answer with
                  | queueFull => exact .block stands offered
                  | accepted => exact .settle stands offered nofun
                  | fatal reason => exact .settle stands offered nofun
      | blocked next rest =>
          cases told : courier.shutdown with
          | true =>
              have left : courier.Works none _ := .leave stands told
              simpa only [Batch.step, told, if_true] using left
          | false =>
              have retried : courier.Works none _ := .retry stands told
              simpa only [Batch.step, told, Bool.false_eq_true, if_false] using retried
      | ended pending => exact .endCycle stands
  | finished => exact .rest stands

theorem step_shutdown (courier : Courier Client) : courier.step.shutdown = courier.shutdown := by
  have works := courier.step_works
  generalize courier.step = next at works ⊢
  generalize courier.takes? = taken at works
  cases works <;> rfl

/-- One round of a courier over a recorded client: the batch, the calls that publish
it, what is given up of it, and the reports that are served at its end. -/
structure Cycle where
  batch : List Frame
  log : List BrokerCall
  left : List Frame
  served : Nat

def Cycle.calls (cycle : Cycle) : List BrokerCall :=
  cycle.log ++ [.pump 0 cycle.served]

end Step

end Courier

/-! ### Sending -/

structure Posting (Client : Type) where
  courier : Courier (Recorded Client)
  senders : List Nat
  /-- What was sent, in the order of the channel, with who sent it. -/
  sent : List (Nat × Frame) := []
  batches : List (List Frame) := []

namespace Posting

variable {Client : Type}

def start (client : Client) (topic : Topic) (pumpMs flushMs : Nat) (senders : List Nat) :
    Posting Client :=
  { courier :=
      { publisher := { broker := { client }, topic, pumpMs }
        flushMs, sendersGone := senders.isEmpty }
    senders }

inductive Move where
  | work
  | send (sender : Nat) (frame : Frame)
  | leave (sender : Nat)
  | shutdown

section Moves

variable [BrokerClient Client] {posting next : Posting Client}

def after? (posting : Posting Client) : Move → Option (Posting Client)
  | .work =>
      some
        { posting with
          courier := posting.courier.step
          batches := posting.batches ++ posting.courier.takes?.toList }
  | .send sender frame =>
      if sender ∈ posting.senders then
        (posting.courier.after? (.send frame)).map fun courier =>
          { posting with courier, sent := posting.sent ++ [(sender, frame)] }
      else none
  | .leave sender =>
      if sender ∈ posting.senders then
        let senders := posting.senders.erase sender
        if senders.isEmpty then
          (posting.courier.after? .lastSenderGone).map fun courier =>
            { posting with courier, senders }
        else some { posting with senders }
      else none
  | .shutdown =>
      (posting.courier.after? .shutdown).map fun courier => { posting with courier }

theorem after?_send {sender : Nat} {frame : Frame}
    (happens : posting.after? (.send sender frame) = some next) :
    sender ∈ posting.senders ∧ posting.courier.sendersGone = false ∧
      next =
        { posting with
          courier := { posting.courier with queue := posting.courier.queue ++ [frame] }
          sent := posting.sent ++ [(sender, frame)] } := by
  obtain ⟨member, happens⟩ := Option.ite_none_right_eq_some.mp happens
  obtain ⟨courier, sent, rfl⟩ := Option.map_eq_some_iff.mp happens
  obtain ⟨opened, sent⟩ := Option.ite_none_left_eq_some.mp sent
  cases sent
  exact ⟨member, Bool.eq_false_iff.mpr opened, rfl⟩

theorem after?_leave {sender : Nat} (happens : posting.after? (.leave sender) = some next) :
    sender ∈ posting.senders ∧
      next =
        { posting with
          courier :=
            { posting.courier with
              sendersGone :=
                posting.courier.sendersGone || (posting.senders.erase sender).isEmpty }
          senders := posting.senders.erase sender } := by
  obtain ⟨member, happens⟩ := Option.ite_none_right_eq_some.mp happens
  refine ⟨member, ?_⟩
  by_cases last : (posting.senders.erase sender).isEmpty
  · rw [if_pos last] at happens
    cases happens
    rw [last, Bool.or_true]
  · rw [if_neg last] at happens
    cases happens
    rw [Bool.eq_false_iff.mpr last, Bool.or_false]

end Moves

/-! ### The record of a run -/

variable {pumpMs flushMs : Nat} {posting next : Posting Client} {cycles : List Courier.Cycle}

/-- Where the courier stands in its record, behind the cycles that are over. -/
inductive Stands (pumpMs flushMs : Nat) (posting : Posting Client)
    (cycles : List Courier.Cycle) : Prop where
  | receiving (phase : posting.courier.phase = .receiving)
      (batches : posting.batches = cycles.map Courier.Cycle.batch)
      (calls : posting.courier.publisher.broker.calls = cycles.flatMap Courier.Cycle.calls)
  | publishing {batch : Batch} {taken : List Frame} {log : List BrokerCall}
      (phase : posting.courier.phase = .publishing batch)
      (batches : posting.batches = cycles.map Courier.Cycle.batch ++ [taken])
      (calls : posting.courier.publisher.broker.calls =
        cycles.flatMap Courier.Cycle.calls ++ log)
      (tries : Tries pumpMs taken log batch.frames)
      (told : ∀ frame rest, batch = .ended (frame :: rest) → posting.courier.shutdown = true)
  | finished (phase : posting.courier.phase = .finished)
      (batches : posting.batches = cycles.map Courier.Cycle.batch)
      (calls : posting.courier.publisher.broker.calls =
        cycles.flatMap Courier.Cycle.calls ++ [.flush flushMs])
      (through : posting.courier.queue = []) (gone : posting.courier.sendersGone = true)

theorem Stands.of_receiving (stands : Stands pumpMs flushMs posting cycles)
    (phase : posting.courier.phase = .receiving) :
    posting.batches = cycles.map Courier.Cycle.batch ∧
      posting.courier.publisher.broker.calls = cycles.flatMap Courier.Cycle.calls := by
  cases stands with
  | receiving _ batches calls => exact ⟨batches, calls⟩
  | publishing other => cases phase.symm.trans other
  | finished other => cases phase.symm.trans other

theorem Stands.of_publishing (stands : Stands pumpMs flushMs posting cycles) {batch : Batch}
    (phase : posting.courier.phase = .publishing batch) :
    ∃ taken log,
      posting.batches = cycles.map Courier.Cycle.batch ++ [taken] ∧
        posting.courier.publisher.broker.calls = cycles.flatMap Courier.Cycle.calls ++ log ∧
        Tries pumpMs taken log batch.frames ∧
        ∀ frame rest, batch = .ended (frame :: rest) → posting.courier.shutdown = true := by
  cases stands with
  | receiving other => cases phase.symm.trans other
  | @publishing batch taken log same batches calls tries told =>
      cases phase.symm.trans same
      exact ⟨taken, log, batches, calls, tries, told⟩
  | finished other => cases phase.symm.trans other

theorem Stands.of_finished (stands : Stands pumpMs flushMs posting cycles)
    (phase : posting.courier.phase = .finished) :
    posting.batches = cycles.map Courier.Cycle.batch ∧
      posting.courier.publisher.broker.calls =
        cycles.flatMap Courier.Cycle.calls ++ [.flush flushMs] ∧
      posting.courier.queue = [] ∧ posting.courier.sendersGone = true := by
  cases stands with
  | receiving other => cases phase.symm.trans other
  | publishing other => cases phase.symm.trans other
  | finished _ batches calls through gone => exact ⟨batches, calls, through, gone⟩

structure Ledger (pumpMs flushMs : Nat) (posting : Posting Client)
    (cycles : List Courier.Cycle) : Prop where
  wait : posting.courier.publisher.pumpMs = pumpMs
  limit : posting.courier.flushMs = flushMs
  balanced : posting.courier.publisher.Balanced
  abandoned : posting.courier.publisher.stats.abandoned =
    (cycles.flatMap Courier.Cycle.left).length
  tries : ∀ cycle ∈ cycles, Tries pumpMs cycle.batch cycle.log cycle.left
  untold : posting.courier.shutdown = false → ∀ cycle ∈ cycles, cycle.left = []
  alone : posting.courier.sendersGone = posting.senders.isEmpty
  conserved : posting.batches.flatten ++ posting.courier.queue = posting.sent.map Prod.snd
  stands : Stands pumpMs flushMs posting cycles

theorem Ledger.start (client : Client) (topic : Topic) (pumpMs flushMs : Nat)
    (senders : List Nat) :
    Ledger pumpMs flushMs (start client topic pumpMs flushMs senders) [] :=
  ⟨rfl, rfl, ⟨rfl, rfl, rfl⟩, rfl, nofun, fun _ => nofun, rfl, rfl, .receiving rfl rfl rfl⟩

/-- A batch that goes on adds calls to the cycle that is under way. -/
theorem Ledger.goOn (ledger : Ledger pumpMs flushMs posting cycles) {batch batch' : Batch}
    {publisher : Publisher (Recorded Client)} {more : List BrokerCall}
    (phase : posting.courier.phase = .publishing batch)
    (wait : publisher.pumpMs = posting.courier.publisher.pumpMs)
    (balanced : publisher.Balanced)
    (abandoned : publisher.stats.abandoned = posting.courier.publisher.stats.abandoned)
    (calls : publisher.broker.calls = posting.courier.publisher.broker.calls ++ more)
    (tries : ∀ taken log, Tries pumpMs taken log batch.frames →
      Tries pumpMs taken (log ++ more) batch'.frames)
    (told : ∀ frame rest, batch' = .ended (frame :: rest) → posting.courier.shutdown = true) :
    Ledger pumpMs flushMs
      { posting with
        courier := { posting.courier with publisher, phase := .publishing batch' } } cycles := by
  obtain ⟨taken, log, batches, before, soFar, _⟩ := ledger.stands.of_publishing phase
  refine ⟨wait.trans ledger.wait, ledger.limit, balanced, abandoned.trans ledger.abandoned,
    ledger.tries, ledger.untold, ledger.alone, ledger.conserved, ?_⟩
  refine .publishing rfl batches ?_ (tries taken log soFar) told
  rw [calls, before, List.append_assoc]

theorem Ledger.turn (ledger : Ledger pumpMs flushMs posting cycles) {batch batch' : Batch}
    (phase : posting.courier.phase = .publishing batch) (same : batch'.frames = batch.frames)
    (told : ∀ frame rest, batch' = .ended (frame :: rest) → posting.courier.shutdown = true) :
    Ledger pumpMs flushMs
      { posting with courier := { posting.courier with phase := .publishing batch' } } cycles := by
  refine ledger.goOn phase rfl ledger.balanced rfl (List.append_nil _).symm ?_ told
  intro taken log soFar
  rw [List.append_nil, same]
  exact soFar

theorem Ledger.take (ledger : Ledger pumpMs flushMs posting cycles)
    (phase : posting.courier.phase = .receiving) :
    Ledger pumpMs flushMs
      { posting with
        courier :=
          { posting.courier with
            queue := [], phase := .publishing (.offering posting.courier.queue) }
        batches := posting.batches ++ [posting.courier.queue] } cycles := by
  obtain ⟨batches, calls⟩ := ledger.stands.of_receiving phase
  refine ⟨ledger.wait, ledger.limit, ledger.balanced, ledger.abandoned, ledger.tries,
    ledger.untold, ledger.alone, ?_, ?_⟩
  · rw [List.flatten_append, List.flatten_singleton, List.append_nil]
    exact ledger.conserved
  · refine .publishing rfl ?_ ?_ .begun nofun
    · exact congrArg (· ++ [posting.courier.queue]) batches
    · rw [calls, List.append_nil]

/-- The channel may have changed, and the flag may have been set, but not what the courier
has done. -/
structure Beside (posting next : Posting Client) : Prop where
  publisher : next.courier.publisher = posting.courier.publisher
  limit : next.courier.flushMs = posting.courier.flushMs
  phase : next.courier.phase = posting.courier.phase
  batches : next.batches = posting.batches
  shutdown : posting.courier.shutdown = true → next.courier.shutdown = true
  gone : posting.courier.sendersGone = true →
    next.courier.sendersGone = true ∧ next.courier.queue = posting.courier.queue

theorem Stands.beside (stands : Stands pumpMs flushMs posting cycles)
    (beside : posting.Beside next) : Stands pumpMs flushMs next cycles := by
  obtain ⟨publisher, _, same, taken, shutdown, finished⟩ := beside
  cases stands with
  | receiving phase batches calls =>
      refine .receiving (same.trans phase) (taken.trans batches) ?_
      rw [publisher]
      exact calls
  | publishing phase batches calls tries told =>
      refine .publishing (same.trans phase) (taken.trans batches) ?_ tries ?_
      · rw [publisher]
        exact calls
      · exact fun frame rest ended => shutdown (told frame rest ended)
  | finished phase batches calls through gone =>
      refine .finished (same.trans phase) (taken.trans batches) ?_ ?_ (finished gone).1
      · rw [publisher]
        exact calls
      · exact (finished gone).2.trans through

theorem Ledger.beside (ledger : Ledger pumpMs flushMs posting cycles)
    (beside : posting.Beside next) (alone : next.courier.sendersGone = next.senders.isEmpty)
    (conserved : next.batches.flatten ++ next.courier.queue = next.sent.map Prod.snd) :
    Ledger pumpMs flushMs next cycles := by
  have ⟨publisher, limit, _, _, shutdown, _⟩ := beside
  refine ⟨?_, limit.trans ledger.limit, ?_, ?_, ledger.tries, ?_, alone, conserved,
    ledger.stands.beside beside⟩
  · rw [publisher]
    exact ledger.wait
  · rw [publisher]
    exact ledger.balanced
  · rw [publisher]
    exact ledger.abandoned
  · intro untold
    refine ledger.untold ?_
    cases told : posting.courier.shutdown with
    | true => cases (shutdown told).symm.trans untold
    | false => rfl

/-! ### What a record says when the courier has ended -/

theorem accounted (tries : ∀ cycle ∈ cycles, Tries pumpMs cycle.batch cycle.log cycle.left) :
    (cycles.flatMap Courier.Cycle.calls).countP BrokerCall.isAccepted +
        (cycles.flatMap Courier.Cycle.calls).countP BrokerCall.isTurnedDown +
        (cycles.flatMap Courier.Cycle.left).length =
      (cycles.map Courier.Cycle.batch).flatten.length := by
  induction cycles with
  | nil => rfl
  | cons cycle rest ih =>
      have first := (tries cycle List.mem_cons_self).length_batch
      have later := ih fun other member => tries other (List.mem_cons_of_mem _ member)
      -- The pump at the end of a cycle settles nothing.
      have served : ∀ test : BrokerCall → Bool, test (.pump 0 cycle.served) = false →
          cycle.calls.countP test = cycle.log.countP test := by
        intro test silent
        simp [Courier.Cycle.calls, silent]
      rw [List.flatMap_cons, List.countP_append, List.countP_append, served _ rfl, served _ rfl,
        List.flatMap_cons, List.length_append, List.map_cons, List.flatten_cons,
        List.length_append, ← first, ← later]
      omega

theorem taken_sublist (tries : ∀ cycle ∈ cycles, Tries pumpMs cycle.batch cycle.log cycle.left) :
    ((cycles.flatMap Courier.Cycle.calls).filterMap BrokerCall.taken?).Sublist
      ((cycles.map Courier.Cycle.batch).flatten.map Frame.message) := by
  induction cycles with
  | nil => exact List.Sublist.refl _
  | cons cycle rest ih =>
      have first := (List.sublist_append_left _ _).trans
        (tries cycle List.mem_cons_self).taken_sublist
      have later := ih fun other member => tries other (List.mem_cons_of_mem _ member)
      rw [List.flatMap_cons, List.filterMap_append, List.map_cons, List.flatten_cons,
        List.map_append]
      refine List.Sublist.append ?_ later
      have pumped : [BrokerCall.pump 0 cycle.served].filterMap BrokerCall.taken? = [] := rfl
      rw [Courier.Cycle.calls, List.filterMap_append, pumped, List.append_nil]
      exact first

theorem not_isFlush (tries : ∀ cycle ∈ cycles, Tries pumpMs cycle.batch cycle.log cycle.left) :
    ∀ call ∈ cycles.flatMap Courier.Cycle.calls, call.isFlush = false := by
  intro call member
  obtain ⟨cycle, present, member⟩ := List.mem_flatMap.mp member
  rcases List.mem_append.mp member with tried | last
  · exact (tries cycle present).not_isFlush call tried
  · rw [List.mem_singleton.mp last]
    rfl

structure Posted (pumpMs flushMs : Nat) (posting : Posting Client)
    (cycles : List Courier.Cycle) : Prop where
  alone : posting.senders = []
  batches : cycles.map Courier.Cycle.batch = posting.batches
  takenOnce : posting.batches.flatten = posting.sent.map Prod.snd
  /-- Every cycle ends with a pump that does not wait, and the last call is a flush. -/
  calls : posting.courier.publisher.broker.calls =
    cycles.flatMap Courier.Cycle.calls ++ [.flush flushMs]
  tries : ∀ cycle ∈ cycles, Tries pumpMs cycle.batch cycle.log cycle.left
  idle : ∀ cycle ∈ cycles, cycle.batch = [] → cycle.calls = [.pump 0 cycle.served]
  flushedOnce : posting.courier.publisher.broker.flushCount = 1
  balanced : posting.courier.publisher.Balanced
  accounted : posting.courier.publisher.stats.enqueued +
      posting.courier.publisher.stats.dropped + posting.courier.publisher.stats.abandoned =
    posting.sent.length
  inOrder : ∃ kept : List (Nat × Frame),
    kept.Sublist posting.sent ∧
      posting.courier.publisher.broker.taken = kept.map (fun entry => entry.2.message) ∧
      ∀ sender, (kept.filter fun entry => entry.1 == sender).Sublist
        (posting.sent.filter fun entry => entry.1 == sender)

theorem Ledger.posted (ledger : Ledger pumpMs flushMs posting cycles)
    (finished : posting.courier.phase = .finished) : Posted pumpMs flushMs posting cycles := by
  have balanced := ledger.balanced
  have ⟨batches, calls, through, gone⟩ := ledger.stands.of_finished finished
  have takenOnce : posting.batches.flatten = posting.sent.map Prod.snd := by
    have conserved := ledger.conserved
    rwa [through, List.append_nil] at conserved
  have alone := List.isEmpty_iff.mp (ledger.alone.symm.trans gone)
  refine ⟨alone, batches.symm, takenOnce, calls, ledger.tries, ?_, ?_, balanced, ?_, ?_⟩
  · intro cycle member nothing
    rw [Courier.Cycle.calls, ((ledger.tries cycle member).of_nil nothing).1]
    rfl
  · have none' := List.countP_eq_zero.mpr fun call member =>
      Bool.eq_false_iff.mp (not_isFlush ledger.tries call member)
    rw [Recorded.flushCount, calls, List.countP_append, none']
    rfl
  · have sum := accounted ledger.tries
    rw [← ledger.abandoned, ← batches, takenOnce, List.length_map] at sum
    rw [balanced.enqueued, balanced.dropped, Recorded.acceptedCount, Recorded.turnedDownCount,
      calls, List.countP_append, List.countP_append, ← sum]
    rfl
  · have kept := taken_sublist ledger.tries
    rw [← batches, takenOnce, List.map_map] at kept
    obtain ⟨kept, sublist, same⟩ := List.sublist_map_iff.mp kept
    refine ⟨kept, sublist, ?_, fun sender => sublist.filter _⟩
    rw [Recorded.taken, calls, List.filterMap_append, same]
    exact List.append_nil _

/-! ### What every move keeps -/

variable [BrokerClient Client]

theorem Ledger.endCycle (ledger : Ledger pumpMs flushMs posting cycles) {pending : List Frame}
    (phase : posting.courier.phase = .publishing (.ended pending)) :
    ∃ cycle,
      Ledger pumpMs flushMs
        { posting with
          courier :=
            { posting.courier with
              publisher := posting.courier.publisher.pumpReports.2.abandon pending.length
              phase := .receiving } } (cycles ++ [cycle]) := by
  obtain ⟨taken, log, batches, calls, soFar, told⟩ := ledger.stands.of_publishing phase
  let served := (BrokerClient.pump posting.courier.publisher.broker.client 0).1
  refine ⟨⟨taken, log, pending, served⟩, ledger.wait, ledger.limit, ?_, ?_, ?_, ?_,
    ledger.alone, ledger.conserved, .receiving rfl ?_ ?_⟩
  · exact Publisher.balanced_abandon (Publisher.balanced_pumpReports ledger.balanced) _
  · rw [List.flatMap_append, List.flatMap_singleton, List.length_append, ← ledger.abandoned]
    rfl
  · intro cycle member
    rcases List.mem_append.mp member with earlier | last
    · exact ledger.tries cycle earlier
    · exact (List.mem_singleton.mp last) ▸ soFar
  · intro untold cycle member
    rcases List.mem_append.mp member with earlier | last
    · exact ledger.untold untold cycle earlier
    · cases List.mem_singleton.mp last
      -- A batch leaves frames behind only where the flag was found set.
      cases pending with
      | nil => rfl
      | cons frame rest => cases untold.symm.trans (told frame rest rfl)
  · rw [List.map_append]
    exact batches
  · change posting.courier.publisher.pumpReports.2.broker.calls = _
    rw [Publisher.pumpReports_calls, calls, List.flatMap_append, List.flatMap_singleton,
      List.append_assoc]
    rfl

theorem Ledger.finish (ledger : Ledger pumpMs flushMs posting cycles)
    (phase : posting.courier.phase = .receiving) (through : posting.courier.queue = [])
    (gone : posting.courier.sendersGone = true) :
    Ledger pumpMs flushMs
      { posting with
        courier :=
          { posting.courier with
            publisher := (posting.courier.publisher.flush posting.courier.flushMs).2
            phase := .finished } } cycles := by
  obtain ⟨batches, calls⟩ := ledger.stands.of_receiving phase
  refine ⟨ledger.wait, ledger.limit, Publisher.balanced_flush ledger.balanced _,
    ledger.abandoned, ledger.tries, ledger.untold, ledger.alone, ledger.conserved, ?_⟩
  refine .finished rfl batches ?_ through gone
  change (posting.courier.publisher.flush _).2.broker.calls = _
  rw [Publisher.flush_calls, calls, ledger.limit]

theorem Ledger.work (ledger : Ledger pumpMs flushMs posting cycles)
    (happens : posting.after? .work = some next) :
    ∃ cycles', Ledger pumpMs flushMs next cycles' := by
  cases happens
  have works := posting.courier.step_works
  generalize posting.courier.step = courier at works ⊢
  generalize posting.courier.takes? = taken at works ⊢
  cases works with
  | take phase => exact ⟨cycles, ledger.take phase⟩
  | finish phase through gone =>
      rw [Option.toList_none, List.append_nil]
      exact ⟨cycles, ledger.finish phase through gone⟩
  | endBatch phase =>
      rw [Option.toList_none, List.append_nil]
      exact ⟨cycles, ledger.turn phase rfl nofun⟩
  | settle phase offered last =>
      rw [Option.toList_none, List.append_nil]
      refine ⟨cycles, ledger.goOn phase (Publisher.offer_pumpMs offered)
        (Publisher.balanced_offer ledger.balanced offered) (Publisher.offer_abandoned offered)
        (Publisher.offer_calls_last offered last) ?_ nofun⟩
      exact fun taken log soFar => .settled last soFar
  | block phase offered =>
      rw [Option.toList_none, List.append_nil]
      obtain ⟨served, calls⟩ := Publisher.offer_calls_full offered
      rw [ledger.wait] at calls
      refine ⟨cycles, ledger.goOn phase (Publisher.offer_pumpMs offered)
        (Publisher.balanced_offer ledger.balanced offered) (Publisher.offer_abandoned offered)
        calls ?_ nofun⟩
      exact fun taken log soFar => .full served soFar
  | leave phase told =>
      rw [Option.toList_none, List.append_nil]
      exact ⟨cycles, ledger.turn phase rfl fun _ _ _ => told⟩
  | retry phase untold =>
      rw [Option.toList_none, List.append_nil]
      exact ⟨cycles, ledger.turn phase rfl nofun⟩
  | endCycle phase =>
      rw [Option.toList_none, List.append_nil]
      obtain ⟨cycle, ended⟩ := ledger.endCycle phase
      exact ⟨cycles ++ [cycle], ended⟩
  | rest phase =>
      rw [Option.toList_none, List.append_nil]
      exact ⟨cycles, ledger⟩

theorem Ledger.send (ledger : Ledger pumpMs flushMs posting cycles) {sender : Nat}
    {frame : Frame} (happens : posting.after? (.send sender frame) = some next) :
    Ledger pumpMs flushMs next cycles := by
  obtain ⟨_, opened, rfl⟩ := after?_send happens
  have never : ¬ posting.courier.sendersGone = true := Bool.eq_false_iff.mp opened
  refine ledger.beside ⟨rfl, rfl, rfl, rfl, id, fun gone => absurd gone never⟩ ledger.alone ?_
  rw [List.map_append, ← ledger.conserved, List.append_assoc]
  rfl

theorem Ledger.leave (ledger : Ledger pumpMs flushMs posting cycles) {sender : Nat}
    (happens : posting.after? (.leave sender) = some next) :
    Ledger pumpMs flushMs next cycles := by
  obtain ⟨member, rfl⟩ := after?_leave happens
  have others : posting.courier.sendersGone = false :=
    ledger.alone.trans (List.isEmpty_eq_false_iff.mpr (List.ne_nil_of_mem member))
  refine ledger.beside ⟨rfl, rfl, rfl, rfl, id, ?_⟩ ?_ ledger.conserved
  · intro gone
    cases others.symm.trans gone
  · rw [others]
    rfl

theorem Ledger.shutdown (ledger : Ledger pumpMs flushMs posting cycles)
    (happens : posting.after? .shutdown = some next) : Ledger pumpMs flushMs next cycles := by
  cases happens
  exact ledger.beside ⟨rfl, rfl, rfl, rfl, fun _ => rfl, fun gone => ⟨gone, rfl⟩⟩
    ledger.alone ledger.conserved

theorem Ledger.after {move : Move} (ledger : Ledger pumpMs flushMs posting cycles)
    (happens : posting.after? move = some next) :
    ∃ cycles', Ledger pumpMs flushMs next cycles' := by
  cases move with
  | work => exact ledger.work happens
  | send sender frame => exact ⟨cycles, ledger.send happens⟩
  | leave sender => exact ⟨cycles, ledger.leave happens⟩
  | shutdown => exact ⟨cycles, ledger.shutdown happens⟩

variable {client : Client} {topic : Topic} {senders : List Nat} {moves : List Move}
  {final : Posting Client}

theorem Ledger.run
    (reached : runMoves? after? (Posting.start client topic pumpMs flushMs senders) moves =
      some final) :
    ∃ cycles, Ledger pumpMs flushMs final cycles :=
  runMoves?_induction (fun posting => ∃ cycles, Ledger pumpMs flushMs posting cycles)
    (fun _ _ _ ⟨_, ledger⟩ happens => ledger.after happens)
    ⟨[], Ledger.start client topic pumpMs flushMs senders⟩ reached

theorem shutdown_after {move : Move} (happens : posting.after? move = some next)
    (other : move ≠ .shutdown) : next.courier.shutdown = posting.courier.shutdown := by
  cases move with
  | work =>
      cases happens
      exact posting.courier.step_shutdown
  | send sender frame =>
      obtain ⟨_, _, rfl⟩ := after?_send happens
      rfl
  | leave sender =>
      obtain ⟨_, rfl⟩ := after?_leave happens
      rfl
  | shutdown => exact absurd rfl other

theorem untold_run (reached : runMoves? after? posting moves = some final)
    (never : Move.shutdown ∉ moves) :
    final.courier.shutdown = posting.courier.shutdown := by
  induction moves generalizing posting with
  | nil =>
      cases reached
      rfl
  | cons move rest ih =>
      obtain ⟨next, happens, later⟩ := runMoves?_cons reached
      obtain ⟨other, never⟩ := List.ne_and_not_mem_of_not_mem_cons never
      exact (ih later never).trans (shutdown_after happens other.symm)

/-- However sends, batches, answers and the shutdown fall together, a courier that has
ended took every frame once and in order, and gave each one fate. -/
theorem everything_accounted
    (reached : runMoves? after? (start client topic pumpMs flushMs senders) moves = some final)
    (finished : final.courier.phase = .finished) :
    (∃ cycles, Posted pumpMs flushMs final cycles) ∧
      (Move.shutdown ∉ moves → final.courier.publisher.stats.abandoned = 0) := by
  obtain ⟨cycles, ledger⟩ := Ledger.run reached
  refine ⟨⟨cycles, ledger.posted finished⟩, ?_⟩
  intro never
  have untold := ledger.untold (untold_run reached never)
  rw [ledger.abandoned, List.flatMap_eq_nil_iff.mpr untold]
  rfl

/-- Two senders, and a queue that is full when the flag is already set: the rest of the
first batch is given up, and what is sent behind it is taken. -/
theorem everything_accounted_sample :
    let frame (byte : UInt8) := Frame.trace [byte]
    let client : ScriptedBroker := { script := [.accepted, .queueFull] }
    let moves : List Move :=
      [.work, .work, .work, .send 0 (frame 1), .send 1 (frame 2), .send 0 (frame 3), .leave 1,
        .work, .shutdown, .send 0 (frame 4), .leave 0] ++ List.replicate 12 .work
    ∃ final,
      runMoves? after? (start client default 100 5 [0, 1]) moves = some final ∧
        final.courier.phase = .finished ∧
        final.batches = [[], [frame 1, frame 2, frame 3], [frame 4]] ∧
        final.courier.publisher.broker.taken = [(frame 1).message, (frame 4).message] ∧
        final.courier.publisher.stats.abandoned = 2 ∧
        ∃ cycles, Posted 100 5 final cycles := by
  intro frame client moves
  have outcome :
      (runMoves? after? (start client default 100 5 [0, 1]) moves).map
          (fun final => (final.courier.phase, final.batches,
            final.courier.publisher.broker.taken,
            final.courier.publisher.stats.abandoned)) =
        some
          (.finished, [[], [frame 1, frame 2, frame 3], [frame 4]],
            [(frame 1).message, (frame 4).message], 2) := by
    decide +kernel
  obtain ⟨final, reached, same⟩ := Option.map_eq_some_iff.mp outcome
  obtain ⟨finished, same⟩ := Prod.mk.inj same
  obtain ⟨batches, same⟩ := Prod.mk.inj same
  obtain ⟨taken, abandoned⟩ := Prod.mk.inj same
  exact ⟨final, reached, finished, batches, taken, abandoned,
    (everything_accounted reached finished).1⟩

end Posting
end TraceForward
