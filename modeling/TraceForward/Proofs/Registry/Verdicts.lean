/-
The answer to an open.

A handle that is registered comes before everything else, then the records that do not
fit a frame, then the units that are not switch buffers.  An open that is rejected
leaves the host as it is, and no open makes a call of the broker.
-/

import TraceForward.Proofs.Catalog.Records
import TraceForward.Proofs.Registry.Refinement

namespace TraceForward

def SessionResources.withBroker {Client Other : Type} (resources : SessionResources Client)
    (broker : Other) : SessionResources Other :=
  { owner := resources.owner
    units := resources.units
    catalog := resources.catalog
    broker
    topic := resources.topic }

/-! ### Units -/

structure FirstOdd (units : List BufferPair) (unit : BufferPair) : Prop where
  odd : unit.policy ≠ .switch
  inFront : ∃ before after, units = before ++ unit :: after ∧
    ∀ earlier ∈ before, earlier.policy = .switch

theorem firstOdd_iff {units : List BufferPair} {unit : BufferPair} :
    FirstOdd units unit ↔ (units.find? fun unit => unit.policy != .switch) = some unit := by
  simp only [List.find?_eq_some_iff_append, bne_iff_ne, Bool.not_eq_true', bne_eq_false_iff_eq]
  exact ⟨fun first => ⟨first.odd, first.inFront⟩, fun first => ⟨first.1, first.2⟩⟩

theorem FirstOdd.unique {units : List BufferPair} {unit other : BufferPair}
    (first : FirstOdd units unit) (second : FirstOdd units other) : unit = other :=
  Option.some.inj ((firstOdd_iff.mp first).symm.trans (firstOdd_iff.mp second))

theorem FirstOdd.not_switches {units : List BufferPair} {unit : BufferPair}
    (first : FirstOdd units unit) : ¬ ∀ other ∈ units, other.policy = .switch := by
  obtain ⟨before, after, rfl, _⟩ := first.inFront
  intro switches
  exact first.odd (switches unit (List.mem_append_right before List.mem_cons_self))

theorem Harvester.create_eq_error {units : List BufferPair} {sizes : List Nat} {mtu : Nat}
    {fault : Fault} (odd : create units sizes mtu = .error fault) :
    ∃ unit, FirstOdd units unit ∧ fault = .unsupportedPolicy unit.unit unit.policy.name := by
  unfold create at odd
  split at odd
  next unit first =>
    cases odd
    exact ⟨unit, firstOdd_iff.mpr first, rfl⟩
  next => cases odd

/-! ### The checks of an open -/

/-- The documented answer to an open. -/
inductive Verdict {Client : Type} (registered : List Handle) (settings : Settings)
    (handle : Handle) (resources : SessionResources Client) : Except Fault Unit → Prop where
  | alreadyOpen (taken : handle ∈ registered) :
      Verdict registered settings handle resources (.error (.alreadyOpen handle))
  | exceedsMtu {id : Nat} {clause : Clause} (free : handle ∉ registered)
      (first : resources.catalog.FirstAbove settings.mtu id clause) :
      Verdict registered settings handle resources
        (.error (.recordExceedsMtu id clause.size settings.mtu))
  | unsupported {unit : BufferPair} (free : handle ∉ registered)
      (fits : ∀ id clause, resources.catalog.clause? id = some clause →
        clause.size ≤ settings.mtu)
      (first : FirstOdd resources.units unit) :
      Verdict registered settings handle resources
        (.error (.unsupportedPolicy unit.unit unit.policy.name))
  | opens (free : handle ∉ registered)
      (fits : ∀ id clause, resources.catalog.clause? id = some clause →
        clause.size ≤ settings.mtu)
      (switches : ∀ unit ∈ resources.units, unit.policy = .switch) :
      Verdict registered settings handle resources (.ok ())

section Checks

variable {Client : Type} {registered : List Handle} {settings : Settings} {handle : Handle}
  {resources : SessionResources Client}

theorem Verdict.unique {answer other : Except Fault Unit}
    (one : Verdict registered settings handle resources answer)
    (two : Verdict registered settings handle resources other) : answer = other := by
  cases one with
  | alreadyOpen taken =>
      cases two with
      | alreadyOpen _ => rfl
      | exceedsMtu free first => exact absurd taken free
      | unsupported free fits first => exact absurd taken free
      | opens free fits switches => exact absurd taken free
  | exceedsMtu free first =>
      cases two with
      | alreadyOpen taken => exact absurd taken free
      | exceedsMtu _ second =>
          obtain ⟨rfl, rfl⟩ := first.unique second
          rfl
      | unsupported _ fits _ => exact absurd fits first.not_fits
      | opens _ fits _ => exact absurd fits first.not_fits
  | unsupported free fits first =>
      cases two with
      | alreadyOpen taken => exact absurd taken free
      | exceedsMtu _ second => exact absurd fits second.not_fits
      | unsupported _ _ second => rw [first.unique second]
      | opens _ _ switches => exact absurd switches first.not_switches
  | opens free fits switches =>
      cases two with
      | alreadyOpen taken => exact absurd taken free
      | exceedsMtu _ second => exact absurd fits second.not_fits
      | unsupported _ _ second => exact absurd switches second.not_switches
      | opens _ _ _ => rfl

theorem Session.ofResources_eq_error {fault : Fault}
    (unfit : Session.ofResources settings handle resources = .error fault) :
    resources.catalog.checkMtu settings.mtu = .error fault ∨
      resources.catalog.checkMtu settings.mtu = .ok () ∧
        Harvester.create resources.units resources.catalog.sizeTable settings.mtu =
          .error fault := by
  unfold ofResources at unfit
  cases fits : resources.catalog.checkMtu settings.mtu with
  | error other =>
      rw [fits] at unfit
      cases unfit
      exact .inl rfl
  | ok checked =>
      rw [fits] at unfit
      cases made : Harvester.create resources.units resources.catalog.sizeTable settings.mtu with
      | error other =>
          rw [made] at unfit
          cases unfit
          exact .inr ⟨rfl, rfl⟩
      | ok harvester =>
          rw [made] at unfit
          cases unfit

/-- For a handle that is free, the checks come to the documented answer. -/
theorem Verdict.of_ofResources (free : handle ∉ registered) :
    Verdict registered settings handle resources
      ((Session.ofResources settings handle resources).map fun _ => ()) := by
  cases made : Session.ofResources settings handle resources with
  | ok session =>
      obtain ⟨fits, switches, _⟩ := Session.ofResources_eq_ok made
      exact .opens free (Catalog.checkMtu_eq_ok_iff.mp fits) switches
  | error fault =>
      rcases Session.ofResources_eq_error made with exceeds | ⟨fits, odd⟩
      · obtain ⟨id, clause, first, rfl⟩ := Catalog.checkMtu_eq_error_iff.mp exceeds
        exact .exceedsMtu free first
      · obtain ⟨unit, first, rfl⟩ := Harvester.create_eq_error odd
        exact .unsupported free (Catalog.checkMtu_eq_ok_iff.mp fits) first

/-- The checks need no broker that can be called.  Whichever is given, they come to the
same answer, and the session gets the broker as it was. -/
theorem Session.ofResources_withBroker {Other : Type} (settings : Settings) (handle : Handle)
    (resources : SessionResources Client) (broker : Other) :
    (Session.ofResources settings handle (resources.withBroker broker)).map
        (fun session => session.publisher.broker) =
      (Session.ofResources settings handle resources).map fun _ => broker := by
  unfold ofResources SessionResources.withBroker
  dsimp only
  cases resources.catalog.checkMtu settings.mtu with
  | error fault => rfl
  | ok checked =>
      cases Harvester.create resources.units resources.catalog.sizeTable settings.mtu with
      | error fault => rfl
      | ok harvester => rfl

end Checks

/-! ### Hosts -/

theorem Host.register_verdict {host : Host} (sound : host.table.Sound) (settings : Settings)
    (handle : Handle) (resources : SessionResources) :
    Verdict host.table.handles settings handle resources
      ((host.register settings handle resources).map fun _ => ()) := by
  rcases host.register_cases settings handle resources with
    ⟨slot, known, result⟩ | ⟨fault, free, unfit, result⟩ | ⟨session, free, fit, result⟩
  · rw [result]
    refine .alreadyOpen ?_
    rw [HandleTable.handles_eq]
    exact List.mem_map_of_mem (sound.find?_eq_some_iff.mp known)
  · have verdict : Verdict host.table.handles settings handle resources _ :=
      .of_ofResources (sound.find?_eq_none_iff.mp free)
    rw [unfit] at verdict
    rw [result]
    exact verdict
  · have verdict : Verdict host.table.handles settings handle resources _ :=
      .of_ofResources (sound.find?_eq_none_iff.mp free)
    rw [fit] at verdict
    rw [result]
    exact verdict

namespace SharedHost

/-- How a thread that is about to open a session is answered, and what its turn changes. -/
structure AnswersOpen (shared : SharedHost) (thread : Nat) (settings : Settings)
    (handle : Handle) (resources : SessionResources) (result : Except Fault Nat)
    (next : SharedHost) : Prop where
  acts : shared.act? thread = some next
  returns : next.threads thread = .returning (.opened result)
  others : ∀ other, other ≠ thread → next.threads other = shared.threads other
  verdict : Verdict shared.host.table.handles settings handle resources
    (result.map fun _ => ())
  only : ∀ answer, Verdict shared.host.table.handles settings handle resources answer →
    answer = result.map fun _ => ()
  /-- The table with its buckets and all sessions stay as they are. -/
  rejected : ∀ fault, result = .error fault → next.host = shared.host
  /-- The table has one entry more, at the end of its bucket. -/
  added : ∀ slot, result = .ok slot →
    next.host.table = shared.host.table.insert handle slot ∧
      next.host.table.entries.Perm ((handle, slot) :: shared.host.table.entries)
  /-- It is that of a new session; those that there were stay as they are. -/
  session : ∀ slot, result = .ok slot → slot = shared.host.sessions.length ∧
    ∃ session, Session.ofResources settings handle resources = .ok session ∧
      next.host.sessions = shared.host.sessions ++ [({ session } : HostedSession)]
  /-- The broker takes no part: with any other one, even of a kind that cannot be called,
  the answer is the same, and a session gets it as it was. -/
  untouched : ∀ (Other : Type) (broker : Other),
    (Session.ofResources settings handle (resources.withBroker broker)).map
        (fun session => session.publisher.broker) =
      (Session.ofResources settings handle resources).map fun _ => broker

theorem answersOpen {shared : SharedHost} (sound : shared.host.table.Sound) {thread : Nat}
    {settings : Settings} {handle : Handle} {resources : SessionResources}
    (stands : shared.threads thread = .opening settings handle resources) :
    ∃ result next, shared.AnswersOpen thread settings handle resources result next := by
  have verdict := Host.register_verdict sound settings handle resources
  cases registered : shared.host.register settings handle resources with
  | error fault =>
      rw [registered] at verdict
      refine ⟨.error fault, shared.turn thread (.returning (.opened (.error fault))), ?_⟩
      constructor
      · simp only [act?, stands, registered]
      · exact threads_turn_self _ _ _
      · exact fun other apart => threads_turn_other _ apart _
      · exact verdict
      · exact fun answer documented => documented.unique verdict
      · exact fun _ _ => rfl
      · intro _ same
        cases same
      · intro _ same
        cases same
      · exact fun Other broker => Session.ofResources_withBroker settings handle resources broker
  | ok opened =>
      obtain ⟨slot, host⟩ := opened
      rw [registered] at verdict
      obtain ⟨free, new, table, session, made, sessions⟩ := Host.register_eq_ok registered
      refine ⟨.ok slot, { shared with host }.turn thread (.returning (.opened (.ok slot))), ?_⟩
      constructor
      · simp only [act?, stands, registered]
      · exact threads_turn_self _ _ _
      · exact fun other apart => threads_turn_other _ apart _
      · exact verdict
      · exact fun answer documented => documented.unique verdict
      · intro _ same
        cases same
      · intro other same
        cases same
        refine ⟨table, ?_⟩
        change host.table.entries.Perm _
        rw [table]
        exact sound.insert_entries handle slot
      · intro other same
        cases same
        exact ⟨new, session, made, sessions⟩
      · exact fun Other broker => Session.ofResources_withBroker settings handle resources broker

end SharedHost

/-- Whatever has happened to a host before, an open is answered as documented, and one
that is rejected changes nothing. -/
theorem WatchedHost.opening_answered {hash : Handle → Nat} {settings : Settings} {host : Host}
    {events : List HostEvent} {final : WatchedHost}
    (created : Host.createWith hash settings = .ok host)
    (run : run? { shared := { host } } events = some final) {thread : Nat} {current : Settings}
    {handle : Handle} {resources : SessionResources}
    (stands : final.shared.threads thread = .opening current handle resources) :
    ∃ result next,
      final.shared.AnswersOpen thread current handle resources result next :=
  SharedHost.answersOpen ((Atomic.created created).run run).sound stands

/-- The handle is registered, which comes before a unit that is no switch buffer. -/
theorem WatchedHost.opening_answered_sample :
    let odd : SessionResources :=
      { SessionResources.sample with units := [{ policy := .ring, capacity := 8 }] }
    let events : List HostEvent :=
      [.call 0 (.openSession ⟨1⟩ SessionResources.sample), .act 0,
        .call 1 (.openSession ⟨1⟩ odd)]
    ∃ host final current resources next,
      Host.createWith (fun handle => handle.id.toNat) { registryBuckets := 2 } = .ok host ∧
        run? { shared := { host } } events = some final ∧
        final.shared.threads 1 = .opening current ⟨1⟩ resources ∧
        final.shared.AnswersOpen 1 current ⟨1⟩ resources (.error (.alreadyOpen ⟨1⟩)) next := by
  intro odd events
  have known :
      (match Host.createWith (fun handle => handle.id.toNat) { registryBuckets := 2 } with
        | .ok host =>
            (run? { shared := { host } } events).map fun final =>
              (final.shared.host.table.handles,
                match final.shared.threads 1 with
                | .opening _ handle _ => some handle
                | _ => none)
        | .error _ => none) = some ([⟨1⟩], some ⟨1⟩) := by
    decide +kernel
  split at known
  next host created =>
    obtain ⟨final, run, reached⟩ := Option.map_eq_some_iff.mp known
    obtain ⟨handles, opening⟩ := Prod.mk.inj reached
    split at opening
    next current handle resources stands =>
      cases opening
      obtain ⟨result, next, answers⟩ := opening_answered created run stands
      have taken : (⟨1⟩ : Handle) ∈ final.shared.host.table.handles := by
        rw [handles]
        exact List.mem_singleton_self _
      have rejected := answers.only _ (.alreadyOpen taken)
      cases result with
      | ok slot => cases rejected
      | error fault =>
          cases rejected
          exact ⟨host, final, current, resources, next, created, run, stands, answers⟩
    next => cases opening
  next => cases known

end TraceForward
