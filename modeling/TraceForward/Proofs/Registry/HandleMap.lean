/-
The registry as an atomic map.

The map knows neither buckets nor a hash.  Whatever a host does with the lock of
a bucket held is one operation of the map, with the answer that the map gives.
-/

import TraceForward.Proofs.Registry.Table
import TraceForward.Session.Host

namespace TraceForward

/-- A partial map from handles to sessions, which are numbered as they are
opened. -/
structure HandleMap where
  session? : Handle → Option Nat := fun _ => none
  opened : Nat := 0

/-- An operation on the map, with its answer. -/
inductive Performed where
  | insert (settings : Settings) (handle : Handle) (resources : SessionResources)
      (answer : Except Fault Nat)
  | find (handle : Handle) (answer : Option Nat)
  | remove (handle : Handle) (answer : Option Nat)

inductive Question where
  | insert (settings : Settings) (handle : Handle) (resources : SessionResources)
  | find (handle : Handle)
  | remove (handle : Handle)

def Performed.question : Performed → Question
  | .insert settings handle resources _ => .insert settings handle resources
  | .find handle _ => .find handle
  | .remove handle _ => .remove handle

namespace HandleMap

def assign (map : HandleMap) (handle : Handle) (slot : Option Nat) : HandleMap :=
  { map with session? := fun other => if other = handle then slot else map.session? other }

inductive Performs (map : HandleMap) : Performed → HandleMap → Prop
  | taken (settings : Settings) (handle : Handle) (resources : SessionResources) (slot : Nat)
      (known : map.session? handle = some slot) :
      Performs map (.insert settings handle resources (.error (.alreadyOpen handle))) map
  | refused (settings : Settings) (handle : Handle) (resources : SessionResources)
      (fault : Fault) (free : map.session? handle = none)
      (unfit : Session.ofResources settings handle resources = .error fault) :
      Performs map (.insert settings handle resources (.error fault)) map
  | inserted (settings : Settings) (handle : Handle) (resources : SessionResources)
      (session : Session ScriptedBroker) (free : map.session? handle = none)
      (fit : Session.ofResources settings handle resources = .ok session) :
      Performs map (.insert settings handle resources (.ok map.opened))
        { map.assign handle (some map.opened) with opened := map.opened + 1 }
  | found (handle : Handle) : Performs map (.find handle (map.session? handle)) map
  | removed (handle : Handle) :
      Performs map (.remove handle (map.session? handle)) (map.assign handle none)

inductive Runs (start : HandleMap) : List Performed → HandleMap → Prop
  | nil : Runs start [] start
  | snoc {earlier : List Performed} {step : Performed} {map next : HandleMap}
      (before : Runs start earlier map) (last : map.Performs step next) :
      Runs start (earlier ++ [step]) next

theorem Performs.unique {map next other : HandleMap} {step twin : Performed}
    (performs : map.Performs step next) (also : map.Performs twin other)
    (same : step.question = twin.question) : step = twin ∧ next = other := by
  cases performs with
  | taken settings handle resources slot known =>
      cases also with
      | taken => cases same; exact ⟨rfl, rfl⟩
      | refused _ _ _ _ free => cases same; cases known.symm.trans free
      | inserted _ _ _ _ free => cases same; cases known.symm.trans free
      | found => cases same
      | removed => cases same
  | refused settings handle resources fault free unfit =>
      cases also with
      | taken _ _ _ _ known => cases same; cases known.symm.trans free
      | refused _ _ _ _ _ alike =>
          cases same
          cases unfit.symm.trans alike
          exact ⟨rfl, rfl⟩
      | inserted _ _ _ _ _ fit => cases same; cases unfit.symm.trans fit
      | found => cases same
      | removed => cases same
  | inserted settings handle resources session free fit =>
      cases also with
      | taken _ _ _ _ known => cases same; cases known.symm.trans free
      | refused _ _ _ _ _ unfit => cases same; cases unfit.symm.trans fit
      | inserted => cases same; exact ⟨rfl, rfl⟩
      | found => cases same
      | removed => cases same
  | found handle =>
      cases also with
      | found => cases same; exact ⟨rfl, rfl⟩
      | _ => cases same
  | removed handle =>
      cases also with
      | removed => cases same; exact ⟨rfl, rfl⟩
      | _ => cases same

theorem Runs.unique {start map other : HandleMap} {steps twins : List Performed}
    (runs : start.Runs steps map) (also : start.Runs twins other)
    (same : steps.map Performed.question = twins.map Performed.question) :
    steps = twins ∧ map = other := by
  induction runs generalizing twins other with
  | nil =>
      cases also with
      | nil => exact ⟨rfl, rfl⟩
      | snoc before last => simp at same
  | snoc before last ih =>
      cases also with
      | nil => simp at same
      | snoc before' last' =>
          rw [List.map_append, List.map_append] at same
          obtain ⟨earlier, one⟩ := List.append_inj' same rfl
          obtain ⟨rfl, rfl⟩ := ih before' earlier
          obtain ⟨rfl, rfl⟩ := last.unique last' (List.cons.inj one).1
          exact ⟨rfl, rfl⟩

theorem assign_of_none {map : HandleMap} {handle : Handle}
    (free : map.session? handle = none) : map.assign handle none = map := by
  obtain ⟨session?, opened⟩ := map
  simp only [assign, mk.injEq, and_true]
  funext other
  split
  next same => rw [same]; exact free.symm
  next => rfl

end HandleMap

namespace Host

def map (host : Host) : HandleMap :=
  { session? := host.table.find?, opened := host.sessions.length }

theorem register_cases (host : Host) (settings : Settings) (handle : Handle)
    (resources : SessionResources) :
    (∃ slot, host.table.find? handle = some slot ∧
        host.register settings handle resources = .error (.alreadyOpen handle)) ∨
      (∃ fault, host.table.find? handle = none ∧
        Session.ofResources settings handle resources = .error fault ∧
        host.register settings handle resources = .error fault) ∨
      (∃ session, host.table.find? handle = none ∧
        Session.ofResources settings handle resources = .ok session ∧
        host.register settings handle resources =
          .ok (host.sessions.length,
            { host with
              table := host.table.insert handle host.sessions.length
              sessions := host.sessions ++ [{ session }] })) := by
  unfold register prepare HandleTable.contains
  cases known : host.table.find? handle with
  | some slot => exact .inl ⟨slot, rfl, rfl⟩
  | none =>
      cases made : Session.ofResources settings handle resources with
      | error fault => exact .inr (.inl ⟨fault, rfl, rfl, rfl⟩)
      | ok session => exact .inr (.inr ⟨session, rfl, rfl, rfl⟩)

variable {host next : Host} {settings : Settings} {handle : Handle}
  {resources : SessionResources} {fault : Fault} {slot : Nat}

theorem performs_of_refused
    (refused : host.register settings handle resources = .error fault) :
    host.map.Performs (.insert settings handle resources (.error fault)) host.map := by
  rcases host.register_cases settings handle resources with
    ⟨slot, known, result⟩ | ⟨other, free, unfit, result⟩ | ⟨session, free, fit, result⟩
  · cases refused.symm.trans result
    exact .taken settings handle resources slot known
  · cases refused.symm.trans result
    exact .refused settings handle resources fault free unfit
  · cases refused.symm.trans result

theorem register_eq_ok
    (registered : host.register settings handle resources = .ok (slot, next)) :
    host.table.find? handle = none ∧ slot = host.sessions.length ∧
      next.table = host.table.insert handle slot ∧
      ∃ session, Session.ofResources settings handle resources = .ok session ∧
        next.sessions = host.sessions ++ [({ session } : HostedSession)] := by
  rcases host.register_cases settings handle resources with
    ⟨slot, known, result⟩ | ⟨other, free, unfit, result⟩ | ⟨session, free, fit, result⟩
  · cases registered.symm.trans result
  · cases registered.symm.trans result
  · cases registered.symm.trans result
    exact ⟨free, rfl, rfl, session, fit, rfl⟩

theorem performs_of_registered (sound : host.table.Sound)
    (registered : host.register settings handle resources = .ok (slot, next)) :
    host.map.Performs (.insert settings handle resources (.ok slot)) next.map := by
  obtain ⟨free, rfl, table, session, fit, sessions⟩ := register_eq_ok registered
  have becomes : next.map =
      { host.map.assign handle (some host.map.opened) with
        opened := host.map.opened + 1 } := by
    simp only [map, HandleMap.assign, HandleMap.mk.injEq]
    refine ⟨?_, ?_⟩
    · funext other
      rw [table, sound.find?_insert free]
    · rw [sessions, List.length_append]
      rfl
  rw [becomes]
  exact .inserted settings handle resources session free fit

theorem withdraw_eq_none (absent : host.withdraw handle = none) :
    host.table.find? handle = none := by
  rw [withdraw, Option.map_eq_none_iff] at absent
  exact HandleTable.unlink_eq_none_iff.mp absent

theorem withdraw_eq_some (taken : host.withdraw handle = some (slot, next)) :
    host.table.unlink handle = some (slot, next.table) ∧
      next = { host with table := next.table } := by
  rw [withdraw, Option.map_eq_some_iff] at taken
  obtain ⟨⟨found, table⟩, unlinked, same⟩ := taken
  obtain ⟨rfl, rfl⟩ := Prod.mk.inj same
  exact ⟨unlinked, rfl⟩

theorem performs_of_missing (absent : host.withdraw handle = none) :
    host.map.Performs (.remove handle none) host.map := by
  have free := withdraw_eq_none absent
  have removed : host.map.Performs (.remove handle (host.map.session? handle))
      (host.map.assign handle none) := .removed handle
  rw [HandleMap.assign_of_none free, show host.map.session? handle = none from free] at removed
  exact removed

theorem performs_of_withdrawn (sound : host.table.Sound)
    (taken : host.withdraw handle = some (slot, next)) :
    host.map.Performs (.remove handle (some slot)) next.map := by
  obtain ⟨unlinked, same⟩ := withdraw_eq_some taken
  have found : host.map.session? handle = some slot := sound.find?_of_unlink unlinked
  have becomes : next.map = host.map.assign handle none := by
    simp only [map, HandleMap.assign, HandleMap.mk.injEq]
    refine ⟨?_, ?_⟩
    · funext other
      rw [sound.find?_unlink unlinked]
    · rw [same]
  rw [becomes, ← found]
  exact .removed handle

end Host
end TraceForward
