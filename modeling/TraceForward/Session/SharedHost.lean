/-
A host that many threads use at once.

A call looks at a bucket, or changes it, with the lock of the bucket held, and
holds no lock between two such moments.  So a thread that stops all sessions
first lists them, bucket by bucket, and then closes what it has listed, while
others may open and close sessions of their own.  Workers are taken to start
when they are asked to, and a thread waits for a worker until it has ended.
-/

import TraceForward.Session.Host

namespace TraceForward

inductive RegistryCall where
  | openSession (handle : Handle) (resources : SessionResources)
  | find (handle : Handle)
  | close (handle : Handle)
  | stopAll

/-- What a call comes to.  A session is given by its position. -/
inductive RegistryReply where
  | opened (result : Except Fault Nat)
  | found (slot : Option Nat)
  | closed (result : Except Fault SessionReport)
  | stoppedAll (reports : List (Handle × SessionReport))

/-- What a thread closes a session for. -/
inductive Errand where
  | single
  /-- To stop all sessions: those still to be closed, and the reports so far. -/
  | sweep (rest : List Handle) (reports : List (Handle × SessionReport))

inductive CallStage where
  | idle
  | opening (settings : Settings) (handle : Handle) (resources : SessionResources)
  | finding (handle : Handle)
  | listing (position : Nat) (handles : List Handle)
  | closing (handle : Handle) (errand : Errand)
  | stopping (handle : Handle) (slot : Nat) (errand : Errand)
  | joining (handle : Handle) (slot : Nat) (errand : Errand)
  | returning (reply : RegistryReply)

namespace CallStage

def sweep : List Handle → List (Handle × SessionReport) → CallStage
  | [], reports => .returning (.stoppedAll reports)
  | handle :: rest, reports => .closing handle (.sweep rest reports)

end CallStage

namespace Errand

/-- How a thread goes on when the session was not registered; in a sweep
somebody else was first. -/
def missing (handle : Handle) : Errand → CallStage
  | .single => .returning (.closed (.error (.unknownSession handle)))
  | .sweep rest reports => .sweep rest reports

def done (handle : Handle) (report : SessionReport) : Errand → CallStage
  | .single => .returning (.closed (.ok report))
  | .sweep rest reports => .sweep rest (reports ++ [(handle, report)])

end Errand

structure SharedHost where
  host : Host
  threads : Nat → CallStage := fun _ => .idle

inductive HostEvent where
  | call (thread : Nat) (call : RegistryCall)
  | act (thread : Nat)
  | session (slot : Nat) (event : SessionEvent)
  | configure (change : Settings → Settings)

namespace SharedHost

def turn (shared : SharedHost) (thread : Nat) (stage : CallStage) : SharedHost :=
  { shared with
    threads := fun other => if other = thread then stage else shared.threads other }

def begin (shared : SharedHost) : RegistryCall → CallStage
  | .openSession handle resources => .opening shared.host.live.current handle resources
  | .find handle => .finding handle
  | .close handle => .closing handle .single
  | .stopAll => .listing 0 []

def sessionAfter? (shared : SharedHost) (slot : Nat) (event : SessionEvent) :
    Option SharedHost := do
  let hosted ← shared.host.sessions[slot]?
  let session ← hosted.session.after? event
  return { shared with host := shared.host.modifySession slot fun _ => { hosted with session } }

/-- The final account of the session at a position, once its worker has ended. -/
def finalReport? (shared : SharedHost) (slot : Nat) : Option SessionReport := do
  let hosted ← shared.host.sessions[slot]?
  if hosted.hasEnded then some hosted.session.report else none

def act? (shared : SharedHost) (thread : Nat) : Option SharedHost :=
  match shared.threads thread with
  | .idle => none
  | .opening settings handle resources =>
      match shared.host.register settings handle resources with
      | .error fault => some (shared.turn thread (.returning (.opened (.error fault))))
      | .ok (slot, host) =>
          some ({ shared with host }.turn thread (.returning (.opened (.ok slot))))
  | .finding handle =>
      some (shared.turn thread (.returning (.found (shared.host.table.find? handle))))
  | .listing position handles =>
      match shared.host.table.buckets[position]? with
      | none => some (shared.turn thread (.sweep handles []))
      | some row =>
          some (shared.turn thread (.listing (position + 1) (handles ++ row.map Prod.fst)))
  | .closing handle errand =>
      match shared.host.withdraw handle with
      | none => some (shared.turn thread (errand.missing handle))
      | some (slot, host) =>
          some ({ shared with host }.turn thread (.stopping handle slot errand))
  | .stopping handle slot errand =>
      (shared.sessionAfter? slot .requestStop).map
        fun shared => shared.turn thread (.joining handle slot errand)
  | .joining handle slot errand =>
      (shared.finalReport? slot).map
        fun report => shared.turn thread (errand.done handle report)
  | .returning _ => some (shared.turn thread .idle)

def after? (shared : SharedHost) : HostEvent → Option SharedHost
  | .call thread call =>
      match shared.threads thread with
      | .idle => some (shared.turn thread (shared.begin call))
      | _ => none
  | .act thread => shared.act? thread
  | .session slot event => shared.sessionAfter? slot event
  | .configure change =>
      match shared.host.live.update change with
      | .error _ => some shared
      | .ok live => some { shared with host := { shared.host with live } }

end SharedHost

end TraceForward
