import Trackpal.Foundation.NetChange
import Trackpal.Foundation.Runs
import Trackpal.Registry.Service
import Mathlib.Logic.Function.Basic

/-!
# Concurrent requests on the registry

A request loads an executor row without a lock, may wait for a challenge, and
commits. In between, other requests commit. The session of a request emits an
`UPDATE` for the columns it has changed from what it loaded, so every other
column keeps what another request wrote.

The log of an executor is a history variable: the successful challenges and the
changes of its destination, newest first.
-/

namespace Trackpal.Registry

open Trackpal.Protocol Trackpal.Backend Trackpal.Foundation

/-- The request that a session serves. -/
inductive Operation where
  | update (fields : LookupExecutor.Update)
  | verify (confirmation : Option String)
  | test
  | setLifecycle (lifecycle : LifecycleStatus)
  | rotate (plainSecret : String)
  | handoff (health : HandoffHealth)
deriving DecidableEq, Repr

/-- A request after its read: the row it loaded, and the result of its challenge. -/
structure Session where
  operation : Operation
  loaded : LookupExecutor
  answer : Option (Except ChallengeError ChallengeResult)

/-- A successful challenge by a request, or a commit that changed the destination. -/
inductive Event where
  | challenged (request : Nat) (destination : Destination)
  | changed (destination : Destination)
deriving DecidableEq, Repr

/-- The rows, the open requests and the history of every executor. `next` is the
number of the next request. -/
structure State where
  rows : UUID → Option LookupExecutor
  sessions : Nat → Option Session
  next : Nat
  log : UUID → List Event

/-- The registry without executors. -/
def State.empty : State := ⟨fun _ => none, fun _ => none, 0, fun _ => []⟩

/-- One step of one request. -/
inductive Action where
  /-- `create_lookup_executor` commits a new row. -/
  | create (executor : LookupExecutor)
  | read (id : UUID) (operation : Operation)
  | challenge (request : Nat) (answer : Except ChallengeError ChallengeResult)
  /-- A request commits at `now`. -/
  | commit (request : Nat) (now : Int)
  | abandon (request : Nat)

namespace Session

/-- The view that the request challenges. -/
def candidate (session : Session) : Option ExecutorView :=
  match session.operation with
  | .verify _ => verificationCandidate session.loaded
  | .test => some (storedView session.loaded)
  | _ => none

def awaitsChallenge (session : Session) : Bool :=
  match session.operation with
  | .verify _ | .test => session.answer.isNone
  | _ => false

def challenged (session : Session) : Option Destination :=
  match session.answer, session.candidate with
  | some answer, some view =>
    if challengeAccepted session.loaded answer then some (viewDestination view) else none
  | _, _ => none

/-- The row as the session holds it when it commits; `none` while the request
waits, and when it raises. -/
def held (session : Session) (now : Int) : Option LookupExecutor :=
  match session.operation, session.answer with
  | .update fields, _ => some (updateLookupExecutor session.loaded fields now)
  | .verify confirmation, some answer =>
    match verifyExecutor session.loaded confirmation (fun _ => answer) now with
    | .raised _ => none
    | .failed row | .verified row => some row
  | .test, some answer => some (testExecutor session.loaded (fun _ => answer) now)
  | .verify _, none | .test, none => none
  | .setLifecycle lifecycle, _ => setLifecycle session.loaded lifecycle
  | .rotate plainSecret, _ => some (rotateSecret session.loaded plainSecret)
  | .handoff health, _ => some (recordHandoff session.loaded now health)

end Session

/-- The stored row after the `UPDATE` of a session. -/
def writeRow (loaded held stored : LookupExecutor) : LookupExecutor where
  id := stored.id
  baseUrl := netChange loaded.baseUrl held.baseUrl stored.baseUrl
  transportMode := netChange loaded.transportMode held.transportMode stored.transportMode
  lifecycleStatus := netChange loaded.lifecycleStatus held.lifecycleStatus stored.lifecycleStatus
  healthStatus := netChange loaded.healthStatus held.healthStatus stored.healthStatus
  requiresReverification := netChange loaded.requiresReverification held.requiresReverification
    stored.requiresReverification
  maxConcurrency := netChange loaded.maxConcurrency held.maxConcurrency stored.maxConcurrency
  secretEncrypted := netChange loaded.secretEncrypted held.secretEncrypted stored.secretEncrypted
  secretVersion := netChange loaded.secretVersion held.secretVersion stored.secretVersion
  pendingSecretEncrypted := netChange loaded.pendingSecretEncrypted held.pendingSecretEncrypted
    stored.pendingSecretEncrypted
  pendingSecretVersion := netChange loaded.pendingSecretVersion held.pendingSecretVersion
    stored.pendingSecretVersion
  lastVerifiedAt := netChange loaded.lastVerifiedAt held.lastVerifiedAt stored.lastVerifiedAt
  lastHealthCheckAt := netChange loaded.lastHealthCheckAt held.lastHealthCheckAt
    stored.lastHealthCheckAt
  lastSuccessAt := netChange loaded.lastSuccessAt held.lastSuccessAt stored.lastSuccessAt
  lastErrorSafe := netChange loaded.lastErrorSafe held.lastErrorSafe stored.lastErrorSafe

/-- The history after a commit that takes the row from `stored` to `written`. -/
def logChange (log : List Event) (stored written : LookupExecutor) : List Event :=
  if written.destination = stored.destination then log else .changed written.destination :: log

def logChallenge (log : List Event) (request : Nat) (session : Session) : List Event :=
  match session.challenged with
  | some destination => .challenged request destination :: log
  | none => log

def mayRead (executor : LookupExecutor) : Operation → Bool
  | .handoff _ => executor.dispatchable
  | _ => true

/-- A new row is a draft as `create_executor` makes it. -/
def isDraft (executor : LookupExecutor) : Bool :=
  executor = createExecutor executor.id executor.baseUrl executor.transportMode
    executor.maxConcurrency (decryptValue executor.secretEncrypted)

/-- One step. `none` means that the action is not possible. -/
def step (s : State) : Action → Option State
  | .create executor =>
    if (s.rows executor.id).isNone ∧ isDraft executor then
      some { s with
        rows := Function.update s.rows executor.id (some executor)
        log := Function.update s.log executor.id (.changed executor.destination :: s.log executor.id) }
    else none
  | .read id operation =>
    match s.rows id with
    | some executor =>
      if mayRead executor operation then
        some { s with
          sessions := Function.update s.sessions s.next (some ⟨operation, executor, none⟩)
          next := s.next + 1 }
      else none
    | none => none
  | .challenge request answer =>
    match s.sessions request with
    | some session =>
      if session.awaitsChallenge then
        let answered := { session with answer := some answer }
        some { s with
          sessions := Function.update s.sessions request (some answered)
          log := Function.update s.log session.loaded.id
            (logChallenge (s.log session.loaded.id) request answered) }
      else none
    | none => none
  | .commit request now =>
    match s.sessions request with
    | some session =>
      match session.held now, s.rows session.loaded.id with
      | some held, some stored =>
        let written := writeRow session.loaded held stored
        some { s with
          rows := Function.update s.rows session.loaded.id (some written)
          sessions := Function.update s.sessions request none
          log := Function.update s.log session.loaded.id
            (logChange (s.log session.loaded.id) stored written) }
      | _, _ => none
    | none => none
  | .abandon request =>
    some { s with sessions := Function.update s.sessions request none }

/-- Some run from the empty registry, all of whose steps satisfy `ok`, ends in `s`. -/
def Reachable (ok : State → Action → Prop) (s : State) : Prop :=
  Reaches step ok State.empty s

end Trackpal.Registry
