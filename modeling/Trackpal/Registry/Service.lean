import Trackpal.Backend.Transport

/-!
# The registry's operations

`lookup_executor_registry.py` and the mutations of the `lookup_executors`
endpoints, each as a function from the row that the request loaded to the row as
its session holds it before the commit. A challenge is a parameter: whether the
destination that was challenged answered.
-/

namespace Trackpal.Registry

open Trackpal.Protocol Trackpal.Backend

/-! ## Challenges -/

/-- `_challenge` takes the result of the transport only for this executor and
protocol version 1. -/
def challengeAccepted (executor : LookupExecutor) :
    Except ChallengeError ChallengeResult → Bool
  | .ok result => result.executorId = executor.id ∧ result.protocolVersion = 1
  | .error _ => false

/-- The key that `_challenge` tries: `none` if the pending one is incomplete. -/
def challengeCandidate (executor : LookupExecutor) (usePending : Bool) : Option ExecutorView :=
  if usePending then
    match executor.pendingSecretEncrypted, executor.pendingSecretVersion with
    | some encrypted, some version => some (candidateWithSecret executor encrypted version)
    | _, _ => none
  else some (storedView executor)

def viewDestination (executor : ExecutorView) : Destination :=
  ⟨executor.baseUrl, executor.transportMode, executor.secretEncrypted⟩

/-! ## Operations -/

/-- `create_executor`: a draft with a generated secret. -/
def createExecutor (id : UUID) (baseUrl : String) (transportMode : TransportMode)
    (maxConcurrency : Nat) (plainSecret : String) : LookupExecutor :=
  ⟨id, baseUrl, transportMode, .draft, .unknown, false, maxConcurrency, encryptValue plainSecret, 1,
    none, none, none, none, none, none⟩

/-- The failure branch of `verify_executor` and `test_executor`. -/
def verificationFailed (executor : LookupExecutor) (now : Int) : LookupExecutor :=
  { executor.updateHealth .unhealthy (some "executor verification failed") now with
    requiresReverification := true
    lastVerifiedAt := none }

/-- A verified key is promoted if it was pending; otherwise the quarantine is
lifted. -/
def trustKey (executor : LookupExecutor) : Option LookupExecutor :=
  if executor.pendingSecretEncrypted.isSome then executor.promotePendingSecret
  else some { executor with requiresReverification := false }

/-- The success branch of `verify_executor`; `none` if there is nothing to promote. -/
def verificationSucceeded (executor : LookupExecutor) (now : Int) : Option LookupExecutor :=
  (trustKey executor).map fun trusted =>
    { trusted with
      lastVerifiedAt := some now
      lifecycleStatus := .active }.updateHealth .healthy none now

/-- What `verify_executor` comes to. -/
inductive Verification where
  /-- A `ValueError`: nothing is committed. -/
  | raised (detail : String)
  | failed (executor : LookupExecutor)
  | verified (executor : LookupExecutor)
deriving DecidableEq, Repr

/-- The key that `verify_executor` challenges. -/
def verificationCandidate (executor : LookupExecutor) : Option ExecutorView :=
  challengeCandidate executor executor.pendingSecretEncrypted.isSome

/-- `verify_executor`. `answers` is the transport's challenge of a view. -/
def verifyExecutor (executor : LookupExecutor) (confirmation : Option String)
    (answers : ExecutorView → Except ChallengeError ChallengeResult) (now : Int) : Verification :=
  if executor.transportMode = .httpEncrypted ∧ confirmation ≠ some "ALLOW HTTP" then
    .raised "insecure_http_confirmation_required"
  else
    match verificationCandidate executor with
    | none => .failed (verificationFailed executor now)
    | some view =>
      if challengeAccepted executor (answers view) then
        match verificationSucceeded executor now with
        | some row => .verified row
        | none => .raised "No pending secret to promote"
      else .failed (verificationFailed executor now)

/-- `test_executor`: a challenge of the stored key. -/
def testExecutor (executor : LookupExecutor)
    (answers : ExecutorView → Except ChallengeError ChallengeResult) (now : Int) : LookupExecutor :=
  if challengeAccepted executor (answers (storedView executor)) then
    executor.updateHealth .healthy none now
  else verificationFailed executor now

/-- `rotate_secret`: store a pending key under the next version. -/
def rotateSecret (executor : LookupExecutor) (plainSecret : String) : LookupExecutor :=
  executor.setPendingSecret plainSecret (executor.secretVersion + 1)

def destinationChanged (executor : LookupExecutor) (fields : LookupExecutor.Update) : Bool :=
  fields.baseUrl.any (· ≠ executor.baseUrl) ∨ fields.transportMode.any (· ≠ executor.transportMode)

def updateLookupExecutor (executor : LookupExecutor) (fields : LookupExecutor.Update) (now : Int) :
    LookupExecutor :=
  let updated := executor.update fields
  if destinationChanged executor fields then
    { updated with
      requiresReverification := true
      lastVerifiedAt := none
      lifecycleStatus :=
        if updated.lifecycleStatus = LifecycleStatus.active then .disabled
        else updated.lifecycleStatus }.updateHealth
      .unknown (some "executor configuration changed") now
  else updated

/-- The check of `_set_lifecycle` before it enables an executor. -/
def mayEnable (executor : LookupExecutor) : Bool :=
  executor.requiresReverification = false ∧ executor.healthStatus = .healthy ∧
    executor.lastVerifiedAt.isSome

/-- `_set_lifecycle`: `none` is the 409. -/
def setLifecycle (executor : LookupExecutor) (lifecycle : LifecycleStatus) :
    Option LookupExecutor :=
  if lifecycle = .active ∧ mayEnable executor = false then none
  else some (executor.updateLifecycleStatus lifecycle)

/-- What `_handle_handoff` and `_handle_transport_failure` do to the executor. -/
inductive HandoffHealth where
  | accepted
  /-- A security or protocol error: quarantine. -/
  | quarantine (safeError : Option String)
  | failure (status : HealthStatus) (error : String)
deriving DecidableEq, Repr

/-- The executor part of `_handle_handoff`. -/
def recordHandoff (executor : LookupExecutor) (now : Int) : HandoffHealth → LookupExecutor
  | .accepted => executor.updateHealth .healthy none now
  | .quarantine safeError =>
    { executor with requiresReverification := true }.updateHealth .unreachable safeError now
  | .failure status error => executor.updateHealth status (some error) now

end Trackpal.Registry
