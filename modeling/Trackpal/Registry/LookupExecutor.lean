import Trackpal.Protocol.Schemas

/-!
# The executor registry's row

`LookupExecutor` of `models/lookup_executor.py` and the repository operations on
one loaded row (`repositories/lookup_executors_repository.py`). An encrypted
column is the plain text it decrypts to: `decrypt_value` inverts
`encrypt_value`, and nothing compares two tokens.
-/

namespace Trackpal.Registry

open Trackpal.Protocol

/-- A Fernet token, named by the value it decrypts to. -/
structure Encrypted where
  plain : String
deriving DecidableEq, Repr

def encryptValue (value : String) : Encrypted := ⟨value⟩

def decryptValue (token : Encrypted) : String := token.plain

inductive LifecycleStatus where
  | draft
  | active
  | disabled
deriving DecidableEq, Repr

inductive HealthStatus where
  | unknown
  | healthy
  | unhealthy
  | degraded
  | unreachable
deriving DecidableEq, Repr

inductive TransportMode where
  | https
  | httpEncrypted
  | other (value : String)
deriving DecidableEq, Repr

/-- Master-managed connection and lifecycle metadata for an executor. Instants
are microseconds. -/
structure LookupExecutor where
  id : UUID
  baseUrl : String
  transportMode : TransportMode
  lifecycleStatus : LifecycleStatus
  healthStatus : HealthStatus
  requiresReverification : Bool
  maxConcurrency : Nat
  secretEncrypted : Encrypted
  secretVersion : Int
  pendingSecretEncrypted : Option Encrypted
  pendingSecretVersion : Option Int
  lastVerifiedAt : Option Int
  lastHealthCheckAt : Option Int
  lastSuccessAt : Option Int
  lastErrorSafe : Option String
deriving DecidableEq, Repr

/-- What a challenge is aimed at: the address, the transport mode and a secret. -/
structure Destination where
  baseUrl : String
  transportMode : TransportMode
  secret : Encrypted
deriving DecidableEq, Repr

namespace LookupExecutor

/-- The address, the transport mode and the active secret of a row. -/
def destination (executor : LookupExecutor) : Destination :=
  ⟨executor.baseUrl, executor.transportMode, executor.secretEncrypted⟩

/-- The filter of `list_dispatchable`. -/
def dispatchable (executor : LookupExecutor) : Bool :=
  executor.lifecycleStatus = .active ∧ executor.requiresReverification = false

/-- The non-secret members of `LookupExecutorUpdateRequest` that a modelled
function reads. `none` is an unset member. -/
structure Update where
  baseUrl : Option String
  transportMode : Option TransportMode
  maxConcurrency : Option Nat
deriving DecidableEq, Repr

/-- `update`: assign the members that are set. -/
def update (executor : LookupExecutor) (fields : Update) : LookupExecutor :=
  { executor with
    baseUrl := fields.baseUrl.getD executor.baseUrl
    transportMode := fields.transportMode.getD executor.transportMode
    maxConcurrency := fields.maxConcurrency.getD executor.maxConcurrency }

def updateLifecycleStatus (executor : LookupExecutor) (status : LifecycleStatus) : LookupExecutor :=
  { executor with lifecycleStatus := status }

def updateHealth (executor : LookupExecutor) (status : HealthStatus) (error : Option String)
    (now : Int) : LookupExecutor :=
  { executor with
    healthStatus := status
    lastHealthCheckAt := some now
    lastErrorSafe := error
    lastSuccessAt := if status = .healthy then some now else executor.lastSuccessAt }

def setPendingSecret (executor : LookupExecutor) (secret : String) (version : Int) :
    LookupExecutor :=
  { executor with
    pendingSecretEncrypted := some (encryptValue secret)
    pendingSecretVersion := some version }

/-- `promote_pending_secret`, which raises `ValueError` without a pending secret. -/
def promotePendingSecret (executor : LookupExecutor) : Option LookupExecutor :=
  match executor.pendingSecretEncrypted, executor.pendingSecretVersion with
  | some secret, some version =>
    some { executor with
      secretEncrypted := secret
      secretVersion := version
      pendingSecretEncrypted := none
      pendingSecretVersion := none
      requiresReverification := false }
  | _, _ => none

end LookupExecutor

end Trackpal.Registry
