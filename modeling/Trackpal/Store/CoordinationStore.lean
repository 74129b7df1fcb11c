import Trackpal.Protocol.Wire

/-!
# The operations of a coordination store

The calls of `LookupCoordinationStore` with their arguments, and what they
return. Instants are elements of any ordered field, so that the clock may be as
fine as one likes. An encrypted value is the value: a token that was written is
decrypted with the key it was encrypted with.
-/

namespace Trackpal.Store

open Trackpal.Protocol

structure LookupLease (K : Type*) where
  jobId : UUID
  executorId : UUID
  leaseId : UUID
  expiresAt : K
deriving DecidableEq, Repr

/-- A call of the store. -/
inductive Operation (K : Type*) where
  | enqueue (jobId : UUID)
  | pop
  | hasQueuedJobs (excludingJobId : Option UUID)
  | acquireDispatchLock (jobId : UUID)
  | releaseDispatchLock (jobId : UUID)
  | reserveLease (jobId executorId leaseId : UUID) (expiresAt : K)
  | getLease (jobId : UUID)
  | releaseLease (jobId : UUID)
  | activeCount (executorId : UUID)
  | consumeCallbackNonce (executorId : UUID) (nonce : String) (ttlSeconds : Int)
  | putResult (jobId : UUID) (resultType resultValue : String) (ttlSeconds : Int)
  | getResult (jobId : UUID)
  | putResumeUrl (jobId : UUID) (resumeUrl : String) (ttlSeconds : Int)
  | getResumeUrl (jobId : UUID)
  | deleteResumeUrl (jobId : UUID)
  | setFailureCooldown (executorId : UUID) (ttlSeconds : Int)
  | isFailureCooldownActive (executorId : UUID)
  | clearFailureCooldown (executorId : UUID)
deriving DecidableEq, Repr

/-- What a call returns. -/
inductive Reply (K : Type*) where
  | none
  | bool (value : Bool)
  | job (jobId : Option UUID)
  | lease (lease : Option (LookupLease K))
  | count (value : Nat)
  | result (value : Option (String × String))
  | url (value : Option String)
deriving DecidableEq, Repr

end Trackpal.Store
