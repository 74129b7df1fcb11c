import Trackpal.Foundation.ExpiringStore
import Trackpal.Foundation.FiniteMap
import Trackpal.Store.CoordinationStore
import Trackpal.Store.JobQueue
import Mathlib.Algebra.Field.Defs
import Mathlib.Algebra.Order.Ring.Int

/-!
# The in-memory store

`FakeLookupCoordinationStore`. Its dictionaries hold deadlines next to the values.
An expired entry stays until a call finds it.
-/

namespace Trackpal.Store

open Trackpal.Protocol Trackpal.Foundation

variable {K : Type*} [Field K] [LinearOrder K]

structure FakeStore (K : Type*) where
  queue : JobQueue
  dispatchLocks : ExpiringStore UUID Unit K
  leases : FiniteMap UUID (LookupLease K)
  nonces : ExpiringStore (UUID × String) Unit K
  results : ExpiringStore UUID (String × String) K
  resumeUrls : ExpiringStore UUID String K
  cooldowns : ExpiringStore UUID Unit K

namespace FakeStore

/-- A new store. -/
def empty : FakeStore K := ⟨.empty, .empty, .empty, .empty, .empty, .empty, .empty⟩

/-- `has_queued_jobs`: an absent `excluding_job_id` equals no job. -/
def hasQueuedJobs (s : FakeStore K) (excludingJobId : Option UUID) : Bool :=
  s.queue.jobs.any fun jobId => some jobId ≠ excludingJobId

omit [Field K] [LinearOrder K] in
theorem hasQueuedJobs_eq {s : FakeStore K} {excluded : Option UUID} :
    s.hasQueuedJobs excluded = s.queue.hasQueuedJobs excluded := by
  cases excluded with
  | none => cases h : s.queue.jobs <;> simp [hasQueuedJobs, JobQueue.hasQueuedJobs, h]
  | some job => simp [hasQueuedJobs, JobQueue.hasQueuedJobs]

/-- `reserve_lease`: an expired lease of the job makes room. -/
def reserveLease (s : FakeStore K) (now : K) (jobId executorId leaseId : UUID) (expiresAt : K) :
    FakeStore K × Bool :=
  if expiresAt ≤ now then (s, false)
  else if (s.leases.get jobId).any fun existing => now < existing.expiresAt then (s, false)
  else ({ s with leases := s.leases.put jobId ⟨jobId, executorId, leaseId, expiresAt⟩ }, true)

/-- `get_lease`, which drops a lease that has expired. -/
def getLease (s : FakeStore K) (now : K) (jobId : UUID) :
    FakeStore K × Option (LookupLease K) :=
  match s.leases.get jobId with
  | none => (s, none)
  | some lease =>
    if lease.expiresAt ≤ now then ({ s with leases := s.leases.erase jobId }, none)
    else (s, some lease)

/-- The leases that have not expired. -/
def unexpired (s : FakeStore K) (now : K) : FiniteMap UUID (LookupLease K) :=
  s.leases.keep fun lease => now < lease.expiresAt

/-- `active_count`, which drops every lease that has expired. -/
def activeCount (s : FakeStore K) (now : K) (executorId : UUID) : FakeStore K × Nat :=
  let leases := s.unexpired now
  ({ s with leases := leases }, (leases.keep fun lease => lease.executorId = executorId).size)

/-- The deadline of an entry that lasts `ttl_seconds`, but at least one. -/
def deadline (now : K) (ttlSeconds : Int) : K := now + (max 1 ttlSeconds : Int)

/-- One call. `handoffTimeout` is `lookup_executor_handoff_timeout_seconds`. -/
def exec (handoffTimeout : Int) (s : FakeStore K) (now : K) : Operation K → FakeStore K × Reply K
  | .enqueue jobId =>
    let (queue, added) := s.queue.enqueue jobId
    ({ s with queue := queue }, .bool added)
  | .pop =>
    let (queue, jobId) := s.queue.pop
    ({ s with queue := queue }, .job jobId)
  | .hasQueuedJobs excludingJobId => (s, .bool (s.hasQueuedJobs excludingJobId))
  | .acquireDispatchLock jobId =>
    let (locks, acquired) := s.dispatchLocks.setNX now jobId () (now + handoffTimeout)
    ({ s with dispatchLocks := locks }, .bool acquired)
  | .releaseDispatchLock jobId =>
    ({ s with dispatchLocks := s.dispatchLocks.del jobId }, .none)
  | .reserveLease jobId executorId leaseId expiresAt =>
    let (s, reserved) := s.reserveLease now jobId executorId leaseId expiresAt
    (s, .bool reserved)
  | .getLease jobId =>
    let (s, lease) := s.getLease now jobId
    (s, .lease lease)
  | .releaseLease jobId => ({ s with leases := s.leases.erase jobId }, .none)
  | .activeCount executorId =>
    let (s, count) := s.activeCount now executorId
    (s, .count count)
  | .consumeCallbackNonce executorId nonce ttlSeconds =>
    let (nonces, consumed) := s.nonces.setNX now (executorId, nonce) () (deadline now ttlSeconds)
    ({ s with nonces := nonces }, .bool consumed)
  | .putResult jobId resultType resultValue ttlSeconds =>
    ({ s with results := s.results.set jobId (resultType, resultValue) (deadline now ttlSeconds) },
      .none)
  | .getResult jobId =>
    ({ s with results := s.results.evict now jobId }, .result (s.results.get now jobId))
  | .putResumeUrl jobId resumeUrl ttlSeconds =>
    ({ s with resumeUrls := s.resumeUrls.set jobId resumeUrl (deadline now ttlSeconds) }, .none)
  | .getResumeUrl jobId =>
    ({ s with resumeUrls := s.resumeUrls.evict now jobId }, .url (s.resumeUrls.get now jobId))
  | .deleteResumeUrl jobId => ({ s with resumeUrls := s.resumeUrls.del jobId }, .none)
  | .setFailureCooldown executorId ttlSeconds =>
    ({ s with cooldowns := s.cooldowns.set executorId () (deadline now ttlSeconds) }, .none)
  | .isFailureCooldownActive executorId =>
    ({ s with cooldowns := s.cooldowns.evict now executorId },
      .bool (s.cooldowns.get now executorId).isSome)
  | .clearFailureCooldown executorId => ({ s with cooldowns := s.cooldowns.del executorId }, .none)

end FakeStore

end Trackpal.Store
