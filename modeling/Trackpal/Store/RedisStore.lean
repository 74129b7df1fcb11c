import Trackpal.Foundation.ExpiringStore
import Trackpal.Foundation.FiniteMap
import Trackpal.Store.CoordinationStore
import Trackpal.Store.JobQueue
import Mathlib.Algebra.Order.Floor.Ring

/-!
# The Redis store

`RedisLookupCoordinationStore`. Every call is one command or one script, so it is
one step. A key disappears when its TTL, in whole seconds, has run out; a
reservation may be given a key that lives longer. The scores of the executors'
sorted sets are the exact expiry times.

The branches of the scripts that undo a half-done update after an error of Redis
are left out, and so is the failover of the connection manager.
-/

namespace Trackpal.Store

open Trackpal.Protocol Trackpal.Foundation

variable {K : Type*}

/-! ## Leases -/

/-- The keys `lookup:lease:*` and the sorted sets `lookup:executor-leases:*`. -/
structure RedisLeases (K : Type*) where
  leases : ExpiringStore UUID (LookupLease K) K
  executorLeases : UUID → FiniteMap UUID K

namespace RedisLeases

/-- No leases. -/
def empty : RedisLeases K := ⟨.empty, fun _ => .empty⟩

/-- `SET` and `ZADD`: the key of the lease, and its member. -/
def record (s : RedisLeases K) (lease : LookupLease K) (expiry : K) : RedisLeases K where
  leases := s.leases.set lease.jobId lease expiry
  executorLeases := Function.update s.executorLeases lease.executorId
    ((s.executorLeases lease.executorId).put lease.jobId lease.expiresAt)

/-- `ZREM` and `DEL`: the key of the job, and its member in the set of an executor. -/
def forget (s : RedisLeases K) (jobId executorId : UUID) : RedisLeases K where
  leases := s.leases.del jobId
  executorLeases := Function.update s.executorLeases executorId
    ((s.executorLeases executorId).erase jobId)

variable {s : RedisLeases K} {lease : LookupLease K} {expiry : K}
  {job job' executor executor' : UUID}

theorem leases_record : (s.record lease expiry).leases job =
    if job = lease.jobId then some (lease, expiry) else s.leases job := by
  unfold record ExpiringStore.set
  split
  · next h =>
    subst h
    exact Function.update_self _ _ _
  · next h => exact Function.update_of_ne h _ _

theorem markers_record : ((s.record lease expiry).executorLeases executor).get job =
    if executor = lease.executorId ∧ job = lease.jobId then some lease.expiresAt
    else (s.executorLeases executor).get job := by
  unfold record
  rcases eq_or_ne executor lease.executorId with rfl | hexec
  · rcases eq_or_ne job lease.jobId with rfl | hjob
    · simp
    · simp [hjob]
  · simp [hexec]

theorem leases_forget : (s.forget job executor).leases job' =
    if job' = job then none else s.leases job' := by
  unfold forget ExpiringStore.del
  split
  · next h =>
    subst h
    exact Function.update_self _ _ _
  · next h => exact Function.update_of_ne h _ _

theorem markers_forget : ((s.forget job executor).executorLeases executor').get job' =
    if executor' = executor ∧ job' = job then none else (s.executorLeases executor').get job' := by
  unfold forget
  rcases eq_or_ne executor' executor with rfl | hexec
  · rcases eq_or_ne job' job with rfl | hjob
    · simp
    · simp [hjob]
  · simp [hexec]

variable [LinearOrder K]

/-- `get_lease`: a lease whose key is still there may have expired. -/
def getLease (s : RedisLeases K) (now : K) (jobId : UUID) : Option (LookupLease K) :=
  (s.leases.get now jobId).filter fun lease => now < lease.expiresAt

/-- `release_lease`: nothing happens without the key. -/
def releaseLease (s : RedisLeases K) (now : K) (jobId : UUID) : RedisLeases K :=
  match s.leases.get now jobId with
  | none => s
  | some lease => s.forget jobId lease.executorId

/-- The sorted set of an executor without the members that have expired. -/
def unexpired (s : RedisLeases K) (now : K) (executorId : UUID) : FiniteMap UUID K :=
  (s.executorLeases executorId).keep fun score => now < score

/-- `active_count`: `ZREMRANGEBYSCORE`, `ZCARD`. -/
def activeCount (s : RedisLeases K) (now : K) (executorId : UUID) : RedisLeases K × Nat :=
  let pruned := s.unexpired now executorId
  (⟨s.leases, Function.update s.executorLeases executorId pruned⟩, pruned.size)

variable {now now' : K}

theorem getLease_record (hle : lease.expiresAt ≤ expiry) :
    (s.record lease expiry).getLease now job =
      if job = lease.jobId then (some lease).filter fun lease => now < lease.expiresAt
      else s.getLease now job := by
  unfold getLease ExpiringStore.get
  rw [leases_record]
  by_cases hjob : job = lease.jobId
  · rw [if_pos hjob, if_pos hjob]
    by_cases hlt : now < lease.expiresAt
    · simp [Option.filter, hlt, lt_of_lt_of_le hlt hle]
    · by_cases hkey : now < expiry
      · simp [hkey]
      · simp [Option.filter, hkey, hlt]
  · rw [if_neg hjob, if_neg hjob]

theorem getLease_releaseLease (hle : now ≤ now') :
    (s.releaseLease now job).getLease now' job' =
      if job' = job then none else s.getLease now' job' := by
  unfold releaseLease
  split
  · next habsent =>
    split
    · next hjob =>
      subst hjob
      unfold getLease
      cases hget : s.leases.get now' job' with
      | none => rfl
      | some lease =>
        rw [ExpiringStore.get_eq_some_of_le hget hle] at habsent
        cases habsent
    · rfl
  · unfold getLease ExpiringStore.get
    rw [leases_forget]
    by_cases hjob : job' = job
    · rw [if_pos hjob, if_pos hjob]
      rfl
    · rw [if_neg hjob, if_neg hjob]

end RedisLeases

variable [Field K] [LinearOrder K] [FloorRing K]

def ttlUntil (now expiresAt : K) : Int := max 1 ⌈expiresAt - now⌉

/-- The expiry of a key that is written with `ex=max(1, ttl_seconds)`. -/
def keyExpiry (now : K) (ttlSeconds : Int) : K := now + (max 1 ttlSeconds : Int)

/-- `reserve_lease`: nothing is written while the job has a key. The key lives `late`
longer than its TTL. -/
def RedisLeases.reserveLease (s : RedisLeases K) (now : K) (jobId executorId leaseId : UUID)
    (expiresAt late : K) : RedisLeases K × Bool :=
  if expiresAt ≤ now then (s, false)
  else if (s.leases.get now jobId).isSome then (s, false)
  else (s.record ⟨jobId, executorId, leaseId, expiresAt⟩ (now + ttlUntil now expiresAt + late), true)

/-! ## The whole store -/

structure RedisStore (K : Type*) where
  queue : JobQueue
  dispatchLocks : ExpiringStore UUID Unit K
  leases : RedisLeases K
  callbackNonces : ExpiringStore (UUID × String) Unit K
  results : ExpiringStore UUID (String × String) K
  resumeUrls : ExpiringStore UUID String K
  cooldowns : ExpiringStore UUID Unit K

namespace RedisStore

/-- A Redis without keys. -/
def empty : RedisStore K := ⟨.empty, .empty, .empty, .empty, .empty, .empty, .empty⟩

/-- One call. `handoffTimeout` is `lookup_executor_handoff_timeout_seconds`. -/
def exec (handoffTimeout : Int) (s : RedisStore K) (now : K) :
    Operation K → RedisStore K × Reply K
  | .enqueue jobId =>
    let (queue, added) := s.queue.enqueue jobId
    ({ s with queue := queue }, .bool added)
  | .pop =>
    let (queue, jobId) := s.queue.pop
    ({ s with queue := queue }, .job jobId)
  | .hasQueuedJobs excludingJobId => (s, .bool (s.queue.hasQueuedJobs excludingJobId))
  | .acquireDispatchLock jobId =>
    let (locks, acquired) := s.dispatchLocks.setNX now jobId () (keyExpiry now handoffTimeout)
    ({ s with dispatchLocks := locks }, .bool acquired)
  | .releaseDispatchLock jobId =>
    ({ s with dispatchLocks := s.dispatchLocks.del jobId }, .none)
  | .reserveLease jobId executorId leaseId expiresAt =>
    let (leases, reserved) := s.leases.reserveLease now jobId executorId leaseId expiresAt 0
    ({ s with leases := leases }, .bool reserved)
  | .getLease jobId => (s, .lease (s.leases.getLease now jobId))
  | .releaseLease jobId => ({ s with leases := s.leases.releaseLease now jobId }, .none)
  | .activeCount executorId =>
    let (leases, count) := s.leases.activeCount now executorId
    ({ s with leases := leases }, .count count)
  | .consumeCallbackNonce executorId nonce ttlSeconds =>
    let (nonces, consumed) :=
      s.callbackNonces.setNX now (executorId, nonce) () (keyExpiry now ttlSeconds)
    ({ s with callbackNonces := nonces }, .bool consumed)
  | .putResult jobId resultType resultValue ttlSeconds =>
    ({ s with results := s.results.set jobId (resultType, resultValue) (keyExpiry now ttlSeconds) },
      .none)
  | .getResult jobId => (s, .result (s.results.get now jobId))
  | .putResumeUrl jobId resumeUrl ttlSeconds =>
    ({ s with resumeUrls := s.resumeUrls.set jobId resumeUrl (keyExpiry now ttlSeconds) }, .none)
  | .getResumeUrl jobId => (s, .url (s.resumeUrls.get now jobId))
  | .deleteResumeUrl jobId => ({ s with resumeUrls := s.resumeUrls.del jobId }, .none)
  | .setFailureCooldown executorId ttlSeconds =>
    ({ s with cooldowns := s.cooldowns.set executorId () (keyExpiry now ttlSeconds) }, .none)
  | .isFailureCooldownActive executorId => (s, .bool (s.cooldowns.get now executorId).isSome)
  | .clearFailureCooldown executorId => ({ s with cooldowns := s.cooldowns.del executorId }, .none)

end RedisStore

end Trackpal.Store
