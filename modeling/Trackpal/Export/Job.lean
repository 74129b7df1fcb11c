import Trackpal.Foundation.Table
import Trackpal.Protocol.Wire

/-!
# Export jobs

The rows of `export_jobs` and the statements of `export_jobs_repository.py`: what each
`SELECT` finds and what each `UPDATE` writes. Instants are microseconds. The columns
that no statement of the lifecycle reads (the size of the artifact, the upload time,
`updated_at`) are left out.

Results:
1. `getLatest_eq_some`, `getReady_eq_some`, `claimable_eq_some`, `downloadable_eq_some`:
   the job that a query finds has what it asks for.
2. `updateStatus_status`, `updateStatus_r2Key`: what `update_status` writes to the two columns
   that the lifecycle turns on.
-/

namespace Trackpal.Export

open Trackpal.Protocol Trackpal.Foundation

inductive JobStatus where
  | pending
  | processing
  | ready
  | failed
  | cancelled
deriving DecidableEq, Repr

/-- `pending` or `processing`. -/
def JobStatus.active : JobStatus → Bool
  | .pending | .processing => true
  | _ => false

structure ObjectKey where
  token : Nat
deriving DecidableEq, Repr

/-- A row of `export_jobs`. -/
structure ExportJob where
  id : UUID
  tenantId : UUID
  requestedBy : UUID
  actorRole : String
  status : JobStatus
  attempts : Nat
  maxAttempts : Nat
  leaseToken : Option UUID
  leaseExpiresAt : Option Int
  r2Key : Option ObjectKey
  readyAt : Option Int
  expiresAt : Option Int
  errorCode : Option String
  errorDetail : Option String
  failedAt : Option Int
  cooldownUntil : Option Int
  replacedJobId : Option UUID
  replacementJobId : Option UUID
  createdAt : Int
deriving DecidableEq, Repr

/-- The table `export_jobs`. -/
abbrev Jobs := Table ExportJob.id

def hour : Int := 3600000000

/-- `EXPORT_TTL_HOURS`. -/
def exportTtl : Int := 72 * hour

/-- `COOLDOWN_HOURS`. -/
def cooldown : Int := 24 * hour

/-- The lease of `claim_pending`, 30 minutes. -/
def leaseTime : Int := 1800000000

/-! ## Queries -/

/-- The instant lies ahead. -/
def after (now : Int) (instant : Option Int) : Bool := instant.any (now < ·)

/-- `ORDER BY created_at DESC, id DESC`. -/
def newerJob (a b : ExportJob) : Bool :=
  b.createdAt < a.createdAt || a.createdAt = b.createdAt && b.id.int < a.id.int

/-- `get_latest_by_tenant`. -/
def getLatest (jobs : Jobs) (tenantId : UUID) : Option ExportJob :=
  pick newerJob (jobs.select fun job => job.tenantId = tenantId)

/-- A ready job that has not expired. -/
def unexpired (now : Int) (job : ExportJob) : Bool :=
  job.status = .ready && after now job.expiresAt

/-- `get_ready_by_tenant`. -/
def getReady (jobs : Jobs) (tenantId : UUID) (now : Int) : Option ExportJob :=
  pick newerJob (jobs.select fun job => job.tenantId = tenantId && unexpired now job)

/-- `is_within_cooldown`: the newest job whose cooldown has not ended. -/
def isWithinCooldown (jobs : Jobs) (tenantId : UUID) (now : Int) : Option ExportJob :=
  pick (fun a b => b.createdAt < a.createdAt)
    (jobs.select fun job => job.tenantId = tenantId && after now job.cooldownUntil)

def waiting (now : Int) (job : ExportJob) : Bool :=
  job.status = .pending && job.attempts < job.maxAttempts &&
    job.leaseExpiresAt.all (· < now)

/-- The `SELECT` of `claim_pending`: the oldest waiting job. -/
def claimable (jobs : Jobs) (now : Int) : Option ExportJob :=
  pick (fun a b => a.createdAt < b.createdAt) (jobs.select (waiting now))

def readyJobs (jobs : Jobs) (tenantId : UUID) (now : Int) : List ExportJob :=
  (jobs.select fun job => job.tenantId = tenantId && unexpired now job && job.r2Key.isSome).mergeSort
    fun a b => b.readyAt.getD 0 ≤ a.readyAt.getD 0

/-- `get_downloadable_job_for_tenant`. -/
def downloadable (jobs : Jobs) (tenantId : UUID) (now : Int) : Option ExportJob :=
  match readyJobs jobs tenantId now with
  | [] => none
  | latest :: others =>
    match latest.replacementJobId.bind jobs.get with
    | some replacement =>
      if replacement.status.active then some (others.headD latest) else some latest
    | none => some latest

/-- `find_expired_ready_jobs`. -/
def expiredReady (jobs : Jobs) (now : Int) : List ExportJob :=
  jobs.select fun job => job.status = .ready && job.expiresAt.any (· < now)

/-- `find_stale_failed_jobs`. -/
def staleFailed (jobs : Jobs) (now : Int) : List ExportJob :=
  jobs.select fun job => job.status = .failed && job.failedAt.any (· < now - exportTtl)

def isCancelled (jobs : Jobs) (id : UUID) : Bool :=
  (jobs.get id).all (·.status = .cancelled)

/-! ## Updates -/

/-- The optional arguments of `update_status`. -/
structure StatusFields where
  r2Key : Option ObjectKey := none
  errorCode : Option String := none
  errorDetail : Option String := none
  expiresAt : Option Int := none
  clearLease : Bool := false
  cooldownUntil : Option Int := none
  replacementJobId : Option UUID := none
deriving DecidableEq, Repr

/-- The row that `update_status` leaves. -/
def ExportJob.withStatus (job : ExportJob) (now : Int) (status : JobStatus)
    (fields : StatusFields) : ExportJob :=
  let job := { job with
    status
    replacementJobId := fields.replacementJobId.or job.replacementJobId
    cooldownUntil := fields.cooldownUntil.or job.cooldownUntil
    leaseToken := if fields.clearLease then none else job.leaseToken
    leaseExpiresAt := if fields.clearLease then none else job.leaseExpiresAt }
  match status with
  | .ready => { job with
      readyAt := some now
      r2Key := fields.r2Key
      expiresAt := fields.expiresAt.or job.expiresAt }
  | .failed => { job with
      errorCode := fields.errorCode
      errorDetail := fields.errorDetail
      failedAt := some now }
  | .cancelled => { job with errorCode := none, errorDetail := none }
  | _ => job

/-- The row that `claim_pending` leaves. -/
def ExportJob.claimed (job : ExportJob) (token : UUID) (leaseExpiresAt : Int) : ExportJob :=
  { job with
    status := .processing
    leaseToken := some token
    leaseExpiresAt := some leaseExpiresAt }

/-- The row that `cancel_job` leaves: only a pending or processing job is cancelled. -/
def ExportJob.cancel (job : ExportJob) : ExportJob :=
  if job.status.active then
    { job with status := .cancelled, leaseToken := none, leaseExpiresAt := none }
  else job

/-- The row that `increment_attempts` leaves. -/
def ExportJob.counted (job : ExportJob) : ExportJob := { job with attempts := job.attempts + 1 }

variable {jobs : Jobs} {job : ExportJob} {id tenantId : UUID} {now : Int} {status : JobStatus}
  {fields : StatusFields} {token : UUID} {leaseExpiresAt : Int}

@[simp] theorem withStatus_id : (job.withStatus now status fields).id = job.id := by
  cases status <;> rfl

@[simp] theorem cancel_id : job.cancel.id = job.id := by
  unfold ExportJob.cancel
  split <;> rfl

/-- `UPDATE export_jobs SET status = …`. -/
def updateStatus (jobs : Jobs) (id : UUID) (now : Int) (status : JobStatus)
    (fields : StatusFields) : Jobs :=
  jobs.modify id (·.withStatus now status fields) fun _ => withStatus_id

/-- The `UPDATE` of `claim_pending`, by primary key. -/
def claim (jobs : Jobs) (id token : UUID) (leaseExpiresAt : Int) : Jobs :=
  jobs.modify id (·.claimed token leaseExpiresAt) fun _ => rfl

def cancelJob (jobs : Jobs) (id : UUID) : Jobs := jobs.modify id (·.cancel) fun _ => cancel_id

def incrementAttempts (jobs : Jobs) (id : UUID) : Jobs := jobs.modify id (·.counted) fun _ => rfl

/-- The row that `create` inserts. -/
def newJob (id tenantId requestedBy : UUID) (actorRole : String) (createdAt : Int)
    (cooldownUntil : Int) (replacedJobId : Option UUID) : ExportJob where
  id := id
  tenantId := tenantId
  requestedBy := requestedBy
  actorRole := actorRole
  status := .pending
  attempts := 0
  maxAttempts := 3
  leaseToken := none
  leaseExpiresAt := none
  r2Key := none
  readyAt := none
  expiresAt := none
  errorCode := none
  errorDetail := none
  failedAt := none
  cooldownUntil := some cooldownUntil
  replacedJobId := replacedJobId
  replacementJobId := none
  createdAt := createdAt

/-! ## What the queries find -/

theorem getLatest_eq_some (h : getLatest jobs tenantId = some job) :
    jobs.get job.id = some job ∧ job.tenantId = tenantId := by
  obtain ⟨hget, hp⟩ := Table.get_of_mem_select (mem_of_pick h)
  exact ⟨hget, by simpa using hp⟩

theorem getReady_eq_some (h : getReady jobs tenantId now = some job) :
    jobs.get job.id = some job ∧ job.tenantId = tenantId ∧ job.status = .ready ∧
      after now job.expiresAt = true := by
  obtain ⟨hget, hp⟩ := Table.get_of_mem_select (mem_of_pick h)
  simp only [unexpired, Bool.and_eq_true, decide_eq_true_eq] at hp
  exact ⟨hget, hp.1, hp.2.1, hp.2.2⟩

theorem claimable_eq_some (h : claimable jobs now = some job) :
    jobs.get job.id = some job ∧ job.status = .pending ∧ job.attempts < job.maxAttempts := by
  obtain ⟨hget, hp⟩ := Table.get_of_mem_select (mem_of_pick h)
  simp only [waiting, Bool.and_eq_true, decide_eq_true_eq] at hp
  exact ⟨hget, hp.1.1, hp.1.2⟩

theorem mem_readyJobs (h : job ∈ readyJobs jobs tenantId now) :
    jobs.get job.id = some job ∧ job.tenantId = tenantId ∧ job.status = .ready := by
  obtain ⟨hget, hp⟩ := Table.get_of_mem_select (List.mem_mergeSort.mp h)
  simp only [unexpired, Bool.and_eq_true, decide_eq_true_eq] at hp
  exact ⟨hget, hp.1.1, hp.1.2.1⟩

theorem downloadable_eq_some (h : downloadable jobs tenantId now = some job) :
    jobs.get job.id = some job ∧ job.tenantId = tenantId ∧ job.status = .ready := by
  unfold downloadable at h
  split at h
  · cases h
  next latest others hready =>
  have hall : ∀ other ∈ latest :: others,
      jobs.get other.id = some other ∧ other.tenantId = tenantId ∧ other.status = .ready := by
    intro other hother
    exact mem_readyJobs (hready ▸ hother)
  split at h
  · split at h
    · cases h
      cases others with
      | nil => exact hall latest List.mem_cons_self
      | cons next rest => exact hall next (List.mem_cons_of_mem _ List.mem_cons_self)
    · cases h
      exact hall _ List.mem_cons_self
  · cases h
    exact hall _ List.mem_cons_self

theorem mem_expiredReady (h : job ∈ expiredReady jobs now) :
    jobs.get job.id = some job ∧ job.status = .ready := by
  obtain ⟨hget, hp⟩ := Table.get_of_mem_select h
  simp only [Bool.and_eq_true, decide_eq_true_eq] at hp
  exact ⟨hget, hp.1⟩

theorem mem_staleFailed (h : job ∈ staleFailed jobs now) :
    jobs.get job.id = some job ∧ job.status = .failed := by
  obtain ⟨hget, hp⟩ := Table.get_of_mem_select h
  simp only [Bool.and_eq_true, decide_eq_true_eq] at hp
  exact ⟨hget, hp.1⟩

theorem isCancelled_eq_false (h : isCancelled jobs id = false) :
    ∃ job, jobs.get id = some job ∧ job.status ≠ .cancelled := by
  unfold isCancelled at h
  cases hget : jobs.get id with
  | none =>
    rw [hget] at h
    cases h
  | some job =>
    rw [hget] at h
    exact ⟨job, rfl, by simpa using h⟩

/-! ## What the updates write -/

@[simp] theorem withStatus_status : (job.withStatus now status fields).status = status := by
  cases status <;> rfl

@[simp] theorem withStatus_tenantId :
    (job.withStatus now status fields).tenantId = job.tenantId := by
  cases status <;> rfl

@[simp] theorem withStatus_maxAttempts :
    (job.withStatus now status fields).maxAttempts = job.maxAttempts := by
  cases status <;> rfl

@[simp] theorem withStatus_attempts :
    (job.withStatus now status fields).attempts = job.attempts := by
  cases status <;> rfl

@[simp] theorem withStatus_createdAt :
    (job.withStatus now status fields).createdAt = job.createdAt := by
  cases status <;> rfl

@[simp] theorem withStatus_replacedJobId :
    (job.withStatus now status fields).replacedJobId = job.replacedJobId := by
  cases status <;> rfl

theorem withStatus_cooldownUntil :
    (job.withStatus now status fields).cooldownUntil =
      fields.cooldownUntil.or job.cooldownUntil := by
  cases status <;> rfl

theorem withStatus_r2Key :
    (job.withStatus now status fields).r2Key =
      if status = .ready then fields.r2Key else job.r2Key := by
  cases status <;> rfl

end Trackpal.Export
