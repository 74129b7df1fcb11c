import Trackpal.Foundation.NetChange
import Trackpal.Protocol.Schemas
import Mathlib.Data.List.Chain

/-!
# The lookup job

`MailLookupJob`, the transitions of `mailbox_lookup_repository.py` and the
deadlines of `coordinator.py`. Instants are microseconds. `None` jobs do not
occur: a job is deleted only long after it has expired, by the cleanup pass.

Results:
1. `transitionStatus_eq_some`: a transition leads to an allowed status.
2. `verdict_writeJob_self`: a session that finds the row it loaded writes the verdict
   that it holds.
-/

namespace Trackpal.Coordinator

open Trackpal.Protocol Trackpal.Foundation

inductive JobStatus where
  | pending
  | processing
  | completed
  | failed
  | timeout
deriving DecidableEq, Repr

def validTransitions : JobStatus → List JobStatus
  | .pending => [.processing, .failed, .timeout]
  | .processing => [.completed, .failed, .timeout, .pending]
  | _ => []

namespace JobStatus

/-- The status is one of `{"pending", "processing"}`. -/
def active : JobStatus → Bool
  | .pending | .processing => true
  | _ => false

end JobStatus

/-- A row of `mail_lookup_jobs`, as far as the coordinator reads or writes it. -/
structure MailLookupJob where
  id : UUID
  tenantId : UUID
  mailboxId : UUID
  executorId : Option UUID
  serviceKey : String
  requestedAt : Int
  createdAt : Int
  status : JobStatus
  resultType : Option String
  errorCode : Option String
  errorDetailSafe : Option String
  lastDispatchErrorSafe : Option String
  executionAttempts : Nat
  expiresAt : Option Int
  processingStartedAt : Option Int
  completedAt : Option Int
deriving DecidableEq, Repr

/-- The optional arguments of `transition_status`. -/
structure TransitionDetails where
  resultType : Option String := none
  errorCode : Option String := none
  errorDetailSafe : Option String := none
deriving DecidableEq, Repr

def enterStatus (job : MailLookupJob) (now : Int) : JobStatus → MailLookupJob
  | .processing => { job with
      status := .processing
      processingStartedAt := some now
      errorCode := none
      errorDetailSafe := none }
  | .pending => { job with
      status := .pending
      executorId := none
      processingStartedAt := none
      completedAt := none }
  | .completed => { job with
      status := .completed
      completedAt := some now
      errorCode := none
      errorDetailSafe := none }
  | .failed => { job with status := .failed, completedAt := some now }
  | .timeout => { job with status := .timeout, completedAt := some now }

/-- `transition_status`; `none` is the `ValueError` for a forbidden transition. -/
def transitionStatus (job : MailLookupJob) (now : Int) (newStatus : JobStatus)
    (details : TransitionDetails) : Option MailLookupJob :=
  if newStatus ∈ validTransitions job.status then
    let entered := enterStatus job now newStatus
    some { entered with
      resultType := details.resultType.or entered.resultType
      errorCode := details.errorCode.or entered.errorCode
      errorDetailSafe := details.errorDetailSafe.or entered.errorDetailSafe
      lastDispatchErrorSafe :=
        if newStatus = .pending then details.errorDetailSafe.or entered.lastDispatchErrorSafe
        else entered.lastDispatchErrorSafe }
  else none

/-- The write of `cancel_active_job_if_present`. -/
def cancelJob (job : MailLookupJob) (now : Int) : MailLookupJob :=
  { job with
    status := .failed
    completedAt := some now
    errorCode := some "user_cancelled"
    errorDetailSafe := some "User restarted codigo flow" }

/-- The write of `expire_stale_jobs` to one job. -/
def expireJob (job : MailLookupJob) (now : Int) : MailLookupJob :=
  { job with
    status := .timeout
    completedAt := some now
    errorCode := some "timeout"
    errorDetailSafe := some "Job expired before processing" }

/-- `expire_stale_jobs` selects the job. -/
def isStale (job : MailLookupJob) (now : Int) : Bool :=
  job.expiresAt.any (· ≤ now) && job.status.active

/-! ## Deadlines -/

structure Settings where
  handoffTimeoutSeconds : Int
  executionLeaseSeconds : Int
  responseBudgetSeconds : Int
  resultTtlSeconds : Int
deriving DecidableEq, Repr

/-- The defaults of `core/config.py`. -/
def Settings.default : Settings := ⟨90, 180, 120, 180⟩

def second : Int := 1000000

def lookupDeadline (settings : Settings) (job : MailLookupJob) : Int :=
  job.requestedAt + settings.responseBudgetSeconds * second

def remainingLookupBudget (settings : Settings) (job : MailLookupJob) (now : Int) : Int :=
  max 0 ((lookupDeadline settings job - now).tdiv second)

/-- `lookup_response_deadline_expired`. -/
def responseDeadlineExpired (settings : Settings) (job : MailLookupJob) (now : Int) : Bool :=
  remainingLookupBudget settings job now ≤ 0

def jobUnexpired (expiresAt : Option Int) (now : Int) : Bool :=
  expiresAt.any (now < ·)

def resultTtl (settings : Settings) (expiresAt : Option Int) (now : Int) : Int :=
  match expiresAt with
  | none => max 1 settings.resultTtlSeconds
  | some expiresAt => min settings.resultTtlSeconds ((expiresAt - now).tdiv second)

/-- `value or default`, where an absent and an empty text are false. -/
def textOr (value : Option String) (default : String) : String :=
  match value with
  | none | some "" => default
  | some text => text

/-- The transition of an expired interactive deadline. A callback passes the error
of its outcome, the other callers pass none. -/
def deadlineExpired (job : MailLookupJob) (now : Int) (errorCode errorDetail : Option String) :
    Option MailLookupJob :=
  transitionStatus job now .timeout
    { errorCode := some (textOr errorCode "lookup_timeout")
      errorDetailSafe := some (textOr errorDetail "Interactive lookup deadline expired") }

/-! ## Commits -/

/-- The stored row after the `UPDATE` of a session. -/
def writeJob (loaded held stored : MailLookupJob) : MailLookupJob where
  id := stored.id
  tenantId := stored.tenantId
  mailboxId := stored.mailboxId
  executorId := netChange loaded.executorId held.executorId stored.executorId
  serviceKey := stored.serviceKey
  requestedAt := stored.requestedAt
  createdAt := stored.createdAt
  status := netChange loaded.status held.status stored.status
  resultType := netChange loaded.resultType held.resultType stored.resultType
  errorCode := netChange loaded.errorCode held.errorCode stored.errorCode
  errorDetailSafe := netChange loaded.errorDetailSafe held.errorDetailSafe stored.errorDetailSafe
  lastDispatchErrorSafe := netChange loaded.lastDispatchErrorSafe held.lastDispatchErrorSafe
    stored.lastDispatchErrorSafe
  executionAttempts := netChange loaded.executionAttempts held.executionAttempts
    stored.executionAttempts
  expiresAt := stored.expiresAt
  processingStartedAt := netChange loaded.processingStartedAt held.processingStartedAt
    stored.processingStartedAt
  completedAt := netChange loaded.completedAt held.completedAt stored.completedAt

/-- What a reader of the job sees of its end. -/
def verdict (job : MailLookupJob) : JobStatus × Option String × Option String :=
  (job.status, job.resultType, job.errorCode)

variable {job job' loaded held stored : MailLookupJob} {now : Int} {status : JobStatus}
  {details : TransitionDetails}

theorem enterStatus_status : (enterStatus job now status).status = status := by
  cases status <;> rfl

theorem transitionStatus_eq_some (h : transitionStatus job now status details = some job') :
    job'.status = status ∧ status ∈ validTransitions job.status := by
  unfold transitionStatus at h
  split at h
  · next hvalid =>
    cases h
    exact ⟨enterStatus_status, hvalid⟩
  · cases h

theorem active_of_valid (h : status ∈ validTransitions job.status) : job.status.active = true := by
  cases hs : job.status <;> simp [hs, validTransitions, JobStatus.active] at h ⊢

theorem deadlineExpired_of_active {errorCode errorDetail : Option String}
    (h : job.status.active = true) :
    ∃ job', deadlineExpired job now errorCode errorDetail = some job' ∧ job'.status = .timeout := by
  have hvalid : JobStatus.timeout ∈ validTransitions job.status := by
    cases hs : job.status <;> simp [hs, validTransitions, JobStatus.active] at h ⊢
  refine ⟨_, if_pos hvalid, rfl⟩

theorem verdict_writeJob_self : verdict (writeJob loaded held loaded) = verdict held := by
  simp [verdict, writeJob]

theorem verdict_writeJob_of_eq (h : verdict held = verdict loaded) :
    verdict (writeJob loaded held stored) = verdict stored := by
  obtain ⟨hstatus, hrest⟩ := Prod.mk.inj h
  obtain ⟨hresult, herror⟩ := Prod.mk.inj hrest
  simp only [verdict, writeJob, netChange_of_eq hstatus, netChange_of_eq hresult,
    netChange_of_eq herror]

end Trackpal.Coordinator
