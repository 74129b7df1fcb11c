import Trackpal.Coordinator.Job

/-!
# The decisions of `complete`

`LookupExecutionCoordinator.complete` under the row lock, split at its awaits:
the check of the lease, the delivery record, and the end of the job. The
statuses that a transaction flushes on its way are listed with its result.

Results:
1. `admitCallback_eq_admitted`, `settleCallback_eq_commit`: a callback takes the job through
   allowed transitions.
2. `complete_applied_iff`: when the outcome of a callback that holds the lease is applied.
-/

namespace Trackpal.Coordinator

open Trackpal.Protocol

structure LookupLease where
  executorId : UUID
  leaseId : UUID
  expiresAt : Int
deriving DecidableEq, Repr

structure VerifiedCallback where
  executorId : UUID
  leaseId : UUID
  outcome : LookupOutcome
deriving DecidableEq, Repr

/-- What the checks under the row lock come to. -/
inductive Admission where
  | rejected
  /-- The interactive deadline has passed: commit this timeout. -/
  | expired (held : MailLookupJob)
  /-- The job as the session holds it, in `processing`, and the statuses flushed. -/
  | admitted (held : MailLookupJob) (flushed : List JobStatus)
deriving DecidableEq, Repr

/-- The lease of the callback is the one in the store, and the job is not assigned
to another executor. -/
def leaseMatches (job : MailLookupJob) (lease : LookupLease) (callback : VerifiedCallback) : Bool :=
  lease.executorId = callback.executorId ∧ lease.leaseId = callback.leaseId ∧
    (job.executorId = none ∨ job.executorId = some callback.executorId)

/-- From the lease check to the end of the assignment. `lease` is the answer of
`get_lease`; `_lease_expired` checks it once more. -/
def admitCallback (settings : Settings) (job : MailLookupJob) (lease : Option LookupLease)
    (callback : VerifiedCallback) (now : Int) : Admission :=
  match lease with
  | none => .rejected
  | some lease =>
    if lease.expiresAt ≤ now ∨ leaseMatches job lease callback = false then .rejected
    else if remainingLookupBudget settings job now ≤ 0 then
      match deadlineExpired job now callback.outcome.errorCode callback.outcome.errorDetail with
      | some held => .expired held
      | none => .rejected
    else if job.status = .pending then
      match transitionStatus { job with executorId := some callback.executorId } now .processing
          {} with
      | some held => .admitted held [.processing]
      | none => .rejected
    else .admitted job []

/-- A `found` outcome carries all that a result needs. -/
def foundComplete (outcome : LookupOutcome) : Option (ResultType × String × String) :=
  match outcome.resultType, outcome.resultValue, outcome.fingerprint with
  | some type, some value, some fingerprint => some (type, value, fingerprint)
  | _, _, _ => none

/-- How the transaction ends. -/
inductive Settlement where
  | rollback
  /-- Write the result to the store, if any, and commit the row. -/
  | commit (held : MailLookupJob) (flushed : List JobStatus)
    (result : Option (ResultType × String × Int))
deriving DecidableEq, Repr

/-- Commit a transition of the admitted job. -/
def settleWith (held : MailLookupJob) (flushed : List JobStatus) (now : Int) (status : JobStatus)
    (details : TransitionDetails) (result : Option (ResultType × String × Int)) : Settlement :=
  match transitionStatus held now status details with
  | some job => .commit job (flushed ++ [status]) result
  | none => .rollback

/-- The outcome, applied to the admitted job. `inserted` is the answer of
`record_delivery_atomic` for a complete `found` outcome. -/
def settleCallback (settings : Settings) (held : MailLookupJob) (flushed : List JobStatus)
    (outcome : LookupOutcome) (inserted : Bool) (now : Int) : Settlement :=
  match outcome.kind with
  | .found =>
    match foundComplete outcome with
    | none => .rollback
    | some (type, value, _) =>
      if inserted = false then
        settleWith held flushed now .completed { resultType := some "duplicate_suppressed" } none
      else
        let ttl := resultTtl settings held.expiresAt now
        if ttl ≤ 0 then .rollback
        else
          settleWith held flushed now .completed { resultType := some type.literal }
            (some (type, value, ttl))
  | .notFound => settleWith held flushed now .completed { resultType := some "not_found" } none
  | .retryableFailure =>
    settleWith held flushed now
      (if 0 < remainingLookupBudget settings held now then .pending else .timeout)
      { errorCode := outcome.errorCode, errorDetailSafe := outcome.errorDetail } none
  | .terminalFailure =>
    settleWith held flushed now .failed
      { errorCode := outcome.errorCode, errorDetailSafe := outcome.errorDetail } none

/-- What a call of `complete` comes to. -/
inductive CallbackResult where
  | rejected
  /-- The deadline has passed: the job times out, whatever the outcome says. -/
  | timedOut (held : MailLookupJob)
  /-- The outcome ends the job, or sends it back to `pending`. -/
  | applied (held : MailLookupJob) (flushed : List JobStatus)
    (result : Option (ResultType × String × Int))
deriving DecidableEq, Repr

/-- `complete` from end to end: the job and the lease that it finds, and the instants
of its lease check and of its settlement. -/
def complete (settings : Settings) (job : Option MailLookupJob) (lease : Option LookupLease)
    (callback : VerifiedCallback) (inserted : Bool) (checkedAt settledAt : Int) : CallbackResult :=
  match job with
  | none => .rejected
  | some job =>
    if job.status.active = false then .rejected
    else
      match admitCallback settings job lease callback checkedAt with
      | .rejected => .rejected
      | .expired held => .timedOut held
      | .admitted held flushed =>
        match settleCallback settings held flushed callback.outcome inserted settledAt with
        | .rollback => .rejected
        | .commit held flushed result => .applied held flushed result

def CallbackResult.isApplied : CallbackResult → Bool
  | .applied _ _ _ => true
  | _ => false

def LeaseHeld (job : MailLookupJob) (lease : Option LookupLease) (callback : VerifiedCallback)
    (now : Int) : Prop :=
  job.status.active = true ∧
    (job.executorId = none ∨ job.executorId = some callback.executorId) ∧
    ∃ expiresAt, lease = some ⟨callback.executorId, callback.leaseId, expiresAt⟩ ∧ now < expiresAt

/-- The deadline has not passed, and a found result is complete and, unless it is a
duplicate, can be kept for a while. -/
def Applicable (settings : Settings) (job : MailLookupJob) (outcome : LookupOutcome)
    (inserted : Bool) (checkedAt settledAt : Int) : Prop :=
  0 < remainingLookupBudget settings job checkedAt ∧
    (outcome.kind = .found → foundComplete outcome ≠ none ∧
      (inserted = true → 0 < resultTtl settings job.expiresAt settledAt))

variable {settings : Settings} {job held : MailLookupJob} {lease : Option LookupLease}
  {callback : VerifiedCallback} {now : Int} {flushed : List JobStatus} {outcome : LookupOutcome}
  {inserted : Bool}

/-- A callback that is not rejected found its own lease, still running. -/
theorem lease_of_admitted (h : admitCallback settings job lease callback now ≠ .rejected) :
    ∃ lease', lease = some lease' ∧ now < lease'.expiresAt ∧ lease'.leaseId = callback.leaseId ∧
      lease'.executorId = callback.executorId := by
  unfold admitCallback at h
  split at h
  · exact absurd rfl h
  · next lease' =>
    split at h
    · exact absurd rfl h
    · next hok =>
      obtain ⟨hlive, hmatch⟩ := not_or.mp hok
      simp only [leaseMatches, Bool.not_eq_false, decide_eq_true_eq] at hmatch
      exact ⟨lease', rfl, not_le.mp hlive, hmatch.2.1, hmatch.1⟩

theorem admitCallback_eq_expired
    (h : admitCallback settings job lease callback now = .expired held) :
    held.status = .timeout ∧ .timeout ∈ validTransitions job.status := by
  unfold admitCallback at h
  split at h
  · cases h
  split at h
  · cases h
  split at h
  · split at h
    · next job' hjob =>
      cases h
      exact transitionStatus_eq_some hjob
    · cases h
  split at h
  · split at h <;> cases h
  · cases h

theorem admitCallback_eq_admitted (hactive : job.status.active = true)
    (h : admitCallback settings job lease callback now = .admitted held flushed) :
    held.status = .processing ∧
      (flushed = [.processing] ∧ job.status = .pending ∨ flushed = [] ∧ held = job) ∧
      held.id = job.id ∧ held.tenantId = job.tenantId ∧ held.mailboxId = job.mailboxId ∧
      held.serviceKey = job.serviceKey ∧ held.expiresAt = job.expiresAt := by
  unfold admitCallback at h
  split at h
  · cases h
  split at h
  · cases h
  split at h
  · split at h <;> cases h
  split at h
  · next hpending =>
    unfold transitionStatus at h
    split at h
    · next job' hjob =>
      cases h
      split at hjob
      · cases hjob
        exact ⟨rfl, .inl ⟨rfl, hpending⟩, rfl, rfl, rfl, rfl, rfl⟩
      · cases hjob
    · cases h
  · next hpending =>
    cases h
    refine ⟨?_, .inr ⟨rfl, rfl⟩, rfl, rfl, rfl, rfl, rfl⟩
    cases hs : job.status <;> simp [hs, JobStatus.active] at hactive hpending ⊢

theorem settleCallback_eq_commit {job' : MailLookupJob} {flushed' : List JobStatus}
    {result : Option (ResultType × String × Int)}
    (h : settleCallback settings held flushed outcome inserted now = .commit job' flushed' result) :
    flushed' = flushed ++ [job'.status] ∧ job'.status ∈ validTransitions held.status := by
  have hwith : ∀ status details result',
      settleWith held flushed now status details result' = .commit job' flushed' result →
      flushed' = flushed ++ [job'.status] ∧ job'.status ∈ validTransitions held.status := by
    intro status details result' hsettle
    unfold settleWith at hsettle
    split at hsettle
    · next next' hjob =>
      cases hsettle
      obtain ⟨hstatus, hvalid⟩ := transitionStatus_eq_some hjob
      rw [hstatus]
      exact ⟨rfl, hvalid⟩
    · cases hsettle
  unfold settleCallback at h
  split at h
  · split at h
    · cases h
    · split at h
      · exact hwith _ _ _ h
      · dsimp only at h
        split at h
        · cases h
        · exact hwith _ _ _ h
  · exact hwith _ _ _ h
  · exact hwith _ _ _ h
  · exact hwith _ _ _ h

/-! ## The whole of `complete` -/

theorem settleWith_of_processing {status : JobStatus} {details : TransitionDetails}
    {result : Option (ResultType × String × Int)} (hheld : held.status = .processing)
    (hstatus : status ≠ .processing) :
    settleWith held flushed now status details result ≠ .rollback := by
  have hvalid : status ∈ validTransitions held.status := by
    rw [hheld]
    cases status <;> simp [validTransitions] at hstatus ⊢
  simp [settleWith, transitionStatus, if_pos hvalid]

theorem settleCallback_eq_rollback (hheld : held.status = .processing) :
    settleCallback settings held flushed outcome inserted now = .rollback ↔
      outcome.kind = .found ∧ (foundComplete outcome = none ∨
        inserted = true ∧ resultTtl settings held.expiresAt now ≤ 0) := by
  have hwith := fun status details result =>
    @settleWith_of_processing held now flushed status details result hheld
  unfold settleCallback
  split
  · next hkind =>
    split
    · next hfound => simp [hkind, hfound]
    · next hfound =>
      split
      · next hinserted =>
        exact iff_of_false (hwith _ _ _ (by simp)) (by simp [hfound, hinserted])
      · next hinserted =>
        dsimp only
        split
        · next hexpired => simp_all
        · next hexpired =>
          exact iff_of_false (hwith _ _ _ (by simp)) (by simp [hfound, hexpired])
  · next hkind => exact iff_of_false (hwith _ _ _ (by simp)) (by simp [hkind])
  · next hkind =>
    refine iff_of_false (hwith _ _ _ ?_) (by simp [hkind])
    split <;> simp
  · next hkind => exact iff_of_false (hwith _ _ _ (by simp)) (by simp [hkind])

theorem admitCallback_of_held (h : LeaseHeld job lease callback now) :
    remainingLookupBudget settings job now ≤ 0 ∧
        (∃ held, admitCallback settings job lease callback now = .expired held) ∨
      0 < remainingLookupBudget settings job now ∧
        ∃ held flushed, admitCallback settings job lease callback now = .admitted held flushed := by
  obtain ⟨hactive, hassigned, expiresAt, rfl, hlive⟩ := h
  have hlease : ¬(expiresAt ≤ now ∨
      leaseMatches job ⟨callback.executorId, callback.leaseId, expiresAt⟩ callback = false) := by
    simp [leaseMatches, hassigned, hlive]
  unfold admitCallback
  dsimp only
  rw [if_neg hlease]
  split
  · next hdeadline =>
    obtain ⟨held, hheld, -⟩ := deadlineExpired_of_active hactive
    rw [hheld]
    exact .inl ⟨hdeadline, held, rfl⟩
  next hdeadline =>
  refine .inr ⟨not_le.mp hdeadline, ?_⟩
  split
  · next hpending =>
    simp only [transitionStatus, hpending, validTransitions, List.mem_cons, true_or, if_true]
    exact ⟨_, _, rfl⟩
  · exact ⟨_, _, rfl⟩

theorem complete_applied_iff {checkedAt settledAt : Int}
    (h : LeaseHeld job lease callback checkedAt) :
    (complete settings (some job) lease callback inserted checkedAt settledAt).isApplied = true ↔
      Applicable settings job callback.outcome inserted checkedAt settledAt := by
  have hactive := h.1
  simp only [complete, hactive, Bool.true_eq_false, if_false]
  rcases admitCallback_of_held h with ⟨hdeadline, held, hadmission⟩ |
    ⟨hdeadline, held, flushed, hadmission⟩
  · rw [hadmission]
    exact iff_of_false Bool.false_ne_true fun happlicable => not_lt.mpr hdeadline happlicable.1
  obtain ⟨hheld, -, -, -, -, -, hexpires⟩ := admitCallback_eq_admitted hactive hadmission
  have hrollback := @settleCallback_eq_rollback settings held settledAt flushed
    callback.outcome inserted hheld
  rw [hexpires] at hrollback
  rw [hadmission]
  dsimp only
  cases hsettle : settleCallback settings held flushed callback.outcome inserted settledAt with
  | rollback =>
    obtain ⟨hkind, hcannot⟩ := hrollback.mp hsettle
    refine iff_of_false Bool.false_ne_true fun happlicable => ?_
    obtain ⟨hfound, httl⟩ := happlicable.2 hkind
    rcases hcannot with hnone | ⟨hinserted, hexpired⟩
    · exact hfound hnone
    · exact absurd (httl hinserted) (not_lt.mpr hexpired)
  | commit job' flushed' result =>
    refine iff_of_true rfl ⟨hdeadline, fun hkind => ?_⟩
    have hcan : ¬(foundComplete callback.outcome = none ∨
        inserted = true ∧ resultTtl settings job.expiresAt settledAt ≤ 0) := by
      intro hcannot
      rw [hrollback.mpr ⟨hkind, hcannot⟩] at hsettle
      cases hsettle
    exact ⟨fun hnone => hcan (.inl hnone),
      fun hinserted => not_le.mp fun hexpired => hcan (.inr ⟨hinserted, hexpired⟩)⟩

end Trackpal.Coordinator
