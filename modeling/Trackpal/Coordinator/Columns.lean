import Trackpal.Coordinator.Complete

/-!
# What PostgreSQL takes

`complete` with the statements that its transaction sends. PostgreSQL refuses a text
that is longer than its `VARCHAR` column, and one that contains NUL; the statement then
raises, before the commit. The result goes to Redis, which takes any text.

Results:
1. `columnsFit_transition`: a transition with fitting details leaves a fitting row.
2. `completeOnPostgres_of_held`: a callback that holds its lease does what `complete`
   decides, unless PostgreSQL refuses its delivery.
-/

namespace Trackpal.Coordinator

open Trackpal.Protocol

/-- A `VARCHAR(limit)` column takes the text. -/
def admissible (limit : Nat) (text : String) : Bool :=
  text.length ≤ limit && !text.toList.contains '\x00'

def columnsFit (columns : List (Nat × Option String)) : Bool :=
  columns.all fun column => column.2.all (admissible column.1)

namespace JobStatus

def literal : JobStatus → String
  | .pending => "pending"
  | .processing => "processing"
  | .completed => "completed"
  | .failed => "failed"
  | .timeout => "timeout"

end JobStatus

/-- The text columns of `mail_lookup_jobs` that the coordinator reads or writes. -/
def jobColumns (job : MailLookupJob) : List (Nat × Option String) :=
  [(64, some job.serviceKey), (20, some job.status.literal), (30, job.resultType),
    (100, job.errorCode), (1000, job.errorDetailSafe), (1000, job.lastDispatchErrorSafe)]

/-- The text columns of `mail_code_delivery_log`. -/
def deliveryColumns (serviceKey : String) (messageId : Option String) (fingerprint : String) :
    List (Nat × Option String) :=
  [(64, some serviceKey), (500, messageId), (128, some fingerprint)]

def detailColumns (details : TransitionDetails) : List (Nat × Option String) :=
  [(30, details.resultType), (100, details.errorCode), (1000, details.errorDetailSafe)]

def errorColumns (outcome : LookupOutcome) : List (Nat × Option String) :=
  [(100, outcome.errorCode), (1000, outcome.errorDetail)]

/-- The statement that PostgreSQL refuses. -/
inductive DataError where
  | updateJob
  | insertDelivery
deriving DecidableEq, Repr

/-- The `UPDATE` of the job. -/
def flushJob (held : MailLookupJob) : Except DataError Unit :=
  if columnsFit (jobColumns held) then .ok () else .error .updateJob

/-- The `UPDATE` of the statuses that a transaction has passed through, if any. -/
def flushStatuses (flushed : List JobStatus) (held : MailLookupJob) : Except DataError Unit :=
  if flushed = [] then .ok () else flushJob held

/-- The `INSERT` of `record_delivery_atomic`, for a complete `found` outcome. -/
def recordDelivery (held : MailLookupJob) (outcome : LookupOutcome) : Except DataError Unit :=
  match outcome.kind, foundComplete outcome with
  | .found, some (_, _, fingerprint) =>
    if columnsFit (deliveryColumns held.serviceKey outcome.messageId fingerprint) then .ok ()
    else .error .insertDelivery
  | _, _ => .ok ()

/-- `complete`, whose statements may be refused. -/
def completeOnPostgres (settings : Settings) (job : Option MailLookupJob)
    (lease : Option LookupLease) (callback : VerifiedCallback) (inserted : Bool)
    (checkedAt settledAt : Int) : Except DataError CallbackResult :=
  match job with
  | none => .ok .rejected
  | some job =>
    if job.status.active = false then .ok .rejected
    else
      match admitCallback settings job lease callback checkedAt with
      | .rejected => .ok .rejected
      | .expired held => do
        flushJob held
        return .timedOut held
      | .admitted held flushed => do
        flushStatuses flushed held
        recordDelivery held callback.outcome
        match settleCallback settings held flushed callback.outcome inserted settledAt with
        | .rollback => return .rejected
        | .commit held flushed result =>
          flushJob held
          return .applied held flushed result

/-! ## Rows that fit -/

variable {settings : Settings} {job job' held : MailLookupJob} {lease : Option LookupLease}
  {callback : VerifiedCallback} {inserted : Bool} {now checkedAt settledAt : Int}
  {status : JobStatus} {details : TransitionDetails} {outcome : LookupOutcome}

theorem all_or {α : Type} {p : α → Bool} {a b : Option α} (ha : a.all p = true)
    (hb : b.all p = true) : (a.or b).all p = true := by
  cases a with
  | none => exact hb
  | some value => exact ha

theorem all_ite {α : Type} {p : α → Bool} {c : Prop} [Decidable c] {a b : Option α}
    (ha : a.all p = true) (hb : b.all p = true) : (if c then a else b).all p = true := by
  split
  · exact ha
  · exact hb

theorem admissible_ofList (limit : Nat) (text : List Char) :
    admissible limit (.ofList text) = (decide (text.length ≤ limit) && !text.contains '\x00') := by
  rw [admissible, String.length_ofList, String.toList_ofList]

theorem admissible_literal (status : JobStatus) : admissible 20 status.literal = true := by
  cases status <;> exact (admissible_ofList 20 _).trans (by decide)

theorem columnsFit_result {text : String} (h : admissible 30 text = true) :
    columnsFit (detailColumns { resultType := some text }) = true := by
  simp [columnsFit, detailColumns, h]

theorem columnsFit_failure {code detail : String} (hcode : admissible 100 code = true)
    (hdetail : admissible 1000 detail = true) :
    columnsFit [(100, some code), (1000, some detail)] = true := by
  simp [columnsFit, hcode, hdetail]

theorem columnsFit_enterStatus (hjob : columnsFit (jobColumns job) = true) :
    columnsFit (jobColumns (enterStatus job now status)) = true := by
  simp only [columnsFit, jobColumns, List.all_cons, List.all_nil, Bool.and_true,
    Bool.and_eq_true, Option.all_some] at hjob ⊢
  obtain ⟨hservice, -, hresult, hcode, hdetail, hdispatch⟩ := hjob
  refine ⟨?_, admissible_literal _, ?_, ?_, ?_, ?_⟩
  all_goals cases status <;> first | assumption | rfl

theorem columnsFit_transition (hjob : columnsFit (jobColumns job) = true)
    (hdetails : columnsFit (detailColumns details) = true)
    (h : transitionStatus job now status details = some job') :
    columnsFit (jobColumns job') = true := by
  unfold transitionStatus at h
  split at h
  · cases h
    have hentered := @columnsFit_enterStatus job now status hjob
    simp only [columnsFit, jobColumns, detailColumns, List.all_cons, List.all_nil, Bool.and_true,
      Bool.and_eq_true, Option.all_some] at hentered hdetails ⊢
    obtain ⟨hservice, hstatus, hresult, hcode, hdetail, hdispatch⟩ := hentered
    obtain ⟨hresult', hcode', hdetail'⟩ := hdetails
    exact ⟨hservice, hstatus, all_or hresult' hresult, all_or hcode' hcode, all_or hdetail' hdetail,
      all_ite (all_or hdetail' hdispatch) hdispatch⟩
  · cases h

/-! ## The statements of a callback -/

theorem columnsFit_admitted {flushed : List JobStatus} (hjob : columnsFit (jobColumns job) = true)
    (h : admitCallback settings job lease callback now = .admitted held flushed) :
    columnsFit (jobColumns held) = true := by
  unfold admitCallback at h
  split at h
  · cases h
  split at h
  · cases h
  split at h
  · split at h <;> cases h
  split at h
  · split at h
    · next job' htransition =>
      cases h
      exact @columnsFit_transition { job with executorId := some callback.executorId } _ now _ {}
        hjob rfl htransition
    · cases h
  · cases h
    exact hjob

theorem columnsFit_settled {flushed flushed' : List JobStatus}
    {result : Option (ResultType × String × Int)} (hheld : columnsFit (jobColumns held) = true)
    (herror : columnsFit (errorColumns outcome) = true)
    (h : settleCallback settings held flushed outcome inserted now = .commit job' flushed' result) :
    columnsFit (jobColumns job') = true := by
  have hwith : ∀ status details result',
      settleWith held flushed now status details result' = .commit job' flushed' result →
      columnsFit (detailColumns details) = true → columnsFit (jobColumns job') = true := by
    intro status details result' hsettle hdetails
    unfold settleWith at hsettle
    split at hsettle
    · next job'' htransition =>
      cases hsettle
      exact columnsFit_transition hheld hdetails htransition
    · cases hsettle
  have hfailure : columnsFit (detailColumns
      { errorCode := outcome.errorCode, errorDetailSafe := outcome.errorDetail }) = true := herror
  unfold settleCallback at h
  split at h
  · split at h
    · cases h
    next type value fingerprint hfound =>
    split at h
    · exact hwith _ _ _ h (columnsFit_result ((admissible_ofList 30 _).trans (by decide)))
    · dsimp only at h
      split at h
      · cases h
      · refine hwith _ _ _ h (columnsFit_result ?_)
        cases type <;> exact (admissible_ofList 30 _).trans (by decide)
  · exact hwith _ _ _ h (columnsFit_result ((admissible_ofList 30 _).trans (by decide)))
  · exact hwith _ _ _ h hfailure
  · exact hwith _ _ _ h hfailure

theorem completeOnPostgres_of_held (h : LeaseHeld job lease callback checkedAt)
    (hbudget : 0 < remainingLookupBudget settings job checkedAt)
    (hjob : columnsFit (jobColumns job) = true)
    (herror : columnsFit (errorColumns callback.outcome) = true) :
    completeOnPostgres settings (some job) lease callback inserted checkedAt settledAt =
      (recordDelivery job callback.outcome).map fun _ =>
        complete settings (some job) lease callback inserted checkedAt settledAt := by
  have hactive := h.1
  simp only [completeOnPostgres, complete, hactive, Bool.true_eq_false, if_false]
  rcases admitCallback_of_held h with ⟨hdeadline, -⟩ | ⟨-, held, flushed, hadmission⟩
  · exact absurd hbudget (not_lt.mpr hdeadline)
  rw [hadmission]
  dsimp only
  have hheld := columnsFit_admitted hjob hadmission
  obtain ⟨-, -, -, -, -, hservice, -⟩ := admitCallback_eq_admitted hactive hadmission
  have hflush : flushStatuses flushed held = .ok () := by
    rw [flushStatuses, flushJob, if_pos hheld]
    split <;> rfl
  have hrecord : recordDelivery held callback.outcome = recordDelivery job callback.outcome := by
    simp only [recordDelivery, hservice]
  rw [hflush, hrecord]
  cases recordDelivery job callback.outcome with
  | error refused => rfl
  | ok recorded =>
    cases hsettle : settleCallback settings held flushed callback.outcome inserted settledAt with
    | rollback => rfl
    | commit job' flushed' result =>
      change (flushJob job' >>= fun _ =>
        Except.ok (CallbackResult.applied job' flushed' result)) = _
      rw [flushJob, if_pos (columnsFit_settled hheld herror hsettle)]
      rfl

/-- A delivery is refused if it is one of a complete `found` outcome that does not fit. -/
theorem recordDelivery_eq_ok :
    recordDelivery job outcome = .ok () ↔
      (outcome.kind = .found → ∀ found, foundComplete outcome = some found →
        columnsFit (deliveryColumns job.serviceKey outcome.messageId found.2.2) = true) := by
  unfold recordDelivery
  split
  · next type value fingerprint hkind hfound =>
    rw [hkind, hfound]
    split
    · next hfit => simp [hfit]
    · next hfit => simp [hfit]
  · next hother =>
    refine iff_of_true rfl fun hkind found hfound => ?_
    exact absurd hfound (hother found.1 found.2.1 found.2.2 hkind)

end Trackpal.Coordinator
