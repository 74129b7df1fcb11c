import Trackpal.Coordinator.Complete

/-!
# The delivery log

The table `mail_code_delivery_log` and the two functions of
`mailbox_dedupe_repository.py` that the coordinator calls. The log is a list; the order
of its rows is of no account.

Results:
1. `mem_listDeliveryKeysSince`: the keys that a lookup window lists.
2. `inserted_of_suppressed`: `complete` suppresses a duplicate only if the log refused it.
-/

namespace Trackpal.Coordinator

open Trackpal.Protocol

structure DeliveryScope where
  tenantId : UUID
  mailboxId : UUID
  serviceKey : String
deriving DecidableEq, Repr

/-- One delivered code: the identity of its email, and its fingerprint. -/
@[ext] structure LoggedKey where
  messageId : Option String
  fingerprint : String
deriving DecidableEq, Repr

/-- A row of `mail_code_delivery_log`. -/
structure MailCodeDeliveryLog where
  scope : DeliveryScope
  key : LoggedKey
  deliveredAt : Int
deriving DecidableEq, Repr

def MailLookupJob.deliveryScope (job : MailLookupJob) : DeliveryScope :=
  ⟨job.tenantId, job.mailboxId, job.serviceKey⟩

def Logged (log : List MailCodeDeliveryLog) (scope : DeliveryScope) (key : LoggedKey) : Prop :=
  ∃ entry ∈ log, entry.scope = scope ∧ entry.key = key

instance (log : List MailCodeDeliveryLog) (scope : DeliveryScope) (key : LoggedKey) :
    Decidable (Logged log scope key) :=
  inferInstanceAs (Decidable (∃ entry ∈ log, entry.scope = scope ∧ entry.key = key))

/-- `record_delivery_atomic`. Of the two partial unique indexes the one that applies
compares all columns of the scope and of the key. -/
def recordDeliveryAtomic (log : List MailCodeDeliveryLog) (scope : DeliveryScope)
    (key : LoggedKey) (now : Int) : List MailCodeDeliveryLog × Bool :=
  if Logged log scope key then (log, false) else (⟨scope, key, now⟩ :: log, true)

def latestFirst (a b : MailCodeDeliveryLog) : Bool := b.deliveredAt ≤ a.deliveredAt

def listDeliveryKeysSince (log : List MailCodeDeliveryLog) (scope : DeliveryScope)
    (since : Int) : List LoggedKey :=
  ((log.filter fun entry => entry.scope = scope ∧ since ≤ entry.deliveredAt).mergeSort
    latestFirst).map MailCodeDeliveryLog.key

/-- The answer of `record_delivery_atomic` to the outcome of a callback for a job. -/
def insertedOutcome (log : List MailCodeDeliveryLog) (job : MailLookupJob)
    (outcome : LookupOutcome) (now : Int) : Bool :=
  match foundComplete outcome with
  | some (_, _, fingerprint) =>
    (recordDeliveryAtomic log job.deliveryScope ⟨outcome.messageId, fingerprint⟩ now).2
  | none => false

variable {log : List MailCodeDeliveryLog} {scope : DeliveryScope} {key : LoggedKey}
  {since now : Int}

theorem recordDeliveryAtomic_inserted :
    (recordDeliveryAtomic log scope key now).2 = true ↔ ¬Logged log scope key := by
  unfold recordDeliveryAtomic
  split
  · next hlogged => simpa using hlogged
  · next hlogged => simpa using hlogged

theorem mem_listDeliveryKeysSince :
    key ∈ listDeliveryKeysSince log scope since ↔
      ∃ entry ∈ log, entry.scope = scope ∧ since ≤ entry.deliveredAt ∧ entry.key = key := by
  simp only [listDeliveryKeysSince, List.mem_map, List.mem_mergeSort, List.mem_filter,
    decide_eq_true_eq, and_assoc]

theorem logged_of_listed (h : key ∈ listDeliveryKeysSince log scope since) :
    Logged log scope key := by
  obtain ⟨entry, hentry, hscope, -, hkey⟩ := mem_listDeliveryKeysSince.mp h
  exact ⟨entry, hentry, hscope, hkey⟩

/-! ## Suppressed duplicates -/

def duplicateSuppressed : String := "duplicate_suppressed"

variable {settings : Settings} {job held : MailLookupJob} {lease : Option LookupLease}
  {callback : VerifiedCallback} {flushed : List JobStatus} {inserted : Bool}
  {outcome : LookupOutcome} {result : Option (ResultType × String × Int)}

theorem resultType_of_admitted
    (h : admitCallback settings job lease callback now = .admitted held flushed) :
    held.resultType = job.resultType := by
  unfold admitCallback at h
  split at h
  · cases h
  split at h
  · cases h
  split at h
  · split at h <;> cases h
  split at h
  · unfold transitionStatus at h
    split at h
    · next held' hheld =>
      cases h
      split at hheld
      · cases hheld
        rfl
      · cases hheld
    · cases h
  · cases h
    rfl

theorem resultType_of_settleWith {status : JobStatus} {details : TransitionDetails}
    {flushed' : List JobStatus} {result' : Option (ResultType × String × Int)}
    (h : settleWith held flushed now status details result = .commit job flushed' result') :
    job.resultType = details.resultType.or held.resultType := by
  unfold settleWith at h
  split at h
  · next job' hjob =>
    cases h
    unfold transitionStatus at hjob
    split at hjob
    · cases hjob
      cases status <;> rfl
    · cases hjob
  · cases h

/-- A settlement that suppresses a duplicate is one of a found outcome that the log has
refused. -/
theorem inserted_of_settled {flushed' : List JobStatus}
    (h : settleCallback settings held flushed outcome inserted now = .commit job flushed' result)
    (hsuppressed : job.resultType = some duplicateSuppressed) :
    held.resultType = some duplicateSuppressed ∨ outcome.kind = .found ∧ inserted = false := by
  unfold settleCallback at h
  split at h
  · next hkind =>
    split at h
    · cases h
    split at h
    · next hinserted => exact .inr ⟨hkind, hinserted⟩
    · dsimp only at h
      split at h
      · cases h
      · next type _ _ _ _ _ =>
        have htype : some type.literal = some duplicateSuppressed :=
          (resultType_of_settleWith h).symm.trans hsuppressed
        cases type <;> exact absurd htype (by decide)
  · have htype : some "not_found" = some duplicateSuppressed :=
      (resultType_of_settleWith h).symm.trans hsuppressed
    exact absurd htype (by decide)
  · exact .inl ((resultType_of_settleWith h).symm.trans hsuppressed)
  · exact .inl ((resultType_of_settleWith h).symm.trans hsuppressed)

theorem inserted_of_suppressed {checkedAt settledAt : Int}
    (h : complete settings (some job) lease callback inserted checkedAt settledAt =
      .applied held flushed result)
    (hsuppressed : held.resultType = some duplicateSuppressed) :
    job.resultType = some duplicateSuppressed ∨
      callback.outcome.kind = .found ∧ inserted = false := by
  unfold complete at h
  dsimp only at h
  split at h
  · cases h
  split at h
  · cases h
  · cases h
  next admitted flushed' hadmitted =>
  split at h
  · cases h
  next hsettled =>
  cases h
  rw [← resultType_of_admitted hadmitted]
  exact inserted_of_settled hsettled hsuppressed

end Trackpal.Coordinator
