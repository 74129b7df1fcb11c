import Trackpal.Protocol.Schemas
import Mathlib.Data.List.Nodup

/-!
# The worker's local execution state

`LookupCommand` of `worker/app/pipeline/models.py` as far as its identity goes,
and the reservations of `ExecutorRuntime` in `worker/app/runtime.py`. A runtime
value carries the two facts that `accept` maintains: one reservation for each
job, and no more reservations than the capacity.

Results:
1. `mem_active_of_answered`: unless the runtime is busy, the lease it answers with is one it holds
   for the job.
2. `release_active_subset`: a release only drops reservations.
-/

namespace Trackpal.Worker

open Trackpal.Protocol

/-! ## Commands -/

structure LookupCommand where
  jobId : Option UUID
  leaseId : Option UUID
  callbackUrl : Option String
deriving DecidableEq, Repr

def positiveField (fields : Fields) (key : String) : Bool :=
  match fields.get key with
  | none => true
  | some (.num value) => 0 < value
  | some _ => false

/-- A member that is absent, `null` or the text of a timestamp. -/
def datetimeField (fields : Fields) (key : String) : Bool :=
  match fields.get key with
  | none | some .null => true
  | some value => value.isStr

def arrayField (fields : Fields) (key : String) : Bool :=
  match fields.get key with
  | none | some (.arr _) => true
  | some _ => false

namespace LookupCommand

/-- The members without a default. -/
def requiredFields : List String :=
  ["mailbox_email", "app_password", "service_key", "target_email"]

/-- All members; `extra="forbid"` rejects every other one. -/
def allFields : List String :=
  requiredFields ++ ["window_minutes", "search_after", "timeout_seconds", "deadline_at",
    "excluded_deliveries", "job_id", "lease_id", "callback_url", "lease_expires_at"]

def wellTyped (fields : Fields) : Bool :=
  fields.keys.all (fun key => key ∈ allFields) &&
  requiredFields.all (fun key => ((fields.get key).map Json.isStr).getD false) &&
  positiveField fields "window_minutes" && positiveField fields "timeout_seconds" &&
  datetimeField fields "search_after" && datetimeField fields "deadline_at" &&
  datetimeField fields "lease_expires_at" && arrayField fields "excluded_deliveries"

/-- `LookupCommand.model_validate`. -/
def modelValidate (fields : Fields) : Option LookupCommand :=
  if wellTyped fields then do
    let jobId ← optionalField fields "job_id" Json.toUUID
    let leaseId ← optionalField fields "lease_id" Json.toUUID
    let callbackUrl ← optionalField fields "callback_url" Json.toStr
    some ⟨jobId, leaseId, callbackUrl⟩
  else none

theorem modelValidate_of_no_mailbox {fields : Fields} (h : fields.get "mailbox_email" = none) :
    modelValidate fields = none := by
  have : wellTyped fields = false := by
    simp [wellTyped, requiredFields, h]
  simp [modelValidate, this]

theorem get_of_optionalField {fields : Fields} {key : String} {value : UUID}
    (h : optionalField fields key Json.toUUID = some (some value)) :
    fields.get key = some (.uuid value) := by
  unfold optionalField at h
  split at h
  · cases h
  · cases h
  · next found _ hget =>
    obtain ⟨id, hid, he⟩ := Option.map_eq_some_iff.mp h
    rw [hget, Json.eq_uuid_of_toUUID hid, Option.some.inj he]

theorem identity_of_modelValidate {fields : Fields} {command : LookupCommand} {jobId leaseId : UUID}
    (h : modelValidate fields = some command) (hj : command.jobId = some jobId)
    (hl : command.leaseId = some leaseId) :
    fields.get "job_id" = some (.uuid jobId) ∧ fields.get "lease_id" = some (.uuid leaseId) := by
  unfold modelValidate at h
  split at h
  · simp only [Option.bind_eq_bind, Option.bind_eq_some_iff] at h
    obtain ⟨jobId', hjob, leaseId', hlease, _, _, h⟩ := h
    cases h
    subst hj hl
    exact ⟨get_of_optionalField hjob, get_of_optionalField hlease⟩
  · cases h

end LookupCommand

/-! ## Reservations -/

/-- Identity and destination needed to deliver one execution result. -/
structure CallbackContext where
  callbackUrl : String
  jobId : UUID
  leaseId : UUID
deriving DecidableEq, Repr

inductive AcceptanceStatus where
  | accepted
  | duplicate
  | conflict
  | busy
deriving DecidableEq, Repr

/-- Result of reserving a local execution slot. -/
structure Acceptance where
  accepted : Bool
  leaseId : UUID
  status : AcceptanceStatus
deriving DecidableEq, Repr

/-- The reservations of one worker process: `_active` maps jobs to leases. -/
structure ExecutorRuntime where
  capacity : Nat
  active : List (UUID × UUID)
  jobs_nodup : (active.map Prod.fst).Nodup
  active_le_capacity : active.length ≤ capacity

namespace ExecutorRuntime

/-- A runtime without reservations. -/
def new (capacity : Nat) : ExecutorRuntime :=
  ⟨capacity, [], List.nodup_nil, Nat.zero_le _⟩

/-- `self._active.get(job_id)`. -/
def leaseOf (runtime : ExecutorRuntime) (jobId : UUID) : Option UUID :=
  runtime.active.lookup jobId

theorem mem_active_of_leaseOf {runtime : ExecutorRuntime} {jobId leaseId : UUID}
    (h : runtime.leaseOf jobId = some leaseId) : (jobId, leaseId) ∈ runtime.active := by
  obtain ⟨pre, post, he, _⟩ := List.lookup_eq_some_iff.mp h
  rw [he]
  exact List.mem_append_right _ List.mem_cons_self

theorem not_mem_of_leaseOf {runtime : ExecutorRuntime} {jobId : UUID}
    (h : runtime.leaseOf jobId = none) : jobId ∉ runtime.active.map Prod.fst := by
  intro hmem
  obtain ⟨entry, hentry, rfl⟩ := List.mem_map.mp hmem
  have := List.lookup_eq_none_iff.mp h entry hentry
  simp at this

/-- `self._active[job_id] = lease_id` for a job without a reservation. -/
def reserve (runtime : ExecutorRuntime) (jobId leaseId : UUID)
    (hfree : runtime.leaseOf jobId = none) (hroom : runtime.active.length < runtime.capacity) :
    ExecutorRuntime :=
  { runtime with
    active := (jobId, leaseId) :: runtime.active
    jobs_nodup := List.nodup_cons.mpr ⟨not_mem_of_leaseOf hfree, runtime.jobs_nodup⟩
    active_le_capacity := hroom }

/-- The critical section of `accept`. -/
def tryReserve (runtime : ExecutorRuntime) (jobId leaseId : UUID) : ExecutorRuntime × Acceptance :=
  match h : runtime.leaseOf jobId with
  | some current =>
    (runtime, ⟨false, current, if current = leaseId then .duplicate else .conflict⟩)
  | none =>
    if hroom : runtime.active.length < runtime.capacity then
      (runtime.reserve jobId leaseId h hroom, ⟨true, leaseId, .accepted⟩)
    else
      (runtime, ⟨false, leaseId, .busy⟩)

/-- `accept`: validate and reserve a command before an HTTP acceptance. The error
is the text of the `ValueError`. -/
def accept (runtime : ExecutorRuntime) (command : LookupCommand) (context : CallbackContext) :
    Except String (ExecutorRuntime × Acceptance) :=
  match command.jobId, command.leaseId, command.callbackUrl with
  | none, _, _ | _, none, _ => .error "job_id and lease_id are required"
  | _, _, none => .error "callback_url is required"
  | some jobId, some leaseId, some callbackUrl =>
    if context.jobId ≠ jobId then .error "callback job_id does not match command"
    else if context.leaseId ≠ leaseId then .error "callback lease_id does not match command"
    else if context.callbackUrl ≠ callbackUrl then .error "callback URL does not match command"
    else .ok (runtime.tryReserve jobId leaseId)

/-- `_release`: drop the reservation of the job if it is still under this lease. -/
def release (runtime : ExecutorRuntime) (jobId leaseId : UUID) : ExecutorRuntime :=
  if runtime.leaseOf jobId = some leaseId then
    { runtime with
      active := runtime.active.filter fun entry => entry.1 ≠ jobId
      jobs_nodup := runtime.jobs_nodup.sublist (List.filter_sublist.map Prod.fst)
      active_le_capacity := (List.length_filter_le _ _).trans runtime.active_le_capacity }
  else runtime

variable {runtime runtime' : ExecutorRuntime} {jobId leaseId : UUID} {acceptance : Acceptance}

/-- What the critical section can do: answer with the lease it holds, refuse for
lack of room, or reserve the job under the lease of the command. -/
theorem tryReserve_cases (h : runtime.tryReserve jobId leaseId = (runtime', acceptance)) :
    (runtime' = runtime ∧ (jobId, acceptance.leaseId) ∈ runtime.active ∧
      acceptance.status = if acceptance.leaseId = leaseId then .duplicate else .conflict) ∨
    (runtime' = runtime ∧ acceptance.status = .busy) ∨
    (runtime'.active = (jobId, leaseId) :: runtime.active ∧
      acceptance = ⟨true, leaseId, .accepted⟩) := by
  unfold tryReserve at h
  split at h
  · next current hcur =>
    cases h
    exact .inl ⟨rfl, mem_active_of_leaseOf hcur, rfl⟩
  · split at h
    · cases h
      exact .inr (.inr ⟨rfl, rfl⟩)
    · cases h
      exact .inr (.inl ⟨rfl, rfl⟩)

theorem mem_active_of_answered (h : runtime.tryReserve jobId leaseId = (runtime', acceptance))
    (hbusy : acceptance.status ≠ .busy) : (jobId, acceptance.leaseId) ∈ runtime'.active := by
  obtain ⟨rfl, hmem, _⟩ | ⟨_, hs⟩ | ⟨hactive, rfl⟩ := tryReserve_cases h
  · exact hmem
  · exact absurd hs hbusy
  · rw [hactive]
    exact List.mem_cons_self

/-- A reservation after `tryReserve` was there before or is the one of the command. -/
theorem mem_active_tryReserve (h : runtime.tryReserve jobId leaseId = (runtime', acceptance))
    {entry : UUID × UUID} (hmem : entry ∈ runtime'.active) :
    entry ∈ runtime.active ∨ entry = (jobId, leaseId) := by
  obtain ⟨rfl, _, _⟩ | ⟨rfl, _⟩ | ⟨hactive, _⟩ := tryReserve_cases h
  · exact .inl hmem
  · exact .inl hmem
  · rw [hactive, List.mem_cons] at hmem
    exact hmem.symm

theorem release_active_subset : (runtime.release jobId leaseId).active ⊆ runtime.active := by
  unfold release
  split
  · exact List.filter_sublist.subset
  · exact List.Subset.refl _

end ExecutorRuntime

end Trackpal.Worker
