import Trackpal.Foundation.Runs
import Trackpal.Foundation.Threads
import Trackpal.Export.Job

/-!
# Everyone who touches an export

The table of export jobs, the storage of their artifacts, and the processes that work on
both: `export_worker_loop`, `request_export`, `cancel_export`, the status and download
requests, the cleanup loop, and the deletion of a tenant. A step of a process is one
statement with its commit, or one call of the storage. Any number of processes run at the
same time, and any of them may stop for good between two steps.

What a step does is its effect, which `Shared.apply` performs; where the process goes next
depends on what it has read and on the answer. An exception may come after the effect.

Instants are microseconds. A step draws a token that no step has drawn before, for a new
row, a new key or a new lease.

The lists `missed`, `begun` and `deleted` are history variables: the jobs that were
cancelled since the process last read them, the jobs for which an attempt was begun, and
the tenants whose deletion has returned success.
-/

namespace Trackpal.Export

open Trackpal.Protocol Trackpal.Foundation

/-- How an `await` ends. -/
inductive Answer where
  | returned
  /-- `StorageObjectNotFoundError` or `StorageOperationError`. -/
  | storageError (applied : Bool)
  | raised (applied : Bool)
deriving DecidableEq, Repr

/-- The effect has taken place. -/
def Answer.applied : Answer → Bool
  | .returned => true
  | .storageError applied | .raised applied => applied

structure StoredExport where
  jobId : UUID
  tenantId : UUID
deriving DecidableEq, Repr

/-- The database, the storage and the clock. -/
structure Shared where
  now : Int
  jobs : Jobs
  tenants : UUID → Bool
  objects : ObjectKey → Option StoredExport
  drawn : List Nat

/-- What one statement or one call of the storage changes. -/
inductive Effect where
  | none
  | claim (id token : UUID) (leaseExpiresAt : Int)
  | updateStatus (id : UUID) (status : JobStatus) (fields : StatusFields)
  | incrementAttempts (id : UUID)
  | cancelJob (id : UUID)
  | create (job : ExportJob)
  | deleteJobs (ids : List UUID)
  | removeTenant (tenantId : UUID)
  | upload (key : ObjectKey) (stored : StoredExport)
  | delete (key : ObjectKey)
deriving DecidableEq, Repr

/-- Perform an effect. -/
def Shared.apply (s : Shared) : Effect → Shared
  | .none => s
  | .claim id token leaseExpiresAt => { s with jobs := claim s.jobs id token leaseExpiresAt }
  | .updateStatus id status fields => { s with jobs := updateStatus s.jobs id s.now status fields }
  | .incrementAttempts id => { s with jobs := incrementAttempts s.jobs id }
  | .cancelJob id => { s with jobs := cancelJob s.jobs id }
  | .create job => { s with jobs := s.jobs.insert job }
  | .deleteJobs ids => { s with jobs := s.jobs.remove fun job => job.id ∈ ids }
  | .removeTenant tenantId => { s with
      tenants := fun other => other ≠ tenantId && s.tenants other
      jobs := s.jobs.remove fun job => job.tenantId = tenantId }
  | .upload key stored => { s with
      objects := fun other => if other = key then some stored else s.objects other }
  | .delete key => { s with
      objects := fun other => if other = key then .none else s.objects other }

/-! ## The worker -/

structure ClaimedJob where
  id : UUID
  tenantId : UUID
  maxAttempts : Nat
deriving DecidableEq, Repr

inductive Work where
  | tenant
  | settings
  | people
  | catalog
  | subscriptions
  | zip
deriving DecidableEq, Repr

def Work.next : Work → Option Work
  | .tenant => some .settings
  | .settings => some .people
  | .people => some .catalog
  | .catalog => some .subscriptions
  | .subscriptions => some .zip
  | .zip => none

/-- Where a worker stands; `attempt` counts from zero. -/
inductive WorkerPoint where
  /-- Next is the `SELECT` of `claim_pending`. -/
  | polling
  | claiming (job : ClaimedJob) (leaseExpiresAt : Int)
  /-- The checkpoint before an attempt, outside of its `try`. -/
  | checking (job : ClaimedJob) (attempt : Nat)
  | working (job : ClaimedJob) (attempt : Nat) (work : Work)
  | checkpoint (job : ClaimedJob) (attempt : Nat) (work : Work)
  | tenantMissing (job : ClaimedJob) (attempt : Nat)
  | uploading (job : ClaimedJob) (attempt : Nat)
  /-- The checkpoint after the upload. -/
  | uploaded (job : ClaimedJob) (attempt : Nat) (key : ObjectKey)
  | purging (job : ClaimedJob) (key : ObjectKey)
  /-- `confirm_replacement_ready`, from here to `clearing`. -/
  | confirming (job : ClaimedJob) (attempt : Nat) (key : ObjectKey)
      (expiresAt cooldownUntil : Int)
  | superseding (job : ClaimedJob) (attempt : Nat) (replacedJobId : UUID)
  | removing (job : ClaimedJob) (attempt : Nat) (prev : ExportJob) (key : ObjectKey)
  | clearing (job : ClaimedJob) (attempt : Nat) (prev : ExportJob)
  /-- The `except` block, from here to `resetting`. -/
  | counting (job : ClaimedJob) (attempt : Nat)
  | givingUp (job : ClaimedJob)
  | backingOff (job : ClaimedJob) (attempt seconds : Nat)
  | resetting (job : ClaimedJob) (attempt : Nat)
deriving DecidableEq, Repr

/-- The job that a worker is inside `_process_job_with_session` for. -/
def WorkerPoint.job : WorkerPoint → Option ClaimedJob
  | .polling | .claiming _ _ => none
  | .checking job _ | .working job _ _ | .checkpoint job _ _ | .tenantMissing job _
  | .uploading job _ | .uploaded job _ _ | .purging job _ | .confirming job _ _ _ _
  | .superseding job _ _ | .removing job _ _ _ | .clearing job _ _ | .counting job _
  | .givingUp job | .backingOff job _ _ | .resetting job _ => some job

def WorkerPoint.effect (token : Nat) : WorkerPoint → Effect
  | .claiming job leaseExpiresAt => .claim job.id ⟨token⟩ leaseExpiresAt
  | .tenantMissing job _ => .updateStatus job.id .failed { errorCode := some "TENANT_NOT_FOUND" }
  | .uploading job _ => .upload ⟨token⟩ ⟨job.id, job.tenantId⟩
  | .purging _ key => .delete key
  | .confirming job _ key expiresAt cooldownUntil => .updateStatus job.id .ready
      { r2Key := some key
        expiresAt := some expiresAt
        clearLease := true
        cooldownUntil := some cooldownUntil }
  | .removing _ _ _ key => .delete key
  | .clearing _ _ prev => .updateStatus prev.id prev.status { expiresAt := prev.expiresAt }
  | .counting job _ => .incrementAttempts job.id
  | .givingUp job => .updateStatus job.id .failed { errorCode := some "GENERATION_ERROR" }
  | .resetting job _ => .updateStatus job.id .pending { clearLease := true }
  | _ => .none

/-- `_RETRY_BACKOFF_BASE * (5**attempt)`. -/
def backoffSeconds (attempt : Nat) : Nat := 5 * 5 ^ attempt

def WorkerPoint.next (s : Shared) (token : Nat) (answer : Answer) : WorkerPoint → WorkerPoint
  | .polling =>
    match answer, claimable s.jobs s.now with
    | .returned, some job =>
      .claiming ⟨job.id, job.tenantId, job.maxAttempts⟩ (s.now + leaseTime)
    | _, _ => .polling
  | .claiming job _ =>
    -- the `UPDATE` of a row that is gone raises
    if answer = .returned ∧ s.jobs.get job.id ≠ none then .checking job 0 else .polling
  | .checking job attempt =>
    if answer = .returned ∧ isCancelled s.jobs job.id = false then .working job attempt .tenant
    else .polling
  | .working job attempt work =>
    if answer ≠ .returned then .counting job attempt
    else if work = .tenant ∧ s.tenants job.tenantId = false then .tenantMissing job attempt
    else .checkpoint job attempt work
  | .checkpoint job attempt work =>
    if answer ≠ .returned then .counting job attempt
    else if isCancelled s.jobs job.id then .polling
    else
      match work.next with
      | some work => .working job attempt work
      | none => .uploading job attempt
  | .tenantMissing job attempt => if answer = .returned then .polling else .counting job attempt
  | .uploading job attempt =>
    if answer = .returned then .uploaded job attempt ⟨token⟩ else .counting job attempt
  | .uploaded job attempt key =>
    if answer ≠ .returned then .counting job attempt
    else if isCancelled s.jobs job.id then .purging job key
    else .confirming job attempt key (s.now + exportTtl) (s.now + cooldown)
  | .purging _ _ => .polling
  | .confirming job attempt _ _ _ =>
    if answer ≠ .returned then .counting job attempt
    else
      match (s.jobs.get job.id).bind (·.replacedJobId) with
      | some replacedJobId => .superseding job attempt replacedJobId
      | none => .polling
  | .superseding job attempt replacedJobId =>
    if answer ≠ .returned then .counting job attempt
    else
      match s.jobs.get replacedJobId with
      | some prev =>
        match prev.r2Key with
        | some key => .removing job attempt prev key
        | none => .polling
      | none => .polling
  | .removing job attempt prev _ =>
    match answer with
    | .raised _ => .counting job attempt
    | _ => .clearing job attempt prev
  | .clearing job attempt _ => if answer = .returned then .polling else .counting job attempt
  | .counting job attempt =>
    if answer ≠ .returned then .polling
    else if job.maxAttempts ≤ attempt + 1 then .givingUp job
    else .backingOff job attempt (backoffSeconds attempt)
  | .givingUp _ => .polling
  | .backingOff job attempt seconds =>
    if answer = .returned ∧ isCancelled s.jobs job.id = false then
      if 1 < seconds then .backingOff job attempt (seconds - 1) else .resetting job attempt
    else .polling
  | .resetting job attempt => if answer = .returned then .checking job (attempt + 1) else .polling

/-! ## Requests -/

/-- The arguments of `request_export`, and when its transaction began. -/
structure Request where
  tenantId : UUID
  actorId : UUID
  actorRole : String
  begunAt : Int
deriving DecidableEq, Repr

/-- Where `request_export` stands. -/
inductive RequestPoint where
  /-- Next is the `SELECT` of `is_within_cooldown`. -/
  | cooling (request : Request)
  /-- A cooldown was found; next is the second look at the clock. -/
  | judging (request : Request) (cooldownUntil : Int)
  | looking (request : Request)
  | creating (request : Request) (current : Option ExportJob) (cooldownUntil : Int)
  | linking (request : Request) (current : ExportJob) (jobId : UUID)
deriving DecidableEq, Repr

/-- `created_at` is the server's `now()`, which is when the transaction began. -/
def RequestPoint.effect (s : Shared) (token : Nat) : RequestPoint → Effect
  | .creating request current cooldownUntil =>
    -- the foreign key refuses a tenant that is gone
    if s.tenants request.tenantId then
      .create (newJob ⟨token⟩ request.tenantId request.actorId request.actorRole request.begunAt
        cooldownUntil (current.map (·.id)))
    else .none
  | .linking _ current jobId => .updateStatus current.id current.status
      { r2Key := current.r2Key
        expiresAt := current.expiresAt
        replacementJobId := some jobId }
  | _ => .none

def RequestPoint.next (s : Shared) (token : Nat) (answer : Answer) :
    RequestPoint → Option RequestPoint
  | .cooling request =>
    if answer = .returned then
      match (isWithinCooldown s.jobs request.tenantId s.now).bind (·.cooldownUntil) with
      | some cooldownUntil => some (.judging request cooldownUntil)
      | none => some (.looking request)
    else none
  | .judging request cooldownUntil => if s.now < cooldownUntil then none else some (.looking request)
  | .looking request =>
    if answer = .returned then
      some (.creating request (getReady s.jobs request.tenantId s.now) (s.now + cooldown))
    else none
  | .creating request current _ =>
    if answer = .returned ∧ s.tenants request.tenantId then
      current.map fun job => .linking request job ⟨token⟩
    else none
  | .linking _ _ _ => none

/-! ## Cancellation -/

/-- Where `cancel_export` or `cancel_export_by_job_id` stands. -/
inductive CancelPoint where
  | latest (tenantId : UUID)
  | byId (jobId tenantId : UUID)
  | discarding (jobId : UUID) (key : ObjectKey)
  | committing (jobId : UUID)
deriving DecidableEq, Repr

inductive CancelResult where
  | more (point : CancelPoint)
  | finished (cancelled : Bool)
  | raised
deriving DecidableEq, Repr

def CancelPoint.effect : CancelPoint → Effect
  | .discarding _ key => .delete key
  | .committing jobId => .cancelJob jobId
  | _ => .none

def lookCancel : Option ExportJob → CancelResult
  | none => .finished false
  | some job =>
    if job.status.active then
      match job.status, job.r2Key with
      | .processing, some key => .more (.discarding job.id key)
      | _, _ => .more (.committing job.id)
    else .finished false

def CancelPoint.next (s : Shared) (answer : Answer) : CancelPoint → CancelResult
  | .latest tenantId =>
    if answer = .returned then lookCancel (getLatest s.jobs tenantId) else .raised
  | .byId jobId tenantId =>
    if answer = .returned then lookCancel ((s.jobs.get jobId).filter (·.tenantId = tenantId))
    else .raised
  | .discarding jobId _ =>
    match answer with
    | .raised _ => .raised
    | _ => .more (.committing jobId)
  | .committing jobId =>
    if answer = .returned then .finished ((s.jobs.get jobId).any (·.status.active)) else .raised

/-! ## Status and download -/

/-- Where `get_current_export` or `get_download_url` stands. -/
inductive StatusPoint where
  | current (tenantId : UUID)
  /-- The job that the latest one replaces. -/
  | previous (jobId : UUID)
  | downloading (tenantId : UUID)
  /-- Next is the storage's answer about the key of the row. -/
  | probing (row : ExportJob) (key : ObjectKey)
  | forgetting (row : ExportJob)
deriving DecidableEq, Repr

def StatusPoint.effect : StatusPoint → Effect
  | .forgetting row => .updateStatus row.id row.status { expiresAt := row.expiresAt }
  | _ => .none

/-- Ask the storage about a ready job. -/
def probe (row : ExportJob) : Option StatusPoint := row.r2Key.map (.probing row)

def StatusPoint.next (s : Shared) (answer : Answer) : StatusPoint → Option StatusPoint
  | .current tenantId =>
    if answer = .returned then
      match getLatest s.jobs tenantId with
      | some job =>
        if job.status = .ready then probe job
        else if job.status.active then job.replacedJobId.map .previous
        else none
      | none => none
    else none
  | .previous jobId =>
    if answer = .returned then ((s.jobs.get jobId).filter (unexpired s.now)).bind probe else none
  | .downloading tenantId =>
    if answer = .returned then (downloadable s.jobs tenantId s.now).bind probe else none
  | .probing row key =>
    if answer = .returned ∧ s.objects key = none then some (.forgetting row) else none
  | .forgetting _ => none

/-! ## Cleanup -/

/-- Where a round of the cleanup loop stands; the rows are those of its `SELECT`. -/
inductive CleanupPoint where
  | sweeping
  | deletingExpired (row : ExportJob) (key : ObjectKey) (rest : List ExportJob)
  | clearingExpired (row : ExportJob) (rest : List ExportJob)
  | sweepingFailed
  | redacting (row : ExportJob) (rest : List ExportJob)
deriving DecidableEq, Repr

def CleanupPoint.effect : CleanupPoint → Effect
  | .deletingExpired _ key _ => .delete key
  | .clearingExpired row _ => .updateStatus row.id row.status { expiresAt := row.expiresAt }
  | .redacting row _ => .updateStatus row.id row.status { errorCode := row.errorCode }
  | _ => .none

/-- The loop of `cleanup_expired_exports`. -/
def sweep : List ExportJob → CleanupPoint
  | [] => .sweepingFailed
  | row :: rest =>
    match row.r2Key with
    | some key => .deletingExpired row key rest
    | none => .clearingExpired row rest

/-- The loop of `cleanup_stale_failed_jobs`. -/
def redact : List ExportJob → Option CleanupPoint
  | [] => none
  | row :: rest => some (.redacting row rest)

def CleanupPoint.next (s : Shared) (answer : Answer) : CleanupPoint → Option CleanupPoint
  | .sweeping => if answer = .returned then some (sweep (expiredReady s.jobs s.now)) else none
  | .deletingExpired row _ rest =>
    match answer with
    | .raised _ => none
    | _ => some (.clearingExpired row rest)
  | .clearingExpired _ rest => if answer = .returned then some (sweep rest) else none
  | .sweepingFailed => if answer = .returned then redact (staleFailed s.jobs s.now) else none
  | .redacting _ rest => if answer = .returned then redact rest else none

/-! ## The deletion of a tenant -/

/-- Where `delete_tenant_account` or `delete_tenant_as_master` stands, from its third
step on, which is where they are the same. -/
inductive DeletionPoint where
  | cancelling (tenantId : UUID) (cancel : CancelPoint)
  | waiting (tenantId : UUID)
  | listing (tenantId : UUID)
  | deletingKeys (tenantId : UUID) (key : ObjectKey) (rest : List ObjectKey)
  | deletingInstance (tenantId : UUID)
  | selectingRows (tenantId : UUID)
  | deletingRows (tenantId : UUID) (ids : List UUID)
  | removingTenant (tenantId : UUID)
deriving DecidableEq, Repr

def DeletionPoint.effect : DeletionPoint → Effect
  | .cancelling _ cancel => cancel.effect
  | .deletingKeys _ key _ => .delete key
  | .deletingRows _ ids => .deleteJobs ids
  | .removingTenant tenantId => .removeTenant tenantId
  | _ => .none

/-- The loop of `_purge_export_storage`. -/
def purgeKeys (tenantId : UUID) : List ObjectKey → DeletionPoint
  | [] => .deletingInstance tenantId
  | key :: rest => .deletingKeys tenantId key rest

def recordedKeys (jobs : Jobs) (tenantId : UUID) : List ObjectKey :=
  ((jobs.select fun job => job.tenantId = tenantId).filterMap (·.r2Key)).dedup

def DeletionPoint.next (s : Shared) (answer : Answer) : DeletionPoint → Option DeletionPoint
  | .cancelling tenantId cancel =>
    match cancel.next s answer with
    | .more cancel => some (.cancelling tenantId cancel)
    | .finished true => some (.waiting tenantId)
    | .finished false => some (.listing tenantId)
    | .raised => none
  -- the session has the row that `cancel_job` returned, so the first poll ends the wait
  | .waiting tenantId => if answer = .returned then some (.listing tenantId) else none
  | .listing tenantId =>
    if answer = .returned then some (purgeKeys tenantId (recordedKeys s.jobs tenantId)) else none
  | .deletingKeys tenantId _ rest =>
    if answer = .returned then some (purgeKeys tenantId rest) else none
  | .deletingInstance tenantId => if answer = .returned then some (.selectingRows tenantId) else none
  | .selectingRows tenantId =>
    if answer = .returned then
      some (.deletingRows tenantId ((s.jobs.select fun job => job.tenantId = tenantId).map (·.id)))
    else none
  | .deletingRows tenantId _ => if answer = .returned then some (.removingTenant tenantId) else none
  | .removingTenant _ => none

/-! ## Steps -/

/-- Where a process stands. -/
inductive Point where
  | worker (point : WorkerPoint)
  | request (point : RequestPoint)
  | cancel (point : CancelPoint)
  | status (point : StatusPoint)
  | cleanup (point : CleanupPoint)
  | deletion (point : DeletionPoint)
deriving DecidableEq, Repr

def Point.effect (s : Shared) (token : Nat) : Point → Effect
  | .worker point => point.effect token
  | .request point => point.effect s token
  | .cancel point => point.effect
  | .status point => point.effect
  | .cleanup point => point.effect
  | .deletion point => point.effect

def Point.next (s : Shared) (token : Nat) (answer : Answer) : Point → Option Point
  | .worker point => some (.worker (point.next s token answer))
  | .request point => (point.next s token answer).map .request
  | .cancel point =>
    match point.next s answer with
    | .more point => some (.cancel point)
    | _ => none
  | .status point => (point.next s answer).map .status
  | .cleanup point => (point.next s answer).map .cleanup
  | .deletion point => (point.next s answer).map .deletion

/-- The next step reads the row of the job, and may lead to where its status is written. -/
def Point.reads (id : UUID) : Point → Bool
  | .worker .polling => true
  | .worker (.checking job _) | .worker (.checkpoint job _ _) | .worker (.uploaded job _ _)
  | .worker (.backingOff job _ _) => job.id = id
  | .worker (.superseding _ _ replacedJobId) => replacedJobId = id
  | .request (.looking _) => true
  | .status (.current _) | .status (.downloading _) => true
  | .status (.previous jobId) => jobId = id
  | .cleanup .sweeping | .cleanup .sweepingFailed => true
  | _ => false

def Point.begins (s : Shared) (answer : Answer) : Point → Option UUID
  | .worker (.checking job _) =>
    if answer = .returned ∧ isCancelled s.jobs job.id = false then some job.id else none
  | _ => none

def Point.deletes (answer : Answer) : Point → Option UUID
  | .deletion (.removingTenant tenantId) => if answer = .returned then some tenantId else none
  | _ => none

/-- What is started. -/
inductive Operation where
  | worker
  | request (tenantId actorId : UUID) (actorRole : String)
  | cancel (tenantId : UUID)
  | cancelById (jobId tenantId : UUID)
  | current (tenantId : UUID)
  | download (tenantId : UUID)
  | cleanup
  | delete (tenantId : UUID)
deriving DecidableEq, Repr

def Operation.point (now : Int) : Operation → Point
  | .worker => .worker .polling
  | .request tenantId actorId actorRole => .request (.cooling ⟨tenantId, actorId, actorRole, now⟩)
  | .cancel tenantId => .cancel (.latest tenantId)
  | .cancelById jobId tenantId => .cancel (.byId jobId tenantId)
  | .current tenantId => .status (.current tenantId)
  | .download tenantId => .status (.downloading tenantId)
  | .cleanup => .cleanup .sweeping
  | .delete tenantId => .deletion (.cancelling tenantId (.latest tenantId))

structure Process where
  point : Point
  missed : List UUID
deriving DecidableEq, Repr

/-- What the processes share, the processes, and what has happened. -/
structure World where
  shared : Shared
  processes : Threads Process
  begun : List UUID
  deleted : List UUID

/-- Some tenants, and no export yet. -/
def World.start (tenants : UUID → Bool) (now : Int) : World where
  shared := ⟨now, .empty, tenants, fun _ => none, []⟩
  processes := .none
  begun := []
  deleted := []

inductive Action where
  | tick (now : Int)
  | start (operation : Operation)
  | run (pid : Nat) (answer : Answer) (token : Nat)
  | kill (pid : Nat)
deriving DecidableEq, Repr

/-- The effect that takes place. -/
def Point.performed (s : Shared) (token : Nat) (answer : Answer) (point : Point) : Effect :=
  if answer.applied then point.effect s token else .none

def Shared.cancels (s : Shared) : Effect → Option UUID
  | .cancelJob id => if (s.jobs.get id).any (·.status.active) then some id else none
  | _ => none

/-- A job was cancelled. -/
def Process.note (cancelled : Option UUID) (process : Process) : Process :=
  { process with missed := cancelled.toList ++ process.missed }

def Process.look (answer : Answer) (process : Process) : Process :=
  { process with
    missed := process.missed.filter fun id => !(answer = .returned && process.point.reads id) }

def Shared.after (s : Shared) (point : Point) (answer : Answer) (token : Nat) : Shared :=
  { s.apply (point.performed s token answer) with drawn := token :: s.drawn }

def World.run (w : World) (pid : Nat) (process : Process) (answer : Answer) (token : Nat) :
    World :=
  let cancelled := w.shared.cancels (process.point.performed w.shared token answer)
  { shared := w.shared.after process.point answer token
    processes := (w.processes.map (·.note cancelled)).put pid
      ((process.point.next w.shared token answer).map fun point =>
        { (process.look answer).note cancelled with point })
    begun := (process.point.begins w.shared answer).toList ++ w.begun
    deleted := (process.point.deletes answer).toList ++ w.deleted }

def step (w : World) : Action → Option World
  | .tick now =>
    if w.shared.now ≤ now then some { w with shared := { w.shared with now } } else none
  | .start operation =>
    some { w with processes := w.processes.spawn ⟨operation.point w.shared.now, []⟩ }
  | .run pid answer token =>
    match w.processes.get pid with
    | some process => if token ∈ w.shared.drawn then none else some (w.run pid process answer token)
    | none => none
  | .kill pid =>
    match w.processes.get pid with
    | some _ => some { w with processes := w.processes.put pid none }
    | none => none

/-- One tenant. -/
def exTenants (tenantId : UUID) : Bool := tenantId = ⟨1⟩

/-- Some calls of a process, each of which returns. -/
def exRuns (pid first count : Nat) : List Action :=
  (List.range' first count).map fun token => .run pid .returned token

end Trackpal.Export
