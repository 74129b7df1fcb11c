import Trackpal.Foundation.ExpiringStore
import Trackpal.Foundation.Runs
import Trackpal.Coordinator.Complete

/-!
# One job and everyone who writes it

The steps of `_dispatch`, `complete`, `cancel_active_job_if_present`, the status
poll and `expire_stale_jobs` on one job. A step is one read of the job, with or
without `FOR UPDATE`, one call of the store, one answer of an executor, or one
write with its commit. Any number of each run at the same time.

After its last decision a process only works off a list of effects. A commit
needs the row lock, or takes it for the length of the `UPDATE`; it writes the
columns that the session has changed from what it loaded. The text of a resume
notification, the health of executors and the delivery log are elsewhere; what
the log answers is an input of the step that asks it.

The lists `sent`, `applied` and `history` are history variables: the leases
handed to executors, the leases whose callback was committed, and every status
that was flushed and committed, newest first.
-/

namespace Trackpal.Coordinator

open Trackpal.Protocol Trackpal.Foundation

inductive Effect where
  /-- Commit the row as the session holds it; the statuses were flushed on the way. -/
  | commit (held : MailLookupJob) (flushed : List JobStatus)
  | rollback
  | releaseLease
  | enqueue
  /-- Enqueue the job if `_job_unexpired`. -/
  | requeue
  | putResult (type : ResultType) (value : String) (ttlSeconds : Int)
  | releaseDispatchLock
deriving DecidableEq, Repr

/-- For whom a process acts. -/
inductive Actor where
  | dispatch (lease : LookupLease)
  /-- A dispatch that has no lease. -/
  | dispatcher
  | callback (callback : VerifiedCallback)
  | cancel
  | poll
  | cleanup
deriving DecidableEq, Repr

/-- Where a process stands. `job` is the row as its session loaded it. -/
inductive Process where
  /-- A pump has popped the job; next is the dispatch lock. -/
  | popped
  /-- The dispatch lock is held; next is the unlocked read. -/
  | dispatching
  /-- The job is pending and in time; next is the selection of an executor. -/
  | selecting (job : MailLookupJob)
  | reserving (job : MailLookupJob) (executorId : UUID)
  | building (job : MailLookupJob) (lease : LookupLease)
  /-- The handoff was posted. -/
  | inFlight (job : MailLookupJob) (lease : LookupLease)
  /-- The handoff has answered; next is the locked read. -/
  | answered (job : MailLookupJob) (lease : LookupLease) (outcome : HandoffResult)
  /-- A callback was authenticated; next is the locked read. -/
  | completing (callback : VerifiedCallback)
  /-- The callback holds the row lock of an active job; next is `get_lease`. -/
  | checking (callback : VerifiedCallback) (job : MailLookupJob)
  /-- The callback was admitted; next is its outcome. -/
  | settling (callback : VerifiedCallback) (job held : MailLookupJob) (flushed : List JobStatus)
  | cancelling
  | cancelLocking
  | polling
  | pollLocking
  | cleaning
  | running (actor : Actor) (job : MailLookupJob) (effects : List Effect)
deriving DecidableEq, Repr

def Process.holdsDispatchLock : Process → Bool
  | .dispatching | .selecting _ | .reserving _ _ | .building _ _ | .inFlight _ _
  | .answered _ _ _ => true
  | .running (.dispatch _) _ effects | .running .dispatcher _ effects =>
    .releaseDispatchLock ∈ effects
  | _ => false

/-- The job, the store's keys about it, and the processes. `locked` is the process
whose transaction holds the row lock, `lease` the lease key in Redis. -/
structure State where
  now : Int
  row : MailLookupJob
  locked : Option Nat
  lease : ExpiringStore Unit LookupLease Int
  dispatchLock : ExpiringStore Unit Unit Int
  result : ExpiringStore Unit (ResultType × String) Int
  queued : Bool
  processes : Nat → Option Process
  next : Nat
  used : List UUID
  sent : List LookupLease
  applied : List UUID
  execution : Option UUID
  history : List JobStatus

/-- A job that `create_job` has made and `schedule` has enqueued. -/
def State.start (job : MailLookupJob) (now : Int) : State where
  now := now
  row := { job with
    status := .pending
    executorId := none
    resultType := none
    errorCode := none
    errorDetailSafe := none }
  locked := none
  lease := .empty
  dispatchLock := .empty
  result := .empty
  queued := true
  processes := fun _ => none
  next := 0
  used := []
  sent := []
  applied := []
  execution := none
  history := [.pending]

/-- One step. `pid` is the process that takes it. -/
inductive Action where
  | tick (now : Int)
  | pop
  /-- An executor's callback for a lease that was sent to it is authenticated. -/
  | callback (callback : VerifiedCallback)
  | cancel
  | poll
  | cleanup
  /-- `acquire_dispatch_lock`. -/
  | acquire (pid : Nat)
  /-- The unlocked read of a dispatch, a cancel, a poll or the cleanup. -/
  | read (pid : Nat)
  /-- `_select_executor`. -/
  | select (pid : Nat) (executorId : Option UUID)
  /-- `reserve_lease` with a fresh lease. -/
  | reserve (pid : Nat) (leaseId : UUID)
  /-- `_build_envelope`, and the POST of the handoff. -/
  | build (pid : Nat) (built : Bool)
  /-- The handoff returns; `none` is an exception of the transport. -/
  | answer (pid : Nat) (outcome : Option HandoffResult)
  /-- The locked read of a dispatch, a callback, a cancel or a poll. -/
  | lock (pid : Nat)
  /-- `get_lease` and the checks of a callback. -/
  | check (pid : Nat)
  /-- The outcome of a callback; `inserted` is the answer of the delivery log. -/
  | settle (pid : Nat) (inserted : Bool)
  | run (pid : Nat)
  | raise (pid : Nat)
  /-- The task of a dispatch is cancelled: its lease stays. -/
  | cancelled (pid : Nat)
  /-- A process ends where it stands; its transaction rolls back. -/
  | abort (pid : Nat)
deriving DecidableEq, Repr

namespace State

/-- The process `pid` moves on. -/
def put (s : State) (pid : Nat) (process : Process) : State :=
  { s with processes := Function.update s.processes pid (some process) }

/-- The process `pid` ends, and with it its transaction. -/
def finish (s : State) (pid : Nat) : State :=
  { s with
    processes := Function.update s.processes pid none
    locked := if s.locked = some pid then none else s.locked }

/-- A new process. -/
def spawn (s : State) (process : Process) : State :=
  { s with
    processes := Function.update s.processes s.next (some process)
    next := s.next + 1 }

/-- The row lock is free, or held by `pid`. -/
def free (s : State) (pid : Nat) : Bool :=
  s.locked = none ∨ s.locked = some pid

def storedLease (s : State) : Option LookupLease := s.lease.get s.now ()

/-- `get_lease`: a lease past its `expires_at` is not returned. -/
def getLease (s : State) : Option LookupLease :=
  s.storedLease.filter (s.now < ·.expiresAt)

end State

/-! ## Decisions of a dispatch -/

def endDispatch : List Effect := [.releaseDispatchLock]

def readDispatch (settings : Settings) (job : MailLookupJob) (now : Int) : Process :=
  if job.status ≠ .pending then .running .dispatcher job endDispatch
  else if remainingLookupBudget settings job now ≤ 0 then
    match deadlineExpired job now none none with
    | some held => .running .dispatcher job (.commit held [.timeout] :: endDispatch)
    | none => .running .dispatcher job endDispatch
  else .selecting job

/-- `_requeue` with an error: the job stays as it is but for the error. -/
def withDispatchError (job : MailLookupJob) (error : Option String) : MailLookupJob :=
  { job with lastDispatchErrorSafe := error.or job.lastDispatchErrorSafe }

/-- The executor has taken the job over under this lease. -/
def handoffAccepted (lease : LookupLease) (outcome : HandoffResult) : Bool :=
  (outcome.status = .accepted ∨ outcome.status = .duplicateSameLease) ∧
    outcome.leaseId = some lease.leaseId

/-- `_handle_handoff` on the locked row. -/
def handleHandoff (job : MailLookupJob) (lease : LookupLease) (outcome : HandoffResult)
    (now : Int) :
    List Effect :=
  if handoffAccepted lease outcome then
    match transitionStatus { job with
        executorId := some lease.executorId
        executionAttempts := job.executionAttempts + 1 } now .processing {} with
    | some held => .commit held [.processing] :: endDispatch
    | none => .releaseLease :: .rollback :: endDispatch
  else if outcome.status = .busy then
    .releaseLease :: .enqueue :: .commit job [] :: endDispatch
  else if outcome.status = .securityError ∨ outcome.status = .protocolError then
    .releaseLease :: .enqueue :: .commit (withDispatchError job outcome.safeError) [] :: endDispatch
  else
    .releaseLease :: .enqueue :: .commit (withDispatchError job
      (some (textOr outcome.safeError "executor handoff transport failed"))) [] :: endDispatch

def recheckDispatch (settings : Settings) (job : MailLookupJob) (lease : LookupLease)
    (outcome : HandoffResult) (now : Int) : List Effect :=
  if job.status ≠ .pending then .releaseLease :: .rollback :: endDispatch
  else if remainingLookupBudget settings job now ≤ 0 then
    match deadlineExpired job now none none with
    | some held => .commit held [.timeout] :: .releaseLease :: endDispatch
    | none => .releaseLease :: .rollback :: endDispatch
  else handleHandoff job lease outcome now

/-! ## Decisions of the other processes -/

def settleEffects : Settlement → List Effect
  | .rollback => [.rollback]
  | .commit held flushed result =>
    (match result with
      | some (type, value, ttl) => [Effect.putResult type value ttl]
      | none => []) ++
    [Effect.commit held flushed, .releaseLease] ++
    (if held.status = .pending then [Effect.requeue] else [])

/-- The unlocked read of a status poll: `none` if there is nothing to do. -/
def readPoll (settings : Settings) (job : MailLookupJob) (now : Int) : Option Process :=
  if job.status.active ∧ responseDeadlineExpired settings job now then some .pollLocking
  else if job.status = .pending ∧ jobUnexpired job.expiresAt now then
    some (.running .poll job [.enqueue])
  else none

def recheckPoll (settings : Settings) (job : MailLookupJob) (now : Int) : List Effect :=
  if job.status.active ∧ responseDeadlineExpired settings job now then
    match deadlineExpired job now none none with
    | some held => [.commit held [.timeout], .releaseLease]
    | none => [.rollback]
  else [.commit job []]

/-! ## Steps -/

/-- The unlocked read of process `pid`. -/
def stepRead (settings : Settings) (s : State) (pid : Nat) : Option State :=
  match s.processes pid with
  | some .dispatching => some (s.put pid (readDispatch settings s.row s.now))
  | some .cancelling =>
    if s.row.status.active then some (s.put pid .cancelLocking) else some (s.finish pid)
  | some .polling =>
    match readPoll settings s.row s.now with
    | some process => some (s.put pid process)
    | none => some (s.finish pid)
  | some .cleaning =>
    if isStale s.row s.now then
      some (s.put pid (.running .cleanup s.row [.commit (expireJob s.row s.now) [.timeout]]))
    else some (s.finish pid)
  | _ => none

/-- The locked read of process `pid`. -/
def stepLock (settings : Settings) (s : State) (pid : Nat) : Option State :=
  if s.locked.isSome then none
  else
    let s := { s with locked := some pid }
    match s.processes pid with
    | some (.answered _ lease outcome) =>
      some (s.put pid (.running (.dispatch lease) s.row
        (recheckDispatch settings s.row lease outcome s.now)))
    | some (.completing callback) =>
      if s.row.status.active then some (s.put pid (.checking callback s.row))
      else some (s.finish pid)
    | some .cancelLocking =>
      if s.row.status.active then
        some (s.put pid (.running .cancel s.row [.commit (cancelJob s.row s.now) [.failed]]))
      else some (s.finish pid)
    | some .pollLocking =>
      some (s.put pid (.running .poll s.row (recheckPoll settings s.row s.now)))
    | _ => none

/-- `get_lease` and the checks of the callback `pid`. -/
def stepCheck (settings : Settings) (s : State) (pid : Nat) : Option State :=
  match s.processes pid with
  | some (.checking callback job) =>
    match admitCallback settings job s.getLease callback s.now with
    | .rejected => some (s.finish pid)
    | .expired held => some (s.put pid (.running (.callback callback) job
        [.commit held [.timeout], .releaseLease]))
    | .admitted held flushed => some (s.put pid (.settling callback job held flushed))
  | _ => none

def State.commit (s : State) (actor : Actor) (job held : MailLookupJob) (flushed : List JobStatus) :
    State :=
  { s with
    row := writeJob job held s.row
    locked := none
    history := flushed.reverse ++ s.history
    applied := match actor with
      | .callback verified => verified.leaseId :: s.applied
      | _ => s.applied
    execution := match actor with
      | .dispatch lease => if flushed = [.processing] then some lease.leaseId else s.execution
      | _ => s.execution }

/-- One effect of process `pid`. -/
def stepEffect (s : State) (pid : Nat) (actor : Actor) (job : MailLookupJob) :
    Effect → Option State
  | .commit held flushed => if s.free pid then some (s.commit actor job held flushed) else none
  | .rollback => some { s with locked := if s.locked = some pid then none else s.locked }
  | .releaseLease => some { s with lease := s.lease.del () }
  | .enqueue => some { s with queued := true }
  | .requeue => some { s with queued := s.queued || jobUnexpired job.expiresAt s.now }
  | .putResult type value ttl =>
    some { s with result := s.result.set () (type, value) (s.now + max 1 ttl * second) }
  | .releaseDispatchLock => some { s with dispatchLock := s.dispatchLock.del () }

/-- The next effect of process `pid`. -/
def stepRun (s : State) (pid : Nat) : Option State :=
  match s.processes pid with
  | some (.running _ _ []) => some (s.finish pid)
  | some (.running actor job (effect :: rest)) =>
    (stepEffect s pid actor job effect).map (·.put pid (.running actor job rest))
  | _ => none

def keyExpiry (settings : Settings) (now : Int) : Int :=
  now + max 1 settings.executionLeaseSeconds * second

/-- One step. `none` means that the action is not possible. -/
def step (settings : Settings) (s : State) : Action → Option State
  | .tick now => if s.now ≤ now then some { s with now := now } else none
  | .pop => if s.queued then some { s.spawn .popped with queued := false } else none
  | .callback callback =>
    if s.sent.any fun lease =>
        lease.leaseId = callback.leaseId ∧ lease.executorId = callback.executorId then
      some (s.spawn (.completing callback))
    else none
  | .cancel => some (s.spawn .cancelling)
  | .poll => some (s.spawn .polling)
  | .cleanup => some (s.spawn .cleaning)
  | .acquire pid =>
    match s.processes pid with
    | some .popped =>
      match s.dispatchLock.setNX s.now () ()
          (s.now + max 1 settings.handoffTimeoutSeconds * second) with
      | (dispatchLock, true) => some ({ s with dispatchLock := dispatchLock }.put pid .dispatching)
      | (_, false) => some (s.finish pid)
    | _ => none
  | .read pid => stepRead settings s pid
  | .select pid executorId =>
    match s.processes pid, executorId with
    | some (.selecting job), some executorId => some (s.put pid (.reserving job executorId))
    | some (.selecting job), none =>
      some (s.put pid (.running .dispatcher job (.enqueue :: endDispatch)))
    | _, _ => none
  | .reserve pid leaseId =>
    match s.processes pid with
    | some (.reserving job executorId) =>
      if leaseId ∈ s.used then none
      else
        let lease : LookupLease :=
          ⟨executorId, leaseId, s.now + settings.executionLeaseSeconds * second⟩
        if settings.executionLeaseSeconds ≤ 0 then
          some (s.put pid (.running .dispatcher job (.enqueue :: endDispatch)))
        else
          match s.lease.setNX s.now () lease (keyExpiry settings s.now) with
          | (stored, true) =>
            some ({ s with lease := stored, used := leaseId :: s.used }.put pid
              (.building job lease))
          | (_, false) => some (s.put pid (.running .dispatcher job (.enqueue :: endDispatch)))
    | _ => none
  | .build pid built =>
    match s.processes pid with
    | some (.building job lease) =>
      if built then some ({ s with sent := lease :: s.sent }.put pid (.inFlight job lease))
      else some (s.put pid (.running (.dispatch lease) job (.releaseLease :: .enqueue ::
        .commit (withDispatchError job (some "mailbox credential is unavailable")) [] ::
        endDispatch)))
    | _ => none
  | .answer pid outcome =>
    match s.processes pid, outcome with
    | some (.inFlight job lease), some outcome => some (s.put pid (.answered job lease outcome))
    | some (.inFlight job lease), none =>
      some (s.put pid (.running (.dispatch lease) job (.enqueue :: .releaseLease ::
        .commit (withDispatchError job (some "executor handoff transport failed")) [] ::
        endDispatch)))
    | _, _ => none
  | .lock pid => stepLock settings s pid
  | .check pid => stepCheck settings s pid
  | .settle pid inserted =>
    match s.processes pid with
    | some (.settling callback job held flushed) =>
      some (s.put pid (.running (.callback callback) job
        (settleEffects (settleCallback settings held flushed callback.outcome inserted s.now))))
    | _ => none
  | .run pid => stepRun s pid
  | .raise pid =>
    match s.processes pid with
    | some (.building job lease) | some (.inFlight job lease) | some (.answered job lease _) |
      some (.running (.dispatch lease) job (_ :: _ :: _)) =>
      some (s.put pid (.running (.dispatch lease) job (.releaseLease :: .rollback :: endDispatch)))
    | _ => none
  | .cancelled pid =>
    if (s.processes pid).any Process.holdsDispatchLock then
      some { s.finish pid with dispatchLock := s.dispatchLock.del () }
    else none
  | .abort pid => if (s.processes pid).isSome then some (s.finish pid) else none

/-- Some run of the job, all of whose steps satisfy `ok`, ends in `s`. -/
def Reachable (settings : Settings) (ok : State → Action → Prop) (job : MailLookupJob) (start : Int)
    (s : State) : Prop :=
  Reaches (step settings) ok (State.start job start) s

def exJob : MailLookupJob where
  id := ⟨1⟩
  tenantId := ⟨2⟩
  mailboxId := ⟨3⟩
  executorId := none
  serviceKey := "netflix"
  requestedAt := 0
  createdAt := 0
  status := .pending
  resultType := none
  errorCode := none
  errorDetailSafe := none
  lastDispatchErrorSafe := none
  executionAttempts := 0
  expiresAt := some (300 * second)
  processingStartedAt := none
  completedAt := none

end Trackpal.Coordinator
