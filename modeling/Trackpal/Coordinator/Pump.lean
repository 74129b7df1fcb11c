import Trackpal.Foundation.Runs
import Trackpal.Store.JobQueue

/-!
# The dispatch pump of one process

`schedule`, `_pump` and `_start_pump_locked`. A step is one call of the store, one
acquisition of the pump guard with what follows it up to the next `await`, or the
end of a dispatch. Any number of `schedule` calls run next to the pump; the calls
that a dispatch makes on its way matter here only if they put its job back.

A pump runs until it has left its `finally` block, and then is done. Two variables
are history: `failed` is the job whose failed dispatch ended the last pump that
started no other, and `retries` are the jobs that `complete` has put back and that
no pump has popped since.

Results:
1. `pumpStepped_of_step`: every step is one of `PumpStepped`.
2. `singlePump_of_reaches`: in every run, at most one pump has not ended.
-/

namespace Trackpal.Coordinator

open Trackpal.Protocol Trackpal.Foundation Trackpal.Store

inductive PumpPhase where
  /-- The loop may pop `left` more jobs; next is `pop`. -/
  | looping (left : Nat)
  /-- `_dispatch` runs; `requeued` if it has put the job back. -/
  | dispatching (left : Nat) (jobId : UUID) (requeued : Bool)
  /-- The dispatch has failed; next is `_has_queued_jobs(excluding_job_id)`. -/
  | checking (jobId : UUID)
  /-- Next is the guard of the `finally` block. -/
  | ending (failed : Option UUID) (restart : Bool)
  /-- The guard is held; next is the last look at the queue. -/
  | guarded (failed : Option UUID) (restart : Bool)
  /-- The guard is held, and the last look has answered. -/
  | deciding (failed : Option UUID) (remaining : Bool)
deriving DecidableEq, Repr

/-- Where a call of `schedule` stands. -/
inductive SchedulePhase where
  /-- Next is `enqueue`. -/
  | enqueuing (jobId : UUID)
  /-- The job is queued; next is the pump guard. -/
  | entering (jobId : UUID)
deriving DecidableEq, Repr

/-- The queue and the pumps of a process. `guard` is the pump that holds the guard. -/
structure PumpState where
  queue : JobQueue
  guard : Option Nat
  pumpTask : Option Nat
  pumps : Nat → Option PumpPhase
  schedules : Nat → Option SchedulePhase
  nextPump : Nat
  failed : Option UUID
  retries : Finset UUID

/-- One step. -/
inductive PumpAction where
  /-- `schedule` is called. -/
  | schedule (sid : Nat) (jobId : UUID)
  /-- `enqueue` of a `schedule` call. -/
  | enqueue (sid : Nat)
  /-- The guarded part of a `schedule` call. -/
  | enter (sid : Nat)
  | pop (pid : Nat)
  | requeue (pid : Nat)
  /-- The dispatch returns; it has put its job back if it returns `False`. -/
  | dispatched (pid : Nat) (proceed : Bool)
  /-- `_has_queued_jobs(excluding_job_id)`. -/
  | check (pid : Nat)
  | acquireGuard (pid : Nat)
  /-- `restart and await self._has_queued_jobs()`. -/
  | look (pid : Nat)
  /-- The pump starts another one or ends, and the guard is released. -/
  | settle (pid : Nat)
  | raise (pid : Nat)
  | breakOff (pid : Nat)
  /-- `complete` puts a job back. -/
  | callback (jobId : UUID)
deriving DecidableEq, Repr

namespace PumpState

def start (queue : JobQueue) : PumpState where
  queue := queue
  guard := none
  pumpTask := none
  pumps := fun _ => none
  schedules := fun _ => none
  nextPump := 0
  failed := none
  retries := ∅

def pumpIsActive (s : PumpState) : Bool :=
  s.pumpTask.any fun pid => (s.pumps pid).isSome

/-- `_start_pump_locked`: a pump that may pop `max(1, lookup_dispatch_batch_size)` jobs. -/
def startPumpLocked (s : PumpState) (batchSize : Int) : PumpState :=
  { s with
    pumpTask := some s.nextPump
    pumps := Function.update s.pumps s.nextPump (some (.looping (max 1 batchSize).toNat))
    nextPump := s.nextPump + 1 }

/-- The pump `pid` moves on. -/
def put (s : PumpState) (pid : Nat) (phase : PumpPhase) : PumpState :=
  { s with pumps := Function.update s.pumps pid (some phase) }

/-- The pump `pid` is done. -/
def finish (s : PumpState) (pid : Nat) : PumpState :=
  { s with pumps := Function.update s.pumps pid none }

/-- The `schedule` call moves on. -/
def putSchedule (s : PumpState) (sid : Nat) (phase : Option SchedulePhase) : PumpState :=
  { s with schedules := Function.update s.schedules sid phase }

def hasQueuedJobs (s : PumpState) (excludingJobId : Option UUID) : Bool :=
  s.queue.hasQueuedJobs excludingJobId

end PumpState

def stepPop (s : PumpState) (pid : Nat) : Option PumpState :=
  match s.pumps pid with
  | some (.looping 0) => some (s.put pid (.ending none true))
  | some (.looping (left + 1)) =>
    match s.queue.pop with
    | (_, none) => some (s.put pid (.ending none true))
    | (queue, some jobId) =>
      some ({ s with queue := queue, retries := s.retries.erase jobId }.put pid
        (.dispatching left jobId false))
  | _ => none

/-- The end of the `finally` block. -/
def stepSettle (batchSize : Int) (s : PumpState) (pid : Nat) : Option PumpState :=
  match s.pumps pid with
  | some (.deciding _ true) =>
    some ({ s with guard := none }.finish pid |>.startPumpLocked batchSize)
  | some (.deciding failed false) =>
    some ({ s with guard := none, pumpTask := none, failed := failed }.finish pid)
  | _ => none

def stepPump (batchSize : Int) (s : PumpState) : PumpAction → Option PumpState
  | .schedule sid jobId =>
    match s.schedules sid with
    | none => some (s.putSchedule sid (some (.enqueuing jobId)))
    | some _ => none
  | .enqueue sid =>
    match s.schedules sid with
    | some (.enqueuing jobId) =>
      some ({ s with queue := (s.queue.enqueue jobId).1 }.putSchedule sid (some (.entering jobId)))
    | _ => none
  | .enter sid =>
    match s.schedules sid, s.guard with
    | some (.entering _), none =>
      if s.pumpIsActive then some (s.putSchedule sid none)
      else some ((s.putSchedule sid none).startPumpLocked batchSize)
    | _, _ => none
  | .pop pid => stepPop s pid
  | .requeue pid =>
    match s.pumps pid with
    | some (.dispatching left jobId _) =>
      some ({ s with queue := (s.queue.enqueue jobId).1 }.put pid (.dispatching left jobId true))
    | _ => none
  | .dispatched pid proceed =>
    match s.pumps pid with
    | some (.dispatching left jobId requeued) =>
      if proceed then some (s.put pid (.looping left))
      else if requeued then some (s.put pid (.checking jobId))
      else none
    | _ => none
  | .check pid =>
    match s.pumps pid with
    | some (.checking jobId) =>
      some (s.put pid (.ending (some jobId) (s.hasQueuedJobs (some jobId))))
    | _ => none
  | .acquireGuard pid =>
    match s.pumps pid, s.guard with
    | some (.ending failed restart), none =>
      some ({ s with guard := some pid }.put pid (.guarded failed restart))
    | _, _ => none
  | .look pid =>
    match s.pumps pid with
    | some (.guarded failed restart) =>
      some (s.put pid (.deciding failed (restart && s.hasQueuedJobs none)))
    | _ => none
  | .settle pid => stepSettle batchSize s pid
  | .raise pid =>
    match s.pumps pid with
    | some (.looping _) | some (.dispatching _ _ _) | some (.checking _) =>
      some (s.put pid (.ending none false))
    | _ => none
  | .breakOff pid =>
    match s.pumps pid with
    | some (.guarded _ true) => some ({ s with guard := none }.finish pid)
    | _ => none
  | .callback jobId =>
    some { s with queue := (s.queue.enqueue jobId).1, retries := insert jobId s.retries }

/-! ## What a step can do -/

inductive PhaseStep (queue : JobQueue) : PumpPhase → JobQueue → PumpPhase → Prop
  | batchOver : PhaseStep queue (.looping 0) queue (.ending none true)
  | empty {left : Nat} (hjobs : queue.jobs = []) :
      PhaseStep queue (.looping (left + 1)) queue (.ending none true)
  | requeued {left : Nat} {jobId : UUID} {requeued : Bool} :
      PhaseStep queue (.dispatching left jobId requeued) (queue.enqueue jobId).1
        (.dispatching left jobId true)
  | proceeded {left : Nat} {jobId : UUID} {requeued : Bool} :
      PhaseStep queue (.dispatching left jobId requeued) queue (.looping left)
  | failed {left : Nat} {jobId : UUID} :
      PhaseStep queue (.dispatching left jobId true) queue (.checking jobId)
  | checked {jobId : UUID} :
      PhaseStep queue (.checking jobId) queue
        (.ending (some jobId) (queue.hasQueuedJobs (some jobId)))
  | looked {failed : Option UUID} {restart : Bool} :
      PhaseStep queue (.guarded failed restart) queue
        (.deciding failed (restart && queue.hasQueuedJobs none))

def PumpPhase.inLoop : PumpPhase → Bool
  | .looping _ | .dispatching _ _ _ | .checking _ => true
  | _ => false

/-- What a step does. -/
inductive PumpStepped (batchSize : Int) (s : PumpState) : PumpAction → PumpState → Prop
  | called {sid : Nat} {jobId : UUID} (hsid : s.schedules sid = none) :
      PumpStepped batchSize s (.schedule sid jobId) (s.putSchedule sid (some (.enqueuing jobId)))
  | enqueued {sid : Nat} {jobId : UUID} (hsid : s.schedules sid = some (.enqueuing jobId)) :
      PumpStepped batchSize s (.enqueue sid)
        ({ s with queue := (s.queue.enqueue jobId).1 }.putSchedule sid (some (.entering jobId)))
  | joined {sid : Nat} {jobId : UUID} (hsid : s.schedules sid = some (.entering jobId))
      (hguard : s.guard = none) (hactive : s.pumpIsActive = true) :
      PumpStepped batchSize s (.enter sid) (s.putSchedule sid none)
  | started {sid : Nat} {jobId : UUID} (hsid : s.schedules sid = some (.entering jobId))
      (hguard : s.guard = none) (hactive : s.pumpIsActive = false) :
      PumpStepped batchSize s (.enter sid) ((s.putSchedule sid none).startPumpLocked batchSize)
  | moved {a : PumpAction} {pid : Nat} {phase phase' : PumpPhase} {queue : JobQueue}
      (hpid : s.pumps pid = some phase) (hphase : PhaseStep s.queue phase queue phase')
      (hcheck : ∀ jobId, phase = .checking jobId → a = .check pid) :
      PumpStepped batchSize s a ({ s with queue := queue }.put pid phase')
  | popped {a : PumpAction} {pid left : Nat} {jobId : UUID} {queue : JobQueue}
      (hpid : s.pumps pid = some (.looping (left + 1)))
      (hpop : s.queue.pop = (queue, some jobId)) :
      PumpStepped batchSize s a
        ({ s with queue := queue, retries := s.retries.erase jobId }.put pid
          (.dispatching left jobId false))
  | guarded {pid : Nat} {failed : Option UUID} {restart : Bool}
      (hpid : s.pumps pid = some (.ending failed restart)) (hguard : s.guard = none) :
      PumpStepped batchSize s (.acquireGuard pid)
        ({ s with guard := some pid }.put pid (.guarded failed restart))
  | restarted {pid : Nat} {failed : Option UUID}
    (hpid : s.pumps pid = some (.deciding failed true)) :
      PumpStepped batchSize s (.settle pid)
        (({ s with guard := none }.finish pid).startPumpLocked batchSize)
  | ended {pid : Nat} {failed : Option UUID} (hpid : s.pumps pid = some (.deciding failed false)) :
      PumpStepped batchSize s (.settle pid)
        ({ s with guard := none, pumpTask := none, failed := failed }.finish pid)
  | raised {pid : Nat} {phase : PumpPhase} (hpid : s.pumps pid = some phase)
      (hloop : phase.inLoop = true) :
      PumpStepped batchSize s (.raise pid) (s.put pid (.ending none false))
  | brokeOff {pid : Nat} {failed : Option UUID} (hpid : s.pumps pid = some (.guarded failed true)) :
      PumpStepped batchSize s (.breakOff pid) ({ s with guard := none }.finish pid)
  | calledBack {jobId : UUID} :
      PumpStepped batchSize s (.callback jobId)
        { s with queue := (s.queue.enqueue jobId).1, retries := insert jobId s.retries }

namespace PumpLemmas

variable {batchSize : Int} {s s' : PumpState} {a : PumpAction} {pid sid : Nat}

theorem stepped_of_schedule {jobId : UUID}
    (h : stepPump batchSize s (.schedule sid jobId) = some s') :
    PumpStepped batchSize s (.schedule sid jobId) s' := by
  simp only [stepPump] at h
  split at h
  · next hsid =>
    cases h
    exact .called hsid
  · cases h

theorem stepped_of_enqueue (h : stepPump batchSize s (.enqueue sid) = some s') :
    PumpStepped batchSize s (.enqueue sid) s' := by
  simp only [stepPump] at h
  split at h
  · next hsid =>
    cases h
    exact .enqueued hsid
  · cases h

theorem stepped_of_enter (h : stepPump batchSize s (.enter sid) = some s') :
    PumpStepped batchSize s (.enter sid) s' := by
  simp only [stepPump] at h
  split at h
  · next hsid hguard =>
    split at h
    · next hactive =>
      cases h
      exact .joined hsid hguard hactive
    · next hactive =>
      cases h
      exact .started hsid hguard (Bool.eq_false_iff.mpr hactive)
  · cases h

theorem stepped_of_pop (h : stepPop s pid = some s') : PumpStepped batchSize s a s' := by
  unfold stepPop at h
  split at h
  · next hpid =>
    cases h
    exact .moved hpid .batchOver nofun
  · next hpid =>
    split at h
    · next hpop =>
      cases h
      exact .moved hpid (.empty (JobQueue.pop_eq_none hpop).1) nofun
    · next hpop =>
      cases h
      exact .popped hpid hpop
  · cases h

theorem stepped_of_dispatched {proceed : Bool}
    (h : stepPump batchSize s (.dispatched pid proceed) = some s') :
    PumpStepped batchSize s (.dispatched pid proceed) s' := by
  simp only [stepPump] at h
  split at h
  · next hpid =>
    split at h
    · cases h
      exact .moved hpid .proceeded nofun
    split at h
    · next hrequeued =>
      cases h
      rw [hrequeued] at hpid
      exact .moved hpid .failed nofun
    · cases h
  · cases h

theorem stepped_of_settle (h : stepSettle batchSize s pid = some s') :
    PumpStepped batchSize s (.settle pid) s' := by
  unfold stepSettle at h
  split at h
  · next hpid =>
    cases h
    exact .restarted hpid
  · next hpid =>
    cases h
    exact .ended hpid
  · cases h

theorem stepped_of_raise (h : stepPump batchSize s (.raise pid) = some s') :
    PumpStepped batchSize s (.raise pid) s' := by
  simp only [stepPump] at h
  split at h
  · next hpid =>
    cases h
    exact .raised hpid rfl
  · next hpid =>
    cases h
    exact .raised hpid rfl
  · next hpid =>
    cases h
    exact .raised hpid rfl
  · cases h

end PumpLemmas

open PumpLemmas

theorem pumpStepped_of_step {batchSize : Int} {s s' : PumpState} {a : PumpAction}
    (h : stepPump batchSize s a = some s') : PumpStepped batchSize s a s' := by
  cases a with
  | schedule sid jobId => exact stepped_of_schedule h
  | enqueue sid => exact stepped_of_enqueue h
  | enter sid => exact stepped_of_enter h
  | pop pid => exact stepped_of_pop h
  | dispatched pid proceed => exact stepped_of_dispatched h
  | settle pid => exact stepped_of_settle h
  | raise pid => exact stepped_of_raise h
  | requeue pid =>
    simp only [stepPump] at h
    split at h
    · next hpid =>
      cases h
      exact .moved hpid .requeued nofun
    · cases h
  | check pid =>
    simp only [stepPump] at h
    split at h
    · next hpid =>
      cases h
      exact .moved hpid .checked fun _ _ => rfl
    · cases h
  | acquireGuard pid =>
    simp only [stepPump] at h
    split at h
    · next hpid hguard =>
      cases h
      exact .guarded hpid hguard
    · cases h
  | look pid =>
    simp only [stepPump] at h
    split at h
    · next hpid =>
      cases h
      exact .moved hpid .looked nofun
    · cases h
  | breakOff pid =>
    simp only [stepPump] at h
    split at h
    · next hpid =>
      cases h
      exact .brokeOff hpid
    · cases h
  | callback jobId =>
    cases h
    exact .calledBack

/-! ## One pump at a time -/

def PumpPhase.holdsGuard : PumpPhase → Bool
  | .guarded _ _ | .deciding _ _ => true
  | _ => false

/-- A pump that has not ended is the pump of the process, and the guard is held by the pump
that is at its end, if any. -/
structure SinglePump (s : PumpState) : Prop where
  task : ∀ pid phase, s.pumps pid = some phase → s.pumpTask = some pid
  guarded : ∀ pid phase, s.pumps pid = some phase → phase.holdsGuard = true → s.guard = some pid
  held : ∀ pid, s.guard = some pid → ∃ phase, s.pumps pid = some phase ∧ phase.holdsGuard = true

namespace SinglePump

variable {batchSize : Int} {s s' : PumpState} {a : PumpAction} {pid pid' sid : Nat}
  {phase phase' : PumpPhase}

theorem eq_of_pumps (h : SinglePump s) (hpid : s.pumps pid = some phase)
    (hpid' : s.pumps pid' = some phase') : pid = pid' := by
  have htask := h.task pid phase hpid
  rw [h.task pid' phase' hpid'] at htask
  exact (Option.some.inj htask).symm

theorem isActive_iff (h : SinglePump s) :
    s.pumpIsActive = true ↔ ∃ pid phase, s.pumps pid = some phase := by
  constructor
  · intro hactive
    obtain ⟨pid, -, hsome⟩ := (Option.any_eq_true _ _).mp hactive
    exact ⟨pid, Option.isSome_iff_exists.mp hsome⟩
  · rintro ⟨pid, phase, hpid⟩
    simp [PumpState.pumpIsActive, h.task pid phase hpid, hpid]

theorem congr (h : SinglePump s) (hpumps : s'.pumps = s.pumps) (htask : s'.pumpTask = s.pumpTask)
    (hguard : s'.guard = s.guard) : SinglePump s' := by
  constructor
  · rw [hpumps, htask]
    exact h.task
  · rw [hpumps, hguard]
    exact h.guarded
  · rw [hpumps, hguard]
    exact h.held

theorem startPumpLocked (hpumps : ∀ pid, s.pumps pid = none) (hguard : s.guard = none) :
    SinglePump (s.startPumpLocked batchSize) := by
  have honly : ∀ pid phase, (s.startPumpLocked batchSize).pumps pid = some phase →
      pid = s.nextPump ∧ phase.holdsGuard = false := by
    intro pid phase hpid
    simp only [PumpState.startPumpLocked, Function.update_apply, hpumps] at hpid
    split at hpid
    · next heq =>
      cases hpid
      exact ⟨heq, rfl⟩
    · cases hpid
  constructor
  · intro pid phase hpid
    rw [(honly pid phase hpid).1]
    rfl
  · intro pid phase hpid hholds
    rw [(honly pid phase hpid).2] at hholds
    cases hholds
  · intro pid hheld
    rw [PumpState.startPumpLocked, hguard] at hheld
    cases hheld

theorem put (h : SinglePump s) (hpid : s.pumps pid = some phase)
    (next : PumpPhase) (hholds : next.holdsGuard = phase.holdsGuard) :
    SinglePump (s.put pid next) := by
  have hpumps : ∀ q, (s.put pid next).pumps q = if q = pid then some next else s.pumps q := by
    intro q
    simp only [PumpState.put, Function.update_apply]
  constructor
  · intro q phase₁ hq
    rw [hpumps] at hq
    split at hq
    · next heq => exact heq ▸ h.task pid phase hpid
    · exact h.task q phase₁ hq
  · intro q phase₁ hq hholds₁
    rw [hpumps] at hq
    split at hq
    · next heq =>
      cases hq
      exact heq ▸ h.guarded pid phase hpid (hholds ▸ hholds₁)
    · exact h.guarded q phase₁ hq hholds₁
  · intro q hguard
    obtain ⟨phase₁, hq, hholds₁⟩ := h.held q hguard
    rw [hpumps]
    split
    · next heq =>
      rw [heq, hpid] at hq
      cases hq
      exact ⟨next, rfl, hholds ▸ hholds₁⟩
    · exact ⟨phase₁, hq, hholds₁⟩

theorem pumps_finish (h : SinglePump s) (hpid : s.pumps pid = some phase) (q : Nat) :
    (s.finish pid).pumps q = none := by
  simp only [PumpState.finish, Function.update_apply]
  split
  · rfl
  · next hne =>
    rw [Option.eq_none_iff_forall_ne_some]
    intro phase' hq
    exact hne (h.eq_of_pumps hq hpid)

theorem holdsGuard_of_phaseStep {queue queue' : JobQueue}
    (h : PhaseStep queue phase queue' phase') : phase'.holdsGuard = phase.holdsGuard := by
  cases h <;> rfl

theorem of_no_pumps (hpumps : ∀ pid, s.pumps pid = none) (hguard : s.guard = none) :
    SinglePump s := by
  constructor
  · intro pid phase hpid
    rw [hpumps] at hpid
    cases hpid
  · intro pid phase hpid
    rw [hpumps] at hpid
    cases hpid
  · intro pid hheld
    rw [hguard] at hheld
    cases hheld

theorem of_step (h : SinglePump s) (hstep : stepPump batchSize s a = some s') : SinglePump s' := by
  cases pumpStepped_of_step hstep with
  | called | enqueued | joined | calledBack => exact h.congr rfl rfl rfl
  | started hsid hguard hactive =>
    refine startPumpLocked (fun pid => ?_) hguard
    rw [Option.eq_none_iff_forall_ne_some]
    intro phase hpid
    rw [h.isActive_iff.mpr ⟨pid, phase, hpid⟩] at hactive
    cases hactive
  | moved hpid hphase hcheck =>
    exact (h.put hpid _ (holdsGuard_of_phaseStep hphase)).congr rfl rfl rfl
  | popped hpid hpop => exact (h.put hpid (.dispatching _ _ false) rfl).congr rfl rfl rfl
  | guarded hpid hguard =>
    next pid failed restart =>
    constructor
    · intro q phase hq
      simp only [PumpState.put, Function.update_apply] at hq
      split at hq
      · next heq => exact heq ▸ h.task pid _ hpid
      · exact h.task q phase hq
    · intro q phase hq hholds
      simp only [PumpState.put, Function.update_apply] at hq
      split at hq
      · next heq => exact heq ▸ rfl
      · rw [h.guarded q phase hq hholds] at hguard
        cases hguard
    · intro q hheld
      cases hheld
      exact ⟨.guarded failed restart, Function.update_self _ _ _, rfl⟩
  | restarted hpid => exact startPumpLocked (h.pumps_finish hpid) rfl
  | ended hpid => exact of_no_pumps (h.pumps_finish hpid) rfl
  | raised hpid hloop =>
    next pid phase =>
    refine h.put hpid _ ?_
    cases phase <;> first | rfl | cases hloop
  | brokeOff hpid => exact of_no_pumps (h.pumps_finish hpid) rfl

end SinglePump

theorem singlePump_of_reaches {batchSize : Int} {ok : PumpState → PumpAction → Prop}
    {queue : JobQueue} {s : PumpState}
    (h : Reaches (stepPump batchSize) ok (PumpState.start queue) s) : SinglePump s :=
  h.invariant (SinglePump.of_no_pumps (fun _ => rfl) rfl) fun _ _ _ hs _ hstep => hs.of_step hstep

end Trackpal.Coordinator
