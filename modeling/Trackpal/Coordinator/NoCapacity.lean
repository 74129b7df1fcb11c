import Trackpal.Coordinator.Machine
import Trackpal.Coordinator.WakeUps

/-!
# Dispatches without capacity

One process alone: the clock stands still, nobody schedules, no executor can take a
job or every one answers BUSY. What is left is one chain of pumps, and each of its
steps follows from the one before. A dispatch without capacity puts its job back and
ends its pump, which then looks for any other job: with two jobs in the queue it
always finds one and starts the next pump. With a single job it ends.
-/

namespace Trackpal.Coordinator

open Trackpal.Protocol Trackpal.Foundation Trackpal.Store

/-- What stays as it is: the settings, the instant, the executor that each attempt selects,
if any, and the lease that it generates. An executor that is selected answers BUSY. -/
structure Outage where
  settings : Settings
  batchSize : Int
  now : Int
  selectExecutor : Nat → Option UUID
  leaseId : Nat → UUID

/-- The pumps with the queue, the jobs in the database, and the keys about them. -/
structure Backlog where
  pump : PumpState
  jobs : UUID → Option MailLookupJob
  leases : ExpiringStore UUID LookupLease Int
  dispatchLocks : ExpiringStore UUID Unit Int
  attempts : Nat

namespace Outage

/-- A step of the pumps. -/
def act (o : Outage) (w : Backlog) (a : PumpAction) : Backlog :=
  { w with pump := (stepPump o.batchSize w.pump a).getD w.pump }

/-- One effect of the dispatch of `jobId`, whose session has loaded `job`. -/
def perform (o : Outage) (pid : Nat) (jobId : UUID) (job : MailLookupJob) (w : Backlog) :
    Effect → Backlog
  | .commit held _ =>
    { w with jobs := Function.update w.jobs jobId ((w.jobs jobId).map (writeJob job held)) }
  | .releaseLease => { w with leases := w.leases.del jobId }
  | .enqueue => o.act w (.requeue pid)
  | .releaseDispatchLock => { w with dispatchLocks := w.dispatchLocks.del jobId }
  | .rollback | .requeue | .putResult _ _ _ => w

/-- The effects of a dispatch, in order. -/
def performAll (o : Outage) (pid : Nat) (jobId : UUID) (job : MailLookupJob) (w : Backlog)
    (effects : List Effect) : Backlog :=
  effects.foldl (o.perform pid jobId job) w

/-- The dispatch of a pending job in time: the selection, the reservation, and the handoff
that is answered with BUSY. -/
def attempt (o : Outage) (w : Backlog) (pid : Nat) (jobId : UUID) (job : MailLookupJob) : Backlog :=
  match o.selectExecutor w.attempts with
  | none => o.performAll pid jobId job w (.enqueue :: endDispatch)
  | some executorId =>
    let lease : LookupLease :=
      ⟨executorId, o.leaseId w.attempts, o.now + o.settings.executionLeaseSeconds * second⟩
    if o.settings.executionLeaseSeconds ≤ 0 then
      o.performAll pid jobId job w (.enqueue :: endDispatch)
    else
      match w.leases.setNX o.now jobId lease (keyExpiry o.settings o.now) with
      | (_, false) => o.performAll pid jobId job w (.enqueue :: endDispatch)
      | (leases, true) =>
        o.performAll pid jobId job { w with leases := leases }
          (recheckDispatch o.settings job lease ⟨.busy, none, none⟩ o.now)

/-- `_dispatch`, and whether the pump may go on. -/
def dispatch (o : Outage) (w : Backlog) (pid : Nat) (jobId : UUID) : Backlog × Bool :=
  match w.dispatchLocks.setNX o.now jobId ()
      (o.now + max 1 o.settings.handoffTimeoutSeconds * second) with
  | (_, false) => (w, true)
  | (dispatchLocks, true) =>
    let w := { w with dispatchLocks := dispatchLocks, attempts := w.attempts + 1 }
    match w.jobs jobId with
    | none => ({ w with dispatchLocks := w.dispatchLocks.del jobId }, true)
    | some job =>
      match readDispatch o.settings job o.now with
      | .selecting job => (o.attempt w pid jobId job, false)
      | .running _ job effects => (o.performAll pid jobId job w effects, true)
      | _ => (w, true)

def next (o : Outage) (w : Backlog) : Backlog :=
  match w.pump.pumpTask with
  | none => w
  | some pid =>
    match w.pump.pumps pid with
    | none => w
    | some (.looping _) => o.act w (.pop pid)
    | some (.dispatching _ jobId _) =>
      o.act (o.dispatch w pid jobId).1 (.dispatched pid (o.dispatch w pid jobId).2)
    | some (.checking _) => o.act w (.check pid)
    | some (.ending _ _) => o.act w (.acquireGuard pid)
    | some (.guarded _ _) => o.act w (.look pid)
    | some (.deciding _ _) => o.act w (.settle pid)

end Outage

/-- A process without a pump, after one call of `schedule`. -/
def scheduled (batchSize : Int) (queue : JobQueue) (jobId : UUID) : PumpState :=
  (PumpState.start (queue.enqueue jobId).1).startPumpLocked batchSize

/-! ## The pumps of a chain -/

def PumpAction.ofPump : PumpAction → Bool
  | .pop _ | .requeue _ | .dispatched _ _ | .check _ | .acquireGuard _ | .look _ | .settle _ => true
  | _ => false

/-- The job is queued, or its dispatch runs. -/
def Present (s : PumpState) (jobId : UUID) : Prop :=
  jobId ∈ s.queue.jobs ∨ ∃ pid left requeued, s.pumps pid = some (.dispatching left jobId requeued)

/-- While both jobs are there, a pump watches. -/
def Cycling (jobId jobId' : UUID) (s : PumpState) : Prop :=
  Present s jobId → Present s jobId' → Watched s

namespace NoCapacityLemmas

variable {batchSize : Int} {s s' : PumpState} {a : PumpAction} {pid : Nat} {jobId : UUID}
  {phase : PumpPhase}

theorem mem_of_present (hsingle : SinglePump s) (hpid : s.pumps pid = some phase)
    (hphase : ∀ left requeued, phase ≠ .dispatching left jobId requeued)
    (h : Present s jobId) : jobId ∈ s.queue.jobs := by
  refine h.resolve_right ?_
  rintro ⟨q, left, requeued, hq⟩
  rw [hsingle.eq_of_pumps hq hpid, hpid] at hq
  exact hphase left requeued (Option.some.inj hq)

theorem present_of_moved {next : PumpPhase}
    (hpumps : s'.pumps = Function.update s.pumps pid (some next))
    (hqueue : jobId ∈ s'.queue.jobs → Present s jobId)
    (hphase : ∀ left requeued, next = .dispatching left jobId requeued → Present s jobId)
    (h : Present s' jobId) : Present s jobId := by
  rcases h with hmem | ⟨q, left, requeued, hq⟩
  · exact hqueue hmem
  · rw [hpumps, Function.update_apply] at hq
    split at hq
    · exact hphase left requeued (Option.some.inj hq)
    · exact .inr ⟨q, left, requeued, hq⟩

end NoCapacityLemmas

open NoCapacityLemmas

/-- A pump brings no job back that has left. -/
theorem present_step {batchSize : Int} {s s' : PumpState} {a : PumpAction} {jobId : UUID}
    (hok : a.ofPump = true) (hstep : stepPump batchSize s a = some s') (h : Present s' jobId) :
    Present s jobId := by
  cases pumpStepped_of_step hstep with
  | called | enqueued | joined | started | raised | brokeOff | calledBack => cases hok
  | moved hpid hphase hcheck =>
    refine present_of_moved rfl (fun hmem => ?_) (fun left requeued heq => ?_) h
    · cases hphase with
      | requeued =>
        rcases JobQueue.mem_enqueue.mp hmem with hold | rfl
        · exact .inl hold
        · exact .inr ⟨_, _, _, hpid⟩
      | _ => exact .inl hmem
    · cases hphase with
      | requeued =>
        cases heq
        exact .inr ⟨_, _, _, hpid⟩
      | _ => cases heq
  | popped hpid hpop =>
    refine present_of_moved rfl (fun hmem => ?_) (fun left requeued heq => ?_) h
    · exact .inl ((JobQueue.mem_of_pop hpop).mp hmem).1
    · cases heq
      refine .inl ?_
      rw [JobQueue.pop_eq_some hpop]
      exact List.mem_cons_self
  | guarded hpid hguard =>
    rcases h with hmem | ⟨q, left, requeued, hq⟩
    · exact .inl hmem
    · simp only [PumpState.put, Function.update_apply] at hq
      split_ifs at hq
      · cases hq
      · exact .inr ⟨q, left, requeued, hq⟩
  | restarted hpid =>
    rcases h with hmem | ⟨q, left, requeued, hq⟩
    · exact .inl hmem
    · simp only [PumpState.startPumpLocked, PumpState.finish, Function.update_apply] at hq
      split_ifs at hq
      · cases hq
      · exact .inr ⟨q, left, requeued, hq⟩
  | ended hpid =>
    rcases h with hmem | ⟨q, left, requeued, hq⟩
    · exact .inl hmem
    · simp only [PumpState.finish, Function.update_apply] at hq
      split_ifs at hq
      exact .inr ⟨q, left, requeued, hq⟩

/-- A pump that leaves two jobs behind watches them. -/
theorem cycling_step {batchSize : Int} {s s' : PumpState} {a : PumpAction} {jobId jobId' : UUID}
    (hne : jobId ≠ jobId') (hsingle : SinglePump s) (h : Cycling jobId jobId' s)
    (hok : a.ofPump = true) (hstep : stepPump batchSize s a = some s') :
    Cycling jobId jobId' s' := by
  intro hpresent hpresent'
  have hsingle' := hsingle.of_step hstep
  have hwatched := h (present_step hok hstep hpresent) (present_step hok hstep hpresent')
  have hlooks : ∀ pid phase, s.pumps pid = some phase → phase.looksAgain = true := by
    intro pid phase hpid
    by_contra hnot
    exact WakeUpLemmas.not_watched_of_pumps hsingle hpid (Bool.eq_false_iff.mpr hnot) hwatched
  cases pumpStepped_of_step hstep with
  | called | enqueued | joined | started | raised | brokeOff | calledBack => cases hok
  | restarted => exact WakeUpLemmas.watched_startPumpLocked
  | popped hpid hpop => exact ⟨_, _, Function.update_self _ _ _, rfl⟩
  | moved hpid hphase hcheck =>
    next pid phase phase' queue =>
    have hpid' : (({ s with queue := queue } : PumpState).put pid phase').pumps pid = some phase' :=
      Function.update_self _ _ _
    refine ⟨pid, phase', hpid', ?_⟩
    cases hphase with
    | batchOver | empty | requeued | proceeded | failed => rfl
    | checked =>
      next checked =>
      -- one of the two is not the job that has failed
      have hmem := mem_of_present hsingle' hpid' nofun hpresent
      have hmem' := mem_of_present hsingle' hpid' nofun hpresent'
      refine JobQueue.hasQueuedJobs_excluding.mpr ?_
      rcases eq_or_ne jobId checked with rfl | hother
      · exact ⟨jobId', hmem', hne.symm⟩
      · exact ⟨jobId, hmem, hother⟩
    | looked =>
      next failed restart =>
      have hmem := mem_of_present hsingle' hpid' nofun hpresent
      have hqueued : s.queue.hasQueuedJobs none = true :=
        JobQueue.hasQueuedJobs_none.mpr (List.ne_nil_of_mem hmem)
      rw [PumpPhase.looksAgain, hqueued, Bool.and_true]
      exact hlooks pid _ hpid
  | guarded hpid hguard =>
    have hrestart := hlooks _ _ hpid
    exact ⟨_, _, Function.update_self _ _ _, hrestart⟩
  | ended hpid =>
    have hnot := hlooks _ _ hpid
    cases hnot

/-! ## The chain is a run of the pumps -/

namespace Outage

variable (o : Outage) {s : PumpState} {w : Backlog} {pid : Nat} {jobId : UUID}
  {job : MailLookupJob}

def Runs (s s' : PumpState) : Prop :=
  Reaches (stepPump o.batchSize) (fun _ a => a.ofPump = true) s s'

theorem runs_act {a : PumpAction} (h : a.ofPump = true) (hw : o.Runs s w.pump) :
    o.Runs s (o.act w a).pump := by
  unfold act
  cases hstep : stepPump o.batchSize w.pump a with
  | none => exact hw
  | some s' => exact .tail hw h hstep

theorem runs_perform (effect : Effect) (hw : o.Runs s w.pump) :
    o.Runs s (o.perform pid jobId job w effect).pump := by
  cases effect with
  | enqueue => exact o.runs_act rfl hw
  | _ => exact hw

theorem runs_performAll (effects : List Effect) (hw : o.Runs s w.pump) :
    o.Runs s (o.performAll pid jobId job w effects).pump := by
  induction effects generalizing w with
  | nil => exact hw
  | cons effect effects ih => exact ih (o.runs_perform effect hw)

theorem runs_attempt (hw : o.Runs s w.pump) : o.Runs s (o.attempt w pid jobId job).pump := by
  unfold attempt
  split
  · exact o.runs_performAll _ hw
  dsimp only
  split
  · exact o.runs_performAll _ hw
  split
  · exact o.runs_performAll _ hw
  · exact o.runs_performAll _ hw

theorem runs_dispatch (hw : o.Runs s w.pump) : o.Runs s (o.dispatch w pid jobId).1.pump := by
  unfold dispatch
  split
  · exact hw
  dsimp only
  split
  · exact hw
  split
  · exact o.runs_attempt hw
  · exact o.runs_performAll _ hw
  · exact hw

/-- A step of the chain consists of steps of the pumps on their own. -/
theorem runs_next (hw : o.Runs s w.pump) : o.Runs s (o.next w).pump := by
  unfold next
  split
  · exact hw
  split
  · exact hw
  · exact o.runs_act rfl hw
  · exact o.runs_act rfl (o.runs_dispatch hw)
  · exact o.runs_act rfl hw
  · exact o.runs_act rfl hw
  · exact o.runs_act rfl hw
  · exact o.runs_act rfl hw

theorem runs_iterate (w : Backlog) (n : Nat) : o.Runs w.pump (o.next^[n] w).pump := by
  refine Function.Iterate.rec (fun w' : Backlog => o.Runs w.pump w'.pump) .refl ?_ n
  intro w' hruns
  exact o.runs_next hruns

end Outage

theorem singlePump_scheduled (batchSize : Int) (queue : JobQueue) (jobId : UUID) :
    SinglePump (scheduled batchSize queue jobId) :=
  SinglePump.startPumpLocked (fun _ => rfl) rfl

theorem Outage.chain_invariant (o : Outage) {I : PumpState → Prop} {w : Backlog}
    (hsingle : SinglePump w.pump) (h₀ : I w.pump)
    (hstep : ∀ s a s', SinglePump s → I s → a.ofPump = true →
      stepPump o.batchSize s a = some s' → I s') (n : Nat) :
    SinglePump (o.next^[n] w).pump ∧ I (o.next^[n] w).pump := by
  refine Reaches.invariant (I := fun s => SinglePump s ∧ I s) (o.runs_iterate w n)
    ⟨hsingle, h₀⟩ ?_
  rintro s a s' ⟨hs, hi⟩ hok hs'
  exact ⟨hs.of_step hs', hstep s a s' hs hi hok hs'⟩

theorem Outage.active_of_two (o : Outage) {w : Backlog} {queue : JobQueue} {scheduledJob : UUID}
    (hw : w.pump = scheduled o.batchSize queue scheduledJob) {jobId jobId' : UUID}
    (hne : jobId ≠ jobId') (n : Nat) (hmem : jobId ∈ (o.next^[n] w).pump.queue.jobs)
    (hmem' : jobId' ∈ (o.next^[n] w).pump.queue.jobs) :
    (o.next^[n] w).pump.pumpIsActive = true := by
  have hsingle : SinglePump w.pump := hw ▸ singlePump_scheduled o.batchSize queue scheduledJob
  have hstart : Cycling jobId jobId' w.pump := by
    intro _ _
    rw [hw]
    exact WakeUpLemmas.watched_startPumpLocked
  obtain ⟨hsingle', hcycling⟩ := o.chain_invariant hsingle hstart
    (fun s a s' hs hi hok hstep => cycling_step hne hs hi hok hstep) n
  obtain ⟨pid, phase, hpid, -⟩ := hcycling (.inl hmem) (.inl hmem')
  exact hsingle'.isActive_iff.mpr ⟨pid, phase, hpid⟩

/-! ## One dispatch -/

namespace Outage

variable {o : Outage} {w : Backlog} {pid left : Nat} {jobId : UUID} {job : MailLookupJob}
  {requeued : Bool}

/-- A dispatch that finds the lock taken does nothing, and the pump goes on. -/
theorem dispatch_locked (hlock : (w.dispatchLocks.get o.now jobId).isSome = true) :
    o.dispatch w pid jobId = (w, true) := by
  unfold dispatch ExpiringStore.setNX
  rw [if_pos hlock]

structure PutBack (w w' : Backlog) (pid left : Nat) (jobId : UUID) : Prop where
  pump : w'.pump = { w.pump with queue := (w.pump.queue.enqueue jobId).1 }.put pid
    (.dispatching left jobId true)
  pending : ∃ job, w'.jobs jobId = some job ∧ job.status = .pending

theorem act_requeue (hpid : w.pump.pumps pid = some (.dispatching left jobId requeued)) :
    (o.act w (.requeue pid)).pump = { w.pump with queue := (w.pump.queue.enqueue jobId).1 }.put pid
      (.dispatching left jobId true) := by
  simp [act, stepPump, hpid]

theorem putBack_unselected (hpid : w.pump.pumps pid = some (.dispatching left jobId requeued))
    (hjob : w.jobs jobId = some job) (hpending : job.status = .pending) :
    PutBack w (o.performAll pid jobId job w (.enqueue :: endDispatch)) pid left jobId :=
  ⟨act_requeue hpid, job, hjob, hpending⟩

theorem putBack_busy {lease : LookupLease} {leases : ExpiringStore UUID LookupLease Int}
    (hpid : w.pump.pumps pid = some (.dispatching left jobId requeued))
    (hjob : w.jobs jobId = some job) (hpending : job.status = .pending)
    (hbudget : 0 < remainingLookupBudget o.settings job o.now) :
    PutBack w (o.performAll pid jobId job { w with leases := leases }
      (recheckDispatch o.settings job lease ⟨.busy, none, none⟩ o.now)) pid left jobId := by
  have heffects : recheckDispatch o.settings job lease ⟨.busy, none, none⟩ o.now =
      .releaseLease :: .enqueue :: .commit job [] :: endDispatch := by
    simp [recheckDispatch, hpending, not_le.mpr hbudget, handleHandoff, handoffAccepted]
  rw [heffects]
  refine ⟨act_requeue hpid, writeJob job job job, ?_, ?_⟩
  · show Function.update w.jobs jobId ((w.jobs jobId).map (writeJob job job)) jobId = _
    rw [Function.update_self, hjob]
    rfl
  · exact (netChange_of_eq rfl).trans hpending

theorem putBack_attempt (hpid : w.pump.pumps pid = some (.dispatching left jobId requeued))
    (hjob : w.jobs jobId = some job) (hpending : job.status = .pending)
    (hbudget : 0 < remainingLookupBudget o.settings job o.now) :
    PutBack w (o.attempt w pid jobId job) pid left jobId := by
  unfold attempt
  split
  · exact putBack_unselected hpid hjob hpending
  dsimp only
  split
  · exact putBack_unselected hpid hjob hpending
  split
  · exact putBack_unselected hpid hjob hpending
  · exact putBack_busy hpid hjob hpending hbudget

/-- Without capacity the dispatch of a pending job in time puts it back and stops the pump. -/
theorem dispatch_fails (hpid : w.pump.pumps pid = some (.dispatching left jobId requeued))
    (hjob : w.jobs jobId = some job) (hpending : job.status = .pending)
    (hbudget : 0 < remainingLookupBudget o.settings job o.now)
    (hlock : w.dispatchLocks.get o.now jobId = none) :
    (o.dispatch w pid jobId).2 = false ∧ PutBack w (o.dispatch w pid jobId).1 pid left jobId := by
  have hread : readDispatch o.settings job o.now = .selecting job := by
    simp [readDispatch, hpending, not_le.mpr hbudget]
  simp only [dispatch, ExpiringStore.setNX, hlock, Option.isSome_none, Bool.false_eq_true,
    if_false, hjob, hread, true_and]
  have hattempt := putBack_attempt (o := o) (w := { w with
    dispatchLocks := w.dispatchLocks.set jobId ()
      (o.now + max 1 o.settings.handoffTimeoutSeconds * second)
    attempts := w.attempts + 1 }) hpid hjob hpending hbudget
  exact ⟨hattempt.pump, hattempt.pending⟩

/-! ## The chain of one job -/

/-- The pump `pid` of the process stands at `phase`, and these jobs are queued. -/
structure At (w : Backlog) (pid : Nat) (phase : PumpPhase) (queued : List UUID) : Prop where
  task : w.pump.pumpTask = some pid
  stands : w.pump.pumps pid = some phase
  queue : w.pump.queue.jobs = queued
  guard : w.pump.guard = if phase.holdsGuard then some pid else none

theorem at_scheduled {queue : JobQueue} (hw : w.pump = scheduled o.batchSize queue jobId) :
    ∃ left, At w 0 (.looping (left + 1)) (queue.enqueue jobId).1.jobs := by
  obtain ⟨left, hleft⟩ : ∃ left, (max 1 o.batchSize).toNat = left + 1 :=
    ⟨(max 1 o.batchSize).toNat - 1, by omega⟩
  refine ⟨left, ?_, ?_, ?_, ?_⟩
  · rw [hw]
    rfl
  · rw [hw, ← hleft]
    rfl
  · rw [hw]
    rfl
  · rw [hw]
    rfl

theorem at_pop {rest : List UUID} (h : At w pid (.looping (left + 1)) (jobId :: rest)) :
    At (o.next w) pid (.dispatching left jobId false) rest ∧ (o.next w).jobs = w.jobs ∧
      (o.next w).dispatchLocks = w.dispatchLocks := by
  obtain ⟨queue', hpop, hrest⟩ : ∃ queue', w.pump.queue.pop = (queue', some jobId) ∧
      queue'.jobs = rest := by
    rcases hpop : w.pump.queue.pop with ⟨queue', _ | popped⟩
    · have hempty := (JobQueue.pop_eq_none hpop).1
      rw [h.queue] at hempty
      cases hempty
    · have hjobs := JobQueue.pop_eq_some hpop
      rw [h.queue] at hjobs
      cases hjobs
      exact ⟨queue', rfl, rfl⟩
  have hnext : o.next w = { w with
      pump := { w.pump with
        queue := queue'
        retries := w.pump.retries.erase jobId }.put pid (.dispatching left jobId false) } := by
    simp [next, act, h.task, h.stands, stepPump, stepPop, hpop]
  rw [hnext]
  exact ⟨⟨h.task, Function.update_self _ _ _, hrest, h.guard⟩, rfl, rfl⟩

theorem at_locked {queued : List UUID} (h : At w pid (.dispatching left jobId requeued) queued)
    (hlock : (w.dispatchLocks.get o.now jobId).isSome = true) :
    At (o.next w) pid (.looping left) queued := by
  have hnext : o.next w = { w with pump := w.pump.put pid (.looping left) } := by
    simp [next, act, h.task, h.stands, dispatch_locked hlock, stepPump]
  rw [hnext]
  exact ⟨h.task, Function.update_self _ _ _, h.queue, h.guard⟩

theorem at_failed (h : At w pid (.dispatching left jobId requeued) [])
    (hjob : w.jobs jobId = some job) (hpending : job.status = .pending)
    (hbudget : 0 < remainingLookupBudget o.settings job o.now)
    (hlock : w.dispatchLocks.get o.now jobId = none) :
    At (o.next w) pid (.checking jobId) [jobId] ∧
      ∃ job, (o.next w).jobs jobId = some job ∧ job.status = .pending := by
  obtain ⟨hfalse, hback⟩ := dispatch_fails h.stands hjob hpending hbudget hlock
  have hnext : o.next w = { (o.dispatch w pid jobId).1 with
      pump := ({ w.pump with queue := (w.pump.queue.enqueue jobId).1 }.put pid
        (.dispatching left jobId true)).put pid (.checking jobId) } := by
    simp [next, act, h.task, h.stands, hfalse, stepPump, hback.pump, PumpState.put]
  rw [hnext]
  refine ⟨⟨h.task, Function.update_self _ _ _, ?_, h.guard⟩, hback.pending⟩
  have hempty := h.queue
  show (w.pump.queue.enqueue jobId).1.jobs = [jobId]
  rw [JobQueue.jobs_enqueue_of_not_mem (by simp [hempty]), hempty]
  rfl

theorem at_checked (h : At w pid (.checking jobId) [jobId]) :
    At (o.next w) pid (.ending (some jobId) false) [jobId] ∧ (o.next w).jobs = w.jobs := by
  have hnone : w.pump.hasQueuedJobs (some jobId) = false := by
    rw [PumpState.hasQueuedJobs, Bool.eq_false_iff, ne_eq, JobQueue.hasQueuedJobs_excluding,
      h.queue]
    rintro ⟨job, hmem, hne⟩
    exact hne (List.mem_singleton.mp hmem)
  have hnext : o.next w = { w with
      pump := w.pump.put pid (.ending (some jobId) false) } := by
    simp [next, act, h.task, h.stands, stepPump, hnone]
  rw [hnext]
  exact ⟨⟨h.task, Function.update_self _ _ _, h.queue, h.guard⟩, rfl⟩

theorem at_guarded {queued : List UUID} {failed : Option UUID}
    (h : At w pid (.ending failed false) queued) :
    At (o.next w) pid (.guarded failed false) queued ∧ (o.next w).jobs = w.jobs := by
  have hguard : w.pump.guard = none := h.guard
  have hnext : o.next w = { w with
      pump := { w.pump with guard := some pid }.put pid (.guarded failed false) } := by
    simp [next, act, h.task, h.stands, stepPump, hguard]
  rw [hnext]
  exact ⟨⟨h.task, Function.update_self _ _ _, h.queue, rfl⟩, rfl⟩

theorem at_looked {queued : List UUID} {failed : Option UUID}
    (h : At w pid (.guarded failed false) queued) :
    At (o.next w) pid (.deciding failed false) queued ∧ (o.next w).jobs = w.jobs := by
  have hnext : o.next w = { w with pump := w.pump.put pid (.deciding failed false) } := by
    simp [next, act, h.task, h.stands, stepPump]
  rw [hnext]
  exact ⟨⟨h.task, Function.update_self _ _ _, h.queue, h.guard⟩, rfl⟩

theorem ended_of_at {queued : List UUID} {failed : Option UUID}
    (h : At w pid (.deciding failed false) queued) :
    (o.next w).pump.pumpIsActive = false ∧ (o.next w).pump.queue.jobs = queued ∧
      (o.next w).jobs = w.jobs := by
  have hnext : o.next w = { w with
      pump := { w.pump with guard := none, pumpTask := none, failed := failed }.finish pid } := by
    simp [next, act, h.task, h.stands, stepPump, stepSettle]
  rw [hnext]
  exact ⟨rfl, h.queue, rfl⟩

theorem ends_of_single (h : At w pid (.looping (left + 1)) [jobId])
    (hjob : w.jobs jobId = some job) (hpending : job.status = .pending)
    (hbudget : 0 < remainingLookupBudget o.settings job o.now)
    (hlock : w.dispatchLocks.get o.now jobId = none) :
    (o.next^[6] w).pump.pumpIsActive = false ∧ (o.next^[6] w).pump.queue.jobs = [jobId] ∧
      ∃ job, (o.next^[6] w).jobs jobId = some job ∧ job.status = .pending := by
  obtain ⟨hdispatching, hjobs, hlocks⟩ := at_pop (o := o) h
  obtain ⟨hchecking, hback⟩ := at_failed (o := o) hdispatching (hjobs ▸ hjob) hpending hbudget
    (hlocks ▸ hlock)
  obtain ⟨hending, hjobs₁⟩ := at_checked (o := o) hchecking
  obtain ⟨hguarded, hjobs₂⟩ := at_guarded (o := o) hending
  obtain ⟨hdeciding, hjobs₃⟩ := at_looked (o := o) hguarded
  obtain ⟨hidle, hqueue, hjobs₄⟩ := ended_of_at (o := o) hdeciding
  refine ⟨hidle, hqueue, ?_⟩
  show ∃ job, (o.next (o.next (o.next (o.next (o.next (o.next w)))))).jobs jobId = some job ∧
    job.status = .pending
  rw [hjobs₄, hjobs₃, hjobs₂, hjobs₁]
  exact hback

theorem At.isActive {phase : PumpPhase} {queued : List UUID} (h : At w pid phase queued) :
    w.pump.pumpIsActive = true := by
  simp [PumpState.pumpIsActive, h.task, h.stands]

theorem dropped_of_locked (h : At w pid (.looping (left + 1)) [jobId])
    (hsingle : SinglePump w.pump) (hlock : (w.dispatchLocks.get o.now jobId).isSome = true)
    (n : Nat) :
    (o.next^[n] w).pump.pumpIsActive = true ∨ jobId ∉ (o.next^[n] w).pump.queue.jobs := by
  obtain ⟨hdispatching, -, hlocks⟩ := at_pop (o := o) h
  have hlooping := at_locked (o := o) hdispatching (hlocks ▸ hlock)
  match n with
  | 0 => exact .inl h.isActive
  | 1 => exact .inl hdispatching.isActive
  | n + 2 =>
    -- the pump goes on without the job, and no pump brings it back
    have hsingle' : SinglePump (o.next^[2] w).pump :=
      (o.chain_invariant (I := fun _ => True) hsingle trivial (fun _ _ _ _ _ _ _ => trivial) 2).1
    have hgone : ¬ Present (o.next^[2] w).pump jobId := by
      intro hpresent
      have hmem := NoCapacityLemmas.mem_of_present hsingle' hlooping.stands nofun hpresent
      rw [show (o.next^[2] w).pump.queue.jobs = [] from hlooping.queue] at hmem
      cases hmem
    have hlater := (o.chain_invariant (I := fun s => ¬ Present s jobId) hsingle' hgone
      (fun s a s' _ hnot hok hstep hpresent => hnot (present_step hok hstep hpresent)) n).2
    rw [Function.iterate_add_apply]
    exact .inr fun hmem => hlater (.inl hmem)

end Outage

/-! ## When the chain ends -/

structure EndsWithAll (queue : JobQueue) (w : Backlog) : Prop where
  idle : w.pump.pumpIsActive = false
  queued : ∀ jobId ∈ queue.jobs, jobId ∈ w.pump.queue.jobs
  pending : ∀ jobId ∈ queue.jobs, ∃ job, w.jobs jobId = some job ∧ job.status = .pending

def AllPending (o : Outage) (queue : JobQueue) (w : Backlog) : Prop :=
  ∀ jobId ∈ queue.jobs, ∃ job, w.jobs jobId = some job ∧ job.status = .pending ∧
    0 < remainingLookupBudget o.settings job o.now

/-- The chain of pumps that one call of `schedule` starts ends with every job queued and
pending if and only if no other job is queued and the dispatch lock of the scheduled one is
free. -/
theorem chain_ends_iff (o : Outage) (queue : JobQueue) (jobId : UUID) (w : Backlog)
    (hw : w.pump = scheduled o.batchSize queue jobId)
    (hpending : AllPending o (queue.enqueue jobId).1 w) :
    (∃ n, EndsWithAll (queue.enqueue jobId).1 (o.next^[n] w)) ↔
      (∀ other ∈ queue.jobs, other = jobId) ∧ w.dispatchLocks.get o.now jobId = none := by
  have hsingle : SinglePump w.pump := hw ▸ singlePump_scheduled o.batchSize queue jobId
  have hjobId : jobId ∈ (queue.enqueue jobId).1.jobs := JobQueue.mem_enqueue.mpr (.inr rfl)
  have honly : (∀ other ∈ queue.jobs, other = jobId) → (queue.enqueue jobId).1.jobs = [jobId] := by
    intro hall
    refine List.perm_singleton.mp ((List.perm_ext_iff_of_nodup (queue.enqueue jobId).1.nodup
      (List.nodup_singleton jobId)).mpr fun other => ?_)
    rw [JobQueue.mem_enqueue, List.mem_singleton]
    exact ⟨fun hmem => hmem.elim (hall other) id, .inr⟩
  obtain ⟨left, hat⟩ := Outage.at_scheduled (o := o) hw
  constructor
  · rintro ⟨n, hends⟩
    have hall : ∀ other ∈ queue.jobs, other = jobId := by
      intro other hother
      by_contra hne
      have hactive := o.active_of_two hw hne n
        (hends.queued other (JobQueue.mem_enqueue.mpr (.inl hother))) (hends.queued jobId hjobId)
      rw [hends.idle] at hactive
      cases hactive
    refine ⟨hall, ?_⟩
    by_contra hlock
    rw [honly hall] at hat
    rcases Outage.dropped_of_locked hat hsingle (Option.isSome_iff_ne_none.mpr hlock) n with
      hactive | hdropped
    · rw [hends.idle] at hactive
      cases hactive
    · exact hdropped (hends.queued jobId hjobId)
  · rintro ⟨hall, hlock⟩
    rw [honly hall] at hat
    obtain ⟨job, hjob, hstatus, hbudget⟩ := hpending jobId hjobId
    obtain ⟨hidle, hqueue, hback⟩ := Outage.ends_of_single hat hjob hstatus hbudget hlock
    refine ⟨6, hidle, fun other hother => ?_, fun other hother => ?_⟩
    · rw [hqueue, ← honly hall]
      exact hother
    · rw [honly hall, List.mem_singleton] at hother
      rw [hother]
      exact hback

def exOutage : Outage where
  settings := Settings.default
  batchSize := 10
  now := 0
  selectExecutor := fun _ => none
  leaseId := fun _ => ⟨8⟩

/-- The call of `schedule` for job 2 has returned; every job is like the example. -/
def exBacklog (queue : JobQueue) : Backlog where
  pump := scheduled 10 queue ⟨2⟩
  jobs := fun _ => some exJob
  leases := .empty
  dispatchLocks := .empty
  attempts := 0

theorem exBacklog_pending (queue : JobQueue) :
    AllPending exOutage (queue.enqueue ⟨2⟩).1 (exBacklog queue) :=
  fun _ _ => ⟨exJob, rfl, rfl, by decide⟩

/-- A single job is dispatched and put back, and the chain ends. -/
theorem exSingle_ends :
    ∃ n, EndsWithAll (JobQueue.empty.enqueue ⟨2⟩).1 (exOutage.next^[n] (exBacklog .empty)) :=
  (chain_ends_iff exOutage .empty ⟨2⟩ _ rfl (exBacklog_pending .empty)).mpr
    ⟨by simp [JobQueue.empty], rfl⟩

/-- With job 1 in the queue, the chain that the call for job 2 starts never ends. -/
theorem two_jobs_cycle :
    ¬ ∀ (o : Outage) (queue : JobQueue) (jobId : UUID) (w : Backlog),
      w.pump = scheduled o.batchSize queue jobId → AllPending o (queue.enqueue jobId).1 w →
      ∃ n, EndsWithAll (queue.enqueue jobId).1 (o.next^[n] w) := by
  intro h
  obtain ⟨n, hends⟩ := h exOutage (JobQueue.empty.enqueue ⟨1⟩).1 ⟨2⟩ _ rfl (exBacklog_pending _)
  have hactive := exOutage.active_of_two rfl (show (⟨1⟩ : UUID) ≠ ⟨2⟩ by decide) n
    (hends.queued ⟨1⟩ (by decide)) (hends.queued ⟨2⟩ (by decide))
  rw [hends.idle] at hactive
  cases hactive

end Trackpal.Coordinator
