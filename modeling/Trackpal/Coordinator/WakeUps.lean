import Trackpal.Coordinator.Pump

/-!
# Lost wake-ups

A `schedule` call that finds a pump active relies on that pump to look at the queue
again. A pump whose dispatch has failed looks for other jobs before it takes the
guard, and keeps to the answer: if there were none it ends, whatever has been queued
in the meantime. A call that enters the guard between that look and the end of the
pump leaves its job with nobody to pop it.
-/

namespace Trackpal.Coordinator

open Trackpal.Protocol Trackpal.Foundation Trackpal.Store PumpLemmas

def PumpPhase.looksAgain : PumpPhase → Bool
  | .looping _ | .dispatching _ _ _ | .checking _ => true
  | .ending _ restart | .guarded _ restart => restart
  | .deciding _ remaining => remaining

def PumpPhase.failedJob : PumpPhase → Option UUID
  | .ending failed _ | .guarded failed _ | .deciding failed _ => failed
  | _ => none

/-- The job of a `schedule` call. -/
def SchedulePhase.jobId : SchedulePhase → UUID
  | .enqueuing jobId | .entering jobId => jobId

/-- A `schedule` call for the job has not returned. -/
def InSchedule (s : PumpState) (jobId : UUID) : Prop :=
  ∃ sid phase, s.schedules sid = some phase ∧ phase.jobId = jobId

/-- Some pump sees what is in the queue. -/
def Watched (s : PumpState) : Prop :=
  ∃ pid phase, s.pumps pid = some phase ∧ phase.looksAgain = true

def PumpState.restsOn (s : PumpState) : Option UUID :=
  match s.pumpTask.bind s.pumps with
  | some phase => phase.failedJob
  | none => s.failed

/-- The wake-ups that `schedule` is for. -/
structure NoLostWakeUp (s : PumpState) : Prop where
  /-- One pump at a time. -/
  single : ∀ pid pid', (s.pumps pid).isSome → (s.pumps pid').isSome → pid = pid'
  /-- Without a pump, the queue holds the job whose dispatch ended the last one. -/
  idle : s.pumpIsActive = false → ∀ jobId ∈ s.queue.jobs, ¬ InSchedule s jobId →
    s.failed = some jobId
  /-- With one, it may end only on such a job. -/
  seen : ∀ jobId ∈ s.queue.jobs, ¬ InSchedule s jobId → ¬ Watched s → s.restsOn = some jobId

/-- The steps of `schedule` calls and pumps without cancellation or exception. -/
def undisturbed : PumpAction → Bool
  | .raise _ | .breakOff _ | .callback _ => false
  | _ => true

/-- No call enters for a queued job after a pump has decided to end, before that pump
takes the guard. The job that ends the pump may be scheduled again. -/
def entersInTime (s : PumpState) : PumpAction → Bool
  | .enter sid =>
    match s.schedules sid, s.pumpTask.bind s.pumps with
    | some (.entering jobId), some (.ending failed false) =>
      jobId ∉ s.queue.jobs ∨ failed = some jobId
    | _, _ => true
  | _ => true

def EntersInTime (s : PumpState) (a : PumpAction) : Prop :=
  undisturbed a = true ∧ entersInTime s a = true

/-- Every queued job is seen by a pump, belongs to a call that has yet to enter, or is the
one that ends the pump. -/
def Heard (s : PumpState) : Prop :=
  ∀ jobId ∈ s.queue.jobs, Watched s ∨ InSchedule s jobId ∨ s.restsOn = some jobId

namespace WakeUpLemmas

variable {batchSize : Int} {s s' : PumpState} {a : PumpAction} {pid sid : Nat} {jobId : UUID}
  {phase phase' : PumpPhase} {queue : JobQueue}

theorem bind_eq_of_pumps (hsingle : SinglePump s) (hpid : s.pumps pid = some phase) :
    s.pumpTask.bind s.pumps = some phase := by
  rw [hsingle.task pid phase hpid]
  exact hpid

theorem restsOn_of_pumps (hsingle : SinglePump s) (hpid : s.pumps pid = some phase) :
    s.restsOn = phase.failedJob := by
  rw [PumpState.restsOn, bind_eq_of_pumps hsingle hpid]

theorem not_watched_of_pumps (hsingle : SinglePump s) (hpid : s.pumps pid = some phase)
    (hlooks : phase.looksAgain = false) : ¬ Watched s := by
  rintro ⟨pid', phase', hpid', hlooks'⟩
  rw [hsingle.eq_of_pumps hpid' hpid, hpid] at hpid'
  cases hpid'
  rw [hlooks] at hlooks'
  cases hlooks'

theorem watched_startPumpLocked : Watched (s.startPumpLocked batchSize) :=
  ⟨s.nextPump, _, Function.update_self _ _ _, rfl⟩

theorem inSchedule_putSchedule_some {phase : SchedulePhase}
    (hsid : ∀ before, s.schedules sid = some before → before.jobId = phase.jobId)
    (h : InSchedule s jobId) : InSchedule (s.putSchedule sid (some phase)) jobId := by
  obtain ⟨sid', before, hsid', hjob⟩ := h
  rcases eq_or_ne sid' sid with rfl | hne
  · exact ⟨sid', phase, Function.update_self _ _ _, (hsid before hsid').symm.trans hjob⟩
  · refine ⟨sid', before, ?_, hjob⟩
    rw [PumpState.putSchedule]
    exact (Function.update_of_ne hne _ _).trans hsid'

theorem inSchedule_putSchedule_none {before : SchedulePhase} (hsid : s.schedules sid = some before)
    (h : InSchedule s jobId) :
    InSchedule (s.putSchedule sid none) jobId ∨ jobId = before.jobId := by
  obtain ⟨sid', phase, hsid', hjob⟩ := h
  rcases eq_or_ne sid' sid with rfl | hne
  · rw [hsid] at hsid'
    cases hsid'
    exact .inr hjob.symm
  · refine .inl ⟨sid', phase, ?_, hjob⟩
    rw [PumpState.putSchedule]
    exact (Function.update_of_ne hne _ _).trans hsid'

theorem left_of_phaseStep (hstep : PhaseStep s.queue phase queue phase')
    (hlooks : phase'.looksAgain = false) :
    (∀ jobId ∈ queue.jobs, phase'.failedJob = some jobId) ∨
      phase.looksAgain = false ∧ phase.failedJob = phase'.failedJob ∧ queue = s.queue := by
  cases hstep with
  | batchOver | empty | requeued | proceeded | failed => cases hlooks
  | checked =>
    next failed =>
    refine .inl fun jobId hmem => ?_
    by_contra hne
    have hother : s.queue.hasQueuedJobs (some failed) = true :=
      JobQueue.hasQueuedJobs_excluding.mpr ⟨jobId, hmem, fun heq => hne (by rw [heq]; rfl)⟩
    simp only [PumpPhase.looksAgain] at hlooks
    rw [hother] at hlooks
    cases hlooks
  | looked =>
    next failed restart =>
    cases restart with
    | false => exact .inr ⟨rfl, rfl, rfl⟩
    | true =>
      refine .inl fun jobId hmem => ?_
      have hany : s.queue.hasQueuedJobs none = true :=
        JobQueue.hasQueuedJobs_none.mpr (List.ne_nil_of_mem hmem)
      simp only [PumpPhase.looksAgain, hany] at hlooks
      cases hlooks

end WakeUpLemmas

open WakeUpLemmas

/-- A step in which no call enters too late keeps every queued job heard. -/
theorem heard_step {batchSize : Int} {s s' : PumpState} {a : PumpAction} (hsingle : SinglePump s)
    (h : Heard s) (hok : EntersInTime s a) (hstep : stepPump batchSize s a = some s') :
    Heard s' := by
  have hsingle' := hsingle.of_step hstep
  cases pumpStepped_of_step hstep with
  | called hsid =>
    intro jobId hmem
    refine (h jobId hmem).imp_right (Or.imp_left (inSchedule_putSchedule_some ?_))
    intro before hbefore
    rw [hsid] at hbefore
    cases hbefore
  | enqueued hsid =>
    next sid scheduled =>
    intro jobId hmem
    rcases JobQueue.mem_enqueue.mp hmem with hmem | rfl
    · refine (h jobId hmem).imp_right (Or.imp_left (inSchedule_putSchedule_some ?_))
      intro before hbefore
      rw [show s.schedules sid = some before from hbefore] at hsid
      cases hsid
      rfl
    · exact .inr (.inl ⟨sid, _, Function.update_self _ _ _, rfl⟩)
  | joined hsid hguard hactive =>
    next sid scheduled =>
    intro jobId hmem
    rcases h jobId hmem with hwatched | hschedule | hrests
    · exact .inl hwatched
    · rcases inSchedule_putSchedule_none hsid hschedule with hschedule | rfl
      · exact .inr (.inl hschedule)
      -- the pump that the call relies on must look again, or end on this very job
      obtain ⟨pid, phase, hpid⟩ := hsingle.isActive_iff.mp hactive
      cases hlooks : phase.looksAgain with
      | true => exact .inl ⟨pid, phase, hpid, hlooks⟩
      | false =>
        cases phase with
        | looping | dispatching | checking => cases hlooks
        | guarded | deciding =>
          rw [hsingle.guarded pid _ hpid rfl] at hguard
          cases hguard
        | ending failed restart =>
          have htime := hok.2
          cases restart with
          | true => cases hlooks
          | false =>
            simp only [entersInTime, hsid, bind_eq_of_pumps hsingle hpid, decide_eq_true_eq]
              at htime
            rcases htime with hout | hfailed
            · exact absurd hmem hout
            · exact .inr (.inr ((restsOn_of_pumps hsingle hpid).trans hfailed))
    · exact .inr (.inr hrests)
  | started => exact fun jobId _ => .inl watched_startPumpLocked
  | moved hpid hphase hcheck =>
    next pid phase phase' queue =>
    have hpid' : (({ s with queue := queue } : PumpState).put pid phase').pumps pid = some phase' :=
      Function.update_self _ _ _
    intro jobId hmem
    cases hlooks : phase'.looksAgain with
    | true => exact .inl ⟨pid, phase', hpid', hlooks⟩
    | false =>
      rw [restsOn_of_pumps hsingle' hpid']
      rcases left_of_phaseStep hphase hlooks with hleft | ⟨hlooked, hfailed, rfl⟩
      · exact .inr (.inr (hleft jobId hmem))
      · rcases h jobId hmem with hwatched | hschedule | hrests
        · exact absurd hwatched (not_watched_of_pumps hsingle hpid hlooked)
        · exact .inr (.inl hschedule)
        · rw [restsOn_of_pumps hsingle hpid, hfailed] at hrests
          exact .inr (.inr hrests)
  | popped hpid hpop =>
    exact fun jobId _ => .inl ⟨_, _, Function.update_self _ _ _, rfl⟩
  | guarded hpid hguard =>
    next pid failed restart =>
    have hpid' : (({ s with guard := some pid } : PumpState).put pid (.guarded failed restart)).pumps
        pid = some (.guarded failed restart) := Function.update_self _ _ _
    intro jobId hmem
    cases restart with
    | true => exact .inl ⟨pid, _, hpid', rfl⟩
    | false =>
      rw [restsOn_of_pumps hsingle' hpid']
      rcases h jobId hmem with hwatched | hschedule | hrests
      · exact absurd hwatched (not_watched_of_pumps hsingle hpid rfl)
      · exact .inr (.inl hschedule)
      · rw [restsOn_of_pumps hsingle hpid] at hrests
        exact .inr (.inr hrests)
  | restarted => exact fun jobId _ => .inl watched_startPumpLocked
  | ended hpid =>
    intro jobId hmem
    rcases h jobId hmem with hwatched | hschedule | hrests
    · exact absurd hwatched (not_watched_of_pumps hsingle hpid rfl)
    · exact .inr (.inl hschedule)
    · rw [restsOn_of_pumps hsingle hpid] at hrests
      exact .inr (.inr hrests)
  | raised | brokeOff | calledBack => cases hok.1

/-- In every run without exceptions in which no call enters too late, every queued job is
heard. -/
theorem heard_of_reaches {batchSize : Int} {s : PumpState}
    (h : Reaches (stepPump batchSize) EntersInTime (PumpState.start .empty) s) : Heard s := by
  refine h.invariant_with (fun _ hs => singlePump_of_reaches hs) ?_ ?_
  · intro jobId hmem
    cases hmem
  · intro s a s' hsingle hheard hok hstep
    exact heard_step hsingle hheard hok hstep

/-- In every run without exceptions in which no call enters for a queued job between the
decision of a pump to end and the end of that pump, one pump runs at a time, and what no
pump sees and no call is about to announce is the job whose failed dispatch ends the pump, or
has ended the last one. -/
theorem no_lost_wake_up (batchSize : Int) (s : PumpState)
    (h : Reaches (stepPump batchSize) EntersInTime (PumpState.start .empty) s) :
    NoLostWakeUp s := by
  have hsingle := singlePump_of_reaches h
  have hheard := heard_of_reaches h
  have hseen : ∀ jobId ∈ s.queue.jobs, ¬ InSchedule s jobId → ¬ Watched s →
      s.restsOn = some jobId := by
    intro jobId hmem hschedule hwatched
    exact ((hheard jobId hmem).resolve_left hwatched).resolve_left hschedule
  constructor
  · intro pid pid' hpid hpid'
    obtain ⟨phase, hphase⟩ := Option.isSome_iff_exists.mp hpid
    obtain ⟨phase', hphase'⟩ := Option.isSome_iff_exists.mp hpid'
    exact hsingle.eq_of_pumps hphase hphase'
  · intro hidle jobId hmem hschedule
    have hnone : ∀ pid phase, s.pumps pid ≠ some phase := by
      intro pid phase hpid
      rw [hsingle.isActive_iff.mpr ⟨pid, phase, hpid⟩] at hidle
      cases hidle
    have hrests := hseen jobId hmem hschedule fun ⟨pid, phase, hpid, _⟩ => hnone pid phase hpid
    have hbind : s.pumpTask.bind s.pumps = none := by
      cases htask : s.pumpTask with
      | none => rfl
      | some pid => exact Option.eq_none_iff_forall_ne_some.mpr (hnone pid)
    rwa [PumpState.restsOn, hbind] at hrests
  · exact hseen

def scheduleCall (sid : Nat) (jobId : UUID) : List PumpAction :=
  [.schedule sid jobId, .enqueue sid, .enter sid]

def exFailedDispatch : List PumpAction := [.pop 0, .requeue 0, .dispatched 0 false, .check 0]

def exEnd : List PumpAction := [.acquireGuard 0, .look 0, .settle 0]

/-- A call that enters before the pump looks for other jobs is heard: the next pump finds
both jobs. -/
theorem exInTime_heard : ∃ s,
    Reaches (stepPump 10) EntersInTime (PumpState.start .empty) s ∧
      s.pumpIsActive = true ∧ s.queue.jobs = [⟨2⟩, ⟨1⟩] ∧ NoLostWakeUp s := by
  have hrun : (execWhere (stepPump 10) (fun s a => undisturbed a && entersInTime s a)
      (PumpState.start .empty) (scheduleCall 0 ⟨1⟩ ++ [PumpAction.pop 0] ++ scheduleCall 1 ⟨2⟩ ++
        [PumpAction.requeue 0, .dispatched 0 false, .check 0] ++ exEnd)).map
      (fun s => (s.pumpIsActive, s.queue.jobs)) = some (true, [⟨2⟩, ⟨1⟩]) := by
    decide +kernel
  obtain ⟨s, hs, hstate⟩ := Option.map_eq_some_iff.mp hrun
  have hreach : Reaches (stepPump 10) EntersInTime (PumpState.start .empty) s := by
    refine Reaches.mono ?_ (reaches_of_execWhere hs)
    intro s a hok
    exact Bool.and_eq_true_iff.mp hok
  obtain ⟨hactive, hjobs⟩ := Prod.mk.inj hstate
  exact ⟨s, hreach, hactive, hjobs, no_lost_wake_up 10 s hreach⟩

def PumpAction.scheduledJob : PumpAction → Option UUID
  | .schedule _ jobId => some jobId
  | _ => none

/-- A dispatch fails and its pump finds no other job. A second call queues its job, finds the
pump active and returns; the pump ends. -/
theorem wake_up_lost :
    ¬ ∀ (batchSize : Int) (as : List PumpAction) (s : PumpState), as.all undisturbed = true →
      (as.filterMap PumpAction.scheduledJob).Nodup →
      exec (stepPump batchSize) (PumpState.start .empty) as = some s → NoLostWakeUp s := by
  intro h
  have hrun : (exec (stepPump 10) (PumpState.start .empty)
      (scheduleCall 0 ⟨1⟩ ++ exFailedDispatch ++ scheduleCall 1 ⟨2⟩ ++ exEnd)).map
      (fun s => (s.pumpIsActive, s.queue.jobs, s.failed)) = some (false, [⟨1⟩, ⟨2⟩], some ⟨1⟩) := by
    decide +kernel
  obtain ⟨s, hs, hstate⟩ := Option.map_eq_some_iff.mp hrun
  have hschedules : (exec (stepPump 10) (PumpState.start .empty)
      (scheduleCall 0 ⟨1⟩ ++ exFailedDispatch ++ scheduleCall 1 ⟨2⟩ ++ exEnd)).map
      PumpState.schedules = some (Function.update (Function.update (Function.update
        (Function.update (Function.update (Function.update (fun _ => none) 0
          (some (.enqueuing ⟨1⟩))) 0 (some (.entering ⟨1⟩))) 0 none)
          1 (some (.enqueuing ⟨2⟩))) 1 (some (.entering ⟨2⟩))) 1 none) := rfl
  rw [hs] at hschedules
  have hreturned : ¬ InSchedule s ⟨2⟩ := by
    rintro ⟨sid, phase, hsid, -⟩
    rw [Option.some.inj hschedules] at hsid
    simp only [Function.update_apply] at hsid
    split_ifs at hsid
  simp only [Prod.mk.injEq] at hstate
  obtain ⟨hidle, hjobs, hfailed⟩ := hstate
  have hlost := (h 10 _ s (by decide) (by decide) hs).idle hidle ⟨2⟩ (by simp [hjobs]) hreturned
  rw [hfailed] at hlost
  exact absurd hlost (by decide)

end Trackpal.Coordinator
