import Trackpal.Export.Steps

/-!
# Leases that nobody recovers

A worker that stops after its claim leaves a job that is `processing` under a lease that will
expire. The background loops select `pending` jobs (`claim_pending`), expired `ready` jobs and
stale `failed` jobs (`export_cleanup_loop`). None of their queries finds a job that is
`processing`, with or without a lease, and `recover_stale_leases`, which does, has no caller.

Results:
1. `spares_next`: a loop that spares a `processing` job goes on to spare it.
2. `stale_lease_stays`.
-/

namespace Trackpal.Export

open Trackpal.Protocol Trackpal.Foundation

/-! ## Passes of the loops -/

/-- The background loops are started, take their steps and stop, while time passes; the processes
that were there before them take none. -/
def Passes (before : World) (_ : World) : Action → Prop
  | .tick _ | .kill _ => True
  | .start operation => operation = .worker ∨ operation = .cleanup
  | .run pid _ _ => before.processes.list.length ≤ pid

/-- A loop that has not claimed the job, nor read its row with another status. -/
def Point.Spares (id : UUID) (point : Point) : Prop :=
  match point with
  | .worker _ | .cleanup _ =>
    (∀ job, point.claimed = some job → job.id ≠ id) ∧
      ∀ row ∈ point.rows, row.id = id → row.status = .processing
  | _ => False

/-- The effects that leave a `processing` row as it is: those on other rows, and a rewrite of
its status alone. -/
def Effect.Spares (id : UUID) : Effect → Prop
  | .claim jobId _ _ | .incrementAttempts jobId | .cancelJob jobId => jobId ≠ id
  | .updateStatus jobId status fields => jobId = id → status = .processing ∧
      fields.replacementJobId = .none ∧ fields.cooldownUntil = .none ∧ fields.clearLease = false
  | .create _ | .deleteJobs _ | .removeTenant _ => False
  | .none | .upload _ _ | .delete _ => True

namespace StaleLeaseLemmas

open StepLemmas

variable {s : Shared} {w w' : World} {id : UUID} {now : Int} {token : Nat} {answer : Answer}
  {point next : Point} {job : ExportJob} {effect : Effect}

theorem withStatus_self {fields : StatusFields} (hstatus : job.status = .processing)
    (hreplacement : fields.replacementJobId = none) (hcooldown : fields.cooldownUntil = none)
    (hlease : fields.clearLease = false) : job.withStatus now .processing fields = job := by
  unfold ExportJob.withStatus
  dsimp only
  rw [hreplacement, hcooldown, hlease, ← hstatus]
  rfl

theorem onRow_of_spares (h : Effect.Spares id effect) (hstatus : job.status = .processing) :
    effect.onRow now id (some job) = some job := by
  cases effect with
  | claim jobId token leaseExpiresAt => exact if_neg (Ne.symm h)
  | incrementAttempts jobId => exact if_neg (Ne.symm h)
  | cancelJob jobId => exact if_neg (Ne.symm h)
  | updateStatus jobId status fields =>
    dsimp only [Effect.onRow]
    split
    · next heq =>
      obtain ⟨rfl, hreplacement, hcooldown, hlease⟩ := h heq.symm
      rw [Option.map_some, withStatus_self hstatus hreplacement hcooldown hlease]
    · rfl
  | create job => exact h.elim
  | deleteJobs ids => exact h.elim
  | removeTenant tenantId => exact h.elim
  | none => rfl
  | upload key stored => rfl
  | delete key => rfl

theorem effect_of_spares (h : point.Spares id) : Effect.Spares id (point.effect s token) := by
  cases point with
  | worker p =>
    obtain ⟨hclaimed, hrows⟩ := h
    cases p with
    | claiming job leaseExpiresAt => exact hclaimed job rfl
    | counting job attempt => exact hclaimed job rfl
    | tenantMissing job attempt => exact fun heq => absurd heq (hclaimed job rfl)
    | confirming job attempt key expiresAt cooldownUntil =>
      exact fun heq => absurd heq (hclaimed job rfl)
    | givingUp job => exact fun heq => absurd heq (hclaimed job rfl)
    | resetting job attempt => exact fun heq => absurd heq (hclaimed job rfl)
    | clearing job attempt prev =>
      exact fun heq => ⟨hrows prev List.mem_cons_self heq, rfl, rfl, rfl⟩
    | _ => trivial
  | cleanup p =>
    obtain ⟨-, hrows⟩ := h
    cases p with
    | clearingExpired row rest =>
      exact fun heq => ⟨hrows row List.mem_cons_self heq, rfl, rfl, rfl⟩
    | redacting row rest =>
      exact fun heq => ⟨hrows row List.mem_cons_self heq, rfl, rfl, rfl⟩
    | _ => trivial
  | _ => exact h.elim

theorem get_after_of_spares (h : point.Spares id) (hget : s.jobs.get id = some job)
    (hstatus : job.status = .processing) :
    (s.after point answer token).jobs.get id = some job := by
  rw [get_after, hget]
  rcases performed_cases s token answer point with hnone | ⟨-, heffect⟩
  · rw [hnone]
    rfl
  · rw [heffect]
    exact onRow_of_spares (effect_of_spares h) hstatus

theorem spares_next (h : point.Spares id) (hnext : point.next s token answer = some next)
    (hget : s.jobs.get id = some job) (hstatus : job.status = .processing) :
    next.Spares id := by
  have hclaimed : ∀ claimed, next.claimed = some claimed →
      (∀ claimed, point.claimed = some claimed → claimed.id ≠ id) → claimed.id ≠ id := by
    intro claimed hclaimed hbefore
    rcases claimed_next hnext hclaimed with hold | ⟨-, -, row, hrow, rfl⟩
    · exact hbefore claimed hold
    · obtain ⟨hrow, hpending, -⟩ := claimable_eq_some hrow
      rintro rfl
      rw [hget] at hrow
      cases hrow
      rw [hstatus] at hpending
      cases hpending
  have hrows : ∀ row ∈ next.rows, (∀ row ∈ point.rows, row.id = id → row.status = .processing) →
      row.id = id → row.status = .processing := by
    rintro row hrow hbefore rfl
    rcases rows_next hnext hrow with hold | ⟨-, -, hfresh, -⟩
    · exact hbefore row hold rfl
    · rw [hget] at hfresh
      cases hfresh
      exact hstatus
  cases point with
  | worker p =>
    obtain rfl := worker_next hnext
    exact ⟨fun claimed hc => hclaimed claimed hc h.1, fun row hrow => hrows row hrow h.2⟩
  | cleanup p =>
    obtain ⟨p', -, rfl⟩ := Option.map_eq_some_iff.mp hnext
    exact ⟨fun claimed hc => hclaimed claimed hc h.1, fun row hrow => hrows row hrow h.2⟩
  | _ => exact h.elim

/-- What a pass keeps: the row of the job, and that the loops of the pass spare it. -/
structure Kept (before : World) (job : ExportJob) (w : World) : Prop where
  row : w.shared.jobs.get job.id = some job
  spared : ∀ pid process, before.processes.list.length ≤ pid →
    w.processes.get pid = some process → process.point.Spares job.id
  grown : before.processes.list.length ≤ w.processes.list.length

theorem Kept.step {before : World} {a : Action} (h : Kept before job w)
    (hstatus : job.status = .processing) (hpass : Passes before w a)
    (hstep : Export.step w a = some w') : Kept before job w' := by
  cases stepped_of_step hstep with
  | tick hle => exact ⟨h.row, h.spared, h.grown⟩
  | start operation =>
    refine ⟨h.row, fun pid process hpid hget => ?_, ?_⟩
    · rcases Threads.get_spawn.mp hget with hold | ⟨-, rfl⟩
      · exact h.spared pid process hpid hold
      · rcases hpass with rfl | rfl <;>
          exact ⟨fun _ hclaimed => (nomatch hclaimed), fun _ hrow => (nomatch hrow)⟩
    · show _ ≤ (w.processes.list ++ [_]).length
      rw [List.length_append]
      exact h.grown.trans (Nat.le_add_right _ _)
  | @run pid token process answer hpid htoken =>
    have hspares := h.spared pid process hpass hpid
    refine ⟨get_after_of_spares hspares h.row hstatus, fun other found hother hget => ?_, ?_⟩
    · by_cases heq : other = pid
      · subst heq
        rw [get_run_self hpid] at hget
        obtain ⟨next, hnext, rfl⟩ := Option.map_eq_some_iff.mp hget
        exact spares_next hspares hnext h.row hstatus
      · rw [get_run_of_ne heq] at hget
        obtain ⟨found, hfound, rfl⟩ := Option.map_eq_some_iff.mp hget
        exact h.spared other found hother hfound
    · show _ ≤ ((w.processes.list.map _).set pid _).length
      rw [List.length_set, List.length_map]
      exact h.grown
  | @kill pid process hpid =>
    refine ⟨h.row, fun other found hother hget => ?_, ?_⟩
    · by_cases heq : other = pid
      · subst heq
        rw [Threads.get_put_self hpid] at hget
        cases hget
      · rw [Threads.get_put_of_ne heq] at hget
        exact h.spared other found hother hget
    · show _ ≤ (w.processes.list.set pid _).length
      rw [List.length_set]
      exact h.grown

end StaleLeaseLemmas

open StaleLeaseLemmas

/-- The background loops leave a `processing` job as it is, whatever its lease, in every pass and
in any number of passes, whatever else the table holds and however their calls end. -/
theorem stale_lease_stays {w w' : World} {job : ExportJob}
    (hrow : w.shared.jobs.get job.id = some job) (hstatus : job.status = .processing)
    (h : Reaches step (Passes w) w w') : w'.shared.jobs.get job.id = some job := by
  have hkept : Kept w job w' := by
    refine h.invariant ⟨hrow, fun pid process hpid hget => ?_, le_rfl⟩
      fun _ _ _ hkept hpass hstep => hkept.step hstatus hpass hstep
    exact absurd (Threads.lt_of_get hget) (Nat.not_lt.mpr hpid)
  exact hkept.row

/-! ## A job that is lost -/

def exCrashed : List Action :=
  .start (.request ⟨1⟩ ⟨2⟩ "tenant") :: exRuns 0 0 3 ++ .start .worker :: exRuns 1 3 2 ++
    [Action.kill 1, .tick (2 * leaseTime)]

def exPass : List Action :=
  [Action.start .worker, .start .cleanup] ++ exRuns 2 10 1 ++ exRuns 3 11 2

def exStale : ExportJob :=
  { newJob ⟨2⟩ ⟨1⟩ ⟨2⟩ "tenant" 0 cooldown none with
    status := .processing
    leaseToken := some ⟨4⟩
    leaseExpiresAt := some leaseTime }

/-- The lease has expired, no loop is left that holds the job, and a pass of both loops leaves it
`processing`. -/
theorem expired_lease_left : ∃ w w' : World,
    Reaches step Always (World.start (fun tenantId => tenantId = ⟨1⟩) 0) w ∧
      w.shared.jobs.get ⟨2⟩ = some exStale ∧ leaseTime < w.shared.now ∧
      exec step w exPass = some w' ∧ w'.shared.jobs.get ⟨2⟩ = some exStale := by
  have hcrashed : (exec step (World.start (fun tenantId => tenantId = ⟨1⟩) 0) exCrashed).any
      (fun w => w.shared.jobs.get ⟨2⟩ = some exStale ∧ leaseTime < w.shared.now ∧
        (exec step w exPass).any fun w' => w'.shared.jobs.get ⟨2⟩ = some exStale) = true := by
    decide +kernel
  obtain ⟨w, hw, hfacts⟩ := (Option.any_eq_true _ _).mp hcrashed
  obtain ⟨hrow, hlease, hpass⟩ := of_decide_eq_true hfacts
  obtain ⟨w', hw', hrow'⟩ := (Option.any_eq_true _ _).mp hpass
  exact ⟨w, w', reaches_of_exec hw, hrow, hlease, hw', of_decide_eq_true hrow'⟩

/-- In every run of the loops after the crash the job is as the worker has left it. -/
theorem stale_lease_stays_lost : ∃ w : World,
    w.shared.jobs.get ⟨2⟩ = some exStale ∧ ∀ w', Reaches step (Passes w) w w' →
      w'.shared.jobs.get ⟨2⟩ = some exStale := by
  have hcrashed : (exec step (World.start (fun tenantId => tenantId = ⟨1⟩) 0) exCrashed).any
      (fun w => w.shared.jobs.get ⟨2⟩ = some exStale) = true := by
    decide +kernel
  obtain ⟨w, -, hrow⟩ := (Option.any_eq_true _ _).mp hcrashed
  have hget := of_decide_eq_true hrow
  refine ⟨w, hget, fun w' h => ?_⟩
  show w'.shared.jobs.get exStale.id = some exStale
  exact stale_lease_stays hget rfl h

end Trackpal.Export
