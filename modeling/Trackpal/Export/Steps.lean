import Trackpal.Export.Machine

/-!
# What a step of the export system can do

The inversion of `step`, what an effect leaves under a key of the table and of the
storage, and the rows that a process carries from one step to the next. The proofs about
runs use these and never unfold the machine.

Results:
1. `rows_next`: a process carries rows that it has read, with the status it asked for.
2. `each_of_reaches`: what holds of the shared state and of every process, in every run.
-/

namespace Trackpal.Export

open Trackpal.Protocol Trackpal.Foundation

variable {s : Shared} {w w' : World} {a : Action} {id : UUID} {now : Int} {token pid : Nat}
  {answer : Answer} {point next : Point} {process : Process} {effect : Effect}
  {p : WorkerPoint}

/-- What a step does. -/
inductive Stepped (w : World) : Action → World → Prop
  | tick {now : Int} (hle : w.shared.now ≤ now) :
      Stepped w (.tick now) { w with shared := { w.shared with now } }
  | start (operation : Operation) :
      Stepped w (.start operation)
        { w with processes := w.processes.spawn ⟨operation.point w.shared.now, []⟩ }
  | run {pid token : Nat} {process : Process} (answer : Answer)
      (hpid : w.processes.get pid = some process) (htoken : token ∉ w.shared.drawn) :
      Stepped w (.run pid answer token) (w.run pid process answer token)
  | kill {pid : Nat} {process : Process} (hpid : w.processes.get pid = some process) :
      Stepped w (.kill pid) { w with processes := w.processes.put pid none }

theorem stepped_of_step (h : step w a = some w') : Stepped w a w' := by
  cases a with
  | tick now =>
    dsimp only [step] at h
    split at h
    · next hle =>
      cases h
      exact .tick hle
    · cases h
  | start operation =>
    cases h
    exact .start operation
  | run pid answer token =>
    dsimp only [step] at h
    split at h
    · next process hpid =>
      split at h
      · cases h
      · next htoken =>
        cases h
        exact .run answer hpid htoken
    · cases h
  | kill pid =>
    dsimp only [step] at h
    split at h
    · next process hpid =>
      cases h
      exact .kill hpid
    · cases h

/-! ## What an effect leaves -/

def Effect.onRow (now : Int) (id : UUID) (row : Option ExportJob) : Effect → Option ExportJob
  | .claim jobId token leaseExpiresAt =>
    if id = jobId then row.map (·.claimed token leaseExpiresAt) else row
  | .updateStatus jobId status fields =>
    if id = jobId then row.map (·.withStatus now status fields) else row
  | .incrementAttempts jobId => if id = jobId then row.map (·.counted) else row
  | .cancelJob jobId => if id = jobId then row.map (·.cancel) else row
  | .create job => if id = job.id then row.or (some job) else row
  | .deleteJobs ids => row.filter fun job => job.id ∉ ids
  | .removeTenant tenantId => row.filter fun job => job.tenantId ≠ tenantId
  | _ => row

def Effect.onObject (key : ObjectKey) (object : Option StoredExport) :
    Effect → Option StoredExport
  | .upload uploaded stored => if key = uploaded then some stored else object
  | .delete deleted => if key = deleted then .none else object
  | _ => object

namespace StepLemmas

theorem get_modify {jobs : Jobs} {jobId : UUID} {f : ExportJob → ExportJob}
    (hf : ∀ row, (f row).id = row.id) :
    (jobs.modify jobId f hf).get id = if id = jobId then (jobs.get id).map f else jobs.get id := by
  split
  · next heq =>
    subst heq
    exact Table.get_modify_self
  · next hne => exact Table.get_modify_of_ne hne

theorem get_insert {jobs : Jobs} {job : ExportJob} :
    (jobs.insert job).get id =
      if id = job.id then (jobs.get id).or (some job) else jobs.get id := by
  split
  · next heq =>
    subst heq
    cases hget : jobs.get job.id with
    | none => exact Table.get_insert_self hget
    | some row =>
      have hmem : job.id ∈ jobs.rows.map ExportJob.id :=
        List.mem_map.mpr ⟨row, (Table.get_eq_some.mp hget).1, Table.key_of_get hget⟩
      show (jobs.insert job).get job.id = some row
      rw [Table.insert, dif_pos hmem, hget]
  · next hne => exact Table.get_insert_of_ne hne

end StepLemmas

open StepLemmas

theorem get_apply : (s.apply effect).jobs.get id = effect.onRow s.now id (s.jobs.get id) := by
  cases effect with
  | claim jobId token leaseExpiresAt =>
    exact get_modify (f := fun row => row.claimed token leaseExpiresAt) fun _ => rfl
  | updateStatus jobId status fields => exact get_modify fun _ => withStatus_id
  | incrementAttempts jobId => exact get_modify (f := ExportJob.counted) fun _ => rfl
  | cancelJob jobId => exact get_modify fun _ => cancel_id
  | create job => exact get_insert
  | deleteJobs ids => simp [Shared.apply, Effect.onRow, Table.get_remove]
  | removeTenant tenantId => simp [Shared.apply, Effect.onRow, Table.get_remove]
  | none => rfl
  | upload key stored => rfl
  | delete key => rfl

theorem objects_apply {key : ObjectKey} :
    (s.apply effect).objects key = effect.onObject key (s.objects key) := by
  cases effect <;> rfl

@[simp] theorem now_apply : (s.apply effect).now = s.now := by
  cases effect <;> rfl

@[simp] theorem drawn_after : (s.after point answer token).drawn = token :: s.drawn := rfl

@[simp] theorem now_after : (s.after point answer token).now = s.now := now_apply

theorem get_after : (s.after point answer token).jobs.get id =
    (point.performed s token answer).onRow s.now id (s.jobs.get id) := get_apply

theorem objects_after {key : ObjectKey} : (s.after point answer token).objects key =
    (point.performed s token answer).onObject key (s.objects key) := objects_apply

/-- What an effect makes of the row under an id. -/
inductive Rewrites (now : Int) (id : UUID) : Effect → ExportJob → ExportJob → Prop
  | keep (effect : Effect) (job : ExportJob) : Rewrites now id effect job job
  | claim (job : ExportJob) (token : UUID) (leaseExpiresAt : Int) :
      Rewrites now id (.claim id token leaseExpiresAt) job (job.claimed token leaseExpiresAt)
  | status (job : ExportJob) (status : JobStatus) (fields : StatusFields) :
      Rewrites now id (.updateStatus id status fields) job (job.withStatus now status fields)
  | count (job : ExportJob) : Rewrites now id (.incrementAttempts id) job job.counted
  | cancel (job : ExportJob) : Rewrites now id (.cancelJob id) job job.cancel

theorem rewrites_of_ite {jobId : UUID} {f : ExportJob → ExportJob} {row : Option ExportJob}
    {job' : ExportJob} (h : (if id = jobId then row.map f else row) = some job')
    (hf : id = jobId → ∀ job, Rewrites now id effect job (f job)) :
    ∃ job, row = some job ∧ Rewrites now id effect job job' := by
  split at h
  · next heq =>
    obtain ⟨job, hrow, rfl⟩ := Option.map_eq_some_iff.mp h
    exact ⟨job, hrow, hf heq job⟩
  · exact ⟨job', h, .keep effect job'⟩

theorem rewrites_of_onRow {row : Option ExportJob} {job' : ExportJob}
    (h : effect.onRow now id row = some job') :
    (∃ job, row = some job ∧ Rewrites now id effect job job') ∨
      effect = .create job' ∧ id = job'.id ∧ row = none := by
  cases effect with
  | claim jobId token leaseExpiresAt =>
    refine .inl (rewrites_of_ite h fun heq job => ?_)
    subst heq
    exact .claim job token leaseExpiresAt
  | updateStatus jobId status fields =>
    refine .inl (rewrites_of_ite h fun heq job => ?_)
    subst heq
    exact .status job status fields
  | incrementAttempts jobId =>
    refine .inl (rewrites_of_ite h fun heq job => ?_)
    subst heq
    exact .count job
  | cancelJob jobId =>
    refine .inl (rewrites_of_ite h fun heq job => ?_)
    subst heq
    exact .cancel job
  | create job =>
    dsimp only [Effect.onRow] at h
    split at h
    · next heq =>
      cases row with
      | none =>
        cases h
        exact .inr ⟨rfl, heq, rfl⟩
      | some old => exact .inl ⟨old, rfl, Option.some.inj h ▸ .keep _ old⟩
    · exact .inl ⟨job', h, .keep _ job'⟩
  | deleteJobs ids => exact .inl ⟨job', Option.eq_some_of_filter_eq_some h, .keep _ job'⟩
  | removeTenant tenantId => exact .inl ⟨job', Option.eq_some_of_filter_eq_some h, .keep _ job'⟩
  | none => exact .inl ⟨job', h, .keep _ job'⟩
  | upload key stored => exact .inl ⟨job', h, .keep _ job'⟩
  | delete key => exact .inl ⟨job', h, .keep _ job'⟩

theorem onRow_ne_none {row : Option ExportJob} (h : row ≠ none)
    (hrows : ∀ ids, effect ≠ .deleteJobs ids) (htenant : ∀ tenantId, effect ≠ .removeTenant tenantId) :
    effect.onRow now id row ≠ none := by
  obtain ⟨job, rfl⟩ := Option.ne_none_iff_exists'.mp h
  cases effect with
  | deleteJobs ids => exact absurd rfl (hrows ids)
  | removeTenant tenantId => exact absurd rfl (htenant tenantId)
  | none => exact h
  | upload key stored => exact h
  | delete key => exact h
  | _ =>
    dsimp only [Effect.onRow]
    split
    · exact Option.some_ne_none _
    · exact h

theorem performed_cases (s : Shared) (token : Nat) (answer : Answer) (point : Point) :
    point.performed s token answer = .none ∨
      answer.applied = true ∧ point.performed s token answer = point.effect s token := by
  unfold Point.performed
  split
  · next happlied => exact .inr ⟨happlied, rfl⟩
  · exact .inl rfl

theorem performed_of_applied (h : answer.applied = true) :
    point.performed s token answer = point.effect s token := if_pos h

/-! ## What a process carries -/

/-- The job that a worker is about to claim, or is inside `_process_job_with_session` for. -/
def WorkerPoint.claimed : WorkerPoint → Option ClaimedJob
  | .claiming job _ => some job
  | p => p.job

def WorkerPoint.holds : WorkerPoint → Option (UUID × ObjectKey)
  | .uploaded job _ key | .purging job key | .confirming job _ key _ _ => some (job.id, key)
  | _ => none

def Point.claimed : Point → Option ClaimedJob
  | .worker p => p.claimed
  | _ => none

def Point.holds : Point → Option (UUID × ObjectKey)
  | .worker p => p.holds
  | _ => none

/-- A worker is inside `_process_job_with_session` for the job. -/
def Point.inside (id : UUID) : Point → Bool
  | .worker p => p.job.any (·.id = id)
  | _ => false

def Point.rows : Point → List ExportJob
  | .worker (.removing _ _ prev _) | .worker (.clearing _ _ prev) => [prev]
  | .request (.creating _ current _) => current.toList
  | .request (.linking _ current _) => [current]
  | .status (.probing row _) | .status (.forgetting row) => [row]
  | .cleanup (.deletingExpired row _ rest) | .cleanup (.clearingExpired row rest)
  | .cleanup (.redacting row rest) => row :: rest
  | _ => []

inductive StatusMoves (s : Shared) : StatusPoint → StatusPoint → Prop
  | previous (tenantId jobId : UUID) : StatusMoves s (.current tenantId) (.previous jobId)
  | probe {p : StatusPoint} (row : ExportJob) (key : ObjectKey)
      (hreads : (Point.status p).reads row.id = true) (hget : s.jobs.get row.id = some row)
      (hready : row.status = .ready) (hkey : row.r2Key = some key) :
      StatusMoves s p (.probing row key)
  | forget (row : ExportJob) (key : ObjectKey) (hmissing : s.objects key = none) :
      StatusMoves s (.probing row key) (.forgetting row)

inductive CleanupMoves (s : Shared) (answer : Answer) : CleanupPoint → CleanupPoint → Prop
  | sweep (hreturned : answer = .returned) :
      CleanupMoves s answer .sweeping (sweep (expiredReady s.jobs s.now))
  | delete (row : ExportJob) (key : ObjectKey) (rest : List ExportJob)
      (hanswer : ∀ applied, answer = .raised applied → False) :
      CleanupMoves s answer (.deletingExpired row key rest) (.clearingExpired row rest)
  | clear (row : ExportJob) (rest : List ExportJob) :
      CleanupMoves s answer (.clearingExpired row rest) (sweep rest)
  | select (first : ExportJob) (rest : List ExportJob) (hreturned : answer = .returned)
      (hrows : staleFailed s.jobs s.now = first :: rest) :
      CleanupMoves s answer .sweepingFailed (.redacting first rest)
  | redact (row first : ExportJob) (rest : List ExportJob) :
      CleanupMoves s answer (.redacting row (first :: rest)) (.redacting first rest)

/-- A row that a process has read with this step. -/
def Fresh (s : Shared) (answer : Answer) (point : Point) (row : ExportJob) : Prop :=
  answer = .returned ∧ point.reads row.id = true ∧ s.jobs.get row.id = some row ∧
    (row.status = .ready ∨ row.status = .failed ∨ row.r2Key ≠ none)

namespace StepLemmas

theorem worker_next (h : (Point.worker p).next s token answer = some next) :
    next = .worker (p.next s token answer) := (Option.some.inj h).symm

theorem cancel_next {p : CancelPoint} (h : (Point.cancel p).next s token answer = some next) :
    ∃ p', p.next s answer = .more p' ∧ next = .cancel p' := by
  dsimp only [Point.next] at h
  split at h
  · next p' hp' => exact ⟨p', hp', (Option.some.inj h).symm⟩
  · cases h

theorem next_worker {p' : WorkerPoint} (h : point.next s token answer = some (.worker p')) :
    ∃ p, point = .worker p ∧ p' = p.next s token answer := by
  cases point with
  | worker p => exact ⟨p, rfl, Point.worker.inj (worker_next h)⟩
  | request p =>
    obtain ⟨_, -, hp⟩ := Option.map_eq_some_iff.mp h
    cases hp
  | cancel p =>
    obtain ⟨_, -, hp⟩ := cancel_next h
    cases hp
  | status p =>
    obtain ⟨_, -, hp⟩ := Option.map_eq_some_iff.mp h
    cases hp
  | cleanup p =>
    obtain ⟨_, -, hp⟩ := Option.map_eq_some_iff.mp h
    cases hp
  | deletion p =>
    obtain ⟨_, -, hp⟩ := Option.map_eq_some_iff.mp h
    cases hp

theorem worker_of_claimed {job : ClaimedJob} (h : point.claimed = some job) :
    ∃ p, point = .worker p := by
  cases point with
  | worker p => exact ⟨p, rfl⟩
  | _ => cases h

theorem worker_of_holds {held : UUID × ObjectKey} (h : point.holds = some held) :
    ∃ p, point = .worker p := by
  cases point with
  | worker p => exact ⟨p, rfl⟩
  | _ => cases h

theorem claimed_worker {job : ClaimedJob} (h : (p.next s token answer).claimed = some job) :
    p.claimed = some job ∨ p = .polling ∧ answer = .returned ∧
      ∃ row, claimable s.jobs s.now = some row ∧ job = ⟨row.id, row.tenantId, row.maxAttempts⟩ := by
  revert h
  fun_cases WorkerPoint.next s token answer p
  case case1 row hrow =>
    intro h
    cases h
    exact .inr ⟨rfl, rfl, row, hrow, rfl⟩
  all_goals
    intro h
    first
    | exact .inl h
    | cases h

theorem inside_worker
    (h : (Point.worker (p.next s token answer)).inside id = true) :
    (Point.worker p).inside id = true ∨ answer = .returned ∧ s.jobs.get id ≠ none ∧
      ∃ job leaseExpiresAt, p = .claiming job leaseExpiresAt ∧ job.id = id := by
  revert h
  fun_cases WorkerPoint.next s token answer p
  case case3 job leaseExpiresAt hclaimed =>
    intro h
    have hid : job.id = id := of_decide_eq_true h
    exact .inr ⟨hclaimed.1, hid ▸ hclaimed.2, job, leaseExpiresAt, rfl, hid⟩
  all_goals
    intro h
    first
    | exact .inl h
    | cases h

theorem holds_worker {held : UUID × ObjectKey} (h : (p.next s token answer).holds = some held) :
    p.holds = some held ∨ answer = .returned ∧
      ∃ job attempt, p = .uploading job attempt ∧ held = (job.id, ⟨token⟩) := by
  revert h
  fun_cases WorkerPoint.next s token answer p
  case case16 job attempt =>
    intro h
    cases h
    exact .inr ⟨rfl, job, attempt, rfl, rfl⟩
  all_goals
    intro h
    first
    | exact .inl h
    | cases h

theorem rows_worker {row : ExportJob} (h : row ∈ (Point.worker (p.next s token answer)).rows) :
    row ∈ (Point.worker p).rows ∨ Fresh s answer (.worker p) row := by
  revert h
  fun_cases WorkerPoint.next s token answer p
  case case26 job attempt replacedJobId prev hprev key hkey hreturned =>
    intro h
    obtain rfl := List.mem_singleton.mp h
    have hid := Table.key_of_get hprev
    subst hid
    refine .inr ⟨not_not.mp hreturned, decide_eq_true rfl, hprev, .inr (.inr ?_)⟩
    rw [hkey]
    exact Option.some_ne_none key
  all_goals
    intro h
    first
    | exact .inl h
    | cases h

theorem rows_request {p : RequestPoint} {row : ExportJob}
    (h : (Point.request p).next s token answer = some next) (hrow : row ∈ next.rows) :
    row ∈ (Point.request p).rows ∨ Fresh s answer (.request p) row := by
  obtain ⟨p', hp', rfl⟩ := Option.map_eq_some_iff.mp h
  cases p with
  | cooling request =>
    dsimp only [RequestPoint.next] at hp'
    split at hp'
    · split at hp'
      · cases hp'
        cases hrow
      · cases hp'
        cases hrow
    · cases hp'
  | judging request cooldownUntil =>
    dsimp only [RequestPoint.next] at hp'
    split at hp'
    · cases hp'
    · cases hp'
      cases hrow
  | looking request =>
    dsimp only [RequestPoint.next] at hp'
    split at hp'
    · next hreturned =>
      cases hp'
      obtain ⟨hget, -, hready, -⟩ := getReady_eq_some (Option.mem_toList.mp hrow)
      exact .inr ⟨hreturned, rfl, hget, .inl hready⟩
    · cases hp'
  | creating request current cooldownUntil =>
    dsimp only [RequestPoint.next] at hp'
    split at hp'
    · obtain ⟨job, rfl, rfl⟩ := Option.map_eq_some_iff.mp hp'
      exact .inl hrow
    · cases hp'
  | linking request current jobId => cases hp'

theorem moves_of_probe {p p' : StatusPoint} {job : ExportJob} (hprobe : probe job = some p')
    (hreads : (Point.status p).reads job.id = true) (hget : s.jobs.get job.id = some job)
    (hready : job.status = .ready) : StatusMoves s p p' := by
  obtain ⟨key, hkey, rfl⟩ := Option.map_eq_some_iff.mp hprobe
  exact .probe job key hreads hget hready hkey

theorem statusMoves_of_next {p p' : StatusPoint} (h : p.next s answer = some p') :
    answer = .returned ∧ StatusMoves s p p' := by
  cases p with
  | current tenantId =>
    dsimp only [StatusPoint.next] at h
    split at h
    · next hreturned =>
      refine ⟨hreturned, ?_⟩
      split at h
      · next job hjob =>
        split at h
        · next hready => exact moves_of_probe h rfl (getLatest_eq_some hjob).1 hready
        · split at h
          · obtain ⟨replacedJobId, -, rfl⟩ := Option.map_eq_some_iff.mp h
            exact .previous tenantId replacedJobId
          · cases h
      · cases h
    · cases h
  | previous jobId =>
    dsimp only [StatusPoint.next] at h
    split at h
    · next hreturned =>
      obtain ⟨job, hjob, hprobe⟩ := Option.bind_eq_some_iff.mp h
      obtain ⟨hget, hunexpired⟩ := Option.filter_eq_some_iff.mp hjob
      have hid := Table.key_of_get hget
      subst hid
      simp only [unexpired, Bool.and_eq_true, decide_eq_true_eq] at hunexpired
      exact ⟨hreturned, moves_of_probe hprobe (decide_eq_true rfl) hget hunexpired.1⟩
    · cases h
  | downloading tenantId =>
    dsimp only [StatusPoint.next] at h
    split at h
    · next hreturned =>
      obtain ⟨job, hjob, hprobe⟩ := Option.bind_eq_some_iff.mp h
      obtain ⟨hget, -, hready⟩ := downloadable_eq_some hjob
      exact ⟨hreturned, moves_of_probe hprobe rfl hget hready⟩
    · cases h
  | probing row key =>
    dsimp only [StatusPoint.next] at h
    split at h
    · next hmissing =>
      cases h
      exact ⟨hmissing.1, .forget row key hmissing.2⟩
    · cases h
  | forgetting row => cases h

theorem rows_status {p : StatusPoint} {row : ExportJob}
    (h : (Point.status p).next s token answer = some next) (hrow : row ∈ next.rows) :
    row ∈ (Point.status p).rows ∨ Fresh s answer (.status p) row := by
  obtain ⟨p', hp', rfl⟩ := Option.map_eq_some_iff.mp h
  obtain ⟨hreturned, hmoves⟩ := statusMoves_of_next hp'
  cases hmoves with
  | previous => cases hrow
  | probe job key hreads hget hready hkey =>
    obtain rfl := List.mem_singleton.mp hrow
    exact .inr ⟨hreturned, hreads, hget, .inl hready⟩
  | forget carried key hmissing => exact .inl hrow

theorem cleanupMoves_of_next {p p' : CleanupPoint} (h : p.next s answer = some p') :
    CleanupMoves s answer p p' := by
  cases p with
  | sweeping =>
    dsimp only [CleanupPoint.next] at h
    split at h
    · next hreturned =>
      cases h
      exact .sweep hreturned
    · cases h
  | deletingExpired row key rest =>
    dsimp only [CleanupPoint.next] at h
    split at h
    · cases h
    · next hanswer =>
      cases h
      exact .delete row key rest hanswer
  | clearingExpired row rest =>
    dsimp only [CleanupPoint.next] at h
    split at h
    · cases h
      exact .clear row rest
    · cases h
  | sweepingFailed =>
    dsimp only [CleanupPoint.next] at h
    split at h
    · next hreturned =>
      cases hrows : staleFailed s.jobs s.now with
      | nil =>
        rw [hrows] at h
        cases h
      | cons first rest =>
        rw [hrows] at h
        cases h
        exact .select first rest hreturned hrows
    · cases h
  | redacting row rest =>
    dsimp only [CleanupPoint.next] at h
    split at h
    · cases rest with
      | nil => cases h
      | cons first rest =>
        cases h
        exact .redact row first rest
    · cases h

theorem rows_sweep {rows : List ExportJob} {row : ExportJob}
    (hrow : row ∈ (Point.cleanup (sweep rows)).rows) : row ∈ rows := by
  cases rows with
  | nil => cases hrow
  | cons first rest =>
    dsimp only [sweep] at hrow
    split at hrow
    · exact hrow
    · exact hrow

theorem rows_cleanup {p : CleanupPoint} {row : ExportJob}
    (h : (Point.cleanup p).next s token answer = some next) (hrow : row ∈ next.rows) :
    row ∈ (Point.cleanup p).rows ∨ Fresh s answer (.cleanup p) row := by
  obtain ⟨p', hp', rfl⟩ := Option.map_eq_some_iff.mp h
  cases cleanupMoves_of_next hp' with
  | sweep hreturned =>
    obtain ⟨hget, hready⟩ := mem_expiredReady (rows_sweep hrow)
    exact .inr ⟨hreturned, rfl, hget, .inl hready⟩
  | delete carried key rest hanswer => exact .inl hrow
  | clear carried rest => exact .inl (List.mem_cons_of_mem _ (rows_sweep hrow))
  | select first rest hreturned hrows =>
    have hmem : row ∈ staleFailed s.jobs s.now := hrows ▸ hrow
    obtain ⟨hget, hfailed⟩ := mem_staleFailed hmem
    exact .inr ⟨hreturned, rfl, hget, .inr (.inl hfailed)⟩
  | redact carried first rest => exact .inl (List.mem_cons_of_mem _ hrow)

end StepLemmas

theorem rows_next {row : ExportJob} (h : point.next s token answer = some next)
    (hrow : row ∈ next.rows) : row ∈ point.rows ∨ Fresh s answer point row := by
  cases point with
  | worker p =>
    obtain rfl := worker_next h
    exact rows_worker hrow
  | request p => exact rows_request h hrow
  | cancel p =>
    obtain ⟨p', -, rfl⟩ := cancel_next h
    cases hrow
  | status p => exact rows_status h hrow
  | cleanup p => exact rows_cleanup h hrow
  | deletion p =>
    obtain ⟨p', -, rfl⟩ := Option.map_eq_some_iff.mp h
    cases hrow

theorem claimed_next {job : ClaimedJob} (h : point.next s token answer = some next)
    (hclaimed : next.claimed = some job) :
    point.claimed = some job ∨ point = .worker .polling ∧ answer = .returned ∧
      ∃ row, claimable s.jobs s.now = some row ∧ job = ⟨row.id, row.tenantId, row.maxAttempts⟩ := by
  obtain ⟨p', rfl⟩ := worker_of_claimed hclaimed
  obtain ⟨p, rfl, rfl⟩ := next_worker h
  refine (claimed_worker hclaimed).imp_right fun ⟨hp, hclaims⟩ => ?_
  exact ⟨congrArg Point.worker hp, hclaims⟩

theorem inside_next (h : point.next s token answer = some next) (hinside : next.inside id = true) :
    point.inside id = true ∨ answer = .returned ∧ s.jobs.get id ≠ none ∧
      ∃ job leaseExpiresAt, point = .worker (.claiming job leaseExpiresAt) ∧ job.id = id := by
  obtain ⟨p', rfl⟩ : ∃ p', next = .worker p' := by
    cases next with
    | worker p' => exact ⟨p', rfl⟩
    | _ => cases hinside
  obtain ⟨p, rfl, rfl⟩ := next_worker h
  refine (inside_worker hinside).imp_right fun ⟨hreturned, hrow, job, leaseExpiresAt, hp, hid⟩ => ?_
  exact ⟨hreturned, hrow, job, leaseExpiresAt, congrArg Point.worker hp, hid⟩

theorem holds_next {held : UUID × ObjectKey} (h : point.next s token answer = some next)
    (hholds : next.holds = some held) :
    point.holds = some held ∨ answer = .returned ∧
      ∃ job attempt, point = .worker (.uploading job attempt) ∧ held = (job.id, ⟨token⟩) := by
  obtain ⟨p', rfl⟩ := worker_of_holds hholds
  obtain ⟨p, rfl, rfl⟩ := next_worker h
  refine (holds_worker hholds).imp_right fun ⟨hreturned, job, attempt, hp, hheld⟩ => ?_
  exact ⟨hreturned, job, attempt, congrArg Point.worker hp, hheld⟩

/-! ## Where a run starts -/

variable {operation : Operation} {tenants : UUID → Bool}

theorem claimed_start : (operation.point now).claimed = none := by
  cases operation <;> rfl

theorem holds_start : (operation.point now).holds = none := by
  cases operation <;> rfl

theorem rows_start : (operation.point now).rows = [] := by
  cases operation <;> rfl

theorem start_get : (World.start tenants now).shared.jobs.get id = none := rfl

theorem start_objects {key : ObjectKey} : (World.start tenants now).shared.objects key = none := rfl

theorem start_running : (World.start tenants now).processes.running = [] := rfl

/-! ## Which point has which effect -/

inductive Writes : Point → UUID → JobStatus → StatusFields → Prop
  | confirm (job : ClaimedJob) (attempt : Nat) (key : ObjectKey) (expiresAt cooldownUntil : Int) :
      Writes (.worker (.confirming job attempt key expiresAt cooldownUntil)) job.id .ready
        { r2Key := some key
          expiresAt := some expiresAt
          clearLease := true
          cooldownUntil := some cooldownUntil }
  | clear (job : ClaimedJob) (attempt : Nat) (prev : ExportJob) :
      Writes (.worker (.clearing job attempt prev)) prev.id prev.status
        { expiresAt := prev.expiresAt }
  | tenantMissing (job : ClaimedJob) (attempt : Nat) :
      Writes (.worker (.tenantMissing job attempt)) job.id .failed
        { errorCode := some "TENANT_NOT_FOUND" }
  | giveUp (job : ClaimedJob) :
      Writes (.worker (.givingUp job)) job.id .failed { errorCode := some "GENERATION_ERROR" }
  | reset (job : ClaimedJob) (attempt : Nat) :
      Writes (.worker (.resetting job attempt)) job.id .pending { clearLease := true }
  | link (request : Request) (current : ExportJob) (jobId : UUID) :
      Writes (.request (.linking request current jobId)) current.id current.status
        { r2Key := current.r2Key
          expiresAt := current.expiresAt
          replacementJobId := some jobId }
  | forget (row : ExportJob) :
      Writes (.status (.forgetting row)) row.id row.status { expiresAt := row.expiresAt }
  | clearExpired (row : ExportJob) (rest : List ExportJob) :
      Writes (.cleanup (.clearingExpired row rest)) row.id row.status
        { expiresAt := row.expiresAt }
  | redact (row : ExportJob) (rest : List ExportJob) :
      Writes (.cleanup (.redacting row rest)) row.id row.status { errorCode := row.errorCode }

/-- Which point has which effect. -/
inductive Causes (s : Shared) (token : Nat) : Point → Effect → Prop
  | nothing (point : Point) : Causes s token point .none
  | claim (job : ClaimedJob) (leaseExpiresAt : Int) :
      Causes s token (.worker (.claiming job leaseExpiresAt)) (.claim job.id ⟨token⟩ leaseExpiresAt)
  | status {point : Point} {id : UUID} {status : JobStatus} {fields : StatusFields}
      (hwrites : Writes point id status fields) :
      Causes s token point (.updateStatus id status fields)
  | count (job : ClaimedJob) (attempt : Nat) :
      Causes s token (.worker (.counting job attempt)) (.incrementAttempts job.id)
  | upload (job : ClaimedJob) (attempt : Nat) :
      Causes s token (.worker (.uploading job attempt)) (.upload ⟨token⟩ ⟨job.id, job.tenantId⟩)
  | purge (job : ClaimedJob) (key : ObjectKey) :
      Causes s token (.worker (.purging job key)) (.delete key)
  | remove (job : ClaimedJob) (attempt : Nat) (prev : ExportJob) (key : ObjectKey) :
      Causes s token (.worker (.removing job attempt prev key)) (.delete key)
  | create (request : Request) (current : Option ExportJob) (cooldownUntil : Int)
      (htenant : s.tenants request.tenantId = true) :
      Causes s token (.request (.creating request current cooldownUntil))
        (.create (newJob ⟨token⟩ request.tenantId request.actorId request.actorRole
          request.begunAt cooldownUntil (current.map (·.id))))
  | discard (jobId : UUID) (key : ObjectKey) :
      Causes s token (.cancel (.discarding jobId key)) (.delete key)
  | cancel (jobId : UUID) : Causes s token (.cancel (.committing jobId)) (.cancelJob jobId)
  | deleteExpired (row : ExportJob) (key : ObjectKey) (rest : List ExportJob) :
      Causes s token (.cleanup (.deletingExpired row key rest)) (.delete key)
  | discardFirst (tenantId jobId : UUID) (key : ObjectKey) :
      Causes s token (.deletion (.cancelling tenantId (.discarding jobId key))) (.delete key)
  | cancelFirst (tenantId jobId : UUID) :
      Causes s token (.deletion (.cancelling tenantId (.committing jobId))) (.cancelJob jobId)
  | deleteKey (tenantId : UUID) (key : ObjectKey) (rest : List ObjectKey) :
      Causes s token (.deletion (.deletingKeys tenantId key rest)) (.delete key)
  | deleteRows (tenantId : UUID) (ids : List UUID) :
      Causes s token (.deletion (.deletingRows tenantId ids)) (.deleteJobs ids)
  | removeTenant (tenantId : UUID) :
      Causes s token (.deletion (.removingTenant tenantId)) (.removeTenant tenantId)

theorem causes_of_effect (h : point.effect s token = effect) : Causes s token point effect := by
  subst h
  cases point with
  | worker p =>
    cases p with
    | claiming job leaseExpiresAt => exact .claim job leaseExpiresAt
    | tenantMissing job attempt => exact .status (.tenantMissing job attempt)
    | uploading job attempt => exact .upload job attempt
    | purging job key => exact .purge job key
    | confirming job attempt key expiresAt cooldownUntil =>
      exact .status (.confirm job attempt key expiresAt cooldownUntil)
    | removing job attempt prev key => exact .remove job attempt prev key
    | clearing job attempt prev => exact .status (.clear job attempt prev)
    | counting job attempt => exact .count job attempt
    | givingUp job => exact .status (.giveUp job)
    | resetting job attempt => exact .status (.reset job attempt)
    | _ => exact .nothing _
  | request p =>
    cases p with
    | creating request current cooldownUntil =>
      dsimp only [Point.effect, RequestPoint.effect]
      split
      · next htenant => exact .create request current cooldownUntil htenant
      · exact .nothing _
    | linking request current jobId => exact .status (.link request current jobId)
    | _ => exact .nothing _
  | cancel p =>
    cases p with
    | discarding jobId key => exact .discard jobId key
    | committing jobId => exact .cancel jobId
    | _ => exact .nothing _
  | status p =>
    cases p with
    | forgetting row => exact .status (.forget row)
    | _ => exact .nothing _
  | cleanup p =>
    cases p with
    | deletingExpired row key rest => exact .deleteExpired row key rest
    | clearingExpired row rest => exact .status (.clearExpired row rest)
    | redacting row rest => exact .status (.redact row rest)
    | _ => exact .nothing _
  | deletion p =>
    cases p with
    | cancelling tenantId cancel =>
      cases cancel with
      | discarding jobId key => exact .discardFirst tenantId jobId key
      | committing jobId => exact .cancelFirst tenantId jobId
      | _ => exact .nothing _
    | deletingKeys tenantId key rest => exact .deleteKey tenantId key rest
    | deletingRows tenantId ids => exact .deleteRows tenantId ids
    | removingTenant tenantId => exact .removeTenant tenantId
    | _ => exact .nothing _

theorem causes_performed (s : Shared) (token : Nat) (answer : Answer) (point : Point) :
    Causes s token point (point.performed s token answer) := by
  rcases performed_cases s token answer point with hnone | ⟨-, heffect⟩
  · rw [hnone]
    exact .nothing point
  · rw [heffect]
    exact causes_of_effect rfl

/-! ## Where the processes stand after a step -/

theorem get_run_self (hpid : w.processes.get pid = some process) :
    (w.run pid process answer token).processes.get pid =
      (process.point.next w.shared token answer).map fun point =>
        { (process.look answer).note
            (w.shared.cancels (process.point.performed w.shared token answer)) with point } := by
  have hmap : (w.processes.map (·.note (w.shared.cancels
      (process.point.performed w.shared token answer)))).get pid = some (process.note
        (w.shared.cancels (process.point.performed w.shared token answer))) := by
    rw [Threads.get_map, hpid]
    rfl
  exact Threads.get_put_self hmap

theorem get_run_of_ne {other : Nat} (hne : other ≠ pid) :
    (w.run pid process answer token).processes.get other = (w.processes.get other).map
      (·.note (w.shared.cancels (process.point.performed w.shared token answer))) := by
  show (Threads.put _ pid _).get other = _
  rw [Threads.get_put_of_ne hne, Threads.get_map]

theorem running_next (hpid : w.processes.get pid = some process)
    (hnext : process.point.next w.shared token answer = some next) :
    ∃ q ∈ (w.run pid process answer token).processes.running, q.point = next := by
  have hself := @get_run_self w token pid answer process hpid
  rw [hnext] at hself
  exact ⟨_, Threads.mem_running_of_get hself, rfl⟩

theorem running_of_ne {other : Nat} {q : Process} (process : Process) (answer : Answer)
    (token : Nat) (hother : w.processes.get other = some q) (hne : other ≠ pid) :
    ∃ q' ∈ (w.run pid process answer token).processes.running, q'.point = q.point := by
  have hget := @get_run_of_ne w token pid answer process other hne
  rw [hother] at hget
  exact ⟨_, Threads.mem_running_of_get hget, rfl⟩

/-! ## Invariants of runs -/

theorem each_of_reaches {ok : World → Action → Prop} {I : Shared → Prop}
    {A : Shared → Point → Prop} {w₀ : World} (h : Reaches step ok w₀ w)
    (hstart : I w₀.shared ∧ ∀ q ∈ w₀.processes.running, A w₀.shared q.point)
    (htick : ∀ {s : Shared} {now : Int}, s.now ≤ now → I s →
      I { s with now } ∧ ∀ point, A s point → A { s with now } point)
    (hspawn : ∀ {w : World} (operation : Operation), ok w (.start operation) → I w.shared →
      A w.shared (operation.point w.shared.now))
    (hrun : ∀ {w : World} {pid : Nat} {process : Process} {answer : Answer} {token : Nat},
      Reaches step ok w₀ w → ok w (.run pid answer token) →
      w.processes.get pid = some process → token ∉ w.shared.drawn → I w.shared →
      (∀ q ∈ w.processes.running, A w.shared q.point) →
      I (w.shared.after process.point answer token) ∧
      (∀ q ∈ w.processes.running, A (w.shared.after process.point answer token) q.point) ∧
      ∀ next, process.point.next w.shared token answer = some next →
        A (w.shared.after process.point answer token) next) :
    I w.shared ∧ ∀ q ∈ w.processes.running, A w.shared q.point := by
  induction h with
  | refl => exact hstart
  | tail hreach hok hstep ih =>
    obtain ⟨hI, hA⟩ := ih
    cases stepped_of_step hstep with
    | tick hle =>
      obtain ⟨hI', hA'⟩ := htick hle hI
      exact ⟨hI', fun q hq => hA' q.point (hA q hq)⟩
    | start operation =>
      have hpoint := hspawn operation hok hI
      exact ⟨hI, Threads.forall_spawn hA hpoint⟩
    | run answer hpid htoken =>
      obtain ⟨hI', hother, hself⟩ := hrun hreach hok hpid htoken hI hA
      refine ⟨hI', Threads.forall_put (Threads.forall_map hother) fun q hq => ?_⟩
      obtain ⟨next, hnext, rfl⟩ := Option.map_eq_some_iff.mp hq
      exact hself next hnext
    | kill hpid => exact ⟨hI, Threads.forall_put hA fun q hq => by cases hq⟩

end Trackpal.Export
