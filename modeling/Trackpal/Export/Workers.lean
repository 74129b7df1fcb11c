import Trackpal.Export.Artifacts

/-!
# One worker for a job

`claim_pending` selects a pending job without a lock and then updates it by primary key, and
a retry puts the job back to `pending` while its worker goes on with it. The row counts the
attempts that have failed, the loop of a worker counts from zero. A run in which every claim
finds its job still pending, with no attempt counted, has one worker for a job and at most
`max_attempts` attempts of it.

Results:
1. `claims_of_reaches`: what such a run keeps about the attempts of a job.
2. `one_worker_per_job`.
-/

namespace Trackpal.Export

open Trackpal.Protocol Trackpal.Foundation ArtifactLemmas

variable {s : Shared} {w w' : World} {id : UUID} {token pid : Nat} {answer : Answer}
  {point next : Point} {process : Process} {row : ExportJob} {p : WorkerPoint}
  {effect : Effect} {tenants : UUID → Bool} {now : Int} {begun : List UUID}

/-- The job is pending, and no attempt of it is counted. -/
def unclaimed (jobs : Jobs) (id : UUID) : Bool :=
  (jobs.get id).all fun job => job.status = .pending && job.attempts = 0

def keepsClaims (w : World) : Action → Bool
  | .run pid answer _ => (w.processes.get pid).all fun process =>
      match process.point with
      | .worker (.claiming job _) => !answer.applied || unclaimed w.shared.jobs job.id
      | _ => true
  | _ => true

/-! ## The attempts of one claim -/

def Counted (s : Shared) (id : UUID) : Prop :=
  ∀ job, s.jobs.get id = some job → 1 ≤ job.attempts

/-- How many attempts were begun when a worker stands there; `none` where it cannot begin
another one. -/
def Progress (s : Shared) (begun : List UUID) : WorkerPoint → Prop
  | .polling | .purging _ _ | .givingUp _ => True
  | .claiming job _ => 0 < job.maxAttempts
  | .checking job attempt => begun.count job.id = attempt ∧ attempt < job.maxAttempts ∧
      (0 < attempt → Counted s job.id)
  | .working job attempt _ | .checkpoint job attempt _ | .tenantMissing job attempt
  | .uploading job attempt | .uploaded job attempt _ | .confirming job attempt _ _ _
  | .superseding job attempt _ | .removing job attempt _ _ | .clearing job attempt _
  | .counting job attempt =>
    begun.count job.id = attempt + 1 ∧ attempt < job.maxAttempts
  | .backingOff job attempt _ | .resetting job attempt =>
    begun.count job.id = attempt + 1 ∧ attempt + 1 < job.maxAttempts ∧ Counted s job.id

/-- What is known about the rows that a process carries and the job that a worker has. -/
structure ClaimsPoint (s : Shared) (begun : List UUID) (point : Point) : Prop where
  row : ∀ row ∈ point.rows, (row.r2Key ≠ none → 1 ≤ begun.count row.id) ∧
    (row.status = .pending → Counted s row.id)
  claimed : ∀ {job row}, point.claimed = some job → s.jobs.get job.id = some row →
    row.maxAttempts = job.maxAttempts
  progress : ∀ {p}, point = .worker p → Progress s begun p

structure Claims (w : World) : Prop where
  drawn : ∀ id ∈ w.begun, id.int ∈ w.shared.drawn
  alone : ∀ {pid pid' q q' id}, w.processes.get pid = some q → w.processes.get pid' = some q' →
    q.point.inside id = true → q'.point.inside id = true → pid = pid'
  bounded : ∀ {id job}, w.shared.jobs.get id = some job → w.begun.count id ≤ job.maxAttempts
  pending : ∀ {id job}, w.shared.jobs.get id = some job → job.status = .pending →
    1 ≤ job.attempts ∨ w.begun.count id = 0 ∧ ∀ q ∈ w.processes.running, q.point.inside id = false
  keyed : ∀ {id job}, w.shared.jobs.get id = some job → job.r2Key ≠ none → 1 ≤ w.begun.count id
  point : ∀ q ∈ w.processes.running, ClaimsPoint w.shared w.begun q.point

namespace WorkerLemmas

theorem attempts_of_rewrites {job job' : ExportJob} (h : Rewrites now id effect job job') :
    job.attempts ≤ job'.attempts ∧ job'.maxAttempts = job.maxAttempts := by
  cases h with
  | keep => exact ⟨Nat.le_refl _, rfl⟩
  | claim => exact ⟨Nat.le_refl _, rfl⟩
  | status => exact ⟨Nat.le_of_eq withStatus_attempts.symm, withStatus_maxAttempts⟩
  | count => exact ⟨Nat.le_succ _, rfl⟩
  | cancel =>
    unfold ExportJob.cancel
    split
    · exact ⟨Nat.le_refl _, rfl⟩
    · exact ⟨Nat.le_refl _, rfl⟩

theorem counted_after (htoken : token ∉ s.drawn) (hid : id.int ∈ s.drawn) (h : Counted s id) :
    Counted (s.after point answer token) id := by
  intro job' hget
  obtain ⟨job, hrow, hrewrites⟩ := row_before htoken hid hget
  exact Nat.le_trans (h job hrow) (attempts_of_rewrites hrewrites).1

theorem counted_incremented {job : ClaimedJob} {attempt : Nat} (hreturned : answer = .returned) :
    Counted (s.after (.worker (.counting job attempt)) answer token) job.id := by
  intro job' hget
  subst hreturned
  rw [get_after, performed_of_applied rfl] at hget
  have hmap := (if_pos rfl).symm.trans hget
  obtain ⟨row, -, rfl⟩ := Option.map_eq_some_iff.mp hmap
  exact Nat.succ_pos _

theorem progress_next (htoken : token ∉ s.drawn) (hknown : KnownPoint s (.worker p))
    (hprogress : Progress s begun p)
    (hclaim : ∀ job leaseExpiresAt, p = .claiming job leaseExpiresAt → answer = .returned →
      s.jobs.get job.id ≠ none → begun.count job.id = 0) :
    Progress (s.after (.worker p) answer token)
      (((Point.worker p).begins s answer).toList ++ begun) (p.next s token answer) := by
  fun_cases WorkerPoint.next s token answer p
  case case1 row hrow =>
    exact Nat.lt_of_le_of_lt (Nat.zero_le _) (claimable_eq_some hrow).2.2
  case case3 job leaseExpiresAt hclaimed =>
    exact ⟨hclaim job leaseExpiresAt rfl hclaimed.1 hclaimed.2, hprogress,
      fun h => absurd h (by decide)⟩
  case case5 job attempt hlook =>
    obtain ⟨hcount, hlt, -⟩ := hprogress
    have hbegins : (Point.worker (.checking job attempt)).begins s answer = some job.id :=
      if_pos hlook
    rw [hbegins]
    refine ⟨?_, hlt⟩
    show (job.id :: begun).count job.id = attempt + 1
    rw [List.count_cons_self, hcount]
  case case35 job attempt hmore hreturned =>
    exact ⟨hprogress.1, Nat.lt_of_not_le hmore, counted_incremented (not_not.mp hreturned)⟩
  case case37 job attempt seconds hmore hlook =>
    obtain ⟨hcount, hlt, hcounted⟩ := hprogress
    exact ⟨hcount, hlt, counted_after htoken (hknown.claimed rfl) hcounted⟩
  case case38 job attempt seconds hmore hlook =>
    obtain ⟨hcount, hlt, hcounted⟩ := hprogress
    exact ⟨hcount, hlt, counted_after htoken (hknown.claimed rfl) hcounted⟩
  case case40 job attempt =>
    obtain ⟨hcount, hlt, hcounted⟩ := hprogress
    exact ⟨hcount, hlt, fun _ => counted_after htoken (hknown.claimed rfl) hcounted⟩
  -- within an attempt nothing is begun, and after the last step there is nothing to know
  all_goals
    first
    | exact hprogress
    | exact trivial

theorem progress_other (htoken : token ∉ s.drawn) (hknown : KnownPoint s (.worker p))
    {begun' : List UUID}
    (hbegun : ∀ job, p.job = some job → begun'.count job.id = begun.count job.id)
    (h : Progress s begun p) : Progress (s.after point answer token) begun' p := by
  have hcounted : ∀ job, p.claimed = some job → Counted s job.id →
      Counted (s.after point answer token) job.id :=
    fun job hclaimed => counted_after htoken (hknown.claimed hclaimed)
  cases p with
  | polling => trivial
  | purging job key => trivial
  | givingUp job => trivial
  | claiming job leaseExpiresAt => exact h
  | checking job attempt =>
    obtain ⟨hcount, hlt, hfirst⟩ := h
    exact ⟨(hbegun job rfl).trans hcount, hlt, fun hpos => hcounted job rfl (hfirst hpos)⟩
  | backingOff job attempt seconds =>
    obtain ⟨hcount, hlt, hold⟩ := h
    exact ⟨(hbegun job rfl).trans hcount, hlt, hcounted job rfl hold⟩
  | resetting job attempt =>
    obtain ⟨hcount, hlt, hold⟩ := h
    exact ⟨(hbegun job rfl).trans hcount, hlt, hcounted job rfl hold⟩
  | _ =>
    obtain ⟨hcount, hlt⟩ := h
    exact ⟨(hbegun _ rfl).trans hcount, hlt⟩

theorem inside_of_begins (h : point.begins s answer = some id) : point.inside id = true := by
  unfold Point.begins at h
  split at h
  · next job attempt =>
    split at h
    · cases h
      exact decide_eq_true rfl
    · cases h
  · cases h

theorem claimed_of_inside (h : point.inside id = true) :
    ∃ job, point.claimed = some job ∧ job.id = id ∧ ∃ p, point = .worker p ∧ p.job = some job := by
  cases point with
  | worker p =>
    obtain ⟨job, hjob, hid⟩ := (Option.any_eq_true _ _).mp h
    refine ⟨job, ?_, of_decide_eq_true hid, p, rfl, hjob⟩
    cases p with
    | polling => cases hjob
    | claiming => cases hjob
    | _ => exact hjob
  | _ => cases h

theorem drawn_of_inside (hknown : KnownPoint s point) (h : point.inside id = true) :
    id.int ∈ s.drawn := by
  obtain ⟨job, hclaimed, rfl, -⟩ := claimed_of_inside h
  exact hknown.claimed hclaimed

theorem count_begun {begins : Option UUID} (h : begins ≠ some id) :
    (begins.toList ++ begun).count id = begun.count id := by
  cases begins with
  | none => rfl
  | some other =>
    have hne : other ≠ id := fun heq => h (congrArg some heq)
    show (other :: begun).count id = begun.count id
    rw [List.count_cons_of_ne hne]

theorem le_count_begun {begins : Option UUID} :
    begun.count id ≤ (begins.toList ++ begun).count id := by
  rw [List.count_append]
  exact Nat.le_add_left _ _

theorem untouched_of_claim {job : ClaimedJob} {leaseExpiresAt : Int} (hw : Claims w)
    (hkeeps : keepsClaims w (.run pid answer token) = true)
    (hpid : w.processes.get pid = some process) (hreturned : answer = .returned)
    (hp : process.point = .worker (.claiming job leaseExpiresAt))
    (hrow : w.shared.jobs.get job.id ≠ none) :
    w.begun.count job.id = 0 ∧ ∀ q ∈ w.processes.running, q.point.inside job.id = false := by
  obtain ⟨row, hget⟩ := Option.ne_none_iff_exists'.mp hrow
  simp only [keepsClaims, hpid, Option.all_some, hp, hreturned, Answer.applied, Bool.not_true,
    Bool.false_or, unclaimed, hget, Bool.and_eq_true, decide_eq_true_eq] at hkeeps
  obtain ⟨hpending, hattempts⟩ := hkeeps
  refine (hw.pending hget hpending).resolve_left fun hcounted => ?_
  rw [hattempts] at hcounted
  cases hcounted

theorem alone_next {other : Nat} {q : Process} (hw : Claims w)
    (hkeeps : keepsClaims w (.run pid answer token) = true)
    (hpid : w.processes.get pid = some process)
    (hnext : process.point.next w.shared token answer = some next)
    (hinside : next.inside id = true) (hother : w.processes.get other = some q)
    (hq : q.point.inside id = true) : other = pid := by
  rcases inside_next hnext hinside with hold | ⟨hreturned, hrow, job, leaseExpiresAt, hp, rfl⟩
  · exact hw.alone hother hpid hq hold
  · have hnone := (untouched_of_claim hw hkeeps hpid hreturned hp hrow).2 q
      (Threads.mem_running_of_get hother)
    rw [hnone] at hq
    cases hq

theorem alone_run {pid' pid'' : Nat} {q q' : Process} (hw : Claims w)
    (hkeeps : keepsClaims w (.run pid answer token) = true)
    (hpid : w.processes.get pid = some process)
    (hq : (w.run pid process answer token).processes.get pid' = some q)
    (hq' : (w.run pid process answer token).processes.get pid'' = some q')
    (hinside : q.point.inside id = true) (hinside' : q'.point.inside id = true) :
    pid' = pid'' := by
  rcases eq_or_ne pid' pid with rfl | hne
  · rcases eq_or_ne pid'' pid' with rfl | hne'
    · rfl
    · rw [get_run_self hpid] at hq
      obtain ⟨next, hnext, rfl⟩ := Option.map_eq_some_iff.mp hq
      rw [get_run_of_ne hne'] at hq'
      obtain ⟨old, hold, rfl⟩ := Option.map_eq_some_iff.mp hq'
      exact (alone_next hw hkeeps hpid hnext hinside hold hinside').symm
  · rw [get_run_of_ne hne] at hq
    obtain ⟨old, hold, rfl⟩ := Option.map_eq_some_iff.mp hq
    rcases eq_or_ne pid'' pid with rfl | hne'
    · rw [get_run_self hpid] at hq'
      obtain ⟨next, hnext, rfl⟩ := Option.map_eq_some_iff.mp hq'
      exact alone_next hw hkeeps hpid hnext hinside' hold hinside
    · rw [get_run_of_ne hne'] at hq'
      obtain ⟨old', hold', rfl⟩ := Option.map_eq_some_iff.mp hq'
      exact hw.alone hold hold' hinside hinside'

theorem untouched_of_fresh (hw : Claims w)
    (hknown : ∀ q ∈ w.processes.running, KnownPoint w.shared q.point)
    (hpid : w.processes.get pid = some process) (hid : id.int ∉ w.shared.drawn) :
    ((process.point.begins w.shared answer).toList ++ w.begun).count id = 0 ∧
      ∀ q ∈ (w.run pid process answer token).processes.running, q.point.inside id = false := by
  have hold : ∀ q ∈ w.processes.running, q.point.inside id = false := by
    intro q hq
    rw [Bool.eq_false_iff]
    exact fun hinside => hid (drawn_of_inside (hknown q hq) hinside)
  refine ⟨?_, fun q hq => ?_⟩
  · rw [count_begun, List.count_eq_zero]
    · exact fun hmem => hid (hw.drawn id hmem)
    · intro hbegins
      have hinside := inside_of_begins hbegins
      rw [hold process (Threads.mem_running_of_get hpid)] at hinside
      cases hinside
  · obtain ⟨pid', hpid'⟩ := Threads.mem_running.mp hq
    rw [Bool.eq_false_iff]
    intro hinside
    rcases eq_or_ne pid' pid with rfl | hne
    · rw [get_run_self hpid] at hpid'
      obtain ⟨next, hnext, rfl⟩ := Option.map_eq_some_iff.mp hpid'
      have hmem := Threads.mem_running_of_get hpid
      rcases inside_next hnext hinside with hbefore | ⟨-, -, job, leaseExpiresAt, hp, rfl⟩
      · rw [hold process hmem] at hbefore
        cases hbefore
      · exact hid ((hknown process hmem).claimed (by rw [hp]; rfl))
    · rw [get_run_of_ne hne] at hpid'
      obtain ⟨old, hget, rfl⟩ := Option.map_eq_some_iff.mp hpid'
      have hbefore := hold old (Threads.mem_running_of_get hget)
      rw [show old.point.inside id = true from hinside] at hbefore
      cases hbefore

theorem bounded_run {job' : ExportJob} (hw : Claims w)
    (hknown : ∀ q ∈ w.processes.running, KnownPoint w.shared q.point)
    (hpid : w.processes.get pid = some process) (htoken : token ∉ w.shared.drawn)
    (hget : (w.shared.after process.point answer token).jobs.get id = some job') :
    ((process.point.begins w.shared answer).toList ++ w.begun).count id ≤ job'.maxAttempts := by
  have hmem := Threads.mem_running_of_get hpid
  by_cases hid : id.int ∈ w.shared.drawn
  · obtain ⟨job, hrow, hrewrites⟩ := row_before htoken hid hget
    rw [(attempts_of_rewrites hrewrites).2]
    by_cases hbegins : process.point.begins w.shared answer = some id
    · -- the attempt that is begun is one of those that the loop may make
      rw [hbegins]
      obtain ⟨claimed, hclaimed, rfl, p, hp, hjob⟩ := claimed_of_inside (inside_of_begins hbegins)
      have hprogress := (hw.point process hmem).progress hp
      have hmax := (hw.point process hmem).claimed hclaimed hrow
      rw [hp] at hbegins
      cases p with
      | checking claimed' attempt =>
        cases hjob
        obtain ⟨hcount, hlt, -⟩ := hprogress
        show (claimed.id :: w.begun).count claimed.id ≤ job.maxAttempts
        rw [List.count_cons_self, hcount, hmax]
        exact hlt
      | _ => cases hbegins
    · rw [count_begun hbegins]
      exact hw.bounded hrow
  · have huntouched : ((process.point.begins w.shared answer).toList ++ w.begun).count id = 0 ∧
        ∀ q ∈ (w.run pid process answer token).processes.running, q.point.inside id = false :=
      untouched_of_fresh hw hknown hpid hid
    rw [huntouched.1]
    exact Nat.zero_le _

theorem counted_of_pending {fields : StatusFields} (hw : ClaimsPoint s begun point)
    (h : Writes point id .pending fields) : Counted s id := by
  generalize hstatus : JobStatus.pending = status at h
  cases h with
  | reset job attempt =>
    obtain ⟨-, -, hcounted⟩ := hw.progress rfl
    exact hcounted
  | clear job attempt prev => exact (hw.row prev List.mem_cons_self).2 hstatus.symm
  | link request current jobId => exact (hw.row current List.mem_cons_self).2 hstatus.symm
  | forget row => exact (hw.row row List.mem_cons_self).2 hstatus.symm
  | clearExpired row rest => exact (hw.row row List.mem_cons_self).2 hstatus.symm
  | redact row rest => exact (hw.row row List.mem_cons_self).2 hstatus.symm
  | _ => cases hstatus

theorem pending_before {job job' : ExportJob} (hw : ClaimsPoint s begun point)
    (hrow : s.jobs.get id = some job)
    (hrewrites : Rewrites s.now id (point.performed s token answer) job job')
    (hpending : job'.status = .pending) (hattempts : ¬1 ≤ job'.attempts) :
    job.status = .pending := by
  have hcauses := causes_performed s token answer point
  generalize point.performed s token answer = effect at hrewrites hcauses
  cases hrewrites with
  | keep => exact hpending
  | claim => cases hpending
  | status _ status fields =>
    rw [withStatus_status] at hpending
    subst hpending
    cases hcauses with
    | status hwrites =>
      rw [withStatus_attempts] at hattempts
      exact absurd (counted_of_pending hw hwrites job hrow) hattempts
  | count => exact hpending
  | cancel =>
    unfold ExportJob.cancel at hpending
    split at hpending
    · cases hpending
    · exact hpending

theorem processing_of_claim {job : ClaimedJob} {leaseExpiresAt : Int} {job' : ExportJob}
    (hreturned : answer = .returned) (hp : point = .worker (.claiming job leaseExpiresAt))
    (hget : (s.after point answer token).jobs.get job.id = some job') :
    job'.status = .processing := by
  subst hreturned hp
  rw [get_after, performed_of_applied rfl] at hget
  have hmap := (if_pos rfl).symm.trans hget
  obtain ⟨row, -, rfl⟩ := Option.map_eq_some_iff.mp hmap
  rfl

theorem pending_run {job' : ExportJob} (hw : Claims w)
    (hknown : ∀ q ∈ w.processes.running, KnownPoint w.shared q.point)
    (hpid : w.processes.get pid = some process) (htoken : token ∉ w.shared.drawn)
    (hget : (w.shared.after process.point answer token).jobs.get id = some job')
    (hpending : job'.status = .pending) :
    1 ≤ job'.attempts ∨
      ((process.point.begins w.shared answer).toList ++ w.begun).count id = 0 ∧
        ∀ q ∈ (w.run pid process answer token).processes.running, q.point.inside id = false := by
  by_cases hattempts : 1 ≤ job'.attempts
  · exact .inl hattempts
  refine .inr ?_
  have hmem := Threads.mem_running_of_get hpid
  by_cases hid : id.int ∈ w.shared.drawn
  · obtain ⟨job, hrow, hrewrites⟩ := row_before htoken hid hget
    have hbefore := pending_before (hw.point process hmem) hrow hrewrites hpending hattempts
    have hle := (attempts_of_rewrites hrewrites).1
    obtain ⟨hcount, hnone⟩ := (hw.pending hrow hbefore).resolve_left fun hpos =>
      hattempts (Nat.le_trans hpos hle)
    refine ⟨?_, fun q hq => ?_⟩
    · rw [count_begun, hcount]
      intro hbegins
      have hinside := inside_of_begins hbegins
      rw [hnone process hmem] at hinside
      cases hinside
    · obtain ⟨pid', hpid'⟩ := Threads.mem_running.mp hq
      rw [Bool.eq_false_iff]
      intro hinside
      rcases eq_or_ne pid' pid with rfl | hne
      · rw [get_run_self hpid] at hpid'
        obtain ⟨next, hnext, rfl⟩ := Option.map_eq_some_iff.mp hpid'
        rcases inside_next hnext hinside with hold | ⟨hreturned, -, job, leaseExpiresAt, hp, rfl⟩
        · rw [hnone process hmem] at hold
          cases hold
        · rw [processing_of_claim hreturned hp hget] at hpending
          cases hpending
      · rw [get_run_of_ne hne] at hpid'
        obtain ⟨old, hold, rfl⟩ := Option.map_eq_some_iff.mp hpid'
        have hbefore := hnone old (Threads.mem_running_of_get hold)
        rw [show old.point.inside id = true from hinside] at hbefore
        cases hbefore
  · exact untouched_of_fresh hw hknown hpid hid

theorem keyed_run {job' : ExportJob} (hw : Claims w)
    (hpid : w.processes.get pid = some process)
    (hget : (w.shared.after process.point answer token).jobs.get id = some job')
    (hkey : job'.r2Key ≠ none) :
    1 ≤ ((process.point.begins w.shared answer).toList ++ w.begun).count id := by
  refine Nat.le_trans ?_ le_count_begun
  have hpoint := hw.point process (Threads.mem_running_of_get hpid)
  obtain ⟨key, hkey⟩ := Option.ne_none_iff_exists'.mp hkey
  have hcauses := causes_performed w.shared token answer process.point
  rw [get_after] at hget
  rcases rewrites_of_onRow hget with ⟨job, hrow, hrewrites⟩ | ⟨hcreate, -, -⟩
  · rcases KnownLemmas.r2Key_of_rewrites hrewrites hkey with
      hold | ⟨status, fields, heffect, hfields⟩
    · exact hw.keyed hrow (by rw [hold]; exact Option.some_ne_none key)
    · rw [heffect] at hcauses
      generalize hp : process.point = point at hcauses hpoint
      cases hcauses with
      | status hwrites =>
        cases hwrites with
        | confirm job attempt key' expiresAt cooldownUntil =>
          rw [(hpoint.progress rfl).1]
          exact Nat.succ_pos _
        | link request current jobId =>
          refine (hpoint.row current List.mem_cons_self).1 ?_
          rw [show current.r2Key = some key from hfields]
          exact Option.some_ne_none key
        | _ => cases hfields
  · rw [hcreate] at hcauses
    generalize process.point = point at hcauses
    cases hcauses
    cases hkey

theorem drawn_run (hw : Claims w)
    (hknown : ∀ q ∈ w.processes.running, KnownPoint w.shared q.point)
    (hpid : w.processes.get pid = some process) :
    ∀ id ∈ (w.run pid process answer token).begun,
      id.int ∈ (w.run pid process answer token).shared.drawn := by
  intro id hid
  refine List.mem_cons_of_mem _ ?_
  rcases List.mem_append.mp hid with hnew | hold
  · have hinside := inside_of_begins (Option.mem_toList.mp hnew)
    exact drawn_of_inside (hknown process (Threads.mem_running_of_get hpid)) hinside
  · exact hw.drawn id hold

/-! ## Where the processes stand after a step -/

theorem row_kept (htoken : token ∉ s.drawn) (hknown : KnownPoint s point) (begins : Option UUID)
    {moved : Point} (hrow : row ∈ point.rows) (h : ClaimsPoint s begun point) :
    (row.r2Key ≠ none → 1 ≤ (begins.toList ++ begun).count row.id) ∧
      (row.status = .pending → Counted (s.after moved answer token) row.id) :=
  ⟨fun hkey => Nat.le_trans ((h.row row hrow).1 hkey) le_count_begun,
    fun hpending => counted_after htoken (hknown.row row hrow).1 ((h.row row hrow).2 hpending)⟩

theorem maxAttempts_kept (htoken : token ∉ s.drawn) {job : ClaimedJob} {row' : ExportJob}
    (hid : job.id.int ∈ s.drawn)
    (h : ∀ row, s.jobs.get job.id = some row → row.maxAttempts = job.maxAttempts)
    (hget : (s.after point answer token).jobs.get job.id = some row') :
    row'.maxAttempts = job.maxAttempts := by
  obtain ⟨row, hrow, hrewrites⟩ := row_before htoken hid hget
  exact (attempts_of_rewrites hrewrites).2.trans (h row hrow)

theorem claimsPoint_other {other : Nat} {q : Process} (hw : Claims w)
    (hknown : ∀ q ∈ w.processes.running, KnownPoint w.shared q.point)
    (hpid : w.processes.get pid = some process) (htoken : token ∉ w.shared.drawn)
    (hother : w.processes.get other = some q) (hne : other ≠ pid) :
    ClaimsPoint (w.run pid process answer token).shared (w.run pid process answer token).begun
      q.point := by
  have hmem := Threads.mem_running_of_get hother
  have hold := hw.point q hmem
  refine ⟨fun row hrow => row_kept htoken (hknown q hmem) _ hrow hold,
    fun {job row'} hclaimed hget => ?_, fun {p} hp => ?_⟩
  · exact maxAttempts_kept htoken ((hknown q hmem).claimed hclaimed)
      (fun row hrow => hold.claimed hclaimed hrow) hget
  · refine progress_other htoken (hp ▸ hknown q hmem) (fun job hjob => ?_) (hold.progress hp)
    refine count_begun fun hbegins => ?_
    have hinside : q.point.inside job.id = true := by
      rw [hp]
      show p.job.any (·.id = job.id) = true
      rw [hjob]
      exact decide_eq_true rfl
    exact hne (hw.alone hother hpid hinside (inside_of_begins hbegins))

theorem counted_of_fresh (hw : Claims w) (hfresh : Fresh w.shared answer point row)
    (hpending : row.status = .pending) : Counted w.shared row.id := by
  obtain ⟨-, -, hget, hkinds⟩ := hfresh
  rw [hpending] at hkinds
  have hkey : row.r2Key ≠ none := by
    rcases hkinds with hready | hfailed | hkey
    · cases hready
    · cases hfailed
    · exact hkey
  intro job hjob
  cases hget.symm.trans hjob
  refine (hw.pending hget hpending).resolve_right fun ⟨hcount, _⟩ => ?_
  have hpos := hw.keyed hget hkey
  rw [hcount] at hpos
  cases hpos

theorem claimsPoint_next (hw : Claims w)
    (hknown : ∀ q ∈ w.processes.running, KnownPoint w.shared q.point)
    (hkeeps : keepsClaims w (.run pid answer token) = true)
    (hpid : w.processes.get pid = some process) (htoken : token ∉ w.shared.drawn)
    (hnext : process.point.next w.shared token answer = some next) (hs : KnownShared w.shared) :
    ClaimsPoint (w.run pid process answer token).shared (w.run pid process answer token).begun
      next := by
  have hmem := Threads.mem_running_of_get hpid
  have hold := hw.point process hmem
  refine ⟨fun row hrow => ?_, fun {job row'} hclaimed hget => ?_, fun {p'} hp' => ?_⟩
  · rcases rows_next hnext hrow with hcarried | hfresh
    · exact row_kept htoken (hknown process hmem) _ hcarried hold
    · have hget := hfresh.2.2.1
      refine ⟨fun hkey => Nat.le_trans (hw.keyed hget hkey) le_count_begun, fun hpending => ?_⟩
      exact counted_after htoken (hs.row hget) (counted_of_fresh hw hfresh hpending)
  · rcases claimed_next hnext hclaimed with hcarried | ⟨-, -, row, hrow, rfl⟩
    · exact maxAttempts_kept htoken ((hknown process hmem).claimed hcarried)
        (fun row hrow => hold.claimed hcarried hrow) hget
    · refine maxAttempts_kept htoken (hs.row (claimable_eq_some hrow).1) (fun row' hrow' => ?_) hget
      cases (claimable_eq_some hrow).1.symm.trans hrow'
      rfl
  · rw [hp'] at hnext
    obtain ⟨p, hp, rfl⟩ := StepLemmas.next_worker hnext
    show Progress (w.shared.after process.point answer token)
      ((process.point.begins w.shared answer).toList ++ w.begun) (p.next w.shared token answer)
    have hprogress := hold.progress hp
    have hpoint := hknown process hmem
    rw [hp] at hpoint ⊢
    refine progress_next htoken hpoint hprogress fun job leaseExpiresAt hclaiming hreturned hrow =>
      ?_
    rw [hclaiming] at hp
    exact (untouched_of_claim hw hkeeps hpid hreturned hp hrow).1

theorem claims_run (hw : Claims w) (hs : KnownShared w.shared)
    (hknown : ∀ q ∈ w.processes.running, KnownPoint w.shared q.point)
    (hkeeps : keepsClaims w (.run pid answer token) = true)
    (hpid : w.processes.get pid = some process) (htoken : token ∉ w.shared.drawn) :
    Claims (w.run pid process answer token) where
  drawn := drawn_run hw hknown hpid
  alone hq hq' hinside hinside' := alone_run hw hkeeps hpid hq hq' hinside hinside'
  bounded hget := bounded_run hw hknown hpid htoken hget
  pending hget hpending := pending_run hw hknown hpid htoken hget hpending
  keyed hget hkey := keyed_run hw hpid hget hkey
  point q hq := by
    obtain ⟨other, hother⟩ := Threads.mem_running.mp hq
    rcases eq_or_ne other pid with rfl | hne
    · rw [get_run_self hpid] at hother
      obtain ⟨next, hnext, rfl⟩ := Option.map_eq_some_iff.mp hother
      exact claimsPoint_next hw hknown hkeeps hpid htoken hnext hs
    · rw [get_run_of_ne hne] at hother
      obtain ⟨old, hold, rfl⟩ := Option.map_eq_some_iff.mp hother
      show ClaimsPoint (w.run pid process answer token).shared
        (w.run pid process answer token).begun old.point
      exact claimsPoint_other hw hknown hpid htoken hold hne

/-! ## The other steps -/

theorem inside_start {operation : Operation} : (operation.point now).inside id = false := by
  cases operation <;> rfl

theorem claimsPoint_start {operation : Operation} : ClaimsPoint s begun (operation.point now) := by
  refine ⟨fun row hrow => ?_, fun hclaimed => ?_, fun {p} hp => ?_⟩
  · rw [rows_start] at hrow
    cases hrow
  · rw [claimed_start] at hclaimed
    cases hclaimed
  · cases operation with
    | worker =>
      cases hp
      trivial
    | _ => cases hp

theorem claims_spawn {operation : Operation} (hw : Claims w) :
    Claims { w with processes := w.processes.spawn ⟨operation.point w.shared.now, []⟩ } where
  drawn := hw.drawn
  alone hq hq' hinside hinside' := by
    rcases Threads.get_spawn.mp hq with hold | ⟨-, rfl⟩
    · rcases Threads.get_spawn.mp hq' with hold' | ⟨-, rfl⟩
      · exact hw.alone hold hold' hinside hinside'
      · rw [inside_start] at hinside'
        cases hinside'
    · rw [inside_start] at hinside
      cases hinside
  bounded := hw.bounded
  pending hget hpending := (hw.pending hget hpending).imp_right fun ⟨hcount, hnone⟩ =>
    ⟨hcount, Threads.forall_spawn hnone inside_start⟩
  keyed := hw.keyed
  point := Threads.forall_spawn hw.point claimsPoint_start

theorem claims_kill (hw : Claims w) (hpid : w.processes.get pid = some process) :
    Claims { w with processes := w.processes.put pid none } where
  drawn := hw.drawn
  alone {other other' q q' id} hq hq' hinside hinside' := by
    have hrunning : ∀ {other : Nat} {q : Process},
        (w.processes.put pid none).get other = some q → w.processes.get other = some q := by
      intro other q hget
      rcases eq_or_ne other pid with rfl | hne
      · rw [Threads.get_put_self hpid] at hget
        cases hget
      · rwa [Threads.get_put_of_ne hne] at hget
    exact hw.alone (hrunning hq) (hrunning hq') hinside hinside'
  bounded := hw.bounded
  pending hget hpending := (hw.pending hget hpending).imp_right fun ⟨hcount, hnone⟩ =>
    ⟨hcount, Threads.forall_put hnone fun q hq => by cases hq⟩
  keyed := hw.keyed
  point := Threads.forall_put hw.point fun q hq => by cases hq

theorem claims_start : Claims (World.start tenants now) where
  drawn id hid := by cases hid
  alone hq := by cases hq
  bounded hget := by cases hget
  pending hget := by cases hget
  keyed hget := by cases hget
  point q hq := by
    rw [start_running] at hq
    cases hq

end WorkerLemmas

open WorkerLemmas

theorem claims_of_reaches
    (h : Reaches step (fun w a => keepsClaims w a = true) (World.start tenants now) w) :
    Claims w := by
  refine h.invariant_with (fun _ hreach => known_of_reaches hreach) claims_start ?_
  intro w a w' ⟨hs, hknown⟩ hw hkeeps hstep
  cases stepped_of_step hstep with
  | tick hle =>
    refine ⟨hw.drawn, hw.alone, hw.bounded, hw.pending, hw.keyed, fun q hq => ?_⟩
    have hpoint := hw.point q hq
    exact ⟨hpoint.row, hpoint.claimed, fun hp => hpoint.progress hp⟩
  | start operation => exact claims_spawn hw
  | run answer hpid htoken => exact claims_run hw hs hknown hkeeps hpid htoken
  | kill hpid => exact claims_kill hw hpid

def Within (id : UUID) (maxAttempts : Nat) (w : World) : Prop :=
  id.int ∈ w.shared.drawn ∧ w.begun.count id ≤ maxAttempts ∧
    ∀ job, w.shared.jobs.get id = some job → job.maxAttempts = maxAttempts

namespace WorkerLemmas

theorem row_of_begins (h : point.begins s answer = some id) :
    ∃ job, (s.after point answer token).jobs.get id = some job := by
  have hrow : ∃ job, s.jobs.get id = some job := by
    unfold Point.begins at h
    split at h
    · split at h
      · next hlook =>
        cases h
        obtain ⟨job, hrow, -⟩ := isCancelled_eq_false hlook.2
        exact ⟨job, hrow⟩
      · cases h
    · cases h
  have heffect : point.performed s token answer = .none := by
    obtain ⟨_, _, _, p, rfl, hjob⟩ := claimed_of_inside (inside_of_begins h)
    cases p with
    | checking job attempt => exact ite_self _
    | _ => cases h
  rw [get_after, heffect]
  exact hrow

theorem within_step {maxAttempts : Nat} {a : Action} (hw : Claims w')
    (h : Within id maxAttempts w) (hstep : step w a = some w') : Within id maxAttempts w' := by
  obtain ⟨hid, hcount, hmax⟩ := h
  cases stepped_of_step hstep with
  | tick hle => exact ⟨hid, hcount, hmax⟩
  | start operation => exact ⟨hid, hcount, hmax⟩
  | @run pid token process answer hpid htoken =>
    have hmax' : ∀ job', (w.shared.after process.point answer token).jobs.get id = some job' →
        job'.maxAttempts = maxAttempts := by
      intro job' hget
      obtain ⟨job, hrow, hrewrites⟩ := row_before htoken hid hget
      exact (attempts_of_rewrites hrewrites).2.trans (hmax job hrow)
    refine ⟨List.mem_cons_of_mem _ hid, ?_, hmax'⟩
    by_cases hbegins : process.point.begins w.shared answer = some id
    · obtain ⟨job', hget⟩ : ∃ job', (w.shared.after process.point answer token).jobs.get id =
          some job' := row_of_begins hbegins
      rw [← hmax' job' hget]
      exact hw.bounded hget
    · show ((process.point.begins w.shared answer).toList ++ w.begun).count id ≤ maxAttempts
      rw [count_begun hbegins]
      exact hcount
  | kill hpid => exact ⟨hid, hcount, hmax⟩

end WorkerLemmas

/-- In a run whose claims find their jobs unclaimed, no two workers are inside for one job, and
no more attempts of a job are ever begun than it may have. -/
theorem one_worker_per_job
    (h : Reaches step (fun w a => keepsClaims w a = true) (World.start tenants now) w) :
    (∀ pid pid' q q' id, w.processes.get pid = some q → w.processes.get pid' = some q' →
      q.point.inside id = true → q'.point.inside id = true → pid = pid') ∧
      ∀ id job w', w.shared.jobs.get id = some job →
        Reaches step (fun w a => keepsClaims w a = true) w w' →
        w'.begun.count id ≤ job.maxAttempts := by
  have hw := claims_of_reaches h
  refine ⟨fun pid pid' q q' id => hw.alone, fun id job w' hget h' => ?_⟩
  have hwithin : Within id job.maxAttempts w' := by
    refine h'.invariant_with (J := fun w' => Reaches step (fun w a => keepsClaims w a = true) w w')
      (fun _ hreach => hreach) ?_ ?_
    · refine ⟨(known_of_reaches h).1.row hget, hw.bounded hget, fun row hrow => ?_⟩
      cases hget.symm.trans hrow
      rfl
    · intro w₁ a w₂ hreach hwithin hkeeps hstep
      exact within_step (claims_of_reaches (h.trans (.tail hreach hkeeps hstep))) hwithin hstep
  exact hwithin.2.1

/-! ## Two workers for one job -/

def exBegun : List Action :=
  .start (.request ⟨1⟩ ⟨2⟩ "tenant") :: exRuns 0 0 3 ++ .start .worker :: exRuns 1 3 3

def exBothClaimed : List Action :=
  .start (.request ⟨1⟩ ⟨2⟩ "tenant") :: exRuns 0 0 3 ++
    [Action.start .worker, .start .worker, .run 1 .returned 3, .run 2 .returned 4,
      .run 1 .returned 5, .run 2 .returned 6]

/-- A claimed job has its worker, and an attempt of it was begun. -/
theorem claimed_job_has_worker : ∃ w : World, w.begun = [⟨2⟩] ∧
    (∀ pid pid' q q' id, w.processes.get pid = some q → w.processes.get pid' = some q' →
      q.point.inside id = true → q'.point.inside id = true → pid = pid') ∧
      ∀ id job w', w.shared.jobs.get id = some job →
        Reaches step (fun w a => keepsClaims w a = true) w w' →
        w'.begun.count id ≤ job.maxAttempts := by
  have hexec : (execWhere step keepsClaims (World.start exTenants 0) exBegun).any
      (fun w : World => w.begun = [⟨2⟩]) = true := by
    decide +kernel
  obtain ⟨w, hreach, hw⟩ := exists_of_execWhere hexec
  exact ⟨w, of_decide_eq_true hw, one_worker_per_job hreach⟩

/-- Two claims of one job both succeed, and two workers are inside for it. -/
theorem two_workers_for_one_job :
    ¬∀ (tenants : UUID → Bool) (now : Int) (w : World),
      Reaches step Always (World.start tenants now) w →
      (∀ pid pid' q q' id, w.processes.get pid = some q → w.processes.get pid' = some q' →
        q.point.inside id = true → q'.point.inside id = true → pid = pid') ∧
        ∀ id job w', w.shared.jobs.get id = some job → Reaches step Always w w' →
          w'.begun.count id ≤ job.maxAttempts := by
  intro hall
  have hexec : (execWhere step (fun _ _ => true) (World.start exTenants 0) exBothClaimed).any
      (fun w : World => (w.processes.get 1).any (·.point.inside ⟨2⟩) ∧
        (w.processes.get 2).any (·.point.inside ⟨2⟩)) = true := by
    decide +kernel
  obtain ⟨w, hreach, hw⟩ := exists_of_execWhere hexec
  obtain ⟨hfirst, hsecond⟩ := of_decide_eq_true hw
  obtain ⟨q, hq, hinside⟩ := (Option.any_eq_true _ _).mp hfirst
  obtain ⟨q', hq', hinside'⟩ := (Option.any_eq_true _ _).mp hsecond
  have halone := (hall exTenants 0 w (hreach.mono fun _ _ _ => trivial)).1
  cases halone 1 2 q q' ⟨2⟩ hq hq' hinside hinside'

end Trackpal.Export
