import Trackpal.Export.Artifacts

/-!
# A cancelled export stays cancelled

`cancel_job` changes only an active row, but everyone else writes the status by id alone,
after a look that may lie behind a cancellation. A run in which nobody writes the status of
a job that was cancelled since he last looked, nobody writes over a ready job, and no upload
gets lost, keeps what was cancelled.

Results:
1. `cancelled_run`: a step of such a run keeps a cancelled job and what its workers hold.
2. `cancelled_export_stays_cancelled`.
-/

namespace Trackpal.Export

open Trackpal.Protocol Trackpal.Foundation

variable {s : Shared} {w w' : World} {id : UUID} {token pid : Nat} {answer : Answer}
  {point next : Point} {process : Process} {row : ExportJob} {key : ObjectKey} {effect : Effect}
  {tenants : UUID → Bool} {now : Int}

def Effect.written : Effect → Option (UUID × JobStatus)
  | .claim id _ _ => some (id, .processing)
  | .updateStatus id status _ => some (id, status)
  | _ => .none

def readyKept (s : Shared) (id : UUID) (status : JobStatus) : Bool :=
  (s.jobs.get id).all fun job => job.status ≠ .ready || status = .ready

/-- A step that keeps what was cancelled: the status that it writes is not one of a job that was
cancelled since the process last read it, nor of a ready job, and no upload gets lost. -/
def keepsCancelled (w : World) : Action → Bool
  | .run pid answer token => (w.processes.get pid).all fun process =>
      uploadKept answer process.point &&
        (process.point.performed w.shared token answer).written.all fun (id, status) =>
          id ∉ process.missed && readyKept w.shared id status
  | .kill pid => (w.processes.get pid).all fun process => process.point.holds = none
  | _ => true

/-! ## Who may still write a status -/

def WorkerPoint.writer : WorkerPoint → Option ClaimedJob
  | .purging _ _ => none
  | p => p.claimed

def Point.mayWrite (id : UUID) (point : Point) : Prop :=
  (∃ p job, point = .worker p ∧ p.writer = some job ∧ job.id = id) ∨ ∃ row ∈ point.rows, row.id = id

namespace CancellationLemmas

theorem row_of_look (h : isCancelled s.jobs id = false) :
    ∃ row, s.jobs.get id = some row ∧ (row.status ≠ .cancelled ∨ row.r2Key ≠ none) := by
  obtain ⟨row, hrow, hstatus⟩ := isCancelled_eq_false h
  exact ⟨row, hrow, .inl hstatus⟩

theorem writer_worker {p : WorkerPoint} {job : ClaimedJob}
    (h : (p.next s token answer).writer = some job) :
    (p.writer = some job ∧ ¬(answer = .returned ∧ (Point.worker p).reads job.id = true)) ∨
      ∃ row, s.jobs.get job.id = some row ∧ (row.status ≠ .cancelled ∨ row.r2Key ≠ none) := by
  revert h
  fun_cases WorkerPoint.next s token answer p
  case case1 row hrow =>
    intro h
    cases h
    obtain ⟨hget, hpending, -⟩ := claimable_eq_some hrow
    exact .inr ⟨row, hget, .inl (by rw [hpending]; decide)⟩
  case case5 job' attempt hlook =>
    intro h
    cases h
    exact .inr (row_of_look hlook.2)
  case case12 job' attempt work hlook work' hwork hreturned =>
    intro h
    cases h
    exact .inr (row_of_look (Bool.eq_false_of_not_eq_true hlook))
  case case13 job' attempt work hlook hwork hreturned =>
    intro h
    cases h
    exact .inr (row_of_look (Bool.eq_false_of_not_eq_true hlook))
  case case20 job' attempt key hlook hreturned =>
    intro h
    cases h
    exact .inr (row_of_look (Bool.eq_false_of_not_eq_true hlook))
  case case26 job' attempt replacedJobId prev hprev key hkey hreturned =>
    intro h
    cases h
    rcases eq_or_ne replacedJobId job.id with heq | hne
    · refine .inr ⟨prev, heq ▸ hprev, .inr ?_⟩
      rw [hkey]
      exact Option.some_ne_none key
    · exact .inl ⟨rfl, fun hreads => hne (of_decide_eq_true hreads.2)⟩
  case case37 job' attempt seconds hmore hlook =>
    intro h
    cases h
    exact .inr (row_of_look hlook.2)
  case case38 job' attempt seconds hmore hlook =>
    intro h
    cases h
    exact .inr (row_of_look hlook.2)
  -- a step that does not look, or that raises, leaves the worker with what it has missed
  all_goals
    intro h
    first
    | cases h; done
    | exact .inl ⟨h, fun hreads => by cases hreads.2⟩
    | exact .inl ⟨h, fun hreads => absurd hreads.1 (by assumption)⟩

theorem reads_of_rows (h : row ∈ point.rows) : point.reads id = false := by
  cases point with
  | worker p =>
    cases p with
    | removing job attempt prev key => rfl
    | clearing job attempt prev => rfl
    | _ => cases h
  | request p =>
    cases p with
    | creating request current cooldownUntil => rfl
    | linking request current jobId => rfl
    | _ => cases h
  | cancel p => cases h
  | status p =>
    cases p with
    | probing carried key => rfl
    | forgetting carried => rfl
    | _ => cases h
  | cleanup p =>
    cases p with
    | deletingExpired carried key rest => rfl
    | clearingExpired carried rest => rfl
    | redacting carried rest => rfl
    | _ => cases h
  | deletion p => cases h

theorem mayWrite_next (h : point.next s token answer = some next) (hwrites : next.mayWrite id) :
    (point.mayWrite id ∧ ¬(answer = .returned ∧ point.reads id = true)) ∨
      ∃ row, s.jobs.get id = some row ∧ (row.status ≠ .cancelled ∨ row.r2Key ≠ none) := by
  rcases hwrites with ⟨p', job, rfl, hwriter, rfl⟩ | ⟨row, hrow, rfl⟩
  · obtain ⟨p, rfl, rfl⟩ := StepLemmas.next_worker h
    exact (writer_worker hwriter).imp_left fun ⟨hold, hblind⟩ =>
      ⟨.inl ⟨p, job, rfl, hold, rfl⟩, hblind⟩
  · rcases rows_next h hrow with hold | ⟨-, -, hget, hstatus⟩
    · refine .inl ⟨.inr ⟨row, hold, rfl⟩, fun hreads => ?_⟩
      rw [reads_of_rows hold] at hreads
      cases hreads.2
    · refine .inr ⟨row, hget, ?_⟩
      rcases hstatus with hready | hfailed | hkey
      · exact .inl (by rw [hready]; decide)
      · exact .inl (by rw [hfailed]; decide)
      · exact .inr hkey

theorem mayWrite_of_written {status : JobStatus}
    (h : (point.effect s token).written = some (id, status)) : point.mayWrite id := by
  have hcauses := causes_of_effect (rfl : point.effect s token = _)
  generalize point.effect s token = effect at h hcauses
  cases hcauses with
  | claim job leaseExpiresAt =>
    cases h
    exact .inl ⟨_, job, rfl, rfl, rfl⟩
  | status hwrites =>
    cases h
    cases hwrites with
    | confirm job attempt key expiresAt cooldownUntil => exact .inl ⟨_, job, rfl, rfl, rfl⟩
    | clear job attempt prev => exact .inr ⟨prev, List.mem_cons_self, rfl⟩
    | tenantMissing job attempt => exact .inl ⟨_, job, rfl, rfl, rfl⟩
    | giveUp job => exact .inl ⟨_, job, rfl, rfl, rfl⟩
    | reset job attempt => exact .inl ⟨_, job, rfl, rfl, rfl⟩
    | link request current jobId => exact .inr ⟨current, List.mem_cons_self, rfl⟩
    | forget row => exact .inr ⟨row, List.mem_cons_self, rfl⟩
    | clearExpired row rest => exact .inr ⟨row, List.mem_cons_self, rfl⟩
    | redact row rest => exact .inr ⟨row, List.mem_cons_self, rfl⟩
  | _ => cases h

/-! ## Keys, statuses and cancellations in one step -/

theorem unwritten_of_kept (hkeeps : keepsCancelled w (.run pid answer token) = true)
    (hpid : w.processes.get pid = some process) :
    uploadKept answer process.point = true ∧
      ∀ id status, (process.point.performed w.shared token answer).written = some (id, status) →
        id ∉ process.missed ∧ readyKept w.shared id status = true := by
  simp only [keepsCancelled, hpid, Option.all_some, Bool.and_eq_true] at hkeeps
  refine ⟨hkeeps.1, fun id status hwritten => ?_⟩
  have hall := hkeeps.2
  rw [hwritten] at hall
  simpa using hall

def KeysReady (s : Shared) : Prop :=
  ∀ id job, s.jobs.get id = some job → job.r2Key ≠ none → job.status = .ready

def CarriesLive (point : Point) : Prop := ∀ row ∈ point.rows, row.status ≠ .cancelled

theorem readyKept_ready {job : ExportJob} {status : JobStatus}
    (h : readyKept s id status = true) (hget : s.jobs.get id = some job)
    (hstatus : status ≠ .ready) : job.status ≠ .ready := by
  simpa [readyKept, hget, hstatus] using h

theorem key_of_notReady {job : ExportJob} (hkeys : KeysReady s) (hget : s.jobs.get id = some job)
    (hready : job.status ≠ .ready) : job.r2Key = none := by
  by_contra hkey
  exact hready (hkeys id job hget hkey)

theorem keysReady_after (hkeys : KeysReady s)
    (hkept : ∀ id status, (point.performed s token answer).written = some (id, status) →
      readyKept s id status = true) : KeysReady (s.after point answer token) := by
  intro id job' hget hkey
  rw [get_after] at hget
  have hcauses := causes_performed s token answer point
  generalize point.performed s token answer = effect at hget hkept hcauses
  rcases rewrites_of_onRow hget with ⟨job, hrow, hrewrites⟩ | ⟨rfl, -, -⟩
  · cases hrewrites with
    | keep => exact hkeys id _ hrow hkey
    | claim token leaseExpiresAt =>
      have hready := readyKept_ready (hkept id .processing rfl) hrow (by decide)
      exact absurd (key_of_notReady hkeys hrow hready) hkey
    | status _ status fields =>
      rw [withStatus_status]
      by_contra hstatus
      rw [withStatus_r2Key, if_neg hstatus] at hkey
      have hready := readyKept_ready (hkept id status rfl) hrow hstatus
      exact hkey (key_of_notReady hkeys hrow hready)
    | count => exact hkeys id job hrow hkey
    | cancel =>
      unfold ExportJob.cancel at hkey ⊢
      split
      · next hactive =>
        rw [if_pos hactive] at hkey
        have hready := hkeys id job hrow hkey
        rw [hready] at hactive
        cases hactive
      · next hactive =>
        rw [if_neg hactive] at hkey
        exact hkeys id job hrow hkey
  · cases hcauses with
    | create => exact absurd rfl hkey

theorem live_of_fresh (hkeys : KeysReady s) (hget : s.jobs.get id = some row)
    (hstatus : row.status ≠ .cancelled ∨ row.r2Key ≠ none) : row.status ≠ .cancelled := by
  rcases hstatus with hstatus | hkey
  · exact hstatus
  · rw [hkeys id row hget hkey]
    decide

theorem carriesLive_next (hkeys : KeysReady s) (hlive : CarriesLive point)
    (h : point.next s token answer = some next) : CarriesLive next := by
  intro row hrow
  rcases rows_next h hrow with hold | ⟨-, -, hget, hstatus⟩
  · exact hlive row hold
  · rcases hstatus with hready | hfailed | hkey
    · rw [hready]
      decide
    · rw [hfailed]
      decide
    · exact live_of_fresh hkeys hget (.inr hkey)

theorem cancelled_before {job' : ExportJob} (hlive : CarriesLive point)
    (hget : (s.after point answer token).jobs.get id = some job')
    (hcancelled : job'.status = .cancelled) :
    (∃ job, s.jobs.get id = some job ∧ job.status = .cancelled) ∨
      s.cancels (point.performed s token answer) = some id := by
  rw [get_after] at hget
  have hcauses := causes_performed s token answer point
  generalize point.performed s token answer = effect at hget hcauses ⊢
  rcases rewrites_of_onRow hget with ⟨job, hrow, hrewrites⟩ | ⟨rfl, -, -⟩
  · cases hrewrites with
    | keep => exact .inl ⟨_, hrow, hcancelled⟩
    | claim token leaseExpiresAt => cases hcancelled
    | status _ status fields =>
      rw [withStatus_status] at hcancelled
      subst hcancelled
      cases hcauses with
      | status hwrites =>
        generalize hstatus : JobStatus.cancelled = status at hwrites
        cases hwrites with
        | clear job' attempt prev => exact absurd hstatus.symm (hlive prev List.mem_cons_self)
        | link request current jobId =>
          exact absurd hstatus.symm (hlive current List.mem_cons_self)
        | forget row => exact absurd hstatus.symm (hlive row List.mem_cons_self)
        | clearExpired row rest => exact absurd hstatus.symm (hlive row List.mem_cons_self)
        | redact row rest => exact absurd hstatus.symm (hlive row List.mem_cons_self)
        | _ => cases hstatus
    | count => exact .inl ⟨job, hrow, hcancelled⟩
    | cancel =>
      unfold ExportJob.cancel at hcancelled
      split at hcancelled
      · next hactive =>
        refine .inr (if_pos ?_)
        rw [hrow]
        exact hactive
      · exact .inl ⟨job, hrow, hcancelled⟩
  · cases hcauses with
    | create => cases hcancelled

theorem cancelled_after {job job' : ExportJob} (hget : s.jobs.get id = some job)
    (hcancelled : job.status = .cancelled)
    (hunwritten : ∀ status, (point.performed s token answer).written ≠ some (id, status))
    (hget' : (s.after point answer token).jobs.get id = some job') :
    job'.status = .cancelled := by
  rw [get_after] at hget'
  generalize point.performed s token answer = effect at hget' hunwritten
  rcases rewrites_of_onRow hget' with ⟨old, hrow, hrewrites⟩ | ⟨-, -, hnone⟩
  · cases hget.symm.trans hrow
    cases hrewrites with
    | keep => exact hcancelled
    | claim token leaseExpiresAt => exact absurd rfl (hunwritten .processing)
    | status _ status fields => exact absurd rfl (hunwritten status)
    | count => exact hcancelled
    | cancel =>
      unfold ExportJob.cancel
      split
      · rfl
      · exact hcancelled
  · rw [hget] at hnone
    cases hnone

end CancellationLemmas

open CancellationLemmas ArtifactLemmas

/-- In a run that keeps what was cancelled, only a ready row has a key, and no process carries
the row of a cancelled job. -/
theorem keysReady_of_reaches
    (h : Reaches step (fun w a => keepsCancelled w a = true) (World.start tenants now) w) :
    KeysReady w.shared ∧ ∀ q ∈ w.processes.running, CarriesLive q.point := by
  refine each_of_reaches (I := KeysReady) (A := fun _ => CarriesLive) h ?_ ?_ ?_ ?_
  · refine ⟨fun id job hget => ?_, fun q hq => ?_⟩
    · rw [start_get] at hget
      cases hget
    · rw [start_running] at hq
      cases hq
  · exact fun _ hkeys => ⟨hkeys, fun _ hlive => hlive⟩
  · intro w operation _ _ row hrow
    rw [rows_start] at hrow
    cases hrow
  · intro w pid process answer token _ hkeeps hpid _ hkeys hlive
    refine ⟨?_, hlive, fun next hnext => ?_⟩
    · exact keysReady_after hkeys fun id status hwritten =>
        ((unwritten_of_kept hkeeps hpid).2 id status hwritten).2
    · exact carriesLive_next hkeys (hlive process (Threads.mem_running_of_get hpid)) hnext

/-! ## Who has missed a cancellation -/

def Missed (w : World) (id : UUID) : Prop :=
  ∀ q ∈ w.processes.running, q.point.mayWrite id → id ∈ q.missed

namespace CancellationLemmas

theorem missed_run (hpid : w.processes.get pid = some process)
    (h : w.shared.cancels (process.point.performed w.shared token answer) = some id ∨
      Missed w id ∧ ∀ row, w.shared.jobs.get id = some row →
        row.status = .cancelled ∧ row.r2Key = none) :
    Missed (w.run pid process answer token) id := by
  intro q hq hwrites
  obtain ⟨other, hother⟩ := Threads.mem_running.mp hq
  rcases eq_or_ne other pid with rfl | hne
  · rw [get_run_self hpid] at hother
    obtain ⟨next, hnext, rfl⟩ := Option.map_eq_some_iff.mp hother
    show id ∈ Option.toList _ ++ List.filter _ process.missed
    rcases h with hcancels | ⟨hmissed, hgone⟩
    · rw [hcancels]
      exact List.mem_append_left _ List.mem_cons_self
    · rcases mayWrite_next hnext hwrites with ⟨hold, hblind⟩ | ⟨row, hrow, hlive⟩
      · have hmem := hmissed process (Threads.mem_running_of_get hpid) hold
        refine List.mem_append_right _ (List.mem_filter.mpr ⟨hmem, ?_⟩)
        rw [Bool.not_eq_true', Bool.eq_false_iff]
        exact fun hlook => hblind (by simpa using hlook)
      · obtain ⟨hcancelled, hkey⟩ := hgone row hrow
        exact absurd hcancelled (hlive.resolve_right (not_not.mpr hkey))
  · rw [get_run_of_ne hne] at hother
    obtain ⟨old, hold, rfl⟩ := Option.map_eq_some_iff.mp hother
    show id ∈ Option.toList _ ++ old.missed
    rcases h with hcancels | ⟨hmissed, -⟩
    · rw [hcancels]
      exact List.mem_append_left _ List.mem_cons_self
    · exact List.mem_append_right _ (hmissed old (Threads.mem_running_of_get hold) hwrites)

theorem missed_spawn {operation : Operation} (h : Missed w id) :
    Missed { w with processes := w.processes.spawn ⟨operation.point now, []⟩ } id := by
  refine Threads.forall_spawn h fun hwrites => ?_
  rcases hwrites with ⟨p, job, hp, hwriter, -⟩ | ⟨row, hrow, -⟩
  · have hclaimed : (operation.point now).claimed = some job := by
      have hp : operation.point now = .worker p := hp
      rw [hp]
      cases p with
      | purging => cases hwriter
      | _ => exact hwriter
    rw [claimed_start] at hclaimed
    cases hclaimed
  · have hrow : row ∈ (operation.point now).rows := hrow
    rw [rows_start] at hrow
    cases hrow

theorem missed_put {next : Option Process} (h : Missed w id) (hnext : next = none) :
    Missed { w with processes := w.processes.put pid next } id :=
  Threads.forall_put h fun q hq => by
    rw [hnext] at hq
    cases hq

end CancellationLemmas

/-- Whoever may still write the status of a cancelled job has missed its cancellation. -/
theorem missed_of_reaches {job : ExportJob}
    (h : Reaches step (fun w a => keepsCancelled w a = true) (World.start tenants now) w)
    (hget : w.shared.jobs.get id = some job) (hcancelled : job.status = .cancelled) :
    Missed w id := by
  have hall : ∀ id job, w.shared.jobs.get id = some job → job.status = .cancelled →
      Missed w id := by
    refine h.invariant_with (I := fun w => ∀ id job, w.shared.jobs.get id = some job →
      job.status = .cancelled → Missed w id) (fun _ hreach => keysReady_of_reaches hreach) ?_ ?_
    · intro id job hget
      rw [start_get] at hget
      cases hget
    · intro w a w' ⟨hkeys, hlive⟩ hmissed _ hstep id job hget hcancelled
      cases stepped_of_step hstep with
      | tick hle => exact hmissed id job hget hcancelled
      | start operation => exact missed_spawn (hmissed id job hget hcancelled)
      | run answer hpid htoken =>
        refine missed_run hpid ?_
        rcases cancelled_before (hlive _ (Threads.mem_running_of_get hpid)) hget hcancelled with
          ⟨old, hold, hcancelled⟩ | hcancels
        · refine .inr ⟨hmissed id old hold hcancelled, fun row hrow => ?_⟩
          cases hold.symm.trans hrow
          exact ⟨hcancelled, key_of_notReady hkeys hold (by rw [hcancelled]; decide)⟩
        · exact .inl hcancels
      | kill hpid => exact missed_put (hmissed id job hget hcancelled) rfl
  exact hall id job hget hcancelled

/-! ## What is stored for a job -/

def ReadyOrGone (s : Shared) (id : UUID) : Prop :=
  ∀ job, s.jobs.get id = some job → job.status = .ready

/-- A worker holds every object that is stored for the job. -/
def AllHeld (w : World) (id : UUID) : Prop :=
  ∀ key stored, w.shared.objects key = some stored → stored.jobId = id → Held w id key

namespace CancellationLemmas

theorem readyOrGone_after (htoken : token ∉ s.drawn) (hid : id.int ∈ s.drawn)
    (hkept : ∀ status, (point.performed s token answer).written = some (id, status) →
      readyKept s id status = true) (hready : ReadyOrGone s id) :
    ReadyOrGone (s.after point answer token) id := by
  intro job' hget
  obtain ⟨job, hrow, hrewrites⟩ := row_before htoken hid hget
  have hold := hready job hrow
  generalize point.performed s token answer = effect at hkept hrewrites
  cases hrewrites with
  | keep => exact hold
  | claim token leaseExpiresAt =>
    exact absurd hold (readyKept_ready (hkept .processing rfl) hrow (by decide))
  | status _ status fields =>
    rw [withStatus_status]
    by_contra hstatus
    exact readyKept_ready (hkept status rfl) hrow hstatus hold
  | count => exact hold
  | cancel =>
    unfold ExportJob.cancel
    rw [hold]
    exact hold

theorem readyOrGone_confirming {job : ClaimedJob} {attempt : Nat} {expiresAt cooldownUntil : Int}
    (happlied : answer.applied = true)
    (hpoint : point = .worker (.confirming job attempt key expiresAt cooldownUntil)) :
    ReadyOrGone (s.after point answer token) job.id := by
  intro job' hget
  rw [get_after, performed_of_applied happlied, hpoint] at hget
  have hmap := (if_pos rfl).symm.trans hget
  obtain ⟨row, -, rfl⟩ := Option.map_eq_some_iff.mp hmap
  rfl

theorem held_or_ready_run (hpid : w.processes.get pid = some process)
    (hkeeps : keepsCancelled w (.run pid answer token) = true) (htoken : token ∉ w.shared.drawn)
    (hid : id.int ∈ w.shared.drawn) (h : ReadyOrGone w.shared id ∨ AllHeld w id) :
    ReadyOrGone (w.run pid process answer token).shared id ∨
      AllHeld (w.run pid process answer token) id := by
  obtain ⟨hupload, hkept⟩ := unwritten_of_kept hkeeps hpid
  rcases h with hready | hheld
  · exact .inl (readyOrGone_after htoken hid
      (fun status hwritten => (hkept id status hwritten).2) hready)
  by_cases hconfirming : ∃ job attempt key expiresAt cooldownUntil,
      process.point = .worker (.confirming job attempt key expiresAt cooldownUntil) ∧
      id = job.id ∧ answer.applied = true
  · obtain ⟨job, attempt, key, expiresAt, cooldownUntil, hpoint, rfl, happlied⟩ := hconfirming
    exact .inl (readyOrGone_confirming happlied hpoint)
  · refine .inr fun key stored hobject hjob => ?_
    rcases object_before hobject with ⟨hbefore, hdeleted⟩ | ⟨happlied, job, attempt, hp, rfl, rfl⟩
    · rcases held_run hpid hupload hdeleted (hheld key stored hbefore hjob) with
        hstays | ⟨job, attempt, expiresAt, cooled, hp, hid, happlied⟩
      · exact hstays
      · exact absurd ⟨job, attempt, key, expiresAt, cooled, hp, hid, happlied⟩ hconfirming
    · rw [← hjob]
      exact held_uploaded hpid hupload happlied hp

theorem allHeld_spawn {operation : Operation} (h : AllHeld w id) :
    AllHeld { w with processes := w.processes.spawn ⟨operation.point now, []⟩ } id :=
  fun key stored hobject hjob => held_spawn (h key stored hobject hjob)

theorem allHeld_kill (hkeeps : keepsCancelled w (.kill pid) = true)
    (hpid : w.processes.get pid = some process) (h : AllHeld w id) :
    AllHeld { w with processes := w.processes.put pid none } id := by
  have hfree : process.point.holds = none := by simpa [keepsCancelled, hpid] using hkeeps
  exact fun key stored hobject hjob => held_kill hpid hfree (h key stored hobject hjob)

end CancellationLemmas

theorem held_or_ready
    (h : Reaches step (fun w a => keepsCancelled w a = true) (World.start tenants now) w) :
    ReadyOrGone w.shared id ∨ AllHeld w id := by
  have hall : ∀ id : UUID, ReadyOrGone w.shared id ∨ AllHeld w id := by
    refine h.invariant_with (I := fun w => ∀ id, ReadyOrGone w.shared id ∨ AllHeld w id)
      (fun _ hreach => known_of_reaches hreach) ?_ ?_
    · intro id
      refine .inl fun job hget => ?_
      rw [start_get] at hget
      cases hget
    · intro w a w' ⟨hknown, _⟩ hall hkeeps hstep id
      cases stepped_of_step hstep with
      | tick hle => exact hall id
      | start operation => exact (hall id).imp_right allHeld_spawn
      | @run pid token process answer hpid htoken =>
        by_cases hid : id.int ∈ w.shared.drawn
        · exact held_or_ready_run hpid hkeeps htoken hid (hall id)
        · -- nothing is stored for a job that does not exist
          refine .inr fun key stored hobject hjob => ?_
          rcases object_before hobject with ⟨hbefore, -⟩ | ⟨happlied, job, attempt, hp, rfl, rfl⟩
          · exact absurd (hjob ▸ (hknown.object hbefore).2) hid
          · rw [← hjob]
            exact held_uploaded hpid (unwritten_of_kept hkeeps hpid).1 happlied hp
      | kill hpid => exact (hall id).imp_right (allHeld_kill hkeeps hpid)
  exact hall id

/-! ## After a cancellation -/

/-- The job is cancelled or gone for good: its row says so, whoever may write its status has
missed it, and a worker holds whatever is stored for it. -/
structure Cancelled (id : UUID) (w : World) : Prop where
  drawn : id.int ∈ w.shared.drawn
  row : ∀ job, w.shared.jobs.get id = some job → job.status = .cancelled
  missed : Missed w id
  held : AllHeld w id

namespace CancellationLemmas

theorem cancelled_run (hpid : w.processes.get pid = some process)
    (hkeeps : keepsCancelled w (.run pid answer token) = true) (htoken : token ∉ w.shared.drawn)
    (hkeys : KeysReady w.shared) (h : Cancelled id w) :
    Cancelled id (w.run pid process answer token) := by
  obtain ⟨hupload, hkept⟩ := unwritten_of_kept hkeeps hpid
  have hmem := Threads.mem_running_of_get hpid
  -- whoever writes the status of the job has missed its cancellation
  have hunwritten : ∀ status,
      (process.point.performed w.shared token answer).written ≠ some (id, status) := by
    intro status hwritten
    refine (hkept id status hwritten).1 (h.missed process hmem ?_)
    rcases performed_cases w.shared token answer process.point with hnone | ⟨-, heffect⟩
    · rw [hnone] at hwritten
      cases hwritten
    · rw [heffect] at hwritten
      exact mayWrite_of_written hwritten
  refine ⟨List.mem_cons_of_mem _ h.drawn, fun job' hget => ?_, ?_, fun key stored hobject hjob => ?_⟩
  · obtain ⟨job, hrow, -⟩ := row_before htoken h.drawn hget
    exact cancelled_after hrow (h.row job hrow) hunwritten hget
  · refine missed_run hpid (.inr ⟨h.missed, fun row hrow => ⟨h.row row hrow, ?_⟩⟩)
    exact key_of_notReady hkeys hrow (by rw [h.row row hrow]; decide)
  · rcases object_before hobject with ⟨hbefore, hdeleted⟩ | ⟨happlied, job, attempt, hp, rfl, rfl⟩
    · rcases held_run hpid hupload hdeleted (h.held key stored hbefore hjob) with
        hstays | ⟨job, attempt, expiresAt, cooled, hp, hid, happlied⟩
      · exact hstays
      · refine absurd ?_ (hunwritten .ready)
        rw [performed_of_applied happlied, hp, hid]
        rfl
    · rw [← hjob]
      exact held_uploaded hpid hupload happlied hp

theorem cancelled_step {a : Action} (hkeys : KeysReady w.shared) (h : Cancelled id w)
    (hkeeps : keepsCancelled w a = true) (hstep : step w a = some w') : Cancelled id w' := by
  cases stepped_of_step hstep with
  | tick hle => exact ⟨h.drawn, h.row, h.missed, h.held⟩
  | start operation => exact ⟨h.drawn, h.row, missed_spawn h.missed, allHeld_spawn h.held⟩
  | run answer hpid htoken => exact cancelled_run hpid hkeeps htoken hkeys h
  | kill hpid => exact ⟨h.drawn, h.row, missed_put h.missed rfl, allHeld_kill hkeeps hpid h.held⟩

theorem inside_of_holds {jobId : UUID} (h : point.holds = some (jobId, key)) :
    point.inside jobId = true := by
  obtain ⟨p, rfl⟩ := StepLemmas.worker_of_holds h
  cases p with
  | uploaded job attempt key' =>
    cases h
    exact decide_eq_true rfl
  | purging job key' =>
    cases h
    exact decide_eq_true rfl
  | confirming job attempt key' expiresAt cooldownUntil =>
    cases h
    exact decide_eq_true rfl
  | _ => cases h

end CancellationLemmas

/-- In a run that keeps what was cancelled, a cancelled job stays cancelled, is never the one
that is downloaded, and nothing is stored for it once no worker is inside for it. -/
theorem cancelled_export_stays_cancelled {job : ExportJob}
    (h : Reaches step (fun w a => keepsCancelled w a = true) (World.start tenants now) w)
    (hget : w.shared.jobs.get id = some job) (hcancelled : job.status = .cancelled)
    (h' : Reaches step (fun w a => keepsCancelled w a = true) w w') :
    (∀ job', w'.shared.jobs.get id = some job' → job'.status = .cancelled) ∧
      (∀ tenantId now' job', downloadable w'.shared.jobs tenantId now' = some job' → job'.id ≠ id) ∧
      ((∀ q ∈ w'.processes.running, q.point.inside id = false) →
        ∀ key stored, w'.shared.objects key = some stored → stored.jobId ≠ id) := by
  have hdrawn := (known_of_reaches h).1.row hget
  have hstart : Cancelled id w := by
    refine ⟨hdrawn, fun row hrow => ?_, missed_of_reaches h hget hcancelled, ?_⟩
    · cases hget.symm.trans hrow
      exact hcancelled
    · refine (held_or_ready h).resolve_left fun hready => ?_
      rw [hready job hget] at hcancelled
      cases hcancelled
  have hend : Cancelled id w' := by
    refine h'.invariant_with (J := fun w => KeysReady w.shared) (fun _ hreach => ?_) hstart ?_
    · exact (keysReady_of_reaches (h.trans hreach)).1
    · exact fun w a w' hkeys hw hkeeps hstep => cancelled_step hkeys hw hkeeps hstep
  refine ⟨hend.row, fun tenantId now' job' hdownload heq => ?_, fun hfinished key stored hobject
    heq => ?_⟩
  · obtain ⟨hrow, -, hready⟩ := downloadable_eq_some hdownload
    rw [heq] at hrow
    rw [hend.row job' hrow] at hready
    cases hready
  · obtain ⟨q, hq, hholds⟩ := hend.held key stored hobject heq
    have hinside := inside_of_holds hholds
    rw [hfinished q hq] at hinside
    cases hinside

/-! ## A cancellation that is overwritten -/

def exCancelled : List Action :=
  .start (.request ⟨1⟩ ⟨2⟩ "tenant") :: exRuns 0 0 3 ++ .start .worker :: exRuns 1 3 16 ++
    .start (.cancel ⟨1⟩) :: exRuns 2 19 2

def exPurged : List Action := exRuns 1 21 2

def exCancelledLate : List Action := exUploaded ++ .start (.cancel ⟨1⟩) :: exRuns 2 20 2

/-- A job that is cancelled while its artifact is uploaded stays so, and leaves nothing behind. -/
theorem cancelled_export_purged : ∃ w : World,
    (∃ job, w.shared.jobs.get ⟨2⟩ = some job ∧ job.status = .cancelled) ∧
      ∀ key stored, w.shared.objects key = some stored → stored.jobId ≠ ⟨2⟩ := by
  have hexec : (execWhere step keepsCancelled (World.start exTenants 0) exCancelled).any
      (fun w : World => (w.shared.jobs.get ⟨2⟩).any (·.status = .cancelled) ∧
        (execWhere step keepsCancelled w exPurged).any (fun w' : World =>
          (w'.shared.jobs.get ⟨2⟩).isSome ∧
            ∀ q ∈ w'.processes.running, q.point.inside ⟨2⟩ = false)) = true := by
    decide +kernel
  obtain ⟨w, hreach, hw⟩ := exists_of_execWhere hexec
  obtain ⟨hrow, hexec'⟩ := of_decide_eq_true hw
  obtain ⟨job, hget, hcancelled⟩ := (Option.any_eq_true _ _).mp hrow
  obtain ⟨w', hreach', hw'⟩ := exists_of_execWhere hexec'
  obtain ⟨hpresent, hfinished⟩ := of_decide_eq_true hw'
  obtain ⟨job', hget'⟩ := Option.isSome_iff_exists.mp hpresent
  have hstays := cancelled_export_stays_cancelled hreach hget (of_decide_eq_true hcancelled) hreach'
  exact ⟨w', ⟨job', hget', hstays.1 job' hget'⟩, hstays.2.2 hfinished⟩

/-- A cancellation between the last look of the worker and its commit is overwritten. -/
theorem cancelled_export_made_ready :
    ¬∀ (tenants : UUID → Bool) (now : Int) (w w' : World) (id : UUID) (job job' : ExportJob),
      Reaches step Always (World.start tenants now) w →
      w.shared.jobs.get id = some job → job.status = .cancelled → Reaches step Always w w' →
      w'.shared.jobs.get id = some job' → job'.status = .cancelled := by
  intro hall
  have hexec : (execWhere step (fun _ _ => true) (World.start exTenants 0) exCancelledLate).any
      (fun w : World => (w.shared.jobs.get ⟨2⟩).any (·.status = .cancelled) ∧
        (execWhere step (fun _ _ => true) w (exRuns 1 22 1)).any
          (fun w' : World => (w'.shared.jobs.get ⟨2⟩).any (·.status = .ready))) = true := by
    decide +kernel
  obtain ⟨w, hreach, hw⟩ := exists_of_execWhere hexec
  obtain ⟨hrow, hexec'⟩ := of_decide_eq_true hw
  obtain ⟨job, hget, hcancelled⟩ := (Option.any_eq_true _ _).mp hrow
  obtain ⟨w', hreach', hw'⟩ := exists_of_execWhere hexec'
  obtain ⟨job', hget', hready⟩ := (Option.any_eq_true _ _).mp hw'
  have hstays := hall exTenants 0 w w' ⟨2⟩ job job' (hreach.mono fun _ _ _ => trivial) hget
    (of_decide_eq_true hcancelled) (hreach'.mono fun _ _ _ => trivial) hget'
  rw [of_decide_eq_true hready] at hstays
  cases hstays

end Trackpal.Export
