import Trackpal.Export.Known

/-!
# Which artifacts the table still knows

An object is stored before its key is recorded, and a key is cleared after its object was
deleted. A run keeps every object within reach of a later cleanup if no step is taken in which
the two part: an upload that fails after it has stored the object, a worker that is interrupted
before it has recorded the key, a deletion that fails and is passed over, or a key that is
written over another one.

Results:
1. `referenced_run`: a step that keeps uploads and keys keeps every object referenced.
2. `artifacts_referenced`.
-/

namespace Trackpal.Export

open Trackpal.Protocol Trackpal.Foundation

variable {s : Shared} {w : World} {id : UUID} {token pid : Nat} {answer : Answer}
  {point next : Point} {process : Process} {row : ExportJob} {key : ObjectKey}
  {ok : World → Action → Prop} {tenants : UUID → Bool} {now : Int}

/-! ## Conditions on a step -/

/-- What is uploaded is recorded or purged: an upload that fails has stored nothing, and from
the upload on nothing interrupts the worker before its key is recorded or its object deleted. -/
def uploadKept (answer : Answer) : Point → Bool
  | .worker (.uploading _ _) => answer = .returned || !answer.applied
  | .worker (.uploaded _ _ _) => answer = .returned
  | .worker (.purging _ _) | .worker (.confirming _ _ _ _ _) => answer.applied
  | _ => true

def recordsNoKey (s : Shared) (id : UUID) : Bool := (s.jobs.get id).any (·.r2Key = none)

def keyUnchanged (s : Shared) (row : ExportJob) : Bool :=
  (s.jobs.get row.id).all fun job => job.r2Key = none || job.r2Key = row.r2Key

/-- No key is lost: the deletion before a key is cleared does not fail, and a key is written
only where there is none or the one that was read. -/
def keyKept (s : Shared) (answer : Answer) : Point → Bool
  | .worker (.removing _ _ _ _) | .cleanup (.deletingExpired _ _ _) => answer ≠ .storageError false
  | .worker (.confirming job _ _ _ _) => !answer.applied || recordsNoKey s job.id
  | .worker (.clearing _ _ prev) => !answer.applied || keyUnchanged s prev
  | .request (.linking _ current _) => !answer.applied || keyUnchanged s current
  | .status (.forgetting row) | .cleanup (.clearingExpired row _) =>
    !answer.applied || keyUnchanged s row
  | _ => true

/-! ## Keys that are about to be cleared -/

/-- The row and the key of which the process asks whether its object is there, or that it
deletes, before it clears the key. -/
def Point.checks : Point → Option (ExportJob × ObjectKey)
  | .worker (.removing _ _ prev key) => some (prev, key)
  | .status (.probing row key) | .cleanup (.deletingExpired row key _) => some (row, key)
  | _ => none

def Point.clears : Point → Option ExportJob
  | .worker (.clearing _ _ prev) => some prev
  | .status (.forgetting row) | .cleanup (.clearingExpired row _) => some row
  | _ => none

def Point.redacts : Point → List ExportJob
  | .cleanup (.redacting row rest) => row :: rest
  | _ => []

/-- The process clears only keys without an object, and redacts only failed jobs. -/
structure Sound (s : Shared) (point : Point) : Prop where
  checks : ∀ {row key}, point.checks = some (row, key) → row.r2Key = some key
  clears : ∀ {row key}, point.clears = some row → row.r2Key = some key → s.objects key = none
  redacts : ∀ row ∈ point.redacts, row.status = .failed

namespace ArtifactLemmas

theorem checks_worker {p : WorkerPoint}
    (h : (Point.worker (p.next s token answer)).checks = some (row, key)) :
    row.r2Key = some key := by
  revert h
  fun_cases WorkerPoint.next s token answer p
  case case26 job attempt replacedJobId prev hprev key' hkey hreturned =>
    intro h
    cases h
    exact hkey
  all_goals
    intro h
    cases h

theorem applied_of_kept (hkept : answer ≠ .storageError false)
    (hanswer : ∀ applied, answer = .raised applied → False) : answer.applied = true := by
  cases answer with
  | returned => rfl
  | storageError applied =>
    cases applied with
    | true => rfl
    | false => exact absurd rfl hkept
  | raised applied => exact (hanswer applied rfl).elim

theorem redacts_sweep {rows : List ExportJob} (row : ExportJob) :
    row ∉ (Point.cleanup (sweep rows)).redacts := by
  intro h
  cases rows with
  | nil => cases h
  | cons first rest =>
    dsimp only [sweep] at h
    split at h <;> cases h

theorem checks_sweep {rows : List ExportJob}
    (h : (Point.cleanup (sweep rows)).checks = some (row, key)) : row.r2Key = some key := by
  cases rows with
  | nil => cases h
  | cons first rest =>
    dsimp only [sweep] at h
    split at h
    · next key' hkey =>
      cases h
      exact hkey
    · cases h

theorem clears_sweep {rows : List ExportJob}
    (h : (Point.cleanup (sweep rows)).clears = some row) : row.r2Key = none := by
  cases rows with
  | nil => cases h
  | cons first rest =>
    dsimp only [sweep] at h
    split at h
    · cases h
    · next hkey =>
      cases h
      exact hkey

theorem checks_next (h : point.next s token answer = some next)
    (hchecks : next.checks = some (row, key)) : row.r2Key = some key := by
  cases point with
  | worker p =>
    obtain rfl := StepLemmas.worker_next h
    exact checks_worker hchecks
  | request p =>
    obtain ⟨p', -, rfl⟩ := Option.map_eq_some_iff.mp h
    cases hchecks
  | cancel p =>
    obtain ⟨p', -, rfl⟩ := StepLemmas.cancel_next h
    cases hchecks
  | status p =>
    obtain ⟨p', hp', rfl⟩ := Option.map_eq_some_iff.mp h
    cases (StepLemmas.statusMoves_of_next hp').2 with
    | previous => cases hchecks
    | probe job key' hreads hget hready hkey =>
      cases hchecks
      exact hkey
    | forget => cases hchecks
  | cleanup p =>
    obtain ⟨p', hp', rfl⟩ := Option.map_eq_some_iff.mp h
    cases StepLemmas.cleanupMoves_of_next hp' with
    | sweep => exact checks_sweep hchecks
    | clear => exact checks_sweep hchecks
    | delete => cases hchecks
    | select => cases hchecks
    | redact => cases hchecks
  | deletion p =>
    obtain ⟨p', -, rfl⟩ := Option.map_eq_some_iff.mp h
    cases hchecks

theorem clears_worker {p : WorkerPoint}
    (h : (Point.worker (p.next s token answer)).clears = some row) :
    ∃ job attempt key, p = .removing job attempt row key ∧
      ∀ applied, answer = .raised applied → False := by
  revert h
  fun_cases WorkerPoint.next s token answer p
  case case30 job attempt prev key hanswer =>
    intro h
    cases h
    exact ⟨job, attempt, key, rfl, hanswer⟩
  all_goals
    intro h
    cases h

theorem clears_next (h : point.next s token answer = some next)
    (hkept : keyKept s answer point = true) (hclears : next.clears = some row) :
    row.r2Key = none ∨ ∃ key, point.checks = some (row, key) ∧
      (s.after point answer token).objects key = none := by
  cases point with
  | worker p =>
    obtain rfl := StepLemmas.worker_next h
    obtain ⟨job, attempt, key, rfl, hanswer⟩ := clears_worker hclears
    have happlied := applied_of_kept (of_decide_eq_true hkept) hanswer
    refine .inr ⟨key, rfl, ?_⟩
    rw [objects_after, performed_of_applied happlied]
    exact if_pos rfl
  | request p =>
    obtain ⟨p', -, rfl⟩ := Option.map_eq_some_iff.mp h
    cases hclears
  | cancel p =>
    obtain ⟨p', -, rfl⟩ := StepLemmas.cancel_next h
    cases hclears
  | status p =>
    obtain ⟨p', hp', rfl⟩ := Option.map_eq_some_iff.mp h
    cases (StepLemmas.statusMoves_of_next hp').2 with
    | previous => cases hclears
    | probe => cases hclears
    | forget carried key hmissing =>
      cases hclears
      refine .inr ⟨key, rfl, ?_⟩
      rw [objects_after]
      rcases performed_cases s token answer (.status (.probing row key)) with hnone | ⟨-, hnone⟩
      · rw [hnone]
        exact hmissing
      · rw [hnone]
        exact hmissing
  | cleanup p =>
    obtain ⟨p', hp', rfl⟩ := Option.map_eq_some_iff.mp h
    cases StepLemmas.cleanupMoves_of_next hp' with
    | sweep => exact .inl (clears_sweep hclears)
    | clear => exact .inl (clears_sweep hclears)
    | delete carried key rest hanswer =>
      cases hclears
      have happlied := applied_of_kept (of_decide_eq_true hkept) hanswer
      refine .inr ⟨key, rfl, ?_⟩
      rw [objects_after, performed_of_applied happlied]
      exact if_pos rfl
    | select => cases hclears
    | redact => cases hclears
  | deletion p =>
    obtain ⟨p', -, rfl⟩ := Option.map_eq_some_iff.mp h
    cases hclears

theorem redacts_next (h : point.next s token answer = some next) (hrow : row ∈ next.redacts) :
    row ∈ point.redacts ∨ row.status = .failed := by
  cases point with
  | worker p =>
    obtain rfl := StepLemmas.worker_next h
    cases hrow
  | request p =>
    obtain ⟨p', -, rfl⟩ := Option.map_eq_some_iff.mp h
    cases hrow
  | cancel p =>
    obtain ⟨p', -, rfl⟩ := StepLemmas.cancel_next h
    cases hrow
  | status p =>
    obtain ⟨p', -, rfl⟩ := Option.map_eq_some_iff.mp h
    cases hrow
  | cleanup p =>
    obtain ⟨p', hp', rfl⟩ := Option.map_eq_some_iff.mp h
    cases StepLemmas.cleanupMoves_of_next hp' with
    | sweep => exact absurd hrow (redacts_sweep row)
    | clear => exact absurd hrow (redacts_sweep row)
    | delete => cases hrow
    | select first rest hreturned hrows =>
      have hmem : row ∈ staleFailed s.jobs s.now := hrows ▸ hrow
      exact .inr (mem_staleFailed hmem).2
    | redact carried first rest => exact .inl (List.mem_cons_of_mem _ hrow)
  | deletion p =>
    obtain ⟨p', -, rfl⟩ := Option.map_eq_some_iff.mp h
    cases hrow

theorem clears_rows (h : point.clears = some row) : row ∈ point.rows := by
  cases point with
  | worker p =>
    cases p with
    | clearing job attempt prev =>
      cases h
      exact List.mem_cons_self
    | _ => cases h
  | status p =>
    cases p with
    | forgetting carried =>
      cases h
      exact List.mem_cons_self
    | _ => cases h
  | cleanup p =>
    cases p with
    | clearingExpired carried rest =>
      cases h
      exact List.mem_cons_self
    | _ => cases h
  | _ => cases h

theorem missing_after (htoken : token ∉ s.drawn) (hkey : key.token ∈ s.drawn)
    (h : s.objects key = none) : (s.after point answer token).objects key = none := by
  have hcauses := causes_performed s token answer point
  rw [objects_after]
  unfold Effect.onObject
  split
  · next uploaded stored heffect =>
    rw [heffect] at hcauses
    cases hcauses with
    | upload job attempt =>
      have hne : key ≠ ⟨token⟩ := by
        rintro rfl
        exact htoken hkey
      rw [if_neg hne]
      exact h
  · split
    · rfl
    · exact h
  · exact h

theorem sound_next (h : point.next s token answer = some next)
    (hkept : keyKept s answer point = true) (hsound : Sound s point) :
    Sound (s.after point answer token) next where
  checks hchecks := checks_next h hchecks
  clears := by
    intro row key hclears hkey
    rcases clears_next h hkept hclears with hnone | ⟨key', hchecks, hmissing⟩
    · rw [hnone] at hkey
      cases hkey
    · have heq : some key' = some key := (hsound.checks hchecks).symm.trans hkey
      cases heq
      exact hmissing
  redacts row hrow := (redacts_next h hrow).elim (hsound.redacts row) id

theorem sound_other {point' : Point} (htoken : token ∉ s.drawn) (hknown : KnownPoint s point')
    (hsound : Sound s point') : Sound (s.after point answer token) point' where
  checks := hsound.checks
  clears hclears hkey := missing_after htoken ((hknown.row _ (clears_rows hclears)).2 _ hkey)
    (hsound.clears hclears hkey)
  redacts := hsound.redacts

theorem sound_start (operation : Operation) : Sound s (operation.point now) where
  checks h := by cases operation <;> cases h
  clears h _ := by cases operation <;> cases h
  redacts row h := by cases operation <;> cases h

end ArtifactLemmas

open ArtifactLemmas

/-- In a run that loses no key, a key that is about to be cleared has no object. -/
theorem sound_of_reaches (hok : ∀ {w pid answer token process}, ok w (.run pid answer token) →
      w.processes.get pid = some process → keyKept w.shared answer process.point = true)
    (h : Reaches step ok (World.start tenants now) w) :
    ∀ q ∈ w.processes.running, Sound w.shared q.point := by
  refine (each_of_reaches (I := fun _ => True) (A := Sound) h ?_ ?_ ?_ ?_).2
  · refine ⟨trivial, fun q hq => ?_⟩
    rw [start_running] at hq
    cases hq
  · exact fun _ _ => ⟨trivial, fun point hp => ⟨hp.checks, hp.clears, hp.redacts⟩⟩
  · exact fun operation _ _ => sound_start operation
  · intro w pid process answer token hreach hstep hpid htoken _ hp
    refine ⟨trivial, fun q hq => ?_, fun next hnext => ?_⟩
    · exact sound_other htoken ((known_of_reaches hreach).2 q hq) (hp q hq)
    · exact sound_next hnext (hok hstep hpid) (hp process (Threads.mem_running_of_get hpid))

/-! ## Every object is referenced -/

/-- Some worker holds the key, for the job. -/
def Held (w : World) (jobId : UUID) (key : ObjectKey) : Prop :=
  ∃ q ∈ w.processes.running, q.point.holds = some (jobId, key)

def Recorded (s : Shared) (jobId : UUID) (key : ObjectKey) : Prop :=
  ∃ job, s.jobs.get jobId = some job ∧ job.r2Key = some key

/-- The row of its job records the key of every object, or a worker holds it. -/
def Referenced (w : World) : Prop :=
  ∀ key stored, w.shared.objects key = some stored →
    Held w stored.jobId key ∨ Recorded w.shared stored.jobId key

namespace ArtifactLemmas

theorem object_before {stored : StoredExport}
    (h : (s.after point answer token).objects key = some stored) :
    s.objects key = some stored ∧ point.performed s token answer ≠ .delete key ∨
      answer.applied = true ∧ ∃ job attempt, point = .worker (.uploading job attempt) ∧
        key = ⟨token⟩ ∧ stored = ⟨job.id, job.tenantId⟩ := by
  rw [objects_after] at h
  rcases performed_cases s token answer point with
    hnone | ⟨happlied, heffect⟩
  · rw [hnone] at h ⊢
    exact .inl ⟨h, by simp⟩
  · rw [heffect] at h ⊢
    unfold Effect.onObject at h
    split at h
    · next uploaded stored' hupload =>
      split at h
      · next heq =>
        cases h
        have hcauses := causes_of_effect hupload
        cases hcauses with
        | upload job attempt => exact .inr ⟨happlied, job, attempt, rfl, heq, rfl⟩
      · exact .inl ⟨h, by simp [hupload]⟩
    · next deleted hdelete =>
      split at h
      · cases h
      · next hne => exact .inl ⟨h, fun heq => hne (by rw [hdelete] at heq; cases heq; rfl)⟩
    · next hother => exact .inl ⟨h, fun heq => hother key heq⟩

theorem held_after {jobId : UUID} (s : Shared) (token : Nat) (hkept : uploadKept answer point = true)
    (hheld : point.holds = some (jobId, key)) :
    (∃ next, point.next s token answer = some next ∧ next.holds = some (jobId, key)) ∨
      point.performed s token answer = .delete key ∨
      ∃ job attempt expiresAt cooldownUntil,
        point = .worker (.confirming job attempt key expiresAt cooldownUntil) ∧ jobId = job.id ∧
        answer.applied = true := by
  obtain ⟨p, rfl⟩ := StepLemmas.worker_of_holds hheld
  cases p with
  | uploaded job attempt key' =>
    cases hheld
    have hreturned : answer = .returned := of_decide_eq_true hkept
    subst hreturned
    refine .inl ⟨_, rfl, ?_⟩
    cases hcancelled : isCancelled s.jobs job.id with
    | true => simp [WorkerPoint.next, hcancelled, Point.holds, WorkerPoint.holds]
    | false => simp [WorkerPoint.next, hcancelled, Point.holds, WorkerPoint.holds]
  | purging job key' =>
    cases hheld
    exact .inr (.inl (performed_of_applied hkept))
  | confirming job attempt key' expiresAt cooldownUntil =>
    cases hheld
    exact .inr (.inr ⟨job, attempt, expiresAt, cooldownUntil, rfl, rfl, hkept⟩)
  | _ => cases hheld

theorem kept_of_applied {condition : Bool} (happlied : answer.applied = true)
    (hkept : (!answer.applied || condition) = true) : condition = true := by
  rwa [happlied] at hkept

theorem key_of_unchanged {job : ExportJob} (h : keyUnchanged s row = true)
    (hget : s.jobs.get row.id = some job) (hkey : job.r2Key = some key) :
    row.r2Key = some key := by
  simp only [keyUnchanged, hget, hkey, Option.all_some, Bool.or_eq_true, decide_eq_true_eq] at h
  exact (h.resolve_left (Option.some_ne_none key)).symm

theorem recorded_after {job job' : ExportJob} (hsound : Sound s point)
    (hkept : keyKept s answer point = true) (hobject : s.objects key ≠ none)
    (hget : s.jobs.get id = some job) (hkey : job.r2Key = some key)
    (hrewrites : Rewrites s.now id (point.performed s token answer) job job') :
    job'.r2Key = some key := by
  have hcauses := causes_performed s token answer point
  have happlies : point.performed s token answer ≠ .none → answer.applied = true := by
    intro hne
    exact ((performed_cases s token answer point).resolve_left hne).1
  generalize heffect : point.performed s token answer = effect at *
  cases hrewrites with
  | keep => exact hkey
  | claim => exact hkey
  | count => exact hkey
  | cancel =>
    unfold ExportJob.cancel
    split
    · exact hkey
    · exact hkey
  | status _ status fields =>
    rw [withStatus_r2Key]
    split
    · next hready =>
      have happlied := happlies (by simp)
      cases hcauses with
      | status hwrites =>
        cases hwrites with
        | confirm job' attempt key' expiresAt cooldownUntil =>
          have hnone : recordsNoKey s job'.id = true := kept_of_applied happlied hkept
          simp [recordsNoKey, hget, hkey] at hnone
        | clear job' attempt prev =>
          have hrow := key_of_unchanged (kept_of_applied happlied hkept) hget hkey
          exact absurd (hsound.clears rfl hrow) hobject
        | link request current jobId =>
          exact key_of_unchanged (kept_of_applied happlied hkept) hget hkey
        | forget row =>
          have hrow := key_of_unchanged (kept_of_applied happlied hkept) hget hkey
          exact absurd (hsound.clears rfl hrow) hobject
        | clearExpired row rest =>
          have hrow := key_of_unchanged (kept_of_applied happlied hkept) hget hkey
          exact absurd (hsound.clears rfl hrow) hobject
        | redact row rest =>
          have hfailed := hsound.redacts row List.mem_cons_self
          rw [hfailed] at hready
          cases hready
        | tenantMissing => cases hready
        | giveUp => cases hready
        | reset => cases hready
    · exact hkey

theorem recorded_confirming {job : ClaimedJob} {attempt : Nat} {expiresAt cooldownUntil : Int}
    (happlied : answer.applied = true) (hnone : recordsNoKey s job.id = true) :
    Recorded (s.after (.worker (.confirming job attempt key expiresAt cooldownUntil)) answer token)
      job.id key := by
  unfold recordsNoKey at hnone
  obtain ⟨row, hrow, -⟩ := (Option.any_eq_true _ _).mp hnone
  refine ⟨row.withStatus s.now .ready
    { r2Key := some key
      expiresAt := some expiresAt
      clearLease := true
      cooldownUntil := some cooldownUntil }, ?_, rfl⟩
  rw [get_after, performed_of_applied happlied, hrow]
  exact if_pos rfl

theorem held_run {jobId : UUID} (hpid : w.processes.get pid = some process)
    (hupload : uploadKept answer process.point = true)
    (hdeleted : process.point.performed w.shared token answer ≠ .delete key)
    (hheld : Held w jobId key) :
    Held (w.run pid process answer token) jobId key ∨
      ∃ job attempt expiresAt cooldownUntil,
        process.point = .worker (.confirming job attempt key expiresAt cooldownUntil) ∧
        jobId = job.id ∧ answer.applied = true := by
  obtain ⟨q, hq, hholds⟩ := hheld
  obtain ⟨other, hother⟩ := Threads.mem_running.mp hq
  rcases eq_or_ne other pid with rfl | hne
  · cases hpid.symm.trans hother
    rcases held_after w.shared token hupload hholds with
      ⟨next, hnext, hnextHolds⟩ | hdelete | hconfirming
    · obtain ⟨q, hq, rfl⟩ := running_next hother hnext
      exact .inl ⟨q, hq, hnextHolds⟩
    · exact absurd hdelete hdeleted
    · exact .inr hconfirming
  · obtain ⟨q', hq', hpoint⟩ := running_of_ne process answer token hother hne
    exact .inl ⟨q', hq', by rw [hpoint]; exact hholds⟩

theorem held_uploaded {job : ClaimedJob} {attempt : Nat}
    (hpid : w.processes.get pid = some process)
    (hupload : uploadKept answer process.point = true) (happlied : answer.applied = true)
    (hp : process.point = .worker (.uploading job attempt)) :
    Held (w.run pid process answer token) job.id ⟨token⟩ := by
  have hreturned : answer = .returned := by
    rw [hp] at hupload
    simpa [uploadKept, happlied] using hupload
  subst hreturned
  have hnext : process.point.next w.shared token .returned =
      some (.worker (.uploaded job attempt ⟨token⟩)) := by
    rw [hp]
    rfl
  obtain ⟨q, hq, hpoint⟩ := running_next hpid hnext
  refine ⟨q, hq, ?_⟩
  rw [hpoint]
  rfl

theorem referenced_run (hpid : w.processes.get pid = some process)
    (hsound : Sound w.shared process.point) (hupload : uploadKept answer process.point = true)
    (hkey : keyKept w.shared answer process.point = true)
    (hrows : ∀ key stored, w.shared.objects key = some stored →
      Recorded w.shared stored.jobId key →
      (w.shared.after process.point answer token).jobs.get stored.jobId ≠ none ∨
        Held (w.run pid process answer token) stored.jobId key)
    (hw : Referenced w) : Referenced (w.run pid process answer token) := by
  intro key stored hobject
  rcases object_before hobject with ⟨hbefore, hdeleted⟩ | ⟨happlied, job, attempt, hp, rfl, rfl⟩
  · rcases hw key stored hbefore with hheld | ⟨job, hget, hrecords⟩
    · rcases held_run hpid hupload hdeleted hheld with
        hstays | ⟨job, attempt, expiresAt, cooled, hp, hid, happlied⟩
      · exact .inl hstays
      · rw [hp] at hkey
        refine .inr ?_
        show Recorded (w.shared.after process.point answer token) stored.jobId key
        rw [hp, hid]
        exact recorded_confirming happlied (kept_of_applied happlied hkey)
    · rcases hrows key stored hbefore ⟨job, hget, hrecords⟩ with hstays | hheld
      · obtain ⟨job', hget'⟩ := Option.ne_none_iff_exists'.mp hstays
        refine .inr ⟨job', hget', ?_⟩
        rw [get_after, hget] at hget'
        rcases rewrites_of_onRow hget' with ⟨old, hold, hrewrites⟩ | ⟨-, -, hnone⟩
        · cases hold
          have hpresent : w.shared.objects key ≠ none := by
            rw [hbefore]
            exact Option.some_ne_none stored
          exact recorded_after hsound hkey hpresent hget hrecords hrewrites
        · cases hnone
      · exact .inl hheld
  · exact .inl (held_uploaded hpid hupload happlied hp)

end ArtifactLemmas

def Point.isDeletion : Point → Bool
  | .deletion _ => true
  | _ => false

def keepsArtifacts (w : World) : Action → Bool
  | .start (.delete _) => false
  | .run pid answer _ => (w.processes.get pid).all fun process =>
      uploadKept answer process.point && keyKept w.shared answer process.point
  | .kill pid => (w.processes.get pid).all fun process => process.point.holds = none
  | _ => true

/-- Every process has ended, or is a worker without a job. -/
def Quiescent (w : World) : Prop := ∀ q ∈ w.processes.running, q.point = .worker .polling

instance : Decidable (Quiescent w) :=
  inferInstanceAs (Decidable (∀ q ∈ w.processes.running, q.point = .worker .polling))

namespace ArtifactLemmas

theorem isDeletion_next (h : point.next s token answer = some next)
    (hpoint : point.isDeletion = false) : next.isDeletion = false := by
  cases point with
  | worker p =>
    obtain rfl := StepLemmas.worker_next h
    rfl
  | request p =>
    obtain ⟨p', -, rfl⟩ := Option.map_eq_some_iff.mp h
    rfl
  | cancel p =>
    obtain ⟨p', -, rfl⟩ := StepLemmas.cancel_next h
    rfl
  | status p =>
    obtain ⟨p', -, rfl⟩ := Option.map_eq_some_iff.mp h
    rfl
  | cleanup p =>
    obtain ⟨p', -, rfl⟩ := Option.map_eq_some_iff.mp h
    rfl
  | deletion p => cases hpoint

theorem kept_of_run (hkeeps : keepsArtifacts w (.run pid answer token) = true)
    (hpid : w.processes.get pid = some process) :
    uploadKept answer process.point = true ∧ keyKept w.shared answer process.point = true := by
  simpa [keepsArtifacts, hpid] using hkeeps

theorem notDeletion_of_reaches
    (h : Reaches step (fun w a => keepsArtifacts w a = true) (World.start tenants now) w) :
    ∀ q ∈ w.processes.running, q.point.isDeletion = false := by
  refine (each_of_reaches (I := fun _ => True) (A := fun _ point => point.isDeletion = false)
    h ?_ ?_ ?_ ?_).2
  · refine ⟨trivial, fun q hq => ?_⟩
    rw [start_running] at hq
    cases hq
  · exact fun _ _ => ⟨trivial, fun _ hp => hp⟩
  · intro w operation hkeeps _
    cases operation with
    | delete tenantId => cases hkeeps
    | _ => rfl
  · intro w pid process answer token _ _ hpid _ _ hp
    exact ⟨trivial, hp, fun next hnext =>
      isDeletion_next hnext (hp process (Threads.mem_running_of_get hpid))⟩

theorem rows_stay {jobId : UUID} (hpoint : point.isDeletion = false)
    (h : s.jobs.get jobId ≠ none) : (s.after point answer token).jobs.get jobId ≠ none := by
  have hcauses := causes_performed s token answer point
  rw [get_after]
  refine onRow_ne_none h (fun ids heffect => ?_) fun tenantId heffect => ?_
  · rw [heffect] at hcauses
    cases hcauses
    cases hpoint
  · rw [heffect] at hcauses
    cases hcauses
    cases hpoint

theorem held_spawn {jobId : UUID} {p : Process} (h : Held w jobId key) :
    Held { w with processes := w.processes.spawn p } jobId key := by
  obtain ⟨q, hq, hholds⟩ := h
  obtain ⟨other, hother⟩ := Threads.mem_running.mp hq
  exact ⟨q, Threads.mem_running.mpr ⟨other, Threads.get_spawn.mpr (.inl hother)⟩, hholds⟩

theorem held_kill {jobId : UUID} (hpid : w.processes.get pid = some process)
    (hfree : process.point.holds = none) (h : Held w jobId key) :
    Held { w with processes := w.processes.put pid none } jobId key := by
  obtain ⟨q, hq, hholds⟩ := h
  obtain ⟨other, hother⟩ := Threads.mem_running.mp hq
  rcases eq_or_ne other pid with rfl | hne
  · cases hpid.symm.trans hother
    rw [hfree] at hholds
    cases hholds
  · refine ⟨q, Threads.mem_running.mpr ⟨other, ?_⟩, hholds⟩
    exact (Threads.get_put_of_ne hne).trans hother

theorem referenced_step {a : Action} {w' : World}
    (hreach : Reaches step (fun w a => keepsArtifacts w a = true) (World.start tenants now) w)
    (hw : Referenced w) (hkeeps : keepsArtifacts w a = true) (hstep : step w a = some w') :
    Referenced w' := by
  cases stepped_of_step hstep with
  | tick hle => exact hw
  | start operation =>
    intro key stored hobject
    exact (hw key stored hobject).imp_left held_spawn
  | @run pid token process answer hpid htoken =>
    obtain ⟨hupload, hkey⟩ := kept_of_run hkeeps hpid
    have hmem := Threads.mem_running_of_get hpid
    refine referenced_run hpid (sound_of_reaches (fun hkeeps hpid => (kept_of_run hkeeps hpid).2)
      hreach process hmem) hupload hkey ?_ hw
    intro key stored _ ⟨job, hget, _⟩
    refine .inl (rows_stay (notDeletion_of_reaches hreach process hmem) ?_)
    rw [hget]
    exact Option.some_ne_none job
  | kill hpid =>
    intro key stored hobject
    have hfree := of_decide_eq_true (show decide _ = true by simpa [keepsArtifacts, hpid] using hkeeps)
    exact (hw key stored hobject).imp_left (held_kill hpid hfree)

end ArtifactLemmas

/-- In a run that loses no artifact, whatever is stored when the processes are done is recorded
by the row of its job. -/
theorem artifacts_referenced {stored : StoredExport}
    (h : Reaches step (fun w a => keepsArtifacts w a = true) (World.start tenants now) w)
    (hquiet : Quiescent w) (hobject : w.shared.objects key = some stored) :
    Recorded w.shared stored.jobId key := by
  have hreferenced : Referenced w := by
    refine h.invariant_with (J := fun w => Reaches step (fun w a => keepsArtifacts w a = true)
      (World.start tenants now) w) (fun _ hreach => hreach) ?_ ?_
    · intro key stored hobject
      rw [start_objects] at hobject
      cases hobject
    · exact fun w a w' hreach hw hkeeps hstep => referenced_step hreach hw hkeeps hstep
  refine (hreferenced key stored hobject).resolve_left ?_
  rintro ⟨q, hq, hholds⟩
  rw [hquiet q hq] at hholds
  cases hholds

/-! ## A key that is never recorded -/

def exUploaded : List Action :=
  .start (.request ⟨1⟩ ⟨2⟩ "tenant") :: exRuns 0 0 3 ++ .start .worker :: exRuns 1 3 17

def exRecorded : List Action := exUploaded ++ exRuns 1 20 1

def exRetried : List Action := exUploaded ++ .run 1 (.raised false) 20 :: exRuns 1 21 23

/-- The artifact of a job that is done is recorded. -/
theorem artifact_recorded : ∃ w : World, w.shared.objects ⟨18⟩ = some ⟨⟨2⟩, ⟨1⟩⟩ ∧
    Recorded w.shared ⟨2⟩ ⟨18⟩ := by
  have hexec : (execWhere step keepsArtifacts (World.start exTenants 0) exRecorded).any
      (fun w : World => Quiescent w ∧ w.shared.objects ⟨18⟩ = some ⟨⟨2⟩, ⟨1⟩⟩) = true := by
    decide +kernel
  obtain ⟨w, hreach, hw⟩ := exists_of_execWhere hexec
  obtain ⟨hquiet, hobject⟩ := of_decide_eq_true hw
  exact ⟨w, hobject, artifacts_referenced hreach hquiet hobject⟩

def withoutDeletion (_ : World) : Action → Bool
  | .start (.delete _) => false
  | _ => true

/-- A commit that fails after the upload leaves an object that no row records. -/
theorem artifact_orphaned :
    ¬∀ (tenants : UUID → Bool) (now : Int) (w : World) (key : ObjectKey) (stored : StoredExport),
      Reaches step (fun w a => withoutDeletion w a = true) (World.start tenants now) w →
      Quiescent w → w.shared.objects key = some stored →
      ∃ job ∈ w.shared.jobs.rows, job.r2Key = some key := by
  intro hall
  have hexec : (execWhere step withoutDeletion (World.start exTenants 0) exRetried).any
      (fun w : World => Quiescent w ∧ w.shared.objects ⟨18⟩ = some ⟨⟨2⟩, ⟨1⟩⟩ ∧
        ∀ job ∈ w.shared.jobs.rows, job.r2Key ≠ some ⟨18⟩) = true := by
    decide +kernel
  obtain ⟨w, hreach, hw⟩ := exists_of_execWhere hexec
  obtain ⟨hquiet, hobject, hrows⟩ := of_decide_eq_true hw
  obtain ⟨job, hjob, hkey⟩ := hall exTenants 0 w ⟨18⟩ _ hreach hquiet hobject
  exact hrows job hjob hkey

end Trackpal.Export
