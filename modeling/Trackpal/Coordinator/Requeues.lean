import Trackpal.Coordinator.HandoffAgreement
import Trackpal.Coordinator.WakeUps

/-!
# Jobs between two attempts

A pump takes a job out of the queue before it dispatches it, and most branches of
`_dispatch` put it back; the others hand it over or end it. `complete` puts a job
back after its commit. As long as one of these is still to come, the job relies on
the process that is about to do it. A failure of that process outside of the
handlers of the build and of the handoff loses the job, as does a dispatch lock that
somebody else has left behind.

The second part is about the pumps. `complete` enqueues a retry without starting a
pump: it is popped again only if a pump of the process happens to be there.
-/

namespace Trackpal.Coordinator

open Trackpal.Protocol Trackpal.Foundation Trackpal.Store LockingLemmas

/-! ## One job -/

def Process.dispatches : Process → Bool
  | .popped | .dispatching | .selecting _ | .reserving _ _ | .building _ _ | .inFlight _ _
  | .answered _ _ _ => true
  | .running (.dispatch _) _ _ | .running .dispatcher _ _ => true
  | _ => false

def Process.putsBack : Process → Bool
  | .running (.callback _) _ effects =>
    .requeue ∈ effects ∧ effects.all fun effect => !effect.isCommit
  | _ => false

def Effect.settlesJob : Effect → Bool
  | .enqueue => true
  | .commit _ flushed => flushed = [.processing]
  | _ => false

def Process.keepsJob : Process → Bool
  | .popped | .dispatching | .selecting _ | .reserving _ _ | .building _ _ | .inFlight _ _
  | .answered _ _ _ => true
  | .running (.dispatch _) _ effects | .running .dispatcher _ effects =>
    effects.any Effect.settlesJob
  | process => process.putsBack

structure Waiting (settings : Settings) (s : State) : Prop where
  pending : s.row.status = .pending
  budget : 0 < remainingLookupBudget settings s.row s.now
  unexpired : jobUnexpired s.row.expiresAt s.now = true

/-- The job waits, is not queued, and only the process `pid` can change that. -/
structure ReliesOn (settings : Settings) (s : State) (pid : Nat) : Prop where
  waiting : Waiting settings s
  unqueued : s.queued = false
  keeps : (s.processes pid).any Process.keepsJob = true
  alone : ∀ q, q ≠ pid → (s.processes q).any Process.keepsJob = false

/-- No process that the job relies on raises, is cancelled, or finds the dispatch lock
taken. The failures of the build and of the handoff are steps of their own. -/
def NoneLost (settings : Settings) (s : State) : Action → Prop
  | .acquire pid => (s.dispatchLock.get s.now ()).isSome = true → ¬ ReliesOn settings s pid
  | .raise pid | .cancelled pid | .abort pid => ¬ ReliesOn settings s pid
  | _ => True

/-- A waiting job is queued, or some process keeps it. -/
def Kept (settings : Settings) (s : State) : Prop :=
  Waiting settings s → s.queued = true ∨ ∃ pid, (s.processes pid).any Process.keepsJob = true

/-- While no dispatch runs and no callback is about to put it back, a waiting job without a
lease is queued. -/
def NotForgotten (settings : Settings) (s : State) : Prop :=
  Waiting settings s → s.getLease = none →
    (∀ pid process, s.processes pid = some process →
      process.dispatches = false ∧ process.putsBack = false) →
    s.queued = true

/-- A commit that leaves the job pending changes no status, or a callback puts the job back
after it. -/
def Requeues (actor : Actor) (effects : List Effect) : Prop :=
  ∀ held flushed rest, .commit held flushed :: rest <:+ effects → held.status = .pending →
    flushed = [] ∨ (∃ callback, actor = .callback callback) ∧ .requeue ∈ rest

def Process.loaded : Process → Option MailLookupJob
  | .selecting job | .reserving job _ | .building job _ | .inFlight job _ | .answered job _ _
  | .checking _ job | .settling _ job _ _ | .running _ job _ => some job
  | _ => none

def Process.Tracks (expiresAt : Option Int) (process : Process) : Prop :=
  (∀ job, process.loaded = some job → job.expiresAt = expiresAt) ∧
    ∀ actor job effects, process = .running actor job effects → Requeues actor effects

namespace RequeueLemmas

variable {settings : Settings} {s s' : State} {pid : Nat} {a : Action} {process next : Process}
  {actor : Actor} {job held : MailLookupJob} {flushed : List JobStatus}
  {effect : Effect} {effects rest : List Effect} {expiresAt : Option Int}

theorem requeues_tail (h : Requeues actor (effect :: rest)) : Requeues actor rest :=
  fun held flushed after hsuffix => h held flushed after (hsuffix.trans (List.suffix_cons _ _))

theorem requeues_of_no_commit (h : ∀ effect ∈ effects, effect.isCommit = false) :
    Requeues actor effects := by
  intro held flushed after hsuffix
  have hnot := h _ (hsuffix.subset List.mem_cons_self)
  cases hnot

theorem requeues_append (before : List Effect) {after : List Effect}
    (hbefore : ∀ effect ∈ before, effect.isCommit = false)
    (hafter : ∀ effect ∈ after, effect.isCommit = false)
    (h : held.status = .pending →
      flushed = [] ∨ (∃ callback, actor = .callback callback) ∧ .requeue ∈ after) :
    Requeues actor (before ++ .commit held flushed :: after) := by
  intro held' flushed' rest hsuffix
  induction before with
  | nil =>
    rcases List.suffix_cons_iff.mp hsuffix with heq | htail
    · cases heq
      exact h
    · have hnot := hafter _ (htail.subset List.mem_cons_self)
      cases hnot
  | cons effect before ih =>
    rcases List.suffix_cons_iff.mp hsuffix with heq | htail
    · have hnot := hbefore effect List.mem_cons_self
      rw [← (List.cons.inj heq).1] at hnot
      cases hnot
    · exact ih (fun effect hmem => hbefore effect (List.mem_cons_of_mem _ hmem)) htail

theorem requeues_commit_endDispatch (before : List Effect)
    (hbefore : ∀ effect ∈ before, effect.isCommit = false)
    (h : flushed = [] ∨ held.status ≠ .pending) :
    Requeues actor (before ++ .commit held flushed :: endDispatch) :=
  requeues_append before hbefore (by simp [endDispatch, Effect.isCommit])
    fun hpending => .inl (h.resolve_right (not_not.mpr hpending))

theorem requeues_endDispatch (before : List Effect)
    (hbefore : ∀ effect ∈ before, effect.isCommit = false) :
    Requeues actor (before ++ endDispatch) := by
  refine requeues_of_no_commit fun effect hmem => ?_
  rcases List.mem_append.mp hmem with hmem | hmem
  · exact hbefore effect hmem
  · rw [endDispatch, List.mem_singleton] at hmem
    rw [hmem]
    rfl

theorem requeues_recheckDispatch {lease : LookupLease} {outcome : HandoffResult} {now : Int} :
    Requeues actor (recheckDispatch settings job lease outcome now) := by
  unfold recheckDispatch handleHandoff
  split
  · exact requeues_endDispatch [.releaseLease, .rollback] (by simp [Effect.isCommit])
  split
  · split
    · next held hheld =>
      refine requeues_append [] (by simp) (by simp [endDispatch, Effect.isCommit]) ?_
      intro hpending
      rw [(transitionStatus_eq_some hheld).1] at hpending
      cases hpending
    · exact requeues_endDispatch [.releaseLease, .rollback] (by simp [Effect.isCommit])
  split
  · split
    · next held hheld =>
      refine requeues_commit_endDispatch [] (by simp) (.inr ?_)
      rw [(transitionStatus_eq_some hheld).1]
      decide
    · exact requeues_endDispatch [.releaseLease, .rollback] (by simp [Effect.isCommit])
  split
  · exact requeues_commit_endDispatch [.releaseLease, .enqueue] (by simp [Effect.isCommit])
      (.inl rfl)
  split
  · exact requeues_commit_endDispatch [.releaseLease, .enqueue] (by simp [Effect.isCommit])
      (.inl rfl)
  · exact requeues_commit_endDispatch [.releaseLease, .enqueue] (by simp [Effect.isCommit])
      (.inl rfl)

theorem requeues_recheckPoll {now : Int} : Requeues actor (recheckPoll settings job now) := by
  unfold recheckPoll
  split
  · split
    · next held hheld =>
      refine requeues_append [] (by simp) (by simp [Effect.isCommit]) fun hpending => ?_
      rw [(transitionStatus_eq_some hheld).1] at hpending
      cases hpending
    · exact requeues_of_no_commit (by simp [Effect.isCommit])
  · exact requeues_append [] (by simp) (by simp) fun _ => .inl rfl

theorem requeues_settleEffects {callback : VerifiedCallback} {settlement : Settlement} :
    Requeues (.callback callback) (settleEffects settlement) := by
  cases settlement with
  | rollback => exact requeues_of_no_commit (by simp [settleEffects, Effect.isCommit])
  | commit held flushed result =>
    simp only [settleEffects, List.append_assoc, List.cons_append, List.nil_append]
    refine requeues_append _ ?_ ?_ fun hpending => .inr ⟨⟨callback, rfl⟩, ?_⟩
    · cases result <;> simp [Effect.isCommit]
    · split <;> simp [Effect.isCommit]
    · simp [hpending]

theorem tracks_running (hjob : job.expiresAt = expiresAt) (h : Requeues actor effects) :
    (Process.running actor job effects).Tracks expiresAt := by
  constructor
  · intro loaded hloaded
    cases hloaded
    exact hjob
  · intro actor' job' effects' heq
    cases heq
    exact h

theorem tracks_loaded (hrunning : ∀ actor job effects, process ≠ .running actor job effects)
    (hloaded : ∀ job, process.loaded = some job → job.expiresAt = expiresAt) :
    process.Tracks expiresAt :=
  ⟨hloaded, fun actor job effects heq => absurd heq (hrunning actor job effects)⟩

theorem tracks_initial (h : process.initial = true) : process.Tracks expiresAt := by
  refine tracks_loaded (fun actor job effects heq => ?_) fun job hloaded => ?_
  · rw [heq] at h
    cases h
  · cases process <;> simp [Process.initial, Process.loaded] at h hloaded

theorem tracks_readDispatch : (readDispatch settings s.row s.now).Tracks s.row.expiresAt := by
  unfold readDispatch
  split
  · exact tracks_running rfl (requeues_endDispatch [] (by simp))
  split
  · split
    · next held hheld =>
      refine tracks_running rfl (requeues_commit_endDispatch [] (by simp) (.inr ?_))
      rw [(transitionStatus_eq_some hheld).1]
      decide
    · exact tracks_running rfl (requeues_endDispatch [] (by simp))
  · refine tracks_loaded (by simp) fun job hloaded => ?_
    cases hloaded
    rfl

theorem tracks_readPoll (h : readPoll settings s.row s.now = some process) :
    process.Tracks s.row.expiresAt := by
  unfold readPoll at h
  split at h
  · cases h
    exact tracks_loaded (by simp) (by simp [Process.loaded])
  split at h
  · cases h
    exact tracks_running rfl (requeues_of_no_commit (by simp [Effect.isCommit]))
  · cases h

theorem tracks_move (h : process.Tracks s.row.expiresAt) (hmove : Moves settings s process next) :
    next.Tracks s.row.expiresAt := by
  cases hmove with
  | acquire => exact tracks_loaded (by simp) (by simp [Process.loaded])
  | dispatch => exact tracks_readDispatch
  | cancel => exact tracks_loaded (by simp) (by simp [Process.loaded])
  | poll hread => exact tracks_readPoll hread
  | cleanup hstale =>
    refine tracks_running rfl (requeues_append [] (by simp) (by simp) fun hpending => ?_)
    cases hpending
  | select job executorId => exact tracks_loaded (by simp) h.1
  | unselected job =>
    exact tracks_running (h.1 job rfl) (requeues_endDispatch [.enqueue] (by simp [Effect.isCommit]))
  | unreserved job executorId =>
    exact tracks_running (h.1 job rfl) (requeues_endDispatch [.enqueue] (by simp [Effect.isCommit]))
  | unbuilt job lease =>
    exact tracks_running (h.1 job rfl) (requeues_commit_endDispatch [.releaseLease, .enqueue]
      (by simp [Effect.isCommit]) (.inl rfl))
  | answer job lease outcome => exact tracks_loaded (by simp) h.1
  | unanswered job lease =>
    exact tracks_running (h.1 job rfl) (requeues_commit_endDispatch [.enqueue, .releaseLease]
      (by simp [Effect.isCommit]) (.inl rfl))
  | expired hcheck =>
    refine tracks_running (h.1 _ rfl)
      (requeues_append [] (by simp) (by simp [Effect.isCommit]) fun hpending => ?_)
    rw [(admitCallback_eq_expired hcheck).1] at hpending
    cases hpending
  | admitted hcheck => exact tracks_loaded (by simp) h.1
  | settle callback job held flushed inserted =>
    exact tracks_running (h.1 job rfl) requeues_settleEffects
  | raise hguard =>
    have hjob : ∀ job, process.loaded = some job → job.expiresAt = s.row.expiresAt := h.1
    refine tracks_running ?_ (requeues_endDispatch [.releaseLease, .rollback]
      (by simp [Effect.isCommit]))
    cases hguard <;> exact hjob _ rfl

theorem tracks_lock (hlock : Locks settings s process next) : next.Tracks s.row.expiresAt := by
  cases hlock with
  | dispatch job lease outcome => exact tracks_running rfl requeues_recheckDispatch
  | callback callback hactive =>
    refine tracks_loaded (by simp) fun job hloaded => ?_
    cases hloaded
    rfl
  | cancel hactive =>
    refine tracks_running rfl (requeues_append [] (by simp) (by simp) fun hpending => ?_)
    cases hpending
  | poll => exact tracks_running rfl requeues_recheckPoll

theorem expiresAt_step (hconsistent : Consistent s) (hstep : step settings s a = some s') :
    s'.row.expiresAt = s.row.expiresAt := by
  rcases commits_or_keeps hconsistent hstep with
    ⟨pid, actor, job, held, flushed, rest, -, -, -, -, rfl⟩ | ⟨hrow, -⟩
  · rfl
  · rw [hrow]

end RequeueLemmas

open RequeueLemmas

def Tracked (s : State) : Prop :=
  ∀ pid process, s.processes pid = some process → process.Tracks s.row.expiresAt

theorem tracked_step {settings : Settings} {s s' : State} {a : Action}
    (hconsistent : Consistent s) (h : Tracked s) (hstep : step settings s a = some s') :
    Tracked s' := by
  intro pid next hnext
  rw [expiresAt_step hconsistent hstep]
  rcases turns_of_step hstep hnext with hold | ⟨-, hinitial⟩ | ⟨process, hpid, hturns⟩
  · exact h pid next hold
  · exact tracks_initial hinitial
  have htracks := h pid process hpid
  cases hturns with
  | move hactor hrun hmove => exact tracks_move htracks hmove
  | lock hlock => exact tracks_lock hlock
  | reserve | send => exact tracks_loaded (by simp) htracks.1
  | run actor job effect rest =>
    exact tracks_running (htracks.1 job rfl) (requeues_tail (htracks.2 _ _ _ rfl))

namespace RequeueLemmas

variable {settings : Settings} {s s' : State} {pid : Nat} {process : Process}
  {job : MailLookupJob} {effect : Effect} {rest : List Effect}

theorem waiting_of_later {now : Int} (hle : s.now ≤ now)
    (h : Waiting settings { s with now := now }) : Waiting settings s := by
  refine ⟨h.pending, ?_, ?_⟩
  · have hbudget := h.budget
    have htdiv : (lookupDeadline settings s.row - now).tdiv second ≤
        (lookupDeadline settings s.row - s.now).tdiv second :=
      Int.tdiv_le_tdiv (by decide) (by omega)
    simp only [remainingLookupBudget] at hbudget ⊢
    omega
  · obtain ⟨expiresAt, hrow, hlt⟩ := (Option.any_eq_true _ _).mp h.unexpired
    refine (Option.any_eq_true _ _).mpr ⟨expiresAt, hrow, ?_⟩
    have hlater : now < expiresAt := of_decide_eq_true hlt
    exact decide_eq_true (by omega)

/-- A step of the process `pid` that leaves the row and the clock keeps the job, unless the
job relies on that process and it lets go of it. -/
theorem kept_update {next : Option Process} (h : Kept settings s) (hnow : s'.now = s.now)
    (hrow : s'.row = s.row) (hqueued : s.queued = true → s'.queued = true)
    (hprocesses : s'.processes = Function.update s.processes pid next)
    (hkeeps : ReliesOn settings s pid → s'.queued = true ∨ next.any Process.keepsJob = true) :
    Kept settings s' := by
  rintro ⟨hpending, hbudget, hunexpired⟩
  rw [hrow] at hpending
  rw [hrow, hnow] at hbudget hunexpired
  have hwaiting : Waiting settings s := ⟨hpending, hbudget, hunexpired⟩
  cases hs : s.queued with
  | true => exact .inl (hqueued hs)
  | false =>
    have hother : ∀ q, q ≠ pid → (s.processes q).any Process.keepsJob = true →
        ∃ q, (s'.processes q).any Process.keepsJob = true := by
      intro q hne hkeep
      refine ⟨q, ?_⟩
      rw [hprocesses, Function.update_of_ne hne]
      exact hkeep
    by_cases halone : ∀ q, q ≠ pid → (s.processes q).any Process.keepsJob = false
    · obtain ⟨q, hq⟩ := (h hwaiting).resolve_left (by simp [hs])
      have hpid : (s.processes pid).any Process.keepsJob = true := by
        rcases eq_or_ne q pid with rfl | hne
        · exact hq
        · rw [halone q hne] at hq
          cases hq
      refine (hkeeps ⟨hwaiting, hs, hpid, halone⟩).imp_right fun hnext => ⟨pid, ?_⟩
      rw [hprocesses, Function.update_self]
      exact hnext
    · simp only [not_forall] at halone
      obtain ⟨q, hne, hkeep⟩ := halone
      exact .inr (hother q hne (Bool.eq_true_of_not_eq_false hkeep))

theorem not_reliesOn (hpid : s.processes pid = some process) (h : process.keepsJob = false) :
    ¬ ReliesOn settings s pid := by
  intro hrelies
  have hkeeps := hrelies.keeps
  rw [hpid, Option.any_some, h] at hkeeps
  cases hkeeps

theorem not_reliesOn_next (hconsistent : Consistent s) : ¬ ReliesOn settings s s.next := by
  intro hrelies
  obtain ⟨process, hpid, -⟩ := (Option.any_eq_true _ _).mp hrelies.keeps
  exact absurd (hconsistent.started _ _ hpid) (lt_irrefl _)

theorem keeps_recheckDispatch {lease : LookupLease} {outcome : HandoffResult}
    (h : Waiting settings s) :
    (Process.running (.dispatch lease) s.row
      (recheckDispatch settings s.row lease outcome s.now)).keepsJob = true := by
  have hbudget := h.budget
  have hvalid : ∀ job : MailLookupJob, job.status = .pending →
      transitionStatus job s.now .processing {} ≠ none := by
    intro job hpending
    simp [transitionStatus, hpending, validTransitions]
  simp only [recheckDispatch, h.pending, ne_eq, not_true_eq_false, if_false, not_le.mpr hbudget,
    handleHandoff, Process.keepsJob]
  split
  · split
    · rfl
    · next hnone => exact absurd hnone (hvalid _ rfl)
  split
  · rfl
  split <;> rfl

theorem keepsJob_tail {actor : Actor}
    (h : (Process.running actor job (effect :: rest)).keepsJob = true)
    (hsettles : effect.settlesJob = false) (hrequeue : effect ≠ .requeue) :
    (Process.running actor job rest).keepsJob = true := by
  cases actor with
  | dispatch | dispatcher =>
    simp only [Process.keepsJob, List.any_cons, hsettles, Bool.false_or] at h ⊢
    exact h
  | callback callback =>
    simp only [Process.keepsJob, Process.putsBack, List.mem_cons, List.all_cons, Bool.and_eq_true,
      decide_eq_true_eq] at h ⊢
    exact ⟨h.1.resolve_left fun heq => hrequeue heq.symm, h.2.2⟩
  | cancel | poll | cleanup => cases h

theorem kept_read (h : Kept settings s) (hstep : stepRead settings s pid = some s') :
    Kept settings s' := by
  unfold stepRead at hstep
  split at hstep
  · cases hstep
    refine kept_update h rfl rfl id rfl fun hrelies => .inr ?_
    simp only [readDispatch, hrelies.waiting.pending, ne_eq, not_true_eq_false, if_false,
      not_le.mpr hrelies.waiting.budget]
    rfl
  · next hpid =>
    split at hstep
    · cases hstep
      exact kept_update h rfl rfl id rfl fun hrelies => absurd hrelies (not_reliesOn hpid rfl)
    · cases hstep
      exact kept_update h rfl rfl id rfl fun hrelies => absurd hrelies (not_reliesOn hpid rfl)
  · next hpid =>
    split at hstep
    · cases hstep
      exact kept_update h rfl rfl id rfl fun hrelies => absurd hrelies (not_reliesOn hpid rfl)
    · cases hstep
      exact kept_update h rfl rfl id rfl fun hrelies => absurd hrelies (not_reliesOn hpid rfl)
  · next hpid =>
    split at hstep
    · cases hstep
      exact kept_update h rfl rfl id rfl fun hrelies => absurd hrelies (not_reliesOn hpid rfl)
    · cases hstep
      exact kept_update h rfl rfl id rfl fun hrelies => absurd hrelies (not_reliesOn hpid rfl)
  · cases hstep

theorem kept_lock (h : Kept settings s) (hstep : stepLock settings s pid = some s') :
    Kept settings s' := by
  unfold stepLock at hstep
  split at hstep
  · cases hstep
  dsimp only at hstep
  split at hstep
  · cases hstep
    exact kept_update h rfl rfl id rfl fun hrelies =>
      .inr (keeps_recheckDispatch hrelies.waiting)
  · next hpid =>
    split at hstep
    · cases hstep
      exact kept_update h rfl rfl id rfl fun hrelies => absurd hrelies (not_reliesOn hpid rfl)
    · cases hstep
      exact kept_update h rfl rfl id rfl fun hrelies => absurd hrelies (not_reliesOn hpid rfl)
  · next hpid =>
    split at hstep
    · cases hstep
      exact kept_update h rfl rfl id rfl fun hrelies => absurd hrelies (not_reliesOn hpid rfl)
    · cases hstep
      exact kept_update h rfl rfl id rfl fun hrelies => absurd hrelies (not_reliesOn hpid rfl)
  · next hpid =>
    cases hstep
    exact kept_update h rfl rfl id rfl fun hrelies => absurd hrelies (not_reliesOn hpid rfl)
  · cases hstep

theorem kept_check (h : Kept settings s) (hstep : stepCheck settings s pid = some s') :
    Kept settings s' := by
  unfold stepCheck at hstep
  split at hstep
  · next hpid =>
    have hnot : ¬ ReliesOn settings s pid := not_reliesOn hpid rfl
    split at hstep
    · cases hstep
      exact kept_update h rfl rfl id rfl fun hrelies => absurd hrelies hnot
    · cases hstep
      exact kept_update h rfl rfl id rfl fun hrelies => absurd hrelies hnot
    · cases hstep
      exact kept_update h rfl rfl id rfl fun hrelies => absurd hrelies hnot
  · cases hstep

theorem eq_of_flushes_nil {status last : JobStatus} (h : Flushes status [] last) :
    last = status := by
  cases h
  rfl

theorem status_commit_nil {actor : Actor} {held : MailLookupJob}
    (h : CommitSound s pid actor job held []) :
    (s.commit actor job held []).row.status = s.row.status := by
  cases h with
  | neutral hactor hverdict => exact status_eq_of_verdict (verdict_commit_neutral hverdict)
  | locked hactor hlocked hrow hactive hflushes =>
    rw [status_eq_of_verdict (verdict_commit_locked hrow), hrow, eq_of_flushes_nil hflushes]

theorem status_commit_of_ne_nil {actor : Actor} {held : MailLookupJob} {flushed : List JobStatus}
    (h : CommitSound s pid actor job held flushed) (hne : flushed ≠ []) :
    (s.commit actor job held flushed).row.status = held.status := by
  cases h with
  | neutral => exact absurd rfl hne
  | locked hactor hlocked hrow => exact status_eq_of_verdict (verdict_commit_locked hrow)
  | deadline hactor hfree hactive hstatus =>
    exact (status_commit_deadline hactive hstatus).trans hstatus.symm

theorem kept_commit {actor : Actor} {held : MailLookupJob} {flushed : List JobStatus}
    (hconsistent : Consistent s) (htracked : Tracked s) (h : Kept settings s)
    (hpid : s.processes pid = some (.running actor job (.commit held flushed :: rest))) :
    Kept settings ((s.commit actor job held flushed).put pid (.running actor job rest)) := by
  have hsound := hconsistent.sound pid _ hpid
  rintro ⟨hpending, hbudget, hunexpired⟩
  have hcommit := hsound.1 held flushed List.mem_cons_self
  by_cases hflushed : flushed = []
  · subst hflushed
    have hwaiting : Waiting settings s :=
      ⟨(status_commit_nil hcommit).symm.trans hpending, hbudget, hunexpired⟩
    refine (h hwaiting).imp_right fun ⟨q, hq⟩ => ⟨q, ?_⟩
    simp only [State.put, State.commit, Function.update_apply]
    split
    · next heq =>
      rw [heq, hpid, Option.any_some] at hq
      exact keepsJob_tail hq rfl (by simp)
    · exact hq
  · refine .inr ⟨pid, ?_⟩
    have hrequeues := (htracked pid _ hpid).2 _ _ _ rfl held flushed rest List.suffix_rfl
      ((status_commit_of_ne_nil hcommit hflushed).symm.trans hpending)
    obtain ⟨⟨callback, rfl⟩, hmem⟩ := hrequeues.resolve_left hflushed
    simp only [State.put, Function.update_self, Option.any_some, Process.keepsJob,
      Process.putsBack, decide_eq_true_eq, List.all_eq_true, Bool.not_eq_true']
    refine ⟨hmem, fun effect heffect => ?_⟩
    cases effect with
    | commit => exact absurd heffect (not_commit_mem_of_ends hsound rfl)
    | _ => rfl

theorem kept_run (hconsistent : Consistent s) (htracked : Tracked s) (h : Kept settings s)
    (hstep : stepRun s pid = some s') : Kept settings s' := by
  unfold stepRun at hstep
  split at hstep
  · next actor job hpid =>
    cases hstep
    refine kept_update h rfl rfl id rfl fun hrelies => absurd hrelies (not_reliesOn hpid ?_)
    cases actor <;> rfl
  · next actor job effect rest hpid =>
    obtain ⟨s₁, heffect, rfl⟩ := Option.map_eq_some_iff.mp hstep
    have htail : effect.settlesJob = false → effect ≠ .requeue → ReliesOn settings s pid →
        (Process.running actor job rest).keepsJob = true := by
      intro hsettles hrequeue hrelies
      have hkeeps := hrelies.keeps
      rw [hpid, Option.any_some] at hkeeps
      exact keepsJob_tail hkeeps hsettles hrequeue
    cases effect with
    | commit held flushed =>
      simp only [stepEffect] at heffect
      split at heffect
      · cases heffect
        exact kept_commit hconsistent htracked h hpid
      · cases heffect
    | enqueue =>
      cases heffect
      exact kept_update h rfl rfl (fun _ => rfl) rfl fun _ => .inl rfl
    | requeue =>
      cases heffect
      refine kept_update h rfl rfl (fun hqueued => by simp [State.put, hqueued]) rfl fun hrelies =>
        .inl ?_
      have hunexpired := hrelies.waiting.unexpired
      rw [← (htracked pid _ hpid).1 job rfl] at hunexpired
      simp [State.put, hunexpired]
    | rollback | releaseLease | putResult | releaseDispatchLock =>
      cases heffect
      exact kept_update h rfl rfl id rfl fun hrelies =>
        .inr (htail rfl (by simp) hrelies)
  · cases hstep

end RequeueLemmas

open RequeueLemmas

/-- A step keeps the job, unless it takes the process away that the job relies on. -/
theorem kept_step {settings : Settings} {s s' : State} {a : Action} (hconsistent : Consistent s)
    (htracked : Tracked s) (h : Kept settings s) (hok : NoneLost settings s a)
    (hstep : step settings s a = some s') : Kept settings s' := by
  have hnext : ¬ReliesOn settings s s.next := not_reliesOn_next hconsistent
  cases a with
  | tick now =>
    simp only [step] at hstep
    split at hstep
    · next hle =>
      cases hstep
      exact fun hwaiting => h (waiting_of_later hle hwaiting)
    · cases hstep
  | pop =>
    simp only [step] at hstep
    split at hstep
    · cases hstep
      refine fun _ => .inr ⟨s.next, ?_⟩
      simp [State.spawn, Process.keepsJob]
    · cases hstep
  | callback verified =>
    simp only [step] at hstep
    split at hstep
    · cases hstep
      exact kept_update h rfl rfl id rfl fun hrelies => absurd hrelies hnext
    · cases hstep
  | cancel | poll | cleanup =>
    cases hstep
    exact kept_update h rfl rfl id rfl fun hrelies => absurd hrelies hnext
  | acquire pid =>
    simp only [step] at hstep
    split at hstep
    · split at hstep
      · cases hstep
        exact kept_update h rfl rfl id rfl fun _ => .inr rfl
      · next hset =>
        cases hstep
        have htaken : (s.dispatchLock.get s.now ()).isSome = true := by
          have hsnd := congrArg Prod.snd hset
          rw [ExpiringStore.setNX_snd] at hsnd
          simpa using hsnd
        exact kept_update h rfl rfl id rfl fun hrelies => absurd hrelies (hok htaken)
    · cases hstep
  | read pid => exact kept_read h hstep
  | select pid executorId =>
    simp only [step] at hstep
    split at hstep
    · cases hstep
      exact kept_update h rfl rfl id rfl fun _ => .inr rfl
    · cases hstep
      exact kept_update h rfl rfl id rfl fun _ => .inr rfl
    · cases hstep
  | reserve pid leaseId =>
    simp only [step] at hstep
    split at hstep
    · split at hstep
      · cases hstep
      split at hstep
      · cases hstep
        exact kept_update h rfl rfl id rfl fun _ => .inr rfl
      split at hstep
      · cases hstep
        exact kept_update h rfl rfl id rfl fun _ => .inr rfl
      · cases hstep
        exact kept_update h rfl rfl id rfl fun _ => .inr rfl
    · cases hstep
  | build pid built =>
    simp only [step] at hstep
    split at hstep
    · split at hstep
      · cases hstep
        exact kept_update h rfl rfl id rfl fun _ => .inr rfl
      · cases hstep
        exact kept_update h rfl rfl id rfl fun _ => .inr rfl
    · cases hstep
  | answer pid outcome =>
    simp only [step] at hstep
    split at hstep
    · cases hstep
      exact kept_update h rfl rfl id rfl fun _ => .inr rfl
    · cases hstep
      exact kept_update h rfl rfl id rfl fun _ => .inr rfl
    · cases hstep
  | lock pid => exact kept_lock h hstep
  | check pid => exact kept_check h hstep
  | settle pid inserted =>
    simp only [step] at hstep
    split at hstep
    · next hpid =>
      cases hstep
      exact kept_update h rfl rfl id rfl fun hrelies => absurd hrelies (not_reliesOn hpid rfl)
    · cases hstep
  | run pid => exact kept_run hconsistent htracked h hstep
  | raise pid =>
    simp only [step] at hstep
    split at hstep
    all_goals cases hstep
    all_goals exact kept_update h rfl rfl id rfl fun hrelies => absurd hrelies hok
  | cancelled pid =>
    simp only [step] at hstep
    split at hstep
    · cases hstep
      exact kept_update h rfl rfl id rfl fun hrelies => absurd hrelies hok
    · cases hstep
  | abort pid =>
    simp only [step] at hstep
    split at hstep
    · cases hstep
      exact kept_update h rfl rfl id rfl fun hrelies => absurd hrelies hok
    · cases hstep

/-- In every run in which no process is lost that the job relies on, a waiting job is queued
or kept. -/
theorem kept_of_reachable {settings : Settings} {job : MailLookupJob} {start : Int} {s : State}
    (h : Reachable settings (NoneLost settings) job start s) : Kept settings s := by
  have hinvariant : Tracked s ∧ Kept settings s := by
    refine Reaches.invariant_with (I := fun s => Tracked s ∧ Kept settings s) (J := Consistent) h
      (fun _ hs => consistent_of_reachable hs) ⟨?_, fun _ => .inl rfl⟩ ?_
    · intro pid process hpid
      cases hpid
    rintro s a s' hconsistent ⟨htracked, hkept⟩ hok hstep
    exact ⟨tracked_step hconsistent htracked hstep,
      kept_step hconsistent htracked hkept hok hstep⟩
  exact hinvariant.2

theorem dispatches_or_putsBack {process : Process} (h : process.keepsJob = true) :
    process.dispatches = true ∨ process.putsBack = true := by
  cases process with
  | running actor job effects =>
    cases actor with
    | dispatch | dispatcher => exact .inl rfl
    | _ => exact .inr h
  | completing | checking | settling | cancelling | cancelLocking | polling | pollLocking |
    cleaning => cases h
  | _ => exact .inl rfl

theorem notForgotten_of_kept {settings : Settings} {s : State} (h : Kept settings s) :
    NotForgotten settings s := by
  intro hwaiting _ hnone
  refine (h hwaiting).resolve_right ?_
  rintro ⟨pid, hkeeps⟩
  obtain ⟨process, hpid, hprocess⟩ := (Option.any_eq_true _ _).mp hkeeps
  obtain ⟨hdispatches, hputs⟩ := hnone pid process hpid
  rcases dispatches_or_putsBack hprocess with hrunning | hback
  · rw [hdispatches] at hrunning
    cases hrunning
  · rw [hputs] at hback
    cases hback

/-! ## The retries of a process -/

/-- While a retry waits in the queue, a pump of the process is active. -/
def RetriesAwaited (s : PumpState) : Prop :=
  s.retries.Nonempty → s.pumpIsActive = true

/-- A retry is queued while a pump watches; no dispatch raises while one waits, and none
that fails for the only job in the queue finds that job a retry. -/
def RetriesInTime (s : PumpState) : PumpAction → Prop
  | .callback _ => Watched s
  | .raise _ | .breakOff _ => s.retries = ∅
  | .check pid => ∀ jobId ∈ s.retries, s.pumps pid = some (.checking jobId) →
      s.hasQueuedJobs (some jobId) = true
  | _ => True

theorem jobs_of_phaseStep {queue queue' : JobQueue} {phase phase' : PumpPhase} {jobId : UUID}
    (h : PhaseStep queue phase queue' phase') (hmem : jobId ∈ queue.jobs) :
    jobId ∈ queue'.jobs := by
  cases h with
  | requeued => exact JobQueue.mem_enqueue.mpr (.inl hmem)
  | _ => exact hmem

structure RetriesWatched (s : PumpState) : Prop where
  queued : ∀ jobId ∈ s.retries, jobId ∈ s.queue.jobs
  watched : s.retries.Nonempty → Watched s

/-- A step in which no retry comes too late leaves the retries watched. -/
theorem retries_watched_step {batchSize : Int} {s s' : PumpState} {a : PumpAction}
    (hsingle : SinglePump s) (h : RetriesWatched s) (hok : RetriesInTime s a)
    (hstep : stepPump batchSize s a = some s') : RetriesWatched s' := by
  cases pumpStepped_of_step hstep with
  | called | joined => exact ⟨h.queued, h.watched⟩
  | enqueued =>
    exact ⟨fun jobId hmem => JobQueue.mem_enqueue.mpr (.inl (h.queued jobId hmem)), h.watched⟩
  | started => exact ⟨h.queued, fun _ => WakeUpLemmas.watched_startPumpLocked⟩
  | restarted => exact ⟨h.queued, fun _ => WakeUpLemmas.watched_startPumpLocked⟩
  | moved hpid hphase hcheck =>
    next pid phase phase' queue =>
    refine ⟨fun jobId hmem => jobs_of_phaseStep hphase (h.queued jobId hmem), fun hretries => ?_⟩
    obtain ⟨jobId, hretry⟩ := hretries
    refine ⟨pid, phase', Function.update_self _ _ _, ?_⟩
    have hlooks : phase.looksAgain = true := by
      by_contra hnot
      exact WakeUpLemmas.not_watched_of_pumps hsingle hpid (Bool.eq_false_iff.mpr hnot)
        (h.watched ⟨jobId, hretry⟩)
    cases hphase with
    | batchOver | requeued | proceeded | failed => rfl
    | empty hjobs =>
      have hqueued := h.queued jobId hretry
      rw [hjobs] at hqueued
      cases hqueued
    | checked =>
      next checked =>
      rw [hcheck checked rfl] at hok
      rcases eq_or_ne jobId checked with rfl | hne
      · exact hok jobId hretry hpid
      · exact JobQueue.hasQueuedJobs_excluding.mpr ⟨jobId, h.queued jobId hretry, hne⟩
    | looked =>
      next failed restart =>
      have hqueued : s.queue.hasQueuedJobs none = true :=
        JobQueue.hasQueuedJobs_none.mpr (List.ne_nil_of_mem (h.queued jobId hretry))
      rw [PumpPhase.looksAgain, hqueued, Bool.and_true]
      exact hlooks
  | popped hpid hpop =>
    refine ⟨fun jobId hmem => ?_, fun _ => ⟨_, _, Function.update_self _ _ _, rfl⟩⟩
    obtain ⟨hne, hold⟩ := Finset.mem_erase.mp hmem
    exact (JobQueue.mem_of_pop hpop).mpr ⟨h.queued jobId hold, hne⟩
  | guarded hpid hguard =>
    next pid failed restart =>
    refine ⟨h.queued, fun hretries => ⟨pid, _, Function.update_self _ _ _, ?_⟩⟩
    by_contra hnot
    exact WakeUpLemmas.not_watched_of_pumps hsingle hpid (Bool.eq_false_iff.mpr hnot)
      (h.watched hretries)
  | ended hpid =>
    refine ⟨h.queued, fun hretries => ?_⟩
    exact absurd (h.watched hretries) (WakeUpLemmas.not_watched_of_pumps hsingle hpid rfl)
  | raised hpid =>
    refine ⟨h.queued, fun hretries => ?_⟩
    exact absurd hok hretries.ne_empty
  | brokeOff hpid =>
    refine ⟨h.queued, fun hretries => ?_⟩
    exact absurd hok hretries.ne_empty
  | calledBack =>
    refine ⟨fun jobId hmem => JobQueue.mem_enqueue.mpr ?_, fun _ => hok⟩
    rcases Finset.mem_insert.mp hmem with heq | hold
    · exact .inr heq
    · exact .inl (h.queued jobId hold)

theorem retriesAwaited_of_reaches {batchSize : Int} {queue : JobQueue} {s : PumpState}
    (h : Reaches (stepPump batchSize) RetriesInTime (PumpState.start queue) s) :
    RetriesAwaited s := by
  have hwatched : RetriesWatched s := by
    refine h.invariant_with (fun _ hs => singlePump_of_reaches hs) ⟨nofun, ?_⟩ ?_
    · rintro ⟨jobId, hmem⟩
      cases hmem
    · intro s a s' hsingle hwatched hok hstep
      exact retries_watched_step hsingle hwatched hok hstep
  intro hretries
  obtain ⟨pid, phase, hpid, -⟩ := hwatched.watched hretries
  exact (singlePump_of_reaches h).isActive_iff.mpr ⟨pid, phase, hpid⟩

/-! ## Both -/

/-- In every run that loses no process on which the job relies, a waiting job without a lease
is queued unless a dispatch runs or a callback is about to put it back; and in every run of
the pumps of a process in which no retry comes too late, a pump is active while one waits. -/
theorem no_job_forgotten (settings : Settings) (job : MailLookupJob) (start : Int) (s : State)
    (h : Reachable settings (NoneLost settings) job start s) (batchSize : Int) (queue : JobQueue)
    (p : PumpState) (hp : Reaches (stepPump batchSize) RetriesInTime (PumpState.start queue) p) :
    NotForgotten settings s ∧ RetriesAwaited p :=
  ⟨notForgotten_of_kept (kept_of_reachable h), retriesAwaited_of_reaches hp⟩

def lockFound (s : State) : Action → Bool
  | .acquire _ => (s.dispatchLock.get s.now ()).isNone
  | .raise _ | .cancelled _ | .abort _ => false
  | _ => true

/-- A retry is queued while the pump goes on. -/
def loopsOn (s : PumpState) : PumpAction → Bool
  | .callback _ => (s.pumps 0).any PumpPhase.looksAgain
  | .raise _ | .breakOff _ | .check _ => false
  | _ => true

/-- A job is handed over and given back; a second one is given back while the pump of the
first is in its loop. -/
theorem exRetries_awaited : ∃ s p,
    Reachable Settings.default (NoneLost Settings.default) exJob 0 s ∧
      Reaches (stepPump 10) RetriesInTime (PumpState.start .empty) p ∧
      s.row.status = .pending ∧ s.queued = true ∧ p.retries = {⟨2⟩} ∧ p.pumpIsActive = true ∧
      NotForgotten Settings.default s ∧ RetriesAwaited p := by
  have hjob : (execWhere (step Settings.default) lockFound (State.start exJob 0)
      (exHandoff ++ exAnswer ++ [Action.run 0, .run 0, .run 0] ++ exRetried ++ [Action.run 1])).map
      (fun s => (s.row.status, s.queued)) = some (.pending, true) := by
    decide +kernel
  have hpump : (execWhere (stepPump 10) loopsOn (PumpState.start .empty)
      (scheduleCall 0 ⟨1⟩ ++ [PumpAction.pop 0, .dispatched 0 true, .callback ⟨2⟩])).map
      (fun p => (p.retries, p.pumpIsActive)) = some ({⟨2⟩}, true) := by
    decide +kernel
  obtain ⟨s, hs, hstate⟩ := Option.map_eq_some_iff.mp hjob
  obtain ⟨p, hp, hpumps⟩ := Option.map_eq_some_iff.mp hpump
  have hreach : Reachable Settings.default (NoneLost Settings.default) exJob 0 s := by
    refine Reaches.mono ?_ (reaches_of_execWhere hs)
    intro s a hfound
    cases a with
    | acquire pid =>
      intro htaken
      rw [Option.isNone_iff_eq_none.mp hfound] at htaken
      cases htaken
    | raise | cancelled | abort => cases hfound
    | _ => trivial
  have hreaches : Reaches (stepPump 10) RetriesInTime (PumpState.start .empty) p := by
    refine Reaches.mono ?_ (reaches_of_execWhere hp)
    intro p a hloops
    cases a with
    | callback jobId =>
      obtain ⟨phase, hphase, hlooks⟩ := (Option.any_eq_true _ _).mp hloops
      exact ⟨0, phase, hphase, hlooks⟩
    | raise | breakOff | check => cases hloops
    | _ => trivial
  obtain ⟨hstatus, hqueued⟩ := Prod.mk.inj hstate
  obtain ⟨hretries, hactive⟩ := Prod.mk.inj hpumps
  have hboth := no_job_forgotten _ _ _ s hreach 10 _ p hreaches
  exact ⟨s, p, hreach, hreaches, hstatus, hqueued, hretries, hactive, hboth.1, hboth.2⟩

/-- The steps of pumps, handoffs and callbacks. A process whose call raises outside of every
handler ends where it stands. -/
def withoutPolls : Action → Bool
  | .poll | .cancel | .cleanup | .cancelled _ => false
  | _ => true

/-- The pump has popped the job, and `acquire_dispatch_lock` raises: the job is nowhere. And
a retry is queued after the pump of its process has ended, without any exception. -/
theorem job_forgotten :
    (¬ ∀ (settings : Settings) (job : MailLookupJob) (start : Int) (as : List Action) (s : State),
      as.all withoutPolls = true → exec (step settings) (State.start job start) as = some s →
      NotForgotten settings s) ∧
    ¬ ∀ (batchSize : Int) (as : List PumpAction) (p : PumpState),
      exec (stepPump batchSize) (PumpState.start .empty) as = some p →
      (∀ pid, .raise pid ∉ as ∧ .breakOff pid ∉ as) → RetriesAwaited p := by
  constructor
  · intro h
    have hrun : (exec (step Settings.default) (State.start exJob 0) [.pop, .abort 0]).map
        (fun s => (s.row, s.now, s.getLease, s.queued)) = some (exJob, 0, none, false) := by
      decide +kernel
    obtain ⟨s, hs, hstate⟩ := Option.map_eq_some_iff.mp hrun
    have hprocesses : (exec (step Settings.default) (State.start exJob 0) [.pop, .abort 0]).map
        State.processes = some (Function.update (Function.update (fun _ => none) 0
          (some .popped)) 0 none) := rfl
    rw [hs] at hprocesses
    simp only [Prod.mk.injEq] at hstate
    obtain ⟨hrow, hnow, hlease, hqueued⟩ := hstate
    have hforgotten := h Settings.default exJob 0 _ s (by decide) hs ⟨by rw [hrow]; rfl, by
      rw [hrow, hnow]; decide, by rw [hrow, hnow]; decide⟩ hlease ?_
    · rw [hqueued] at hforgotten
      cases hforgotten
    · intro pid process hpid
      rw [Option.some.inj hprocesses] at hpid
      simp only [Function.update_apply] at hpid
      split_ifs at hpid
  · intro h
    have hrun : (exec (stepPump 10) (PumpState.start .empty) (scheduleCall 0 ⟨1⟩ ++
        [PumpAction.pop 0, .dispatched 0 true, .pop 0] ++ exEnd ++ [PumpAction.callback ⟨1⟩])).map
        (fun p => (p.retries, p.pumpIsActive)) = some ({⟨1⟩}, false) := by
      decide +kernel
    obtain ⟨p, hp, hstate⟩ := Option.map_eq_some_iff.mp hrun
    obtain ⟨hretries, hidle⟩ := Prod.mk.inj hstate
    have hactive := h 10 _ p hp (by simp [scheduleCall, exEnd]) (by simp [hretries])
    rw [hidle] at hactive
    cases hactive

end Trackpal.Coordinator
