import Trackpal.Coordinator.Steps

/-!
# What a process knows of the row

A process that holds the row lock finds the row as it loaded it. Every commit of
a run is therefore of one of three kinds (`CommitSound`): it changes no column of
the verdict; or it is made under the lock, over the row that was loaded; or it is
a deadline write of the dispatcher or of the cleanup, which takes no lock between
its read and its write.

Results:
1. `verdict_commit_neutral`, `verdict_commit_locked`, `status_commit_deadline`: what each kind of
   commit leaves in the row.
2. `terminal_of_step`: a job that has ended stays ended, whatever ends it anew.
-/

namespace Trackpal.Coordinator

open Trackpal.Protocol Trackpal.Foundation

/-- A sequence of allowed transitions from one status to another, with the statuses
that it goes through. -/
inductive Flushes : JobStatus → List JobStatus → JobStatus → Prop
  | nil (status : JobStatus) : Flushes status [] status
  | cons {status next last : JobStatus} {flushed : List JobStatus}
      (hvalid : next ∈ validTransitions status) (hrest : Flushes next flushed last) :
      Flushes status (next :: flushed) last

namespace Effect

def isCommit : Effect → Bool
  | .commit _ _ => true
  | _ => false

def endsTransaction : Effect → Bool
  | .commit _ _ | .rollback => true
  | _ => false

end Effect

def Actor.unlocked : Actor → Bool
  | .dispatcher | .cleanup => true
  | _ => false

/-- The kinds of commits. `held` is what the session holds, `job` what it loaded. -/
inductive CommitSound (s : State) (pid : Nat) (actor : Actor) (job held : MailLookupJob) :
    List JobStatus → Prop
  | neutral (hactor : actor.unlocked = false) (hverdict : verdict held = verdict job) :
      CommitSound s pid actor job held []
  /-- The row is locked since it was loaded. Only a handoff ends in `processing`. -/
  | locked {flushed : List JobStatus} (hactor : actor.unlocked = false)
      (hlocked : s.locked = some pid) (hrow : s.row = job) (hactive : job.status.active = true)
      (hflushes : Flushes job.status flushed held.status)
      (hprocessing : held.status = .processing → ∃ lease, actor = .dispatch lease ∧
        flushed = [.processing]) :
      CommitSound s pid actor job held flushed
  /-- A deadline write after an unlocked read. -/
  | deadline (hactor : actor.unlocked = true) (hfree : s.locked ≠ some pid)
      (hactive : job.status.active = true) (hstatus : held.status = .timeout)
      (hresult : held.resultType = job.resultType) :
      CommitSound s pid actor job held [.timeout]

/-- Every commit of the list satisfies `P`, and none follows the end of the
transaction. -/
def SoundEffects (P : MailLookupJob → List JobStatus → Prop) (effects : List Effect) : Prop :=
  (∀ held flushed, .commit held flushed ∈ effects → P held flushed) ∧
    effects.Pairwise fun effect effect' =>
      effect.endsTransaction = true → effect'.isCommit = false

/-- What is known of a process. -/
def Sound (s : State) (pid : Nat) : Process → Prop
  | .checking _ job => s.locked = some pid ∧ s.row = job ∧ job.status.active = true
  | .settling _ job held flushed =>
    s.locked = some pid ∧ s.row = job ∧ job.status.active = true ∧
      held.status = .processing ∧ Flushes job.status flushed .processing
  | .running actor job effects =>
    SoundEffects (CommitSound s pid actor job) effects
  | _ => s.locked ≠ some pid

/-- Only processes that have started exist and lock, and every one is sound. -/
structure Consistent (s : State) : Prop where
  started : ∀ pid process, s.processes pid = some process → pid < s.next
  lockStarted : ∀ pid, s.locked = some pid → pid < s.next
  sound : ∀ pid process, s.processes pid = some process → Sound s pid process

namespace LockingLemmas

variable {settings : Settings} {s s' : State} {pid : Nat} {job held : MailLookupJob}
  {actor : Actor} {flushed : List JobStatus} {effects rest : List Effect} {effect : Effect}
  {P Q : MailLookupJob → List JobStatus → Prop} {process next : Process}

/-! ## Lists of effects -/

theorem soundEffects_tail (h : SoundEffects P (effect :: rest)) : SoundEffects P rest :=
  ⟨fun held flushed hmem => h.1 held flushed (List.mem_cons_of_mem _ hmem),
    (List.pairwise_cons.mp h.2).2⟩

theorem soundEffects_mono (h : SoundEffects P effects)
    (hPQ : ∀ held flushed, P held flushed → Q held flushed) : SoundEffects Q effects :=
  ⟨fun held flushed hmem => hPQ held flushed (h.1 held flushed hmem), h.2⟩

theorem not_commit_mem_of_ends (h : SoundEffects P (effect :: rest))
    (hends : effect.endsTransaction = true) : .commit held flushed ∉ rest := by
  intro hmem
  have hnot := (List.pairwise_cons.mp h.2).1 _ hmem hends
  simp [Effect.isCommit] at hnot

theorem soundEffects_of_not_mem (h : ∀ effect ∈ effects, effect.isCommit = false) :
    SoundEffects P effects := by
  constructor
  · intro held flushed hmem
    have hnot := h _ hmem
    simp [Effect.isCommit] at hnot
  · exact List.pairwise_of_forall_mem_list fun effect _ effect' hmem _ => h effect' hmem

theorem soundEffects_rest (h : SoundEffects P (effect :: rest))
    (hends : effect.endsTransaction = true) : SoundEffects Q rest := by
  refine ⟨fun held flushed hmem => ?_, (List.pairwise_cons.mp h.2).2⟩
  exact absurd hmem (not_commit_mem_of_ends h hends)

theorem soundEffects_append (before after : List Effect)
    (hbefore : ∀ effect ∈ before, effect.endsTransaction = false)
    (hafter : ∀ effect ∈ after, effect.isCommit = false) (h : P held flushed) :
    SoundEffects P (before ++ .commit held flushed :: after) := by
  have hcommit : ∀ effect ∈ before, effect.isCommit = false := by
    intro effect hmem
    have hends := hbefore effect hmem
    cases effect <;> simp [Effect.isCommit, Effect.endsTransaction] at hends ⊢
  constructor
  · intro held' flushed' hmem
    rcases List.mem_append.mp hmem with hmem | hmem
    · have hnot := hcommit _ hmem
      simp [Effect.isCommit] at hnot
    rcases List.mem_cons.mp hmem with heq | hmem
    · cases heq
      exact h
    · have hnot := hafter _ hmem
      simp [Effect.isCommit] at hnot
  · rw [List.pairwise_append, List.pairwise_cons]
    refine ⟨?_, ⟨fun effect hmem _ => hafter effect hmem, ?_⟩, ?_⟩
    · exact List.pairwise_of_forall_mem_list fun effect _ effect' hmem _ => hcommit effect' hmem
    · exact List.pairwise_of_forall_mem_list fun effect _ effect' hmem _ => hafter effect' hmem
    · intro effect hmem _ _ hends
      rw [hbefore effect hmem] at hends
      cases hends

theorem commit_sound_endDispatch (h : P held flushed) :
    SoundEffects P (.commit held flushed :: endDispatch) :=
  soundEffects_append [] endDispatch (by simp) (by simp [endDispatch, Effect.isCommit]) h

/-! ## Lists of effects of the machine -/

theorem deadlineExpired_eq_some {now : Int}
    (h : deadlineExpired job now none none = some held) :
    job.status.active = true ∧ held.status = .timeout ∧ held.resultType = job.resultType := by
  obtain ⟨hstatus, hvalid⟩ := transitionStatus_eq_some h
  refine ⟨active_of_valid hvalid, hstatus, ?_⟩
  unfold deadlineExpired transitionStatus at h
  rw [if_pos hvalid] at h
  cases h
  rfl

theorem flushes_one {status next : JobStatus} (h : next ∈ validTransitions status) :
    Flushes status [next] next :=
  .cons h (.nil next)

theorem flushes_snoc {status next last : JobStatus} (h : Flushes status flushed next)
    (hvalid : last ∈ validTransitions next) : Flushes status (flushed ++ [last]) last := by
  induction h with
  | nil => exact flushes_one hvalid
  | cons hfirst _ ih => exact .cons hfirst (ih hvalid)

theorem sound_readDispatch (hfree : s.locked ≠ some pid) :
    Sound s pid (readDispatch settings s.row s.now) := by
  unfold readDispatch
  split
  · exact soundEffects_of_not_mem (by simp [endDispatch, Effect.isCommit])
  split
  · split
    · next held hheld =>
      obtain ⟨hactive, hstatus, hresult⟩ := deadlineExpired_eq_some hheld
      exact commit_sound_endDispatch (.deadline rfl hfree hactive hstatus hresult)
    · exact soundEffects_of_not_mem (by simp [endDispatch, Effect.isCommit])
  · exact hfree

theorem sound_readPoll (hfree : s.locked ≠ some pid)
    (h : readPoll settings s.row s.now = some process) : Sound s pid process := by
  unfold readPoll at h
  split at h
  · cases h
    exact hfree
  split at h
  · cases h
    exact soundEffects_of_not_mem (by simp [Effect.isCommit])
  · cases h

theorem sound_requeue (before : List Effect) (error : Option String)
    (hbefore : ∀ effect ∈ before, effect.endsTransaction = false)
    (hactor : actor.unlocked = false) :
    SoundEffects (CommitSound s pid actor job)
      (before ++ .commit (withDispatchError job error) [] :: endDispatch) :=
  soundEffects_append before endDispatch hbefore (by simp [endDispatch, Effect.isCommit])
    (.neutral hactor rfl)

theorem commitSound_of_valid (hlocked : s.locked = some pid) (hrow : s.row = job)
    (hactor : actor.unlocked = false) (hvalid : held.status ∈ validTransitions job.status)
    (hprocessing : held.status ≠ .processing) :
    CommitSound s pid actor job held [held.status] :=
  .locked hactor hlocked hrow (active_of_valid hvalid) (flushes_one hvalid)
    fun h => absurd h hprocessing

theorem sound_handleHandoff {lease : LookupLease} {outcome : HandoffResult} {now : Int}
    (hlocked : s.locked = some pid) (hrow : s.row = job) :
    SoundEffects (CommitSound s pid (.dispatch lease) job)
      (handleHandoff job lease outcome now) := by
  unfold handleHandoff
  split
  · split
    · next held hheld =>
      obtain ⟨hstatus, hvalid⟩ := transitionStatus_eq_some hheld
      refine commit_sound_endDispatch (.locked rfl hlocked hrow (active_of_valid hvalid) ?_ ?_)
      · rw [hstatus]
        exact flushes_one hvalid
      · exact fun _ => ⟨lease, rfl, rfl⟩
    · exact soundEffects_of_not_mem (by simp [endDispatch, Effect.isCommit])
  split
  · exact soundEffects_append [.releaseLease, .enqueue] endDispatch
      (by simp [Effect.endsTransaction]) (by simp [endDispatch, Effect.isCommit])
      (.neutral rfl rfl)
  split
  · exact sound_requeue [.releaseLease, .enqueue] _ (by simp [Effect.endsTransaction]) rfl
  · exact sound_requeue [.releaseLease, .enqueue] _ (by simp [Effect.endsTransaction]) rfl

theorem sound_recheckDispatch {lease : LookupLease} {outcome : HandoffResult} {now : Int}
    (hlocked : s.locked = some pid) (hrow : s.row = job) :
    SoundEffects (CommitSound s pid (.dispatch lease) job)
      (recheckDispatch settings job lease outcome now) := by
  unfold recheckDispatch
  split
  · exact soundEffects_of_not_mem (by simp [endDispatch, Effect.isCommit])
  split
  · split
    · next held hheld =>
      obtain ⟨hstatus, hvalid⟩ := transitionStatus_eq_some hheld
      refine soundEffects_append [] _ (by simp) (by simp [endDispatch, Effect.isCommit]) ?_
      rw [← hstatus] at hvalid ⊢
      exact commitSound_of_valid hlocked hrow rfl hvalid (by simp [hstatus])
    · exact soundEffects_of_not_mem (by simp [endDispatch, Effect.isCommit])
  · exact sound_handleHandoff hlocked hrow

theorem sound_recheckPoll {now : Int} (hlocked : s.locked = some pid) (hrow : s.row = job) :
    SoundEffects (CommitSound s pid .poll job) (recheckPoll settings job now) := by
  unfold recheckPoll
  split
  · split
    · next held hheld =>
      obtain ⟨hstatus, hvalid⟩ := transitionStatus_eq_some hheld
      refine soundEffects_append [] _ (by simp) (by simp [Effect.isCommit]) ?_
      rw [← hstatus] at hvalid ⊢
      exact commitSound_of_valid hlocked hrow rfl hvalid (by simp [hstatus])
    · exact soundEffects_of_not_mem (by simp [Effect.isCommit])
  · exact soundEffects_append [] _ (by simp) (by simp [Effect.isCommit]) (.neutral rfl rfl)

theorem ne_processing_of_valid {status : JobStatus}
    (h : status ∈ validTransitions .processing) : status ≠ .processing := by
  rintro rfl
  simp [validTransitions] at h

theorem sound_settleEffects {callback : VerifiedCallback} {outcome : LookupOutcome}
    {inserted : Bool} {now : Int} (hlocked : s.locked = some pid) (hrow : s.row = job)
    (hactive : job.status.active = true) (hheld : held.status = .processing)
    (hflushes : Flushes job.status flushed .processing) :
    SoundEffects (CommitSound s pid (.callback callback) job)
      (settleEffects (settleCallback settings held flushed outcome inserted now)) := by
  cases hsettle : settleCallback settings held flushed outcome inserted now with
  | rollback => exact soundEffects_of_not_mem (by simp [settleEffects, Effect.isCommit])
  | commit held' flushed' result =>
    obtain ⟨rfl, hvalid⟩ := settleCallback_eq_commit hsettle
    rw [hheld] at hvalid
    have hcommit : CommitSound s pid (.callback callback) job held' (flushed ++ [held'.status]) :=
      .locked rfl hlocked hrow hactive (flushes_snoc hflushes hvalid)
        fun h => absurd h (ne_processing_of_valid hvalid)
    simp only [settleEffects, List.append_assoc, List.cons_append, List.nil_append]
    refine soundEffects_append _ _ ?_ ?_ hcommit
    · cases result <;> simp [Effect.endsTransaction]
    · split <;> simp [Effect.isCommit]

/-! ## Moves -/

theorem sound_frame (h : Sound s pid process)
    (hkeep : s.locked = some pid → s'.locked = some pid ∧ s'.row = s.row)
    (hback : s'.locked = some pid → s.locked = some pid) : Sound s' pid process := by
  have hfree : s.locked ≠ some pid → s'.locked ≠ some pid := fun h h' => h (hback h')
  cases process with
  | checking callback job =>
    obtain ⟨hlocked, hrow, hactive⟩ := h
    exact ⟨(hkeep hlocked).1, (hkeep hlocked).2.trans hrow, hactive⟩
  | settling callback job held flushed =>
    obtain ⟨hlocked, hrow, hrest⟩ := h
    exact ⟨(hkeep hlocked).1, (hkeep hlocked).2.trans hrow, hrest⟩
  | running actor job effects =>
    refine soundEffects_mono h fun held flushed hsound => ?_
    cases hsound with
    | neutral hactor hverdict => exact .neutral hactor hverdict
    | locked hactor hlocked hrow hactive hflushes hprocessing =>
      exact .locked hactor (hkeep hlocked).1 ((hkeep hlocked).2.trans hrow) hactive hflushes
        hprocessing
    | deadline hactor hunlocked hactive hstatus hresult =>
      exact .deadline hactor (hfree hunlocked) hactive hstatus hresult
  | _ => exact hfree h

theorem sound_move (h : Sound s pid process) (hmove : Moves settings s process next) :
    Sound s pid next := by
  cases hmove with
  | dispatch => exact sound_readDispatch h
  | poll hread => exact sound_readPoll h hread
  | cleanup hstale =>
    have hactive : s.row.status.active = true := by
      simp only [isStale, Bool.and_eq_true] at hstale
      exact hstale.2
    exact soundEffects_append [] _ (by simp) (by simp) (.deadline rfl h hactive rfl rfl)
  | unselected job => exact soundEffects_of_not_mem (by simp [endDispatch, Effect.isCommit])
  | unreserved job executorId =>
    exact soundEffects_of_not_mem (by simp [endDispatch, Effect.isCommit])
  | unbuilt job lease =>
    exact sound_requeue [.releaseLease, .enqueue] _ (by simp [Effect.endsTransaction]) rfl
  | unanswered job lease =>
    exact sound_requeue [.enqueue, .releaseLease] _ (by simp [Effect.endsTransaction]) rfl
  | raise hguard => exact soundEffects_of_not_mem (by simp [endDispatch, Effect.isCommit])
  | expired hcheck =>
    obtain ⟨hlocked, hrow, hactive⟩ := h
    obtain ⟨hstatus, hvalid⟩ := admitCallback_eq_expired hcheck
    refine soundEffects_append [] _ (by simp) (by simp [Effect.isCommit]) ?_
    rw [← hstatus] at hvalid ⊢
    exact commitSound_of_valid hlocked hrow rfl hvalid (by simp [hstatus])
  | admitted hcheck =>
    obtain ⟨hlocked, hrow, hactive⟩ := h
    obtain ⟨hheld, hflushed, -⟩ := admitCallback_eq_admitted hactive hcheck
    refine ⟨hlocked, hrow, hactive, hheld, ?_⟩
    rcases hflushed with ⟨rfl, hpending⟩ | ⟨rfl, rfl⟩
    · rw [hpending]
      exact flushes_one (by simp [validTransitions])
    · rw [hheld]
      exact .nil _
  | settle callback job held flushed inserted =>
    obtain ⟨hlocked, hrow, hactive, hheld, hflushes⟩ := h
    exact sound_settleEffects hlocked hrow hactive hheld hflushes
  | _ => exact h

theorem sound_lock (hlock : Locks settings s process next) :
    Sound { s with locked := some pid } pid next := by
  cases hlock with
  | dispatch job lease outcome => exact sound_recheckDispatch rfl rfl
  | callback callback hactive => exact ⟨rfl, rfl, hactive⟩
  | cancel hactive =>
    refine soundEffects_append [] _ (by simp) (by simp) ?_
    refine .locked rfl rfl rfl hactive (flushes_one ?_) (by simp [cancelJob])
    cases hs : s.row.status <;> simp [hs, JobStatus.active, validTransitions] at hactive ⊢
  | poll => exact sound_recheckPoll rfl rfl

end LockingLemmas

open LockingLemmas

/-! ## The invariant -/

/-- A step that leaves every other process its lock, and the row to it that holds
it. `next` is what becomes of the process that takes the step. -/
theorem Consistent.update {s s' : State} {pid : Nat} {next : Option Process} (h : Consistent s)
    (hprocesses : s'.processes = Function.update s.processes pid next)
    (hnext : s.next ≤ s'.next) (hpid : pid < s'.next)
    (hkeep : ∀ q, q ≠ pid → s.locked = some q → s'.locked = some q ∧ s'.row = s.row)
    (hback : ∀ q, q ≠ pid → s'.locked = some q → s.locked = some q)
    (hsound : ∀ process, next = some process → Sound s' pid process) : Consistent s' where
  started q process hq := by
    rcases eq_or_ne q pid with rfl | hne
    · exact hpid
    · rw [hprocesses, Function.update_of_ne hne] at hq
      exact lt_of_lt_of_le (h.started q process hq) hnext
  lockStarted q hq := by
    rcases eq_or_ne q pid with rfl | hne
    · exact hpid
    · exact lt_of_lt_of_le (h.lockStarted q (hback q hne hq)) hnext
  sound q process hq := by
    rcases eq_or_ne q pid with rfl | hne
    · rw [hprocesses, Function.update_self] at hq
      exact hsound process hq
    · rw [hprocesses, Function.update_of_ne hne] at hq
      exact sound_frame (h.sound q process hq) (hkeep q hne) (hback q hne)

namespace LockingLemmas

variable {settings : Settings} {s s' : State} {pid : Nat}

theorem locked_unique {q : Nat} (h : s.locked = some pid) (hq : s.locked = some q) : q = pid := by
  rw [h] at hq
  exact (Option.some.inj hq).symm

theorem free_iff : s.free pid = true ↔ s.locked = none ∨ s.locked = some pid := by
  simp [State.free]

theorem consistent_start {job : MailLookupJob} {start : Int} :
    Consistent (State.start job start) where
  started := by simp [State.start]
  lockStarted := by simp [State.start]
  sound := by simp [State.start]

theorem consistent_step {a : Action} (h : Consistent s) (hstep : step settings s a = some s') :
    Consistent s' := by
  cases stepped_of_step hstep with
  | tick hle =>
    exact ⟨h.started, h.lockStarted, fun q process hq =>
      sound_frame (h.sound q process hq) (fun hlocked => ⟨hlocked, rfl⟩) id⟩
  | @spawn _ process queued hactor hinitial hcallback =>
    have hfree : s.locked ≠ some s.next := fun hlocked => (h.lockStarted _ hlocked).ne rfl
    refine h.update rfl (Nat.le_succ _) (Nat.lt_succ_self _) (fun q _ hq => ⟨hq, rfl⟩)
      (fun q _ hq => hq) fun process' heq => ?_
    cases heq
    cases process <;> first | exact hfree | simp [Process.initial] at hinitial
  | @finish _ pid _ dispatchLock hactor hpid hrun =>
    refine h.update rfl le_rfl (h.started _ _ hpid) (fun q hne hq => ⟨?_, rfl⟩)
      (fun q hne hq => ?_) (by simp)
    · have hother : s.locked ≠ some pid := fun hlocked => hne (locked_unique hlocked hq)
      simpa [State.finish, hother] using hq
    · by_cases hlocked : s.locked = some pid
      · simp [State.finish, hlocked] at hq
      · simpa [State.finish, hlocked] using hq
  | move dispatchLock hactor hpid hmove =>
    refine h.update rfl le_rfl (h.started _ _ hpid) (fun q _ hq => ⟨hq, rfl⟩) (fun q _ hq => hq)
      fun process heq => ?_
    cases heq
    exact sound_frame (sound_move (h.sound _ _ hpid) hmove) (fun hlocked => ⟨hlocked, rfl⟩) id
  | lock hfree hpid hlock =>
    refine h.update rfl le_rfl (h.started _ _ hpid) (fun q _ hq => ?_) (fun q hne hq => ?_)
      fun process heq => ?_
    · rw [hfree] at hq
      cases hq
    · exact absurd (Option.some.inj hq).symm hne
    · cases heq
      exact sound_frame (sound_lock hlock) (fun hlocked => ⟨hlocked, rfl⟩) id
  | reserve hpid hfresh hlease hset =>
    refine h.update rfl le_rfl (h.started _ _ hpid) (fun q _ hq => ⟨hq, rfl⟩) (fun q _ hq => hq)
      fun process heq => ?_
    cases heq
    exact h.sound _ _ hpid
  | send hpid =>
    refine h.update rfl le_rfl (h.started _ _ hpid) (fun q _ hq => ⟨hq, rfl⟩) (fun q _ hq => hq)
      fun process heq => ?_
    cases heq
    exact h.sound _ _ hpid
  | @commit pid actor job held flushed rest hpid hfree =>
    refine h.update rfl le_rfl (h.started _ _ hpid) (fun q hne hq => ?_) (fun q _ hq => ?_)
      fun process heq => ?_
    · rcases free_iff.mp hfree with hnone | hsome
      · rw [hnone] at hq
        cases hq
      · exact absurd (locked_unique hsome hq) hne
    · cases hq
    · cases heq
      exact soundEffects_rest (h.sound _ _ hpid) rfl
  | @rollback pid actor job rest hpid =>
    refine h.update rfl le_rfl (h.started _ _ hpid) (fun q hne hq => ⟨?_, rfl⟩)
      (fun q hne hq => ?_) fun process heq => ?_
    · have hother : s.locked ≠ some pid := fun hlocked => hne (locked_unique hlocked hq)
      simpa [State.put, hother] using hq
    · by_cases hlocked : s.locked = some pid
      · simp [State.put, hlocked] at hq
      · simpa [State.put, hlocked] using hq
    · cases heq
      exact soundEffects_rest (h.sound _ _ hpid) rfl
  | releaseLease hpid =>
    refine h.update rfl le_rfl (h.started _ _ hpid) (fun q _ hq => ⟨hq, rfl⟩) (fun q _ hq => hq)
      fun process heq => ?_
    cases heq
    exact sound_frame (soundEffects_tail (h.sound _ _ hpid) : Sound s _ (.running _ _ _))
      (fun hlocked => ⟨hlocked, rfl⟩) id
  | effect queued dispatchLock result hpid =>
    refine h.update rfl le_rfl (h.started _ _ hpid) (fun q _ hq => ⟨hq, rfl⟩) (fun q _ hq => hq)
      fun process heq => ?_
    cases heq
    exact sound_frame (soundEffects_tail (h.sound _ _ hpid) : Sound s _ (.running _ _ _))
      (fun hlocked => ⟨hlocked, rfl⟩) id

/-! ## The row -/

theorem commits_or_keeps {a : Action} (h : Consistent s) (hstep : step settings s a = some s') :
    (∃ pid actor job held flushed rest,
      a = .run pid ∧ s.processes pid = some (.running actor job (.commit held flushed :: rest)) ∧
        s.free pid = true ∧ CommitSound s pid actor job held flushed ∧
        s' = (s.commit actor job held flushed).put pid (.running actor job rest)) ∨
      s'.row = s.row ∧ s'.history = s.history ∧ s'.execution = s.execution ∧
        s'.applied = s.applied ∧ ∀ pid, a = .run pid → ∀ actor job held flushed rest,
          s.processes pid ≠ some (.running actor job (.commit held flushed :: rest)) := by
  cases stepped_of_step hstep with
  | commit hpid hfree =>
    exact .inl ⟨_, _, _, _, _, _, rfl, hpid, hfree,
      (h.sound _ _ hpid).1 _ _ List.mem_cons_self, rfl⟩
  | spawn queued hactor =>
    refine .inr ⟨rfl, rfl, rfl, rfl, fun pid heq => ?_⟩
    rw [heq] at hactor
    cases hactor
  | move dispatchLock hactor hpid hmove hrun =>
    refine .inr ⟨rfl, rfl, rfl, rfl, fun q heq => ?_⟩
    rw [heq] at hactor hrun
    cases hactor
    exact absurd rfl hrun
  | finish dispatchLock hactor hpid hrun =>
    refine .inr ⟨rfl, rfl, rfl, rfl, fun q heq actor job held flushed rest hq => ?_⟩
    obtain ⟨_, _, hq'⟩ := hrun q heq
    simp [hq'] at hq
  | effect queued dispatchLock result hpid hcommit =>
    refine .inr ⟨rfl, rfl, rfl, rfl, fun q heq actor job held flushed rest hq => ?_⟩
    cases heq
    rw [hpid] at hq
    cases hq
    exact hcommit _ _ rfl
  | rollback hpid | releaseLease hpid =>
    refine .inr ⟨rfl, rfl, rfl, rfl, fun q heq actor job held flushed rest hq => ?_⟩
    cases heq
    simp [hpid] at hq
  | _ => exact .inr ⟨rfl, rfl, rfl, rfl, by simp⟩

variable {actor : Actor} {job held : MailLookupJob} {flushed : List JobStatus}

theorem verdict_commit_neutral (h : verdict held = verdict job) :
    verdict (s.commit actor job held flushed).row = verdict s.row :=
  verdict_writeJob_of_eq h

theorem verdict_commit_locked (h : s.row = job) :
    verdict (s.commit actor job held flushed).row = verdict held := by
  subst h
  exact verdict_writeJob_self

theorem status_commit_deadline (hactive : job.status.active = true)
    (hheld : held.status = .timeout) :
    (s.commit actor job held flushed).row.status = .timeout := by
  have hne : held.status ≠ job.status := by
    rw [hheld]
    rintro heq
    simp [← heq, JobStatus.active] at hactive
  exact (netChange_of_ne hne).trans hheld

theorem status_eq_of_verdict {job' : MailLookupJob} (h : verdict job = verdict job') :
    job.status = job'.status :=
  congrArg Prod.fst h

end LockingLemmas

/-- In every reachable state every process is sound, whatever the steps of the
run satisfy. -/
theorem consistent_of_reachable {settings : Settings} {ok : State → Action → Prop}
    {job : MailLookupJob} {start : Int} {s : State} (h : Reachable settings ok job start s) :
    Consistent s :=
  Reaches.invariant h consistent_start fun _ _ _ hs _ hstep => consistent_step hs hstep

theorem terminal_of_step {settings : Settings} {s s' : State} {a : Action} (h : Consistent s)
    (hstep : step settings s a = some s') (hended : s.row.status.active = false) :
    s'.row.status.active = false := by
  rcases commits_or_keeps h hstep with
    ⟨pid, actor, job, held, flushed, rest, -, -, -, hsound, rfl⟩ | ⟨hrow, -⟩
  · change (s.commit actor job held flushed).row.status.active = false
    cases hsound with
    | neutral hactor hverdict =>
      rw [status_eq_of_verdict (verdict_commit_neutral hverdict)]
      exact hended
    | locked hactor hlocked hrow hactive hflushes hprocessing =>
      rw [hrow, hactive] at hended
      cases hended
    | deadline hactor hfree hactive hstatus hresult =>
      rw [status_commit_deadline hactive hstatus]
      rfl
  · rw [hrow]
    exact hended

end Trackpal.Coordinator
