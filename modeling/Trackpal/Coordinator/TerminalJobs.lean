import Trackpal.Coordinator.Locking

/-!
# Jobs that have ended

A job ends as `completed`, `failed` or `timeout`. `complete`, the user's cancel,
the status poll and the locked re-check of the dispatcher look at the job again
under the row lock, and leave a job that has ended. The first deadline check of
the dispatcher and `expire_stale_jobs` read the job without a lock and write its
timeout later.
-/

namespace Trackpal.Coordinator

open Trackpal.Protocol Trackpal.Foundation LockingLemmas

/-- A status of a job and the one before it. -/
def Allowed (status before : JobStatus) : Prop :=
  status = before ∨ status ∈ validTransitions before

/-- A commit of a process that never locks finds the job active, or timed out with
the error that it writes anyway. -/
def DeadlinesFit (s : State) : Action → Prop
  | .run pid => ∀ actor job held flushed rest,
      s.processes pid = some (.running actor job (.commit held flushed :: rest)) →
      actor.unlocked = true →
      s.row.status.active = true ∨
        s.row.status = .timeout ∧
          (s.row.errorCode = held.errorCode ∨ job.errorCode = held.errorCode)
  | _ => True

/-- The history ends in the status of the row, and all its changes are allowed. -/
structure Recorded (s : State) : Prop where
  chain : s.history.IsChain Allowed
  head : s.history.head? = some s.row.status

namespace TerminalLemmas

variable {settings : Settings} {s s' : State} {pid : Nat} {a : Action} {actor : Actor}
  {job held : MailLookupJob} {flushed : List JobStatus}

theorem isChain_flushes {status last : JobStatus} {history : List JobStatus}
    (hflushes : Flushes status flushed last) (hchain : history.IsChain Allowed)
    (hhead : history.head? = some status) :
    (flushed.reverse ++ history).IsChain Allowed ∧
      (flushed.reverse ++ history).head? = some last := by
  induction hflushes generalizing history with
  | nil => exact ⟨hchain, hhead⟩
  | @cons status next last flushed hvalid hrest ih =>
    rw [List.reverse_cons, List.append_assoc]
    refine ih (hchain.cons fun before hbefore => ?_) rfl
    rw [hhead] at hbefore
    cases hbefore
    exact .inr hvalid

theorem verdict_commit_deadline (hactive : job.status.active = true)
    (hstatus : held.status = .timeout) (hresult : held.resultType = job.resultType) :
    verdict (s.commit actor job held flushed).row = verdict s.row ↔
      s.row.status = .timeout ∧
        (s.row.errorCode = held.errorCode ∨ job.errorCode = held.errorCode) := by
  have hrow : verdict (s.commit actor job held flushed).row =
      (.timeout, s.row.resultType,
        netChange job.errorCode held.errorCode s.row.errorCode) := by
    refine Prod.ext ?_ (Prod.ext ?_ rfl)
    · exact (status_commit_deadline hactive hstatus :
        (s.commit actor job held flushed).row.status = .timeout)
    · exact netChange_of_eq hresult
  rw [hrow]
  simp only [verdict, Prod.mk.injEq, true_and]
  refine and_congr eq_comm ?_
  unfold netChange
  split
  · next heq => simp [heq]
  · next hne => exact ⟨fun h => .inl h.symm, fun h => h.elim Eq.symm fun h => absurd h.symm hne⟩

theorem verdict_step_iff (h : Consistent s) (hstep : step settings s a = some s')
    (hended : s.row.status.active = false) :
    verdict s'.row = verdict s.row ↔ DeadlinesFit s a := by
  rcases commits_or_keeps h hstep with
    ⟨pid, actor, job, held, flushed, rest, rfl, hpid, -, hsound, rfl⟩ | ⟨hrow, -, -, -, hnot⟩
  · change verdict (s.commit actor job held flushed).row = verdict s.row ↔ _
    have hfit : DeadlinesFit s (.run pid) ↔ (actor.unlocked = true →
        s.row.status = .timeout ∧
          (s.row.errorCode = held.errorCode ∨ job.errorCode = held.errorCode)) := by
      constructor
      · intro hall hactor
        have hcases := hall _ _ _ _ _ hpid hactor
        rw [hended] at hcases
        exact hcases.resolve_left (by simp)
      · intro himp actor' job' held' flushed' rest' hpid' hactor
        rw [hpid] at hpid'
        cases hpid'
        exact .inr (himp hactor)
    rw [hfit]
    cases hsound with
    | neutral hactor hverdict => simp [hactor, verdict_commit_neutral hverdict]
    | locked hactor hlocked hrow hactive hflushes hprocessing =>
      rw [hrow, hactive] at hended
      cases hended
    | deadline hactor hfree hactive hstatus hresult =>
      rw [verdict_commit_deadline hactive hstatus hresult]
      simp [hactor]
  · rw [hrow]
    refine iff_of_true rfl ?_
    cases a with
    | run pid =>
      exact fun actor job held flushed rest hpid => absurd hpid (hnot pid rfl _ _ _ _ _)
    | _ => trivial

theorem recorded_start {job : MailLookupJob} {start : Int} : Recorded (State.start job start) where
  chain := .singleton _
  head := rfl

theorem recorded_step (hconsistent : Consistent s) (h : Recorded s) (hfit : DeadlinesFit s a)
    (hstep : step settings s a = some s') : Recorded s' := by
  rcases commits_or_keeps hconsistent hstep with
    ⟨pid, actor, job, held, flushed, rest, rfl, hpid, -, hsound, rfl⟩ | ⟨hrow, hhistory, -⟩
  · suffices hrecorded : Recorded (s.commit actor job held flushed) from
      ⟨hrecorded.chain, hrecorded.head⟩
    cases hsound with
    | neutral hactor hverdict =>
      refine ⟨h.chain, ?_⟩
      rw [status_eq_of_verdict (verdict_commit_neutral hverdict)]
      exact h.head
    | locked hactor hlocked hrow hactive hflushes hprocessing =>
      have hhead := h.head
      rw [hrow] at hhead
      obtain ⟨hchain', hhead'⟩ := isChain_flushes hflushes h.chain hhead
      refine ⟨hchain', ?_⟩
      rw [status_eq_of_verdict (verdict_commit_locked hrow)]
      exact hhead'
    | deadline hactor hfree hactive hstatus hresult =>
      constructor
      · refine h.chain.cons fun before hbefore => ?_
        rw [h.head] at hbefore
        cases hbefore
        rcases hfit _ _ _ _ _ hpid hactor with hrow | ⟨hrow, -⟩
        · refine .inr ?_
          cases hs : s.row.status <;> simp [hs, JobStatus.active, validTransitions] at hrow ⊢
        · exact .inl hrow.symm
      · rw [status_commit_deadline hactive hstatus]
        rfl
  · constructor
    · rw [hhistory]
      exact h.chain
    · rw [hhistory, hrow]
      exact h.head

end TerminalLemmas

open TerminalLemmas

/-- In every run in which each unlocked deadline write still finds the job active,
or timed out with the same error, all status changes are allowed, and the verdict
of an ended job stays as it is to the end of the run. A step from a reachable
state keeps the verdict of an ended job only under that condition. -/
theorem ended_jobs_stay (settings : Settings) (job : MailLookupJob) (start : Int) (s : State)
    (h : Reachable settings DeadlinesFit job start s) :
    Recorded s ∧
      (s.row.status.active = false →
        (∀ s', Reaches (step settings) DeadlinesFit s s' → verdict s'.row = verdict s.row) ∧
        ∀ a s', step settings s a = some s' →
          (verdict s'.row = verdict s.row ↔ DeadlinesFit s a)) := by
  have hrecorded : Recorded s :=
    Reaches.invariant_with h (fun _ hs => consistent_of_reachable hs) recorded_start
      fun _ _ _ hconsistent hs hfit hstep => recorded_step hconsistent hs hfit hstep
  refine ⟨hrecorded, fun hended => ⟨fun s' hrun => ?_, fun a s' hstep => ?_⟩⟩
  · have hstays : s'.row.status.active = false ∧ verdict s'.row = verdict s.row := by
      refine Reaches.invariant_with
        (I := fun s₁ => s₁.row.status.active = false ∧ verdict s₁.row = verdict s.row) hrun
        (fun s₁ hs₁ => consistent_of_reachable (Reaches.trans h hs₁)) ⟨hended, rfl⟩ ?_
      intro s₁ a s₂ hconsistent hs₁ hfit hstep
      exact ⟨terminal_of_step hconsistent hstep hs₁.1,
        ((verdict_step_iff hconsistent hstep hs₁.1).mpr hfit).trans hs₁.2⟩
    exact hstays.2
  · exact verdict_step_iff (consistent_of_reachable h) hstep hended

def exCancel : List Action := [.cancel, .read 0, .lock 0]

/-- A cancelled job stays cancelled. -/
theorem cancelled_stays : ∃ s, Reachable Settings.default DeadlinesFit exJob 0 s ∧
    s.row.status = .failed ∧
    ∀ s', Reaches (step Settings.default) DeadlinesFit s s' → verdict s'.row = verdict s.row := by
  have hrun : (exec (step Settings.default) (State.start exJob 0) exCancel).map
      (fun s => s.processes 0) =
        some (some (.running .cancel exJob [.commit (cancelJob exJob 0) [.failed]])) := rfl
  have hcommit : ((exec (step Settings.default) (State.start exJob 0) exCancel).bind fun s =>
      (step Settings.default s (.run 0)).map fun s' => s'.row.status) = some .failed := rfl
  obtain ⟨s, hs, hpid⟩ := Option.map_eq_some_iff.mp hrun
  rw [hs, Option.bind_some] at hcommit
  obtain ⟨s', hs', hrow'⟩ := Option.map_eq_some_iff.mp hcommit
  have hreach : Reachable Settings.default DeadlinesFit exJob 0 s := by
    refine reaches_of_exec_ok (fun action hmem s => ?_) hs
    simp only [exCancel, List.mem_cons, List.not_mem_nil, or_false] at hmem
    rcases hmem with rfl | rfl | rfl <;> trivial
  have hfit : DeadlinesFit s (.run 0) := by
    intro actor job held flushed rest hpid' hactor
    rw [hpid] at hpid'
    cases hpid'
    cases hactor
  have hreach' : Reachable Settings.default DeadlinesFit exJob 0 s' := .tail hreach hfit hs'
  have hended : s'.row.status.active = false := by rw [hrow']; rfl
  exact ⟨s', hreach', hrow', ((ended_jobs_stay _ _ _ s' hreach').2 hended).1⟩

def exRace : List Action :=
  [.tick (301 * second), .cleanup, .read 0, .cancel, .read 1, .lock 1, .run 1]

/-- A cleanup pass that read the job before the user cancelled it turns the
cancelled job into a timeout. -/
theorem cleanup_overwrites_cancelled :
    ¬ ∀ (settings : Settings) (job : MailLookupJob) (start : Int) (s s' : State),
      Reachable settings Always job start s → s.row.status.active = false →
      Reaches (step settings) Always s s' → verdict s'.row = verdict s.row := by
  intro h
  have hrun : (exec (step Settings.default) (State.start exJob 0) exRace).map
      (fun s => verdict s.row) = some (.failed, none, some "user_cancelled") := by decide +kernel
  have hcleanup : ((exec (step Settings.default) (State.start exJob 0) exRace).bind fun s =>
      (exec (step Settings.default) s [.run 0]).map fun s' => verdict s'.row) =
        some (.timeout, none, some "timeout") := by decide +kernel
  obtain ⟨s, hs, hverdict⟩ := Option.map_eq_some_iff.mp hrun
  rw [hs, Option.bind_some] at hcleanup
  obtain ⟨s', hs', hverdict'⟩ := Option.map_eq_some_iff.mp hcleanup
  have hended : s.row.status.active = false := by
    rw [show s.row.status = .failed from congrArg Prod.fst hverdict]
    rfl
  have hkept := h _ _ _ s s' (reaches_of_exec hs) hended (reaches_of_exec hs')
  rw [hverdict, hverdict'] at hkept
  cases hkept

end Trackpal.Coordinator
