import Trackpal.Coordinator.Leases
import Trackpal.Coordinator.HandoffAgreement

/-!
# How often a lease is consumed

A callback reads the lease under the row lock, but the lease is released only after
its commit has freed the lock. An outcome that ends the job closes the window: the
next callback finds it ended. A retryable outcome returns the job to `pending`, and
a second callback that takes the lock before the release finds an active job and
the same lease.
-/

namespace Trackpal.Coordinator

open Trackpal.Protocol Trackpal.Foundation LockingLemmas LeaseLemmas

def Process.admittedCallback : Process → Option (VerifiedCallback × MailLookupJob)
  | .settling callback job _ _ => some (callback, job)
  | .running (.callback callback) job effects =>
    if effects.any Effect.isCommit then some (callback, job) else none
  | _ => none

/-- The callback `pid` was admitted on the job and has yet to commit. -/
def Admitted (s : State) (pid : Nat) (callback : VerifiedCallback) (job : MailLookupJob) : Prop :=
  ∃ process, s.processes pid = some process ∧ process.admittedCallback = some (callback, job)

/-- The check of the callback `pid` in `s` admits it. -/
def Admits (settings : Settings) (s : State) (pid : Nat) (callback : VerifiedCallback)
    (job : MailLookupJob) : Prop :=
  s.processes pid = some (.checking callback job) ∧
    admitCallback settings job s.getLease callback s.now ≠ .rejected

/-- A check admits no callback whose lease another callback has consumed. -/
def unconsumed (settings : Settings) (s : State) : Action → Bool
  | .check pid =>
    match s.processes pid with
    | some (.checking callback job) =>
      admitCallback settings job s.getLease callback s.now = .rejected ∨
        callback.leaseId ∉ s.applied
    | _ => true
  | _ => true

/-- The condition that no check is admitted on a consumed lease. -/
def Unconsumed (settings : Settings) (s : State) (a : Action) : Prop :=
  unconsumed settings s a = true

namespace ConsumedLemmas

variable {settings : Settings} {s s' : State} {pid : Nat} {a : Action} {process next : Process}
  {callback : VerifiedCallback} {job held : MailLookupJob} {actor : Actor} {effect : Effect}
  {flushed : List JobStatus} {rest : List Effect}

theorem check_of_checking (hstep : step settings s a = some s') (hactor : a.pid = some pid)
    (hpid : s.processes pid = some (.checking callback job))
    (hnext : s'.processes pid = some next) : a = .check pid := by
  cases a with
  | check q =>
    cases hactor
    rfl
  | abort q =>
    cases hactor
    simp only [step, hpid, Option.isSome_some, if_true, Option.some.injEq] at hstep
    subst hstep
    simp [State.finish] at hnext
  | tick | pop | callback | cancel | poll | cleanup => cases hactor
  | _ =>
    cases hactor
    simp [step, stepRead, stepLock, stepRun, hpid, Process.holdsDispatchLock] at hstep

theorem admitted_tail
    (h : (Process.running actor job rest).admittedCallback = some (callback, held)) :
    (Process.running actor job (effect :: rest)).admittedCallback = some (callback, held) := by
  cases actor with
  | callback verified =>
    simp only [Process.admittedCallback] at h ⊢
    split at h
    · next hany =>
      rw [if_pos (by simp [hany])]
      exact h
    · cases h
  | _ => cases h

theorem admitted_move (hmove : Moves settings s process next)
    (h : next.admittedCallback = some (callback, job)) :
    process.admittedCallback = some (callback, job) ∨
      process = .checking callback job ∧
        admitCallback settings job s.getLease callback s.now ≠ .rejected := by
  cases hmove with
  | expired hcheck =>
    cases h
    exact .inr ⟨rfl, by simp [hcheck]⟩
  | admitted hcheck =>
    cases h
    exact .inr ⟨rfl, by simp [hcheck]⟩
  | settle verified loaded held flushed inserted =>
    simp only [Process.admittedCallback] at h
    split at h
    · exact .inl h
    · cases h
  | dispatch =>
    unfold readDispatch at h
    split at h
    · cases h
    split at h
    · split at h <;> cases h
    · cases h
  | poll hread =>
    unfold readPoll at hread
    split at hread
    · cases hread
      cases h
    split at hread
    · cases hread
      cases h
    · cases hread
  | _ => cases h

theorem not_admitted_initial (h : process.initial = true) : process.admittedCallback = none := by
  cases process <;> first | rfl | cases h

theorem not_admitted_lock (hlock : Locks settings s process next) :
    next.admittedCallback = none := by
  cases hlock <;> rfl

end ConsumedLemmas

open ConsumedLemmas

/-- Where the callbacks that are about to commit come from. -/
theorem admitted_step {settings : Settings} {s s' : State} {a : Action} {pid : Nat}
    {callback : VerifiedCallback} {job : MailLookupJob} (hstep : step settings s a = some s')
    (h : Admitted s' pid callback job) :
    Admitted s pid callback job ∨ a = .check pid ∧ Admits settings s pid callback job := by
  obtain ⟨next, hnext, hadmitted⟩ := h
  rcases turns_of_step hstep hnext with hold | ⟨-, hinitial⟩ | ⟨process, hpid, hturns⟩
  · exact .inl ⟨next, hold, hadmitted⟩
  · rw [not_admitted_initial hinitial] at hadmitted
    cases hadmitted
  cases hturns with
  | move hactor hrun hmove =>
    rcases admitted_move hmove hadmitted with hbefore | ⟨rfl, hadmits⟩
    · exact .inl ⟨process, hpid, hbefore⟩
    · exact .inr ⟨check_of_checking hstep hactor hpid hnext, hpid, hadmits⟩
  | lock hlock =>
    rw [not_admitted_lock hlock] at hadmitted
    cases hadmitted
  | reserve | send => cases hadmitted
  | run actor loaded effect rest => exact .inl ⟨_, hpid, admitted_tail hadmitted⟩

theorem locked_of_admitted {s : State} {pid : Nat} {callback : VerifiedCallback}
    {job : MailLookupJob} (hconsistent : Consistent s) (hledger : Ledger s)
    (h : Admitted s pid callback job) : s.locked = some pid ∧ s.row = job := by
  obtain ⟨process, hpid, hadmitted⟩ := h
  have hsound := hconsistent.sound pid process hpid
  unfold Process.admittedCallback at hadmitted
  split at hadmitted
  · cases hadmitted
    exact ⟨hsound.1, hsound.2.1⟩
  · next verified loaded effects =>
    split at hadmitted
    · next hany =>
      cases hadmitted
      obtain ⟨effect, hmem, hcommit⟩ := List.any_eq_true.mp hany
      cases effect with
      | commit held flushed =>
        have hflushed := (hledger.shaped pid _ hpid held flushed hmem).1
        cases hsound.1 held flushed hmem with
        | neutral => exact absurd rfl hflushed
        | locked hactor hlocked hrow => exact ⟨hlocked, hrow⟩
        | deadline hactor => cases hactor
      | _ => cases hcommit
    · cases hadmitted
  · cases hadmitted

/-! ## Runs -/

/-- In every run, a callback that is about to commit was admitted by a check that found its
own lease in the store, unexpired, and the row is still the one that it locked then. -/
theorem admitted_before_commit {settings : Settings} {ok : State → Action → Prop}
    {job₀ : MailLookupJob} {start : Int} {s : State} (h : Reachable settings ok job₀ start s)
    {pid : Nat} {callback : VerifiedCallback} {job : MailLookupJob}
    (hadmitted : Admitted s pid callback job) :
    ∃ s₀ lease, Reachable settings ok job₀ start s₀ ∧ Reaches (step settings) ok s₀ s ∧
      s₀.processes pid = some (.checking callback job) ∧ s₀.getLease = some lease ∧
      lease.leaseId = callback.leaseId ∧ lease.executorId = callback.executorId ∧
      s₀.locked = some pid ∧ s.locked = some pid ∧ s₀.row = job ∧ s.row = job := by
  have hcheck : ∃ s₀, Reachable settings ok job₀ start s₀ ∧ Reaches (step settings) ok s₀ s ∧
      Admits settings s₀ pid callback job := by
    induction h with
    | refl =>
      obtain ⟨process, hpid, -⟩ := hadmitted
      cases hpid
    | tail hrun hok hstep ih =>
      rcases admitted_step hstep hadmitted with hbefore | ⟨rfl, hadmits⟩
      · obtain ⟨s₀, hs₀, hrest, hadmits⟩ := ih hbefore
        exact ⟨s₀, hs₀, .tail hrest hok hstep, hadmits⟩
      · exact ⟨_, hrun, .tail .refl hok hstep, hadmits⟩
  obtain ⟨s₀, hs₀, hrest, hpid, hadmits⟩ := hcheck
  obtain ⟨lease, hlease, -, hid, hexecutor⟩ := lease_of_admitted hadmits
  obtain ⟨hlocked₀, hrow₀, -⟩ := (consistent_of_reachable hs₀).sound pid _ hpid
  obtain ⟨hlocked, hrow⟩ :=
    locked_of_admitted (consistent_of_reachable h) (ledger_of_reachable h) hadmitted
  exact ⟨s₀, lease, hs₀, hrest, hpid, hlease, hid, hexecutor, hlocked₀, hlocked, hrow₀, hrow⟩

structure ConsumedOnce (s : State) : Prop where
  nodup : s.applied.Nodup
  fresh : ∀ pid callback job, Admitted s pid callback job → callback.leaseId ∉ s.applied

/-- Under the condition a step consumes no lease twice: two callbacks that are both about
to commit would both hold the lock. -/
theorem ConsumedOnce.of_step {settings : Settings} {s s' : State} {a : Action}
    (hconsistent : Consistent s) (hledger : Ledger s) (h : ConsumedOnce s)
    (hok : Unconsumed settings s a) (hstep : step settings s a = some s') : ConsumedOnce s' := by
  have hfresh : ∀ pid callback job, Admitted s' pid callback job →
      callback.leaseId ∉ s.applied := by
    intro pid callback job hadmitted
    rcases admitted_step hstep hadmitted with hbefore | ⟨rfl, hadmits⟩
    · exact h.fresh pid callback job hbefore
    · simp only [Unconsumed, unconsumed, hadmits.1, decide_eq_true_eq] at hok
      exact hok.resolve_left hadmits.2
  rcases commits_or_keeps hconsistent hstep with
    ⟨pid, actor, job, held, flushed, rest, rfl, hpid, hfree, hsound, rfl⟩ |
      ⟨-, -, -, happlied, -⟩
  · cases actor with
    | callback callback =>
      have hadmitted : Admitted s pid callback job :=
        ⟨_, hpid, by simp [Process.admittedCallback, Effect.isCommit]⟩
      constructor
      · exact List.nodup_cons.mpr ⟨h.fresh pid callback job hadmitted, h.nodup⟩
      · intro q callback' job' hadmitted'
        -- it would hold the lock, which this commit has freed
        have hconsistent' := consistent_step hconsistent hstep
        have hledger' := ledger_step hconsistent hledger hstep
        have hlocked := (locked_of_admitted hconsistent' hledger' hadmitted').1
        cases hlocked
    | _ => exact ⟨h.nodup, hfresh⟩
  · rw [← happlied] at hfresh
    exact ⟨happlied ▸ h.nodup, hfresh⟩

/-! ## Between a commit and the release -/

/-- A callback for the lease has committed and has yet to release it. -/
def Process.releasing (leaseId : UUID) : Process → Bool
  | .running (.callback callback) _ effects =>
    callback.leaseId = leaseId ∧ .releaseLease ∈ effects ∧ effects.any Effect.isCommit = false
  | _ => false

def Releasing (s : State) (pid : Nat) (leaseId : UUID) : Prop :=
  ∃ process, s.processes pid = some process ∧ process.releasing leaseId = true

/-- No callback is checked between the commit of another one and the release of their lease, and
none ends there. -/
def Unhurried (s : State) : Action → Prop
  | .check pid => ∀ callback job, s.processes pid = some (.checking callback job) →
      ∀ q, ¬Releasing s q callback.leaseId
  | .abort pid => ∀ leaseId, ¬Releasing s pid leaseId
  | _ => True

/-- A release follows on every commit. -/
def releasesLast : List Effect → Bool
  | [] => true
  | .commit _ _ :: rest => .releaseLease ∈ rest ∧ releasesLast rest = true
  | _ :: rest => releasesLast rest

/-- A lease in the store that was consumed belongs to a job that has ended, or is about to be
released. -/
structure Spent (s : State) : Prop where
  ordered : ∀ pid callback job effects,
    s.processes pid = some (.running (.callback callback) job effects) → releasesLast effects = true
  ended : ∀ lease expiry, s.lease () = some (lease, expiry) → lease.leaseId ∈ s.applied →
    s.row.status.active = false ∨ ∃ pid, Releasing s pid lease.leaseId

namespace ConsumedLemmas

variable {settings : Settings} {s s' : State} {pid : Nat} {a : Action} {actor : Actor}
  {callback : VerifiedCallback} {job : MailLookupJob} {effect : Effect} {effects rest : List Effect}
  {process : Process} {leaseId : UUID}

theorem releasesLast_settleEffects {settlement : Settlement} :
    releasesLast (settleEffects settlement) = true := by
  cases settlement with
  | rollback => rfl
  | commit held flushed result =>
    cases result <;> by_cases hpending : held.status = .pending <;>
      simp [settleEffects, releasesLast, hpending]

theorem releasesLast_tail (h : releasesLast (effect :: rest) = true) :
    releasesLast rest = true := by
  cases effect with
  | commit held flushed => exact (of_decide_eq_true h).2
  | _ => exact h

theorem ordered_step
    (h : ∀ pid callback job effects,
      s.processes pid = some (.running (.callback callback) job effects) →
        releasesLast effects = true)
    (hstep : step settings s a = some s')
    (hpid : s'.processes pid = some (.running (.callback callback) job effects)) :
    releasesLast effects = true := by
  rcases turns_of_step hstep hpid with hold | ⟨-, hinitial⟩ | ⟨process, hprocess, hturns⟩
  · exact h pid callback job effects hold
  · cases hinitial
  cases hturns with
  | move hactor hrun hmove =>
    generalize hnext : Process.running (.callback callback) job effects = next at hmove
    cases hmove with
    | dispatch =>
      unfold readDispatch at hnext
      repeat' split at hnext
      all_goals cases hnext
    | poll hread =>
      subst hnext
      unfold readPoll at hread
      repeat' split at hread
      all_goals cases hread
    | expired =>
      cases hnext
      rfl
    | settle =>
      cases hnext
      exact releasesLast_settleEffects
    | _ => cases hnext
  | lock hlock => cases hlock
  | run actor job effect rest => exact releasesLast_tail (h pid callback job _ hprocess)

theorem run_of_releasing (hok : Unhurried s a) (hstep : step settings s a = some s')
    (h : Releasing s pid leaseId) (hactor : a.pid = some pid) : a = .run pid := by
  have hreleasing := h
  obtain ⟨process, hpid, h⟩ := h
  unfold Process.releasing at h
  split at h
  · cases a with
    | run q =>
      cases hactor
      rfl
    | abort q =>
      cases hactor
      exact absurd hreleasing (hok leaseId)
    | tick | pop | callback | cancel | poll | cleanup => cases hactor
    | _ =>
      cases hactor
      simp [step, stepRead, stepLock, stepCheck, hpid, Process.holdsDispatchLock] at hstep
  · cases h

theorem processes_of_other (hstep : step settings s a = some s') (hconsistent : Consistent s)
    (hactor : a.pid ≠ some pid) (hpid : s.processes pid = some process) :
    s'.processes pid = some process := by
  have hupdate : ∀ q next, q ≠ pid → Function.update s.processes q next pid = some process :=
    fun q next hne => (Function.update_of_ne hne.symm next s.processes).trans hpid
  cases stepped_of_step hstep with
  | tick => exact hpid
  | spawn => exact hupdate _ _ (hconsistent.started _ _ hpid).ne'
  | finish _ hown | move _ hown => exact hupdate _ _ fun heq => hactor (heq ▸ hown)
  | _ => exact hupdate _ _ fun heq => hactor (congrArg some heq)

/-- A release stays due until it is done. -/
theorem releasing_step (hconsistent : Consistent s) (hok : Unhurried s a)
    (hstep : step settings s a = some s') (h : Releasing s pid leaseId) :
    Releasing s' pid leaseId ∨ s'.lease () = none := by
  by_cases hactor : a.pid = some pid
  · obtain rfl := run_of_releasing hok hstep h hactor
    obtain ⟨process, hpid, h⟩ := h
    unfold Process.releasing at h
    split at h
    · next callback job effects =>
      obtain ⟨hid, hrelease, hcommit⟩ := of_decide_eq_true h
      cases effects with
      | nil => cases hrelease
      | cons effect rest =>
        simp only [step, stepRun, hpid] at hstep
        obtain ⟨s₁, heffect, rfl⟩ := Option.map_eq_some_iff.mp hstep
        by_cases heq : effect = .releaseLease
        · subst heq
          cases heffect
          exact .inr rfl
        · refine .inl ⟨.running (.callback callback) job rest, Function.update_self .., ?_⟩
          have hrest : .releaseLease ∈ rest := (List.mem_cons.mp hrelease).resolve_left (Ne.symm heq)
          exact decide_eq_true ⟨hid, hrest, (Bool.or_eq_false_iff.mp hcommit).2⟩
    · cases h
  · obtain ⟨process, hpid, h⟩ := h
    exact .inl ⟨process, processes_of_other hstep hconsistent hactor hpid, h⟩

theorem lease_step (hstep : step settings s a = some s') :
    s'.lease () = s.lease () ∨ s'.lease () = none ∨ ∃ lease expiry,
      s'.lease () = some (lease, expiry) ∧ lease.leaseId ∉ s.used ∧ s'.applied = s.applied := by
  cases stepped_of_step hstep with
  | @reserve pid job executorId leaseId lease hpid hfresh hlease hset =>
    rw [ExpiringStore.setNX_snd, Option.isNone_iff_eq_none] at hset
    refine .inr (.inr ⟨lease, lease.expiresAt, ?_, by rw [hlease]; exact hfresh, rfl⟩)
    simp [State.put, ExpiringStore.setNX, hset, ExpiringStore.set]
  | releaseLease => exact .inr (.inl rfl)
  | _ => exact .inl rfl

theorem spent_step (hconsistent : Consistent s) (hledger : Ledger s) (h : Spent s)
    (hok : Unhurried s a) (hstep : step settings s a = some s') : Spent s' where
  ordered _ _ _ _ hpid := ordered_step h.ordered hstep hpid
  ended lease expiry hlease happlied := by
    rcases lease_step hstep with hkept | hnone | ⟨fresh, _, hfresh, hunused, hsame⟩
    · rw [hkept] at hlease
      have hbefore (hmem : lease.leaseId ∈ s.applied) :
          s'.row.status.active = false ∨ ∃ pid, Releasing s' pid lease.leaseId := by
        rcases h.ended lease expiry hlease hmem with hended | ⟨pid, hreleasing⟩
        · exact .inl (terminal_of_step hconsistent hstep hended)
        · rcases releasing_step hconsistent hok hstep hreleasing with hstill | hnone
          · exact .inr ⟨pid, hstill⟩
          · rw [hkept, hlease] at hnone
            cases hnone
      rcases commits_or_keeps hconsistent hstep with
        ⟨pid, actor, job, held, flushed, rest, rfl, hpid, -, -, rfl⟩ | ⟨-, -, -, hsame, -⟩
      · cases actor with
        | callback callback =>
          rcases List.mem_cons.mp happlied with hid | hmem
          · -- this is the commit that consumes the lease, and its release comes next
            refine .inr ⟨pid, .running (.callback callback) job rest, Function.update_self .., ?_⟩
            have hnot : rest.any Effect.isCommit = false := by
              rw [List.any_eq_false]
              intro effect hmem hcommit
              cases effect with
              | commit held flushed =>
                exact not_commit_mem_of_ends (hconsistent.sound pid _ hpid) rfl hmem
              | _ => cases hcommit
            have hordered := of_decide_eq_true (h.ordered pid callback job _ hpid)
            exact decide_eq_true ⟨hid.symm, hordered.1, hnot⟩
          · exact hbefore hmem
        | _ => exact hbefore happlied
      · exact hbefore (hsame ▸ happlied)
    · rw [hnone] at hlease
      cases hlease
    · rw [hlease] at hfresh
      cases hfresh
      rw [hsame] at happlied
      exact absurd (hledger.applied _ happlied) hunused

end ConsumedLemmas

/-- Outside the window between a commit and the release of its lease, no check admits a callback on
a lease that was consumed. -/
theorem unconsumed_of_unhurried {settings : Settings} {job : MailLookupJob} {start : Int}
    {s : State} {a : Action} (h : Reachable settings Unhurried job start s) (hok : Unhurried s a) :
    Unconsumed settings s a := by
  have hspent : Spent s := by
    refine Reaches.invariant_with h (J := fun s => Consistent s ∧ Ledger s)
      (fun _ hs => ⟨consistent_of_reachable hs, ledger_of_reachable hs⟩) ?_
      fun s a s' hs hspent hok hstep => spent_step hs.1 hs.2 hspent hok hstep
    refine ⟨fun pid callback job effects hpid => ?_, fun lease expiry hlease => ?_⟩
    · cases hpid
    · cases hlease
  cases a with
  | check pid =>
    unfold Unconsumed unconsumed
    dsimp only
    split
    · next callback job hpid =>
      refine decide_eq_true (or_iff_not_imp_left.mpr fun hadmits happlied => ?_)
      obtain ⟨lease, hlease, -, hid, -⟩ := lease_of_admitted hadmits
      obtain ⟨expiry, hstored, -⟩ :=
        ExpiringStore.get_eq_some_iff.mp (Option.filter_eq_some_iff.mp hlease).1
      obtain ⟨-, hrow, hactive⟩ := (consistent_of_reachable h).sound pid _ hpid
      rcases hspent.ended lease expiry hstored (hid ▸ happlied) with hended | ⟨q, hreleasing⟩
      · rw [hrow, hactive] at hended
        cases hended
      · exact hok callback job hpid q (hid ▸ hreleasing)
    · rfl
  | _ => rfl

/-- In every run whose checks admit no callback on a lease that was consumed already, each
lease is consumed at most once, and every callback that is about to commit was admitted by a
check, under the lock that it still holds, that found its own unexpired lease. Such are the runs in
which no check falls between a commit and its release, and no callback ends there. -/
theorem consumed_once (settings : Settings) (job : MailLookupJob) (start : Int) (s : State)
    (h : Reachable settings (Unconsumed settings) job start s) :
    s.applied.Nodup ∧
    (∀ pid callback loaded held flushed rest,
      s.processes pid = some (.running (.callback callback) loaded (.commit held flushed :: rest)) →
      ∃ s₀ lease, Reachable settings (Unconsumed settings) job start s₀ ∧
        Reaches (step settings) (Unconsumed settings) s₀ s ∧
        s₀.processes pid = some (.checking callback loaded) ∧ s₀.getLease = some lease ∧
        lease.leaseId = callback.leaseId ∧ lease.executorId = callback.executorId ∧
        s₀.locked = some pid ∧ s.locked = some pid ∧ s₀.row = loaded ∧ s.row = loaded) ∧
    ∀ s a, Reachable settings Unhurried job start s → Unhurried s a → Unconsumed settings s a := by
  refine ⟨?_, ?_, fun _ _ => unconsumed_of_unhurried⟩
  · have hconsumed : ConsumedOnce s := by
      refine Reaches.invariant_with h
        (J := fun s => Consistent s ∧ Ledger s)
        (fun _ hs => ⟨consistent_of_reachable hs, ledger_of_reachable hs⟩) ?_ ?_
      · refine ⟨List.nodup_nil, ?_⟩
        rintro pid callback job ⟨process, hpid, -⟩
        cases hpid
      · intro s a s' hs hconsumed hok hstep
        exact hconsumed.of_step hs.1 hs.2 hok hstep
    exact hconsumed.nodup
  · intro pid callback loaded held flushed rest hpid
    exact admitted_before_commit h ⟨_, hpid, by simp [Process.admittedCallback, Effect.isCommit]⟩

def exConsume (pid : Nat) : List Action := [.lock pid, .check pid, .settle pid true, .run pid]

/-- A second callback that takes the lock after the release of the first consumes nothing. -/
theorem exConsume_once : ∃ s, Reachable Settings.default (Unconsumed Settings.default) exJob 0 s ∧
    s.applied = [⟨8⟩] ∧ s.applied.Nodup := by
  have hrun : (execWhere (step Settings.default) (unconsumed Settings.default) (State.start exJob 0)
      (exHandoff ++ [Action.callback exRetry, .callback exRetry] ++ exConsume 1 ++
        [Action.run 1, .lock 2, .check 2])).map (fun s => s.applied) = some [⟨8⟩] := by
    decide +kernel
  obtain ⟨s, hs, happlied⟩ := Option.map_eq_some_iff.mp hrun
  have hreach : Reachable Settings.default (Unconsumed Settings.default) exJob 0 s :=
    reaches_of_execWhere hs
  exact ⟨s, hreach, happlied, (consumed_once _ _ _ s hreach).1⟩

/-- Two retryable callbacks of one lease: the second takes the lock after the commit of the
first and before its release, and both are applied. -/
theorem two_retries_consume :
    ¬ ∀ (settings : Settings) (job : MailLookupJob) (start : Int) (s : State),
      Reachable settings Always job start s → s.applied.Nodup := by
  intro h
  have hrun : (exec (step Settings.default) (State.start exJob 0)
      (exHandoff ++ [Action.callback exRetry, .callback exRetry] ++ exConsume 1 ++ exConsume 2)).map
      (fun s => s.applied) = some [⟨8⟩, ⟨8⟩] := by
    decide +kernel
  obtain ⟨s, hs, happlied⟩ := Option.map_eq_some_iff.mp hrun
  have hnodup := h _ _ _ s (reaches_of_exec hs)
  rw [happlied] at hnodup
  exact absurd hnodup (by decide)

end Trackpal.Coordinator
