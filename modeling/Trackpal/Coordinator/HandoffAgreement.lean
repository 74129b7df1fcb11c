import Trackpal.Coordinator.Leases

/-!
# Handoff and callback

The dispatcher puts a job in `processing` when the answer to its handoff comes in.
The callback of that execution may have been applied before. A callback that ends
the job stops the dispatcher at its locked re-check; one that returns the job to
`pending` does not, and `release_lease` deletes the lease of a job whoever holds it.
-/

namespace Trackpal.Coordinator

open Trackpal.Protocol Trackpal.Foundation LockingLemmas LeaseLemmas

/-- No callback for the pending handoff of the lease returns the job to `pending`. -/
def AnsweredFirst (s : State) (held : MailLookupJob) (leaseId : UUID) : Prop :=
  held.status = .pending → ∀ q lease, Pending s q lease → lease.leaseId ≠ leaseId

/-- The lease that a process releases on behalf of `leaseId` is not the one of
another pending handoff of the active job. -/
def ReleasesOwn (s : State) (leaseId : UUID) : Prop :=
  s.row.status.active = true → ∀ q lease, Pending s q lease → s.storedLease = some lease →
    lease.leaseId = leaseId

/-- What a step must satisfy for the handoffs of the run to agree with its
callbacks: a retryable outcome is applied after the answer to its handoff, a
release deletes no lease of another pending handoff, and a handoff is committed
before its lease expires. -/
def Orderly (s : State) : Action → Prop
  | .run pid => ∀ actor job effect rest,
      s.processes pid = some (.running actor job (effect :: rest)) →
      match actor, effect with
      | .callback callback, .commit held _ => AnsweredFirst s held callback.leaseId
      | .callback callback, .releaseLease => ReleasesOwn s callback.leaseId
      | .dispatch lease, .releaseLease => ReleasesOwn s lease.leaseId
      | .dispatch lease, .commit _ [.processing] => s.now < lease.expiresAt
      | _, _ => True
  | _ => True

def commitsFirst : List Effect → Bool
  | [] | .commit _ _ :: _ => true
  | .releaseLease :: _ => false
  | _ :: rest => commitsFirst rest

def Harmless (s : State) : Process → Prop
  | .running .poll _ effects => commitsFirst effects = true ∨ s.row.status.active = false
  | .running (.callback callback) _ effects =>
    commitsFirst effects = true ∨ s.row.status.active = false ∨
      ∀ q lease, Pending s q lease → lease.leaseId ≠ callback.leaseId
  | _ => True

structure Agreement (s : State) : Prop where
  /-- Unless the job has ended or the lease has expired, the store holds the lease of
  a pending handoff, and no callback was applied for it. -/
  pending : ∀ pid lease, Pending s pid lease →
    s.row.status.active = false ∨ lease.expiresAt ≤ s.now ∨
      s.lease () = some (lease, lease.expiresAt) ∧ lease.leaseId ∉ s.applied
  harmless : ∀ pid process, s.processes pid = some process → Harmless s process
  /-- The job is in `processing` for an execution whose callback was not applied. -/
  processing : s.row.status = .processing →
    ∃ leaseId, s.execution = some leaseId ∧ leaseId ∉ s.applied

namespace AgreementLemmas

variable {settings : Settings} {s s' : State} {pid : Nat} {a : Action} {process next : Process}
  {job held : MailLookupJob} {actor : Actor} {flushed : List JobStatus} {effect : Effect}
  {effects rest : List Effect} {lease : LookupLease}

/-! ## The store -/

theorem now_step (hstep : step settings s a = some s') : s.now ≤ s'.now := by
  cases stepped_of_step hstep with
  | tick hle => exact hle
  | _ => exact le_rfl

theorem stored_or_released (hstep : step settings s a = some s') {expiry : Int}
    (hstored : s.lease () = some (lease, expiry)) (hlive : s.now < expiry) :
    s'.lease () = some (lease, expiry) ∨ ∃ pid actor job rest,
      a = .run pid ∧ s.processes pid = some (.running actor job (.releaseLease :: rest)) := by
  cases stepped_of_step hstep with
  | reserve hpid hfresh hlease hset =>
    rw [ExpiringStore.setNX_snd,
      ExpiringStore.get_eq_some_iff.mpr ⟨expiry, hstored, hlive⟩] at hset
    cases hset
  | releaseLease hpid => exact .inr ⟨_, _, _, _, rfl, hpid⟩
  | _ => exact .inl hstored

theorem status_commit_callback {callback : VerifiedCallback}
    (hsound : CommitSound s pid (.callback callback) job held flushed)
    (hshaped : flushed ≠ [] ∧ held.status ≠ .processing) :
    held.status = .pending ∨
      (s.commit (.callback callback) job held flushed).row.status.active = false := by
  cases hsound with
  | neutral hactor hverdict => exact absurd rfl hshaped.1
  | locked hactor hlocked hrow hactive hflushes hprocessing =>
    rw [status_eq_of_verdict (verdict_commit_locked hrow)]
    cases hs : held.status <;> simp [hs, JobStatus.active] at hshaped ⊢
  | deadline hactor => cases hactor

theorem not_released (hledger : Ledger s) (h : Agreement s) (hok : Orderly s (.run pid))
    (hactive : s.row.status.active = true)
    (hpid : s.processes pid = some (.running actor job (.releaseLease :: rest))) {q : Nat}
    (hpending : Pending s q lease) (hstored : s.storedLease = some lease) : False := by
  have hown := hok _ _ _ _ hpid
  cases actor with
  | dispatch lease' =>
    have hid : lease.leaseId = lease'.leaseId := hown hactive q lease hpending hstored
    obtain rfl : q = pid :=
      hledger.distinct q pid lease lease' (pending_reserved hpending) ⟨_, hpid, rfl⟩ hid
    obtain ⟨process, hq, hlease⟩ := hpending
    rw [hpid] at hq
    cases hq
    cases hlease
  | callback callback =>
    have hid : lease.leaseId = callback.leaseId := hown hactive q lease hpending hstored
    rcases h.harmless pid _ hpid with hfirst | hended | hnone
    · cases hfirst
    · rw [hactive] at hended
      cases hended
    · exact hnone q lease hpending hid
  | poll =>
    rcases h.harmless pid _ hpid with hfirst | hended
    · cases hfirst
    · rw [hactive] at hended
      cases hended
  | dispatcher | cancel | cleanup => exact hledger.shaped pid _ hpid List.mem_cons_self

theorem ended_of_applied (hconsistent : Consistent s) (hledger : Ledger s)
    (hok : Orderly s a) (hstep : step settings s a = some s') {q : Nat}
    (hpending : Pending s q lease) (hnot : lease.leaseId ∉ s.applied)
    (happlied : lease.leaseId ∈ s'.applied) : s'.row.status.active = false := by
  rcases commits_or_keeps hconsistent hstep with
    ⟨pid, actor, job, held, flushed, rest, rfl, hpid, -, hsound, rfl⟩ | ⟨-, -, -, hkept, -⟩
  · cases actor with
    | callback callback =>
      have hid : lease.leaseId = callback.leaseId := (List.mem_cons.mp happlied).resolve_right hnot
      have hshaped := hledger.shaped pid _ hpid held flushed List.mem_cons_self
      rcases status_commit_callback hsound hshaped with hretry | hended
      · exact absurd hid (hok _ _ _ _ hpid hretry q lease hpending)
      · exact hended
    | _ => exact absurd happlied hnot
  · rw [hkept] at happlied
    exact absurd happlied hnot

theorem pending_step (hconsistent : Consistent s) (hledger : Ledger s) (h : Agreement s)
    (hok : Orderly s a) (hstep : step settings s a = some s') (hpending' : Pending s' pid lease) :
    s'.row.status.active = false ∨ lease.expiresAt ≤ s'.now ∨
      s'.lease () = some (lease, lease.expiresAt) ∧ lease.leaseId ∉ s'.applied := by
  rcases inherited_or_reserves hledger hstep with hinherited | ⟨q, fresh, hreserves⟩
  · have hpending := hinherited.pending pid lease hpending'
    rcases h.pending pid lease hpending with hended | hexpired | ⟨hstored, hnot⟩
    · exact .inl (terminal_of_step hconsistent hstep hended)
    · exact .inr (.inl (hexpired.trans (now_step hstep)))
    by_cases hended : s.row.status.active = false
    · exact .inl (terminal_of_step hconsistent hstep hended)
    by_cases hexpired : lease.expiresAt ≤ s.now
    · exact .inr (.inl (hexpired.trans (now_step hstep)))
    have hactive : s.row.status.active = true := by simpa using hended
    have hlive : s.now < lease.expiresAt := not_le.mp hexpired
    rcases stored_or_released hstep hstored hlive with hstored' | ⟨q, actor, job, rest, rfl, hq⟩
    · by_cases happlied : lease.leaseId ∈ s'.applied
      · exact .inl (ended_of_applied hconsistent hledger hok hstep hpending hnot happlied)
      · exact .inr (.inr ⟨hstored', happlied⟩)
    · exact (not_released hledger h hok hactive hq hpending
        (ExpiringStore.get_eq_some_iff.mpr ⟨_, hstored, hlive⟩)).elim
  · obtain ⟨hnow, hrow, happlied, -⟩ := hreserves.kept
    rw [hnow, hrow, happlied, hreserves.stored]
    rcases hreserves.pending pid lease hpending' with ⟨rfl, rfl⟩ | hpending
    · refine .inr (.inr ⟨Function.update_self .., fun hmem => ?_⟩)
      exact hreserves.fresh (hledger.applied _ hmem)
    · rcases h.pending pid lease hpending with hended | hexpired | ⟨hstored, -⟩
      · exact .inl hended
      · exact .inr (.inl hexpired)
      · refine .inr (.inl (not_lt.mp fun hlive => ?_))
        have habsent := hreserves.absent
        rw [ExpiringStore.get_eq_some_iff.mpr ⟨_, hstored, hlive⟩] at habsent
        cases habsent

/-! ## Releases -/

theorem commitsFirst_of_not_mem (h : .releaseLease ∉ effects) : commitsFirst effects = true := by
  induction effects with
  | nil => rfl
  | cons effect rest ih =>
    have hrest := ih fun hmem => h (List.mem_cons_of_mem _ hmem)
    cases effect with
    | commit held flushed => rfl
    | releaseLease => exact absurd List.mem_cons_self h
    | _ => exact hrest

theorem commitsFirst_tail (h : commitsFirst (effect :: rest) = true)
    (hcommit : effect.isCommit = false) : commitsFirst rest = true := by
  cases effect with
  | commit held flushed => cases hcommit
  | releaseLease => cases h
  | _ => exact h

theorem commitsFirst_settleEffects {settlement : Settlement} :
    commitsFirst (settleEffects settlement) = true := by
  cases settlement with
  | rollback => rfl
  | commit held flushed result => cases result <;> rfl

theorem commitsFirst_recheckPoll {now : Int} :
    commitsFirst (recheckPoll settings job now) = true := by
  unfold recheckPoll
  split
  · split <;> rfl
  · rfl

theorem harmless_frame (h : Harmless s process)
    (hended : s.row.status.active = false → s'.row.status.active = false)
    (hpending : ∀ leaseId, process.callbackLease = some leaseId →
      (∀ q lease, Pending s q lease → lease.leaseId ≠ leaseId) →
      ∀ q lease, Pending s' q lease → lease.leaseId ≠ leaseId) : Harmless s' process := by
  cases process with
  | running actor job effects =>
    cases actor with
    | callback callback =>
      exact h.imp_right fun h => h.imp hended (hpending _ rfl)
    | poll => exact h.imp_right hended
    | _ => trivial
  | _ => trivial

theorem harmless_move (hmove : Moves settings s process next) : Harmless s' next := by
  cases hmove with
  | dispatch =>
    unfold readDispatch
    repeat' split
    all_goals trivial
  | poll hread =>
    unfold readPoll at hread
    split at hread
    · cases hread
      trivial
    split at hread
    · cases hread
      exact .inl rfl
    · cases hread
  | expired hcheck => exact .inl rfl
  | settle callback job held flushed inserted => exact .inl commitsFirst_settleEffects
  | _ => trivial

theorem harmless_lock (hlock : Locks settings s process next) : Harmless s' next := by
  cases hlock with
  | poll => exact .inl commitsFirst_recheckPoll
  | _ => trivial

theorem harmless_commit (hledger : Ledger s) (hok : Orderly s (.run pid))
    (hpid : s.processes pid = some (.running actor job (.commit held flushed :: rest)))
    (hsound : CommitSound s pid actor job held flushed)
    (hrow : s'.row = (s.commit actor job held flushed).row)
    (hpending : ∀ q lease, Pending s' q lease → Pending s q lease) :
    Harmless s' (.running actor job rest) := by
  have hshaped := hledger.shaped pid _ hpid
  cases actor with
  | callback callback =>
    rcases status_commit_callback hsound (hshaped held flushed List.mem_cons_self) with
      hretry | hended
    · exact .inr (.inr fun q lease hq => hok _ _ _ _ hpid hretry q lease (hpending q lease hq))
    · rw [← hrow] at hended
      exact .inr (.inl hended)
  | poll =>
    by_cases hmem : .releaseLease ∈ rest
    · obtain ⟨hflushed, hstatus⟩ :=
        hshaped (List.mem_cons_of_mem _ hmem) held flushed List.mem_cons_self
      refine .inr ?_
      rw [hrow]
      cases hsound with
      | neutral hactor hverdict => exact absurd rfl hflushed
      | locked hactor hlocked hrow hactive hflushes hprocessing =>
        rw [status_eq_of_verdict (verdict_commit_locked hrow), hstatus]
        rfl
      | deadline hactor => cases hactor
    · exact .inl (commitsFirst_of_not_mem hmem)
  | _ => trivial

theorem harmless_tail (h : Harmless s (.running actor job (effect :: rest)))
    (hcommit : effect.isCommit = false) : Harmless s (.running actor job rest) := by
  cases actor with
  | callback callback => exact h.imp_left (commitsFirst_tail · hcommit)
  | poll => exact h.imp_left (commitsFirst_tail · hcommit)
  | _ => trivial

theorem pending_ne_of_step (hledger : Ledger s) (hstep : step settings s a = some s')
    {leaseId : UUID} (hused : leaseId ∈ s.used)
    (hnone : ∀ q lease, Pending s q lease → lease.leaseId ≠ leaseId) :
    ∀ q lease, Pending s' q lease → lease.leaseId ≠ leaseId := by
  intro q lease hpending heq
  rcases inherited_or_reserves hledger hstep with hinherited | ⟨p, fresh, hreserves⟩
  · exact hnone q lease (hinherited.pending q lease hpending) heq
  rcases hreserves.pending q lease hpending with ⟨-, rfl⟩ | hold
  · exact hreserves.fresh (heq ▸ hused)
  · exact hnone q lease hold heq

theorem harmless_update {next : Option Process} (hconsistent : Consistent s)
    (hledger : Ledger s) (h : Agreement s) (hstep : step settings s a = some s')
    (hprocesses : s'.processes = Function.update s.processes pid next)
    (hnext : ∀ process, next = some process → Harmless s' process) :
    ∀ q process, s'.processes q = some process → Harmless s' process := by
  intro q process hq
  rcases eq_or_ne q pid with rfl | hne
  · rw [hprocesses, Function.update_self] at hq
    exact hnext process hq
  · rw [hprocesses, Function.update_of_ne hne] at hq
    refine harmless_frame (h.harmless q process hq) (terminal_of_step hconsistent hstep)
      fun leaseId hcallback hnone => ?_
    exact pending_ne_of_step hledger hstep (hledger.delivers q leaseId ⟨_, hq, hcallback⟩) hnone

theorem harmless_rest (hconsistent : Consistent s) (hledger : Ledger s) (h : Agreement s)
    (hstep : step settings s a = some s')
    (hpid : s.processes pid = some (.running actor job (effect :: rest)))
    (hcommit : effect.isCommit = false) : Harmless s' (.running actor job rest) := by
  refine harmless_frame (harmless_tail (h.harmless _ _ hpid) hcommit)
    (terminal_of_step hconsistent hstep) fun leaseId hcallback hnone => ?_
  have hdelivers : Delivers s pid leaseId := ⟨_, hpid, by cases actor <;> exact hcallback⟩
  exact pending_ne_of_step hledger hstep (hledger.delivers pid leaseId hdelivers) hnone

theorem harmless_step (hconsistent : Consistent s) (hledger : Ledger s) (h : Agreement s)
    (hok : Orderly s a) (hstep : step settings s a = some s') :
    ∀ pid process, s'.processes pid = some process → Harmless s' process := by
  have hupdate := @harmless_update settings s s'
  cases stepped_of_step hstep with
  | tick hle => exact fun q process hq => harmless_frame (h.harmless q process hq) id fun _ _ => id
  | @spawn _ process queued hactor hinitial hcallback =>
    refine hupdate hconsistent hledger h hstep rfl fun process' heq => ?_
    cases heq
    cases process <;> trivial
  | finish dispatchLock hactor hpid hrun =>
    exact hupdate hconsistent hledger h hstep rfl (by simp)
  | move dispatchLock hactor hpid hmove =>
    refine hupdate hconsistent hledger h hstep rfl fun process heq => ?_
    cases heq
    exact harmless_move hmove
  | lock hfree hpid hlock =>
    refine hupdate hconsistent hledger h hstep rfl fun process heq => ?_
    cases heq
    exact harmless_lock hlock
  | reserve hpid | send hpid =>
    refine hupdate hconsistent hledger h hstep rfl fun process heq => ?_
    cases heq
    trivial
  | @commit pid actor job held flushed rest hpid hfree =>
    refine hupdate hconsistent hledger h hstep rfl fun process heq => ?_
    cases heq
    have hinherited : Inherited s ((s.commit actor job held flushed).put pid
        (.running actor job rest)) := by
      refine inherited_update rfl rfl fun process heq => ?_
      cases heq
      exact ⟨_, hpid, inherits_tail (hledger.shaped _ _ hpid)⟩
    exact harmless_commit hledger hok hpid
      ((hconsistent.sound _ _ hpid).1 _ _ List.mem_cons_self) rfl hinherited.pending
  | rollback hpid | releaseLease hpid =>
    refine hupdate hconsistent hledger h hstep rfl fun process heq => ?_
    cases heq
    exact harmless_rest hconsistent hledger h hstep hpid rfl
  | @effect pid actor job effect rest _ _ _ hpid hcommit =>
    refine hupdate hconsistent hledger h hstep rfl fun process heq => ?_
    cases heq
    refine harmless_rest hconsistent hledger h hstep hpid ?_
    cases effect with
    | commit held flushed => exact absurd rfl (hcommit held flushed)
    | _ => rfl

theorem processing_step (hconsistent : Consistent s) (hledger : Ledger s) (h : Agreement s)
    (hok : Orderly s a) (hstep : step settings s a = some s')
    (hprocessing' : s'.row.status = .processing) :
    ∃ leaseId, s'.execution = some leaseId ∧ leaseId ∉ s'.applied := by
  rcases commits_or_keeps hconsistent hstep with
    ⟨pid, actor, job, held, flushed, rest, rfl, hpid, -, hsound, rfl⟩ |
    ⟨hrow, -, hexecution, happlied, -⟩
  · change (s.commit actor job held flushed).row.status = .processing at hprocessing'
    change ∃ leaseId, (s.commit actor job held flushed).execution = some leaseId ∧
      leaseId ∉ (s.commit actor job held flushed).applied
    cases hsound with
    | neutral hactor hverdict =>
      rw [status_eq_of_verdict (verdict_commit_neutral hverdict)] at hprocessing'
      have hkept := h.processing hprocessing'
      cases actor with
      | callback callback =>
        exact absurd rfl (hledger.shaped pid _ hpid held [] List.mem_cons_self).1
      | _ => exact hkept
    | locked hactor hlocked hrow hactive hflushes hprocessing =>
      rw [status_eq_of_verdict (verdict_commit_locked hrow)] at hprocessing'
      obtain ⟨lease, rfl, rfl⟩ := hprocessing hprocessing'
      refine ⟨lease.leaseId, rfl, ?_⟩
      rcases h.pending pid lease ⟨_, hpid, rfl⟩ with hended | hexpired | ⟨-, hnot⟩
      · rw [hrow, hactive] at hended
        cases hended
      · exact absurd (hok _ _ _ _ hpid) (not_lt.mpr hexpired)
      · exact hnot
    | deadline hactor hfree hactive hstatus hresult =>
      rw [status_commit_deadline hactive hstatus] at hprocessing'
      cases hprocessing'
  · rw [hrow] at hprocessing'
    rw [hexecution, happlied]
    exact h.processing hprocessing'

theorem agreement_start {job : MailLookupJob} {start : Int} :
    Agreement (State.start job start) := by
  constructor <;> simp [State.start, Pending]

theorem agreement_step (hconsistent : Consistent s) (hledger : Ledger s) (h : Agreement s)
    (hok : Orderly s a) (hstep : step settings s a = some s') : Agreement s' where
  pending _ _ := pending_step hconsistent hledger h hok hstep
  harmless := harmless_step hconsistent hledger h hok hstep
  processing := processing_step hconsistent hledger h hok hstep

theorem agreement_of_reachable {start : Int} (h : Reachable settings Orderly job start s) :
    Agreement s :=
  Reaches.invariant_with h (J := fun s => Consistent s ∧ Ledger s)
    (fun _ hs => ⟨consistent_of_reachable hs, ledger_of_reachable hs⟩) agreement_start
    fun _ _ _ hJ hs hok hstep => agreement_step hJ.1 hJ.2 hs hok hstep

end AgreementLemmas

open AgreementLemmas

/-- In every orderly run, a handoff that commits the job as `processing` finds its
lease in the store, and no callback applied for it; and a job is never in
`processing` for an execution whose callback was applied. -/
theorem handoff_keeps_lease (settings : Settings) (job : MailLookupJob) (start : Int) (s : State)
    (h : Reachable settings Orderly job start s) :
    (∀ pid lease loaded held rest s',
      s.processes pid =
        some (.running (.dispatch lease) loaded (.commit held [.processing] :: rest)) →
      Orderly s (.run pid) → step settings s (.run pid) = some s' →
      s.storedLease = some lease ∧ lease.leaseId ∉ s.applied) ∧
    (s.row.status = .processing → ∃ leaseId, s.execution = some leaseId ∧ leaseId ∉ s.applied) := by
  have hagreement := agreement_of_reachable h
  refine ⟨fun pid lease loaded held rest s' hpid hok hstep => ?_, hagreement.processing⟩
  have hlive : s.now < lease.expiresAt := hok _ _ _ _ hpid
  rcases hagreement.pending pid lease ⟨_, hpid, rfl⟩ with hended | hexpired | ⟨hstored, hnot⟩
  · cases ((consistent_of_reachable h).sound _ _ hpid).1 _ _ List.mem_cons_self with
    | locked hactor hlocked hrow hactive =>
      rw [hrow, hactive] at hended
      cases hended
  · exact absurd hlive (not_lt.mpr hexpired)
  · exact ⟨ExpiringStore.get_eq_some_iff.mpr ⟨_, hstored, hlive⟩, hnot⟩

def exLease : LookupLease := ⟨⟨7⟩, ⟨8⟩, 180 * second⟩

def exRetry : VerifiedCallback :=
  ⟨⟨7⟩, ⟨8⟩, ⟨.retryableFailure, none, none, none, none, some "imap_unavailable", none⟩⟩

def exAccepted : HandoffResult := ⟨.accepted, some ⟨8⟩, none⟩

def exHandoff : List Action :=
  [.pop, .acquire 0, .read 0, .select 0 (some ⟨7⟩), .reserve 0 ⟨8⟩, .build 0 true]

def exRetried : List Action :=
  [.callback exRetry, .lock 1, .check 1, .settle 1 true, .run 1, .run 1, .run 1]

def exAnswer : List Action := [.answer 0 (some exAccepted), .lock 0]

def exProcessing (job : MailLookupJob) : MailLookupJob :=
  { job with
    executorId := some ⟨7⟩
    executionAttempts := job.executionAttempts + 1
    status := .processing
    processingStartedAt := some 0
    errorCode := none
    errorDetailSafe := none }

def exReturned : MailLookupJob :=
  { exJob with errorCode := some "imap_unavailable" }

/-- A handoff that nothing interferes with keeps its lease. -/
theorem handoff_undisturbed : ∃ s s' held rest,
    Reachable Settings.default Orderly exJob 0 s ∧
    s.processes 0 = some (.running (.dispatch exLease) exJob (.commit held [.processing] :: rest)) ∧
    step Settings.default s (.run 0) = some s' ∧
    s.storedLease = some exLease ∧ exLease.leaseId ∉ s.applied := by
  have hrun : (exec (step Settings.default) (State.start exJob 0) (exHandoff ++ exAnswer)).map
      (fun s => (s.processes 0, s.now)) = some (some (.running (.dispatch exLease) exJob
        [.commit (exProcessing exJob) [.processing], .releaseDispatchLock]), 0) := by
    decide +kernel
  have hcommit : ((exec (step Settings.default) (State.start exJob 0)
      (exHandoff ++ exAnswer)).bind fun s =>
        (step Settings.default s (.run 0)).map fun s' => s'.row.status) = some .processing := by
    decide +kernel
  obtain ⟨s, hs, hfacts⟩ := Option.map_eq_some_iff.mp hrun
  rw [hs, Option.bind_some] at hcommit
  obtain ⟨s', hs', -⟩ := Option.map_eq_some_iff.mp hcommit
  obtain ⟨hpid, hnow⟩ := Prod.mk.inj hfacts
  have hreach : Reachable Settings.default Orderly exJob 0 s := by
    refine reaches_of_exec_ok (fun action hmem s => ?_) hs
    simp only [exHandoff, exAnswer, List.cons_append, List.nil_append, List.mem_cons,
      List.not_mem_nil, or_false] at hmem
    rcases hmem with rfl | rfl | rfl | rfl | rfl | rfl | rfl | rfl <;> trivial
  have hok : Orderly s (.run 0) := by
    intro actor job effect rest hpid'
    rw [hpid] at hpid'
    cases hpid'
    rw [hnow]
    exact (by decide : (0 : Int) < exLease.expiresAt)
  exact ⟨s, s', _, _, hreach, hpid, hs',
    (handoff_keeps_lease _ _ _ s hreach).1 0 _ _ _ _ s' hpid hok hs'⟩

/-- A retryable callback that is applied before the answer to its handoff: the
handoff then commits `processing` for a lease that is gone. -/
theorem retry_before_answer :
    ¬ ∀ (settings : Settings) (job : MailLookupJob) (start : Int) (s s' : State) (pid : Nat)
      (lease : LookupLease) (loaded held : MailLookupJob) (rest : List Effect),
      Reachable settings Always job start s →
      s.processes pid =
        some (.running (.dispatch lease) loaded (.commit held [.processing] :: rest)) →
      step settings s (.run pid) = some s' →
      s.storedLease = some lease ∧ lease.leaseId ∉ s.applied := by
  intro h
  have hrun : (exec (step Settings.default) (State.start exJob 0)
      (exHandoff ++ exRetried ++ exAnswer)).map
      (fun s => (s.processes 0, s.storedLease, s.applied)) =
        some (some (.running (.dispatch exLease) exReturned
          [.commit (exProcessing exReturned) [.processing], .releaseDispatchLock]),
          none, [⟨8⟩]) := by
    decide +kernel
  have hcommit : ((exec (step Settings.default) (State.start exJob 0)
      (exHandoff ++ exRetried ++ exAnswer)).bind fun s =>
        (step Settings.default s (.run 0)).map fun s' => s'.row.status) = some .processing := by
    decide +kernel
  obtain ⟨s, hs, hfacts⟩ := Option.map_eq_some_iff.mp hrun
  rw [hs, Option.bind_some] at hcommit
  obtain ⟨s', hs', -⟩ := Option.map_eq_some_iff.mp hcommit
  simp only [Prod.mk.injEq] at hfacts
  obtain ⟨hpid, hstored, happlied⟩ := hfacts
  have hkept := (h _ _ _ s s' 0 _ _ _ _ (reaches_of_exec hs) hpid hs').1
  rw [hstored] at hkept
  cases hkept

end Trackpal.Coordinator
