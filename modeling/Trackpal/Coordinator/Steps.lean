import Trackpal.Coordinator.Machine

/-!
# What a step can do

The inversion of `step`. A step lets time pass, starts a process, ends one, or
moves one on; of the job and the store it changes only what the constructor of
`Stepped` says. The proofs about runs are case analyses of `Stepped` and never
unfold the machine.

Results:
1. `stepped_of_step`: every step is one of these.
2. `turns_of_step`: what becomes of one process, whoever takes the step.
-/

namespace Trackpal.Coordinator

open Trackpal.Protocol Trackpal.Foundation

def Process.initial : Process → Bool
  | .popped | .completing _ | .cancelling | .polling | .cleaning => true
  | _ => false

/-- The dispatch holds `lease` on a job that it loaded as `job`, and the code that
releases the lease on an exception surrounds it. -/
inductive Guarded (job : MailLookupJob) (lease : LookupLease) : Process → Prop
  | building : Guarded job lease (.building job lease)
  | inFlight : Guarded job lease (.inFlight job lease)
  | answered (outcome : HandoffResult) : Guarded job lease (.answered job lease outcome)
  | running (effect effect' : Effect) (rest : List Effect) :
      Guarded job lease (.running (.dispatch lease) job (effect :: effect' :: rest))

inductive Moves (settings : Settings) (s : State) : Process → Process → Prop
  | acquire : Moves settings s .popped .dispatching
  | dispatch : Moves settings s .dispatching (readDispatch settings s.row s.now)
  | cancel : Moves settings s .cancelling .cancelLocking
  | poll {process : Process} (hread : readPoll settings s.row s.now = some process) :
      Moves settings s .polling process
  | cleanup (hstale : isStale s.row s.now = true) :
      Moves settings s .cleaning
        (.running .cleanup s.row [.commit (expireJob s.row s.now) [.timeout]])
  | select (job : MailLookupJob) (executorId : UUID) :
      Moves settings s (.selecting job) (.reserving job executorId)
  | unselected (job : MailLookupJob) :
      Moves settings s (.selecting job) (.running .dispatcher job (.enqueue :: endDispatch))
  | unreserved (job : MailLookupJob) (executorId : UUID) :
      Moves settings s (.reserving job executorId)
        (.running .dispatcher job (.enqueue :: endDispatch))
  | unbuilt (job : MailLookupJob) (lease : LookupLease) :
      Moves settings s (.building job lease)
        (.running (.dispatch lease) job (.releaseLease :: .enqueue ::
          .commit (withDispatchError job (some "mailbox credential is unavailable")) [] ::
          endDispatch))
  | answer (job : MailLookupJob) (lease : LookupLease) (outcome : HandoffResult) :
      Moves settings s (.inFlight job lease) (.answered job lease outcome)
  | unanswered (job : MailLookupJob) (lease : LookupLease) :
      Moves settings s (.inFlight job lease)
        (.running (.dispatch lease) job (.enqueue :: .releaseLease ::
          .commit (withDispatchError job (some "executor handoff transport failed")) [] ::
          endDispatch))
  | expired {callback : VerifiedCallback} {job held : MailLookupJob}
      (hcheck : admitCallback settings job s.getLease callback s.now = .expired held) :
      Moves settings s (.checking callback job)
        (.running (.callback callback) job [.commit held [.timeout], .releaseLease])
  | admitted {callback : VerifiedCallback} {job held : MailLookupJob} {flushed : List JobStatus}
      (hcheck : admitCallback settings job s.getLease callback s.now = .admitted held flushed) :
      Moves settings s (.checking callback job) (.settling callback job held flushed)
  | settle (callback : VerifiedCallback) (job held : MailLookupJob) (flushed : List JobStatus)
      (inserted : Bool) :
      Moves settings s (.settling callback job held flushed)
        (.running (.callback callback) job
          (settleEffects (settleCallback settings held flushed callback.outcome inserted s.now)))
  | raise {process : Process} {job : MailLookupJob} {lease : LookupLease}
      (hguard : Guarded job lease process) :
      Moves settings s process
        (.running (.dispatch lease) job (.releaseLease :: .rollback :: endDispatch))

inductive Locks (settings : Settings) (s : State) : Process → Process → Prop
  | dispatch (job : MailLookupJob) (lease : LookupLease) (outcome : HandoffResult) :
      Locks settings s (.answered job lease outcome)
        (.running (.dispatch lease) s.row (recheckDispatch settings s.row lease outcome s.now))
  | callback (callback : VerifiedCallback) (hactive : s.row.status.active = true) :
      Locks settings s (.completing callback) (.checking callback s.row)
  | cancel (hactive : s.row.status.active = true) :
      Locks settings s .cancelLocking
        (.running .cancel s.row [.commit (cancelJob s.row s.now) [.failed]])
  | poll : Locks settings s .pollLocking (.running .poll s.row (recheckPoll settings s.row s.now))

/-- The process that takes a step. -/
def Action.pid : Action → Option Nat
  | .acquire pid | .read pid | .select pid _ | .reserve pid _ | .build pid _ | .answer pid _
  | .lock pid | .check pid | .settle pid _ | .run pid | .raise pid | .cancelled pid
  | .abort pid => some pid
  | _ => none

/-- What a step does. The queue, the dispatch lock and the cached result may be
anything after it. -/
inductive Stepped (settings : Settings) (s : State) : Action → State → Prop
  | tick {now : Int} (hle : s.now ≤ now) : Stepped settings s (.tick now) { s with now := now }
  | spawn {a : Action} {process : Process} (queued : Bool) (hactor : a.pid = none)
      (hinitial : process.initial = true)
      (hcallback : ∀ verified, process = .completing verified →
        ∃ lease ∈ s.sent, lease.leaseId = verified.leaseId) :
      Stepped settings s a { s.spawn process with queued := queued }
  | finish {a : Action} {pid : Nat} {process : Process}
      (dispatchLock : ExpiringStore Unit Unit Int) (hactor : a.pid = some pid)
      (hpid : s.processes pid = some process)
      (hrun : ∀ q, a = .run q → ∃ actor job, s.processes q = some (.running actor job [])) :
      Stepped settings s a { s.finish pid with dispatchLock := dispatchLock }
  | move {a : Action} {pid : Nat} {process next : Process}
      (dispatchLock : ExpiringStore Unit Unit Int) (hactor : a.pid = some pid)
      (hpid : s.processes pid = some process) (hmove : Moves settings s process next)
      (hrun : a ≠ .run pid)
      (hsettle : ∀ callback job held flushed, process = .settling callback job held flushed →
        ∃ inserted, a = .settle pid inserted ∧ next = .running (.callback callback) job
          (settleEffects (settleCallback settings held flushed callback.outcome inserted
            s.now))) :
      Stepped settings s a ({ s with dispatchLock := dispatchLock }.put pid next)
  | lock {pid : Nat} {process next : Process} (hfree : s.locked = none)
      (hpid : s.processes pid = some process) (hlock : Locks settings s process next) :
      Stepped settings s (.lock pid) ({ s with locked := some pid }.put pid next)
  | reserve {pid : Nat} {job : MailLookupJob} {executorId leaseId : UUID} {lease : LookupLease}
      (hpid : s.processes pid = some (.reserving job executorId)) (hfresh : leaseId ∉ s.used)
      (hlease : lease = ⟨executorId, leaseId, keyExpiry settings s.now⟩)
      (hset : (s.lease.setNX s.now () lease lease.expiresAt).2 = true) :
      Stepped settings s (.reserve pid leaseId)
        ({ s with
          lease := (s.lease.setNX s.now () lease lease.expiresAt).1
          used := leaseId :: s.used }.put pid (.building job lease))
  | send {pid : Nat} {job : MailLookupJob} {lease : LookupLease}
      (hpid : s.processes pid = some (.building job lease)) :
      Stepped settings s (.build pid true)
        ({ s with sent := lease :: s.sent }.put pid (.inFlight job lease))
  | commit {pid : Nat} {actor : Actor} {job held : MailLookupJob} {flushed : List JobStatus}
      {rest : List Effect}
      (hpid : s.processes pid = some (.running actor job (.commit held flushed :: rest)))
      (hfree : s.free pid = true) :
      Stepped settings s (.run pid)
        ((s.commit actor job held flushed).put pid (.running actor job rest))
  | rollback {pid : Nat} {actor : Actor} {job : MailLookupJob} {rest : List Effect}
      (hpid : s.processes pid = some (.running actor job (.rollback :: rest))) :
      Stepped settings s (.run pid)
        ({ s with locked := if s.locked = some pid then none else s.locked }.put pid
          (.running actor job rest))
  | releaseLease {pid : Nat} {actor : Actor} {job : MailLookupJob} {rest : List Effect}
      (hpid : s.processes pid = some (.running actor job (.releaseLease :: rest))) :
      Stepped settings s (.run pid)
        ({ s with lease := s.lease.del () }.put pid (.running actor job rest))
  | effect {pid : Nat} {actor : Actor} {job : MailLookupJob} {effect : Effect}
      {rest : List Effect} (queued : Bool) (dispatchLock : ExpiringStore Unit Unit Int)
      (result : ExpiringStore Unit (ResultType × String) Int)
      (hpid : s.processes pid = some (.running actor job (effect :: rest)))
      (hcommit : ∀ held flushed, effect ≠ .commit held flushed) (hrollback : effect ≠ .rollback)
      (hrelease : effect ≠ .releaseLease) :
      Stepped settings s (.run pid)
        ({ s with queued := queued, dispatchLock := dispatchLock, result := result }.put pid
          (.running actor job rest))

namespace StepLemmas

variable {settings : Settings} {s s' : State} {pid : Nat}

theorem stepped_read (h : stepRead settings s pid = some s') :
    Stepped settings s (.read pid) s' := by
  unfold stepRead at h
  split at h
  · next hpid =>
    cases h
    exact .move s.dispatchLock rfl hpid .dispatch (by simp) (by simp)
  · next hpid =>
    split at h
    · cases h
      exact .move s.dispatchLock rfl hpid .cancel (by simp) (by simp)
    · cases h
      exact .finish s.dispatchLock rfl hpid (by simp)
  · next hpid =>
    split at h
    · next hread =>
      cases h
      exact .move s.dispatchLock rfl hpid (.poll hread) (by simp) (by simp)
    · cases h
      exact .finish s.dispatchLock rfl hpid (by simp)
  · next hpid =>
    split at h
    · next hstale =>
      cases h
      exact .move s.dispatchLock rfl hpid (.cleanup hstale) (by simp) (by simp)
    · cases h
      exact .finish s.dispatchLock rfl hpid (by simp)
  · cases h

theorem finish_locked (h : s.locked = none) :
    { s with locked := some pid }.finish pid = s.finish pid := by
  simp [State.finish, h]

theorem stepped_lock (h : stepLock settings s pid = some s') :
    Stepped settings s (.lock pid) s' := by
  unfold stepLock at h
  split at h
  · cases h
  next hlocked =>
  have hfree : s.locked = none := by simpa using hlocked
  dsimp only at h
  split at h
  · next hpid =>
    cases h
    exact .lock hfree hpid (.dispatch _ _ _)
  · next hpid =>
    split at h
    · next hactive =>
      cases h
      exact .lock hfree hpid (.callback _ hactive)
    · cases h
      rw [finish_locked hfree]
      exact .finish s.dispatchLock rfl hpid (by simp)
  · next hpid =>
    split at h
    · next hactive =>
      cases h
      exact .lock hfree hpid (.cancel hactive)
    · cases h
      rw [finish_locked hfree]
      exact .finish s.dispatchLock rfl hpid (by simp)
  · next hpid =>
    cases h
    exact .lock hfree hpid .poll
  · cases h

theorem stepped_check (h : stepCheck settings s pid = some s') :
    Stepped settings s (.check pid) s' := by
  unfold stepCheck at h
  split at h
  · next hpid =>
    split at h
    · cases h
      exact .finish s.dispatchLock rfl hpid (by simp)
    · next hcheck =>
      cases h
      exact .move s.dispatchLock rfl hpid (.expired hcheck) (by simp) (by simp)
    · next hcheck =>
      cases h
      exact .move s.dispatchLock rfl hpid (.admitted hcheck) (by simp) (by simp)
  · cases h

theorem stepped_run (h : stepRun s pid = some s') : Stepped settings s (.run pid) s' := by
  unfold stepRun at h
  split at h
  · next hpid =>
    cases h
    exact .finish s.dispatchLock rfl hpid fun q hq => by
      cases hq
      exact ⟨_, _, hpid⟩
  · next actor job effect rest hpid =>
    obtain ⟨s₁, heffect, rfl⟩ := Option.map_eq_some_iff.mp h
    cases effect with
    | commit held flushed =>
      simp only [stepEffect] at heffect
      split at heffect
      · next hfree =>
        cases heffect
        exact .commit hpid hfree
      · cases heffect
    | rollback =>
      cases heffect
      exact .rollback hpid
    | releaseLease =>
      cases heffect
      exact .releaseLease hpid
    | enqueue =>
      cases heffect
      exact .effect true s.dispatchLock s.result hpid (by simp) (by simp) (by simp)
    | requeue =>
      cases heffect
      exact .effect _ s.dispatchLock s.result hpid (by simp) (by simp) (by simp)
    | putResult type value ttl =>
      cases heffect
      exact .effect s.queued s.dispatchLock _ hpid (by simp) (by simp) (by simp)
    | releaseDispatchLock =>
      cases heffect
      exact .effect s.queued _ s.result hpid (by simp) (by simp) (by simp)
  · cases h

theorem keyExpiry_eq {now : Int} (h : ¬settings.executionLeaseSeconds ≤ 0) :
    now + settings.executionLeaseSeconds * second = keyExpiry settings now := by
  unfold keyExpiry
  rw [max_eq_right (by omega)]

end StepLemmas

open StepLemmas

theorem stepped_of_step {settings : Settings} {s s' : State} {a : Action}
    (h : step settings s a = some s') : Stepped settings s a s' := by
  cases a with
  | tick now =>
    simp only [step] at h
    split at h
    · next hle =>
      cases h
      exact .tick hle
    · cases h
  | pop =>
    simp only [step] at h
    split at h
    · cases h
      exact .spawn false rfl rfl (by simp)
    · cases h
  | callback verified =>
    simp only [step] at h
    split at h
    · next hsent =>
      cases h
      refine .spawn s.queued rfl rfl fun verified' heq => ?_
      cases heq
      obtain ⟨lease, hmem, hlease⟩ := List.any_eq_true.mp hsent
      exact ⟨lease, hmem, (of_decide_eq_true hlease).1⟩
    · cases h
  | cancel =>
    cases h
    exact .spawn s.queued rfl rfl (by simp)
  | poll =>
    cases h
    exact .spawn s.queued rfl rfl (by simp)
  | cleanup =>
    cases h
    exact .spawn s.queued rfl rfl (by simp)
  | acquire pid =>
    simp only [step] at h
    split at h
    · next hpid =>
      split at h
      · cases h
        exact .move _ rfl hpid .acquire (by simp) (by simp)
      · cases h
        exact .finish s.dispatchLock rfl hpid (by simp)
    · cases h
  | read pid => exact stepped_read h
  | select pid executorId =>
    simp only [step] at h
    split at h
    · next hpid =>
      cases h
      exact .move s.dispatchLock rfl hpid (.select _ _) (by simp) (by simp)
    · next hpid =>
      cases h
      exact .move s.dispatchLock rfl hpid (.unselected _) (by simp) (by simp)
    · cases h
  | reserve pid leaseId =>
    simp only [step] at h
    split at h
    · next job executorId hpid =>
      split at h
      · cases h
      next hfresh =>
      split at h
      · cases h
        exact .move s.dispatchLock rfl hpid (.unreserved _ _) (by simp) (by simp)
      next hpositive =>
      rw [keyExpiry_eq hpositive] at h
      split at h
      · next stored hset =>
        cases h
        have hstored : stored = (s.lease.setNX s.now ()
            ⟨executorId, leaseId, keyExpiry settings s.now⟩ (keyExpiry settings s.now)).1 := by
          rw [hset]
        rw [hstored]
        exact .reserve hpid hfresh rfl (by rw [hset])
      · cases h
        exact .move s.dispatchLock rfl hpid (.unreserved _ _) (by simp) (by simp)
    · cases h
  | build pid built =>
    simp only [step] at h
    split at h
    · next hpid =>
      split at h
      · next hbuilt =>
        cases h
        rw [hbuilt]
        exact .send hpid
      · cases h
        exact .move s.dispatchLock rfl hpid (.unbuilt _ _) (by simp) (by simp)
    · cases h
  | answer pid outcome =>
    simp only [step] at h
    split at h
    · next hpid =>
      cases h
      exact .move s.dispatchLock rfl hpid (.answer _ _ _) (by simp) (by simp)
    · next hpid =>
      cases h
      exact .move s.dispatchLock rfl hpid (.unanswered _ _) (by simp) (by simp)
    · cases h
  | lock pid => exact stepped_lock h
  | check pid => exact stepped_check h
  | settle pid inserted =>
    simp only [step] at h
    split at h
    · next hpid =>
      cases h
      refine .move s.dispatchLock rfl hpid (.settle _ _ _ _ inserted) (by simp) ?_
      intro callback' job' held' flushed' heq
      cases heq
      exact ⟨inserted, rfl, rfl⟩
    · cases h
  | run pid => exact stepped_run h
  | raise pid =>
    simp only [step] at h
    split at h
    · next hpid =>
      cases h
      exact .move s.dispatchLock rfl hpid (.raise .building) (by simp) (by simp)
    · next hpid =>
      cases h
      exact .move s.dispatchLock rfl hpid (.raise .inFlight) (by simp) (by simp)
    · next hpid =>
      cases h
      exact .move s.dispatchLock rfl hpid (.raise (.answered _)) (by simp) (by simp)
    · next hpid =>
      cases h
      exact .move s.dispatchLock rfl hpid (.raise (.running _ _ _)) (by simp) (by simp)
    · cases h
  | cancelled pid =>
    simp only [step] at h
    split at h
    · next hholds =>
      cases h
      obtain ⟨process, hpid, -⟩ := (Option.any_eq_true _ _).mp hholds
      exact .finish _ rfl hpid (by simp)
    · cases h
  | abort pid =>
    simp only [step] at h
    split at h
    · next hsome =>
      cases h
      obtain ⟨process, hpid⟩ := Option.isSome_iff_exists.mp hsome
      exact .finish s.dispatchLock rfl hpid (by simp)
    · cases h

/-! ## One process -/

/-- The process `pid` turns from one into the other by taking the step. -/
inductive Turns (settings : Settings) (s : State) (pid : Nat) : Action → Process → Process → Prop
  | move {a : Action} {process next : Process} (hactor : a.pid = some pid) (hrun : a ≠ .run pid)
      (hmove : Moves settings s process next) : Turns settings s pid a process next
  | lock {process next : Process} (hlock : Locks settings s process next) :
      Turns settings s pid (.lock pid) process next
  | reserve (job : MailLookupJob) (executorId leaseId : UUID) (lease : LookupLease) :
      Turns settings s pid (.reserve pid leaseId) (.reserving job executorId) (.building job lease)
  | send (job : MailLookupJob) (lease : LookupLease) :
      Turns settings s pid (.build pid true) (.building job lease) (.inFlight job lease)
  | run (actor : Actor) (job : MailLookupJob) (effect : Effect) (rest : List Effect) :
      Turns settings s pid (.run pid) (.running actor job (effect :: rest))
        (.running actor job rest)

theorem turns_of_step {settings : Settings} {s s' : State} {a : Action} {q : Nat} {next : Process}
    (hstep : step settings s a = some s') (hq : s'.processes q = some next) :
    s.processes q = some next ∨ (q = s.next ∧ next.initial = true) ∨
      ∃ process, s.processes q = some process ∧ Turns settings s q a process next := by
  have hupdate : ∀ pid (process : Option Process),
      s'.processes = Function.update s.processes pid process →
      q = pid ∧ process = some next ∨ s.processes q = some next := by
    intro pid process hprocesses
    rw [hprocesses] at hq
    rcases eq_or_ne q pid with rfl | hne
    · rw [Function.update_self] at hq
      exact .inl ⟨rfl, hq⟩
    · rw [Function.update_of_ne hne] at hq
      exact .inr hq
  cases stepped_of_step hstep with
  | tick hle => exact .inl hq
  | spawn queued hactor hinitial hcallback =>
    rcases hupdate _ _ rfl with ⟨rfl, heq⟩ | hold
    · cases heq
      exact .inr (.inl ⟨rfl, hinitial⟩)
    · exact .inl hold
  | finish dispatchLock hactor hpid hrun =>
    rcases hupdate _ _ rfl with ⟨rfl, heq⟩ | hold
    · cases heq
    · exact .inl hold
  | move dispatchLock hactor hpid hmove hrun hsettle =>
    rcases hupdate _ _ rfl with ⟨rfl, heq⟩ | hold
    · cases heq
      exact .inr (.inr ⟨_, hpid, .move hactor hrun hmove⟩)
    · exact .inl hold
  | lock hfree hpid hlock =>
    rcases hupdate _ _ rfl with ⟨rfl, heq⟩ | hold
    · cases heq
      exact .inr (.inr ⟨_, hpid, .lock hlock⟩)
    · exact .inl hold
  | reserve hpid hfresh hlease hset =>
    rcases hupdate _ _ rfl with ⟨rfl, heq⟩ | hold
    · cases heq
      exact .inr (.inr ⟨_, hpid, .reserve _ _ _ _⟩)
    · exact .inl hold
  | send hpid =>
    rcases hupdate _ _ rfl with ⟨rfl, heq⟩ | hold
    · cases heq
      exact .inr (.inr ⟨_, hpid, .send _ _⟩)
    · exact .inl hold
  | commit hpid | rollback hpid | releaseLease hpid | effect _ _ _ hpid =>
    rcases hupdate _ _ rfl with ⟨rfl, heq⟩ | hold
    · cases heq
      exact .inr (.inr ⟨_, hpid, .run _ _ _ _⟩)
    · exact .inl hold

end Trackpal.Coordinator
