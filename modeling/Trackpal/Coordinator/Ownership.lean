import Trackpal.Coordinator.HandoffAgreement

/-!
# Who releases a lock or a lease

`release_dispatch_lock` and `release_lease` name the job and not the holder. They
run at the end of a dispatch or after the commit of a callback or a poll, however
long that took, while the lock and the lease run out by themselves.

The state is annotated with what the keys do not say: the dispatch that wrote the
lock key last, the instant at which the lock of each dispatch runs out, and the
newest lease that had been reserved when a poll locked the row. A dispatch and a
callback release on behalf of their own lease, a poll on behalf of that newest one.
-/

namespace Trackpal.Coordinator

open Trackpal.Protocol Trackpal.Foundation LockingLemmas

/-- The machine, annotated with the holders. -/
structure OwnerState where
  base : State
  owner : Option Nat
  deadline : Nat → Int
  newest : Nat → Option UUID

/-- The expiry of a dispatch lock that is acquired at `now`. -/
def lockExpiry (settings : Settings) (now : Int) : Int :=
  now + max 1 settings.handoffTimeoutSeconds * second

def acquires (s : State) : Action → Option Nat
  | .acquire pid => if (s.dispatchLock.get s.now ()).isNone then some pid else none
  | _ => none

namespace OwnerState

/-- A job that nobody works on. -/
def start (job : MailLookupJob) (now : Int) : OwnerState :=
  ⟨.start job now, none, fun _ => now, fun _ => none⟩

def annotate (settings : Settings) (s : OwnerState) (a : Action) (base : State) : OwnerState where
  base := base
  owner := (acquires s.base a).or s.owner
  deadline := fun pid =>
    if acquires s.base a = some pid then lockExpiry settings s.base.now else s.deadline pid
  newest := fun pid => if a = .lock pid then s.base.used.head? else s.newest pid

def behalf (s : OwnerState) (pid : Nat) : Actor → Option UUID
  | .dispatch lease => some lease.leaseId
  | .callback callback => some callback.leaseId
  | _ => s.newest pid

end OwnerState

def stepOwner (settings : Settings) (s : OwnerState) (a : Action) : Option OwnerState :=
  (step settings s.base a).map (s.annotate settings a)

/-- No dispatch tries for the lock after the lock of a running one has run out, and a lease
is released before the next one is reserved. -/
def inOrder (s : OwnerState) : Action → Bool
  | .acquire _ => (List.range s.base.next).all fun pid =>
      (s.base.processes pid).all fun process =>
        process.holdsDispatchLock = false ∨ s.base.now < s.deadline pid
  | .run pid =>
    match s.base.processes pid with
    | some (.running actor _ (.releaseLease :: _)) => s.base.used.head? = s.behalf pid actor
    | _ => true
  | _ => true

def InOrder (s : OwnerState) (a : Action) : Prop := inOrder s a = true

/-! ## The lock key -/

inductive LockStep (settings : Settings) (s : State) : Action → State → Prop
  | acquire {pid : Nat} {s' : State} (hpid : s.processes pid = some .popped)
      (hfree : s.dispatchLock.get s.now () = none)
      (hlock : s'.dispatchLock () = some ((), lockExpiry settings s.now)) :
      LockStep settings s (.acquire pid) s'
  | release {pid : Nat} {s' : State} {actor : Actor} {job : MailLookupJob} {rest : List Effect}
      (hpid : s.processes pid = some (.running actor job (.releaseDispatchLock :: rest)))
      (hnext : s'.processes pid = some (.running actor job rest)) :
      LockStep settings s (.run pid) s'
  | cancelled {pid : Nat} {s' : State} {process : Process} (hpid : s.processes pid = some process)
      (hholds : process.holdsDispatchLock = true) (hnext : s'.processes pid = none) :
      LockStep settings s (.cancelled pid) s'
  | keep {a : Action} {s' : State} (hlock : s'.dispatchLock = s.dispatchLock)
      (hheld : ∀ pid, a = .acquire pid →
        (s.dispatchLock.get s.now ()).isSome = true ∧ s'.processes pid = none) :
      LockStep settings s a s'

namespace OwnerLemmas

variable {settings : Settings} {s s' : State} {a : Action} {pid : Nat} {process next : Process}

theorem lockStep_read (h : stepRead settings s pid = some s') :
    s'.dispatchLock = s.dispatchLock := by
  unfold stepRead at h
  repeat' split at h
  all_goals cases h <;> rfl

theorem lockStep_lock (h : stepLock settings s pid = some s') :
    s'.dispatchLock = s.dispatchLock := by
  unfold stepLock at h
  split at h
  · cases h
  dsimp only at h
  repeat' split at h
  all_goals cases h <;> rfl

theorem lockStep_check (h : stepCheck settings s pid = some s') :
    s'.dispatchLock = s.dispatchLock := by
  unfold stepCheck at h
  repeat' split at h
  all_goals cases h <;> rfl

theorem lockStep_run (h : stepRun s pid = some s') : LockStep settings s (.run pid) s' := by
  unfold stepRun at h
  split at h
  · cases h
    exact .keep rfl nofun
  · next actor job effect rest hpid =>
    obtain ⟨s₁, heffect, rfl⟩ := Option.map_eq_some_iff.mp h
    cases effect with
    | releaseDispatchLock => exact .release hpid (Function.update_self _ _ _)
    | commit held flushed =>
      simp only [stepEffect] at heffect
      split at heffect
      · cases heffect
        exact .keep rfl nofun
      · cases heffect
    | _ =>
      cases heffect
      exact .keep rfl nofun
  · cases h

end OwnerLemmas

open OwnerLemmas

/-- Every step acquires the lock, releases it, or leaves it. -/
theorem lockStep_of_step {settings : Settings} {s s' : State} {a : Action}
    (h : step settings s a = some s') : LockStep settings s a s' := by
  cases a with
  | acquire pid =>
    simp only [step] at h
    split at h
    · next hpid =>
      split at h
      · next dispatchLock hset =>
        cases h
        have hfree : s.dispatchLock.get s.now () = none := by
          have hsnd := congrArg Prod.snd hset
          rw [ExpiringStore.setNX_snd] at hsnd
          simpa using hsnd
        refine .acquire hpid hfree ?_
        have hfst := congrArg Prod.fst hset
        simp only [ExpiringStore.setNX, hfree] at hfst
        subst hfst
        show Function.update s.dispatchLock () _ () = _
        exact Function.update_self _ _ _
      · next hset =>
        cases h
        refine .keep rfl fun q heq => ?_
        cases heq
        have hsnd := congrArg Prod.snd hset
        rw [ExpiringStore.setNX_snd] at hsnd
        exact ⟨by simpa using hsnd, by simp [State.finish]⟩
    · cases h
  | read pid => exact .keep (lockStep_read h) fun q heq => by cases heq
  | lock pid => exact .keep (lockStep_lock h) fun q heq => by cases heq
  | check pid => exact .keep (lockStep_check h) fun q heq => by cases heq
  | run pid => exact lockStep_run h
  | cancelled pid =>
    simp only [step] at h
    split at h
    · next hholds =>
      cases h
      obtain ⟨process, hpid, hholds⟩ := (Option.any_eq_true _ _).mp hholds
      exact .cancelled hpid hholds (by simp [State.finish])
    · cases h
  | _ =>
    refine .keep ?_ fun q heq => by cases heq
    simp only [step] at h
    repeat' split at h
    all_goals cases h <;> rfl

/-! ## The invariant -/

def Process.LockShaped : Process → Prop
  | .running (.dispatch _) _ effects | .running .dispatcher _ effects =>
    effects = [] ∨ ∃ before, effects = before ++ endDispatch ∧ .releaseDispatchLock ∉ before
  | .running _ _ effects => .releaseDispatchLock ∉ effects
  | _ => True

/-- Who owns the keys. -/
structure OwnerInv (s : OwnerState) : Prop where
  shaped : ∀ pid process, s.base.processes pid = some process → process.LockShaped
  /-- A dispatch between acquiring and releasing owns the lock key. -/
  holds : ∀ pid process, s.base.processes pid = some process →
    process.holdsDispatchLock = true →
    s.owner = some pid ∧ s.base.dispatchLock () = some ((), s.deadline pid)
  /-- The key of the lease holds the lease reserved last. -/
  lease : ∀ lease expiry, s.base.lease () = some (lease, expiry) →
    s.base.used.head? = some lease.leaseId

namespace OwnerLemmas

variable {settings : Settings} {s s' : State} {a : Action} {pid : Nat} {process next : Process}
  {job : MailLookupJob} {actor : Actor} {effect : Effect} {rest : List Effect}

theorem lockShaped_endDispatch {lease : LookupLease} (before : List Effect)
    (h : .releaseDispatchLock ∉ before) :
    (Process.running (.dispatch lease) job (before ++ endDispatch)).LockShaped :=
  .inr ⟨before, rfl, h⟩

theorem lockShaped_dispatcher (before : List Effect) (h : .releaseDispatchLock ∉ before) :
    (Process.running .dispatcher job (before ++ endDispatch)).LockShaped :=
  .inr ⟨before, rfl, h⟩

theorem lockShaped_recheckDispatch {lease : LookupLease} {outcome : HandoffResult} {now : Int} :
    (Process.running (.dispatch lease) job
      (recheckDispatch settings job lease outcome now)).LockShaped := by
  unfold recheckDispatch handleHandoff
  repeat' split
  · exact lockShaped_endDispatch [.releaseLease, .rollback] (by simp)
  · exact lockShaped_endDispatch [_, .releaseLease] (by simp)
  · exact lockShaped_endDispatch [.releaseLease, .rollback] (by simp)
  · exact lockShaped_endDispatch [_] (by simp)
  · exact lockShaped_endDispatch [.releaseLease, .rollback] (by simp)
  · exact lockShaped_endDispatch [.releaseLease, .enqueue, _] (by simp)
  · exact lockShaped_endDispatch [.releaseLease, .enqueue, _] (by simp)
  · exact lockShaped_endDispatch [.releaseLease, .enqueue, _] (by simp)

theorem lockShaped_recheckPoll {now : Int} :
    (Process.running .poll job (recheckPoll settings job now)).LockShaped := by
  show .releaseDispatchLock ∉ recheckPoll settings job now
  unfold recheckPoll
  repeat' split
  all_goals simp

theorem lockShaped_settleEffects {callback : VerifiedCallback} {settlement : Settlement} :
    (Process.running (.callback callback) job (settleEffects settlement)).LockShaped := by
  show .releaseDispatchLock ∉ settleEffects settlement
  cases settlement with
  | rollback => simp [settleEffects]
  | commit held flushed result =>
    cases result <;> by_cases hpending : held.status = .pending <;> simp [settleEffects, hpending]

theorem lockShaped_move (h : process.LockShaped) (hmove : Moves settings s process next) :
    next.LockShaped := by
  cases hmove with
  | dispatch =>
    unfold readDispatch
    repeat' split
    · exact lockShaped_dispatcher [] (by simp)
    · exact lockShaped_dispatcher [_] (by simp)
    · exact lockShaped_dispatcher [] (by simp)
    · trivial
  | poll hread =>
    unfold readPoll at hread
    split at hread
    · cases hread
      trivial
    split at hread
    · cases hread
      simp [Process.LockShaped]
    · cases hread
  | cleanup hstale => simp [Process.LockShaped]
  | unselected job | unreserved job => exact lockShaped_dispatcher [.enqueue] (by simp)
  | unbuilt job lease | unanswered job lease => exact lockShaped_endDispatch [_, _, _] (by simp)
  | expired hcheck => simp [Process.LockShaped]
  | settle callback job held flushed inserted => exact lockShaped_settleEffects
  | raise hguard => exact lockShaped_endDispatch [.releaseLease, .rollback] (by simp)
  | _ => trivial

theorem lockShaped_lock (hlock : Locks settings s process next) : next.LockShaped := by
  cases hlock with
  | dispatch job lease outcome => exact lockShaped_recheckDispatch
  | callback callback hactive => trivial
  | cancel hactive => simp [Process.LockShaped]
  | poll => exact lockShaped_recheckPoll

theorem endDispatch_tail (h : effect :: rest = [] ∨
    ∃ before, effect :: rest = before ++ endDispatch ∧ .releaseDispatchLock ∉ before) :
    rest = [] ∨ ∃ before, rest = before ++ endDispatch ∧ .releaseDispatchLock ∉ before := by
  rcases h with hnil | ⟨before, heq, hnot⟩
  · cases hnil
  cases before with
  | nil =>
    cases heq
    exact .inl rfl
  | cons effect' before =>
    obtain ⟨-, rfl⟩ := List.cons.inj heq
    exact .inr ⟨before, rfl, fun hmem => hnot (List.mem_cons_of_mem _ hmem)⟩

theorem lockShaped_tail (h : (Process.running actor job (effect :: rest)).LockShaped) :
    (Process.running actor job rest).LockShaped := by
  cases actor with
  | dispatch lease | dispatcher => exact endDispatch_tail h
  | _ => exact fun hmem => h (List.mem_cons_of_mem _ hmem)

theorem holds_of_release
    (h : (Process.running actor job (.releaseDispatchLock :: rest)).LockShaped) :
    (Process.running actor job (.releaseDispatchLock :: rest)).holdsDispatchLock = true := by
  cases actor with
  | dispatch lease | dispatcher => simp [Process.holdsDispatchLock]
  | _ => exact absurd List.mem_cons_self h

theorem endDispatch_end (h : Effect.releaseDispatchLock :: rest = [] ∨
    ∃ before, .releaseDispatchLock :: rest = before ++ endDispatch ∧
      .releaseDispatchLock ∉ before) : rest = [] := by
  rcases h with hnil | ⟨before, heq, hnot⟩
  · cases hnil
  cases before with
  | nil =>
    cases heq
    rfl
  | cons effect before =>
    obtain ⟨rfl, -⟩ := List.cons.inj heq
    exact absurd List.mem_cons_self hnot

theorem not_holds_after_release
    (h : (Process.running actor job (.releaseDispatchLock :: rest)).LockShaped) :
    (Process.running actor job rest).holdsDispatchLock = false := by
  cases actor with
  | dispatch lease | dispatcher => simp [Process.holdsDispatchLock, endDispatch_end h]
  | _ => rfl

theorem lockShaped_step (hshaped : ∀ pid process, s.processes pid = some process →
    process.LockShaped) (hstep : step settings s a = some s') :
    ∀ pid process, s'.processes pid = some process → process.LockShaped := by
  intro pid next hnext
  rcases turns_of_step hstep hnext with hold | ⟨-, hinitial⟩ | ⟨process, hpid, hturns⟩
  · exact hshaped pid next hold
  · cases next <;> trivial
  have hbefore := hshaped pid process hpid
  cases hturns with
  | move hactor hrun hmove => exact lockShaped_move hbefore hmove
  | lock hlock => exact lockShaped_lock hlock
  | reserve | send => trivial
  | run => exact lockShaped_tail hbefore

theorem holds_of_turns (hshaped : process.LockShaped)
    (hturns : Turns settings s pid a process next) (hholds : next.holdsDispatchLock = true) :
    process.holdsDispatchLock = true ∨ process = .popped := by
  cases hturns with
  | move hactor hrun hmove =>
    cases hmove with
    | acquire => exact .inr rfl
    | poll hread =>
      unfold readPoll at hread
      split at hread
      · cases hread
        cases hholds
      split at hread
      · cases hread
        cases hholds
      · cases hread
    | raise hguard =>
      cases hguard with
      | running effect effect' rest =>
        rcases hshaped with hnil | ⟨before, heq, -⟩
        · cases hnil
        · simp [Process.holdsDispatchLock, heq, endDispatch]
      | _ => exact .inl rfl
    | cancel | cleanup | expired | admitted | settle => cases hholds
    | _ => exact .inl rfl
  | lock hlock =>
    cases hlock with
    | dispatch job lease outcome => exact .inl rfl
    | _ => cases hholds
  | reserve | send => exact .inl rfl
  | run actor job effect rest =>
    refine .inl ?_
    cases actor with
    | dispatch lease | dispatcher =>
      simp only [Process.holdsDispatchLock, decide_eq_true_eq] at hholds ⊢
      exact List.mem_cons_of_mem _ hholds
    | _ => cases hholds

theorem not_holds_initial (h : process.initial = true) : process.holdsDispatchLock = false := by
  cases process <;> first | rfl | cases h

theorem acquire_of_popped (hstep : step settings s a = some s') (hactor : a.pid = some pid)
    (hpid : s.processes pid = some .popped) (hnext : s'.processes pid = some next) :
    a = .acquire pid := by
  cases a with
  | acquire q =>
    cases hactor
    rfl
  | abort q =>
    cases hactor
    simp only [step, hpid, Option.isSome_some, if_true, Option.some.injEq] at hstep
    subst hstep
    simp [State.finish] at hnext
  | tick | pop | callback | cancel | poll | cleanup => cases hactor
  | _ =>
    cases hactor
    simp [step, stepRead, stepLock, stepRun, stepCheck, hpid, Process.holdsDispatchLock] at hstep

theorem pid_of_turns (hturns : Turns settings s pid a process next) : a.pid = some pid := by
  cases hturns with
  | move hactor => exact hactor
  | _ => rfl

end OwnerLemmas

section
variable {settings : Settings} {s : OwnerState} {a : Action} {base : State} {q : Nat}
  {before next : Process}

/-- A dispatch that holds the lock before the step and after it keeps the key, and nobody
else acquires it. -/
theorem OwnerInv.lock_kept (hconsistent : Consistent s.base) (h : OwnerInv s) (hok : InOrder s a)
    (hlock : LockStep settings s.base a base) (hq : s.base.processes q = some before)
    (hbefore : before.holdsDispatchLock = true) (hnext : base.processes q = some next)
    (hholds : next.holdsDispatchLock = true) :
    base.dispatchLock = s.base.dispatchLock ∧ acquires s.base a = none := by
  obtain ⟨howner, hkey⟩ := h.holds q before hq hbefore
  cases hlock with
  | acquire hpid hfree hlock =>
    -- the lock of `q` has not run out, so nobody acquires it
    have hall := List.all_eq_true.mp hok q (List.mem_range.mpr (hconsistent.started q before hq))
    simp only [hq, Option.all_some, hbefore, Bool.true_eq_false, false_or, decide_eq_true_eq]
      at hall
    have hlive : s.base.dispatchLock.get s.base.now () = some () :=
      ExpiringStore.get_eq_some_iff.mpr ⟨_, hkey, hall⟩
    rw [hfree] at hlive
    cases hlive
  | release hpid hrest =>
    have hshaped := h.shaped _ _ hpid
    obtain ⟨howner', -⟩ := h.holds _ _ hpid (holds_of_release hshaped)
    obtain rfl : _ = q := Option.some.inj (howner'.symm.trans howner)
    rw [hrest] at hnext
    cases hnext
    rw [not_holds_after_release hshaped] at hholds
    cases hholds
  | cancelled hpid hcancelled hgone =>
    obtain ⟨howner', -⟩ := h.holds _ _ hpid hcancelled
    obtain rfl : _ = q := Option.some.inj (howner'.symm.trans howner)
    rw [hgone] at hnext
    cases hnext
  | keep hlock hheld =>
    refine ⟨hlock, ?_⟩
    cases a with
    | acquire pid =>
      obtain ⟨value, hvalue⟩ := Option.isSome_iff_exists.mp (hheld pid rfl).1
      simp [acquires, hvalue]
    | _ => rfl

theorem OwnerInv.holds_step (hconsistent : Consistent s.base) (h : OwnerInv s)
    (hok : InOrder s a) (hstep : step settings s.base a = some base)
    (hnext : base.processes q = some next) (hholds : next.holdsDispatchLock = true) :
    (s.annotate settings a base).owner = some q ∧
      base.dispatchLock () = some ((), (s.annotate settings a base).deadline q) := by
  have hlock := lockStep_of_step hstep
  have hkept : ∀ before, s.base.processes q = some before → before.holdsDispatchLock = true →
      (s.annotate settings a base).owner = some q ∧
        base.dispatchLock () = some ((), (s.annotate settings a base).deadline q) := by
    intro before hq hbefore
    obtain ⟨hsame, hnobody⟩ := h.lock_kept hconsistent hok hlock hq hbefore hnext hholds
    obtain ⟨howner, hkey⟩ := h.holds q before hq hbefore
    simp [OwnerState.annotate, hnobody, hsame, howner, hkey]
  rcases turns_of_step hstep hnext with hold | ⟨-, hinitial⟩ | ⟨process, hpid, hturns⟩
  · exact hkept next hold hholds
  · rw [not_holds_initial hinitial] at hholds
    cases hholds
  rcases holds_of_turns (h.shaped q process hpid) hturns hholds with hbefore | rfl
  · exact hkept process hpid hbefore
  · obtain rfl := acquire_of_popped hstep (pid_of_turns hturns) hpid hnext
    cases hlock with
    | acquire _ hfree hset => simp [OwnerState.annotate, acquires, hfree, hset]
    | keep _ hheld =>
      rw [(hheld q rfl).2] at hnext
      cases hnext

theorem OwnerInv.lease_step (h : OwnerInv s) (hstep : step settings s.base a = some base)
    {lease : LookupLease} {expiry : Int} (hkey : base.lease () = some (lease, expiry)) :
    base.used.head? = some lease.leaseId := by
  cases stepped_of_step hstep with
  | @reserve pid job executorId leaseId reserved hpid hfresh hlease hset =>
    have habsent : (s.base.lease.get s.base.now ()).isSome = false := by
      rw [ExpiringStore.setNX_snd] at hset
      simpa using hset
    simp only [State.put, ExpiringStore.setNX, habsent, Bool.false_eq_true, if_false,
      ExpiringStore.set, Function.update_self, Option.some.injEq, Prod.mk.injEq] at hkey
    rw [← hkey.1, hlease]
    rfl
  | releaseLease hpid => simp [State.put, ExpiringStore.del] at hkey
  | _ => exact h.lease lease expiry hkey

theorem OwnerInv.of_step {s' : OwnerState} (hconsistent : Consistent s.base) (h : OwnerInv s)
    (hok : InOrder s a) (hstep : stepOwner settings s a = some s') : OwnerInv s' := by
  obtain ⟨base, hbase, rfl⟩ := Option.map_eq_some_iff.mp hstep
  exact ⟨lockShaped_step h.shaped hbase, fun q next => h.holds_step hconsistent hok hbase,
    fun lease expiry => h.lease_step hbase⟩

end

/-! ## Runs -/

theorem base_reachable {settings : Settings} {ok : OwnerState → Action → Prop}
    {job : MailLookupJob} {start : Int} {s : OwnerState}
    (h : Reaches (stepOwner settings) ok (.start job start) s) :
    Reachable settings Always job start s.base := by
  induction h with
  | refl => exact .refl
  | tail _ _ hstep ih =>
    obtain ⟨base, hbase, rfl⟩ := Option.map_eq_some_iff.mp hstep
    exact .tail ih trivial hbase

theorem ownerInv_start {job : MailLookupJob} {start : Int} :
    OwnerInv (OwnerState.start job start) := by
  constructor <;> simp [OwnerState.start, State.start, ExpiringStore.empty]

theorem ownerInv_of_reachable {settings : Settings} {job : MailLookupJob} {start : Int}
    {s : OwnerState} (h : Reaches (stepOwner settings) InOrder (.start job start) s) :
    OwnerInv s := by
  refine h.invariant_with (J := fun s => Consistent s.base)
    (fun _ hs => consistent_of_reachable (base_reachable hs)) ownerInv_start ?_
  intro s a s' hconsistent hs hok hstep
  exact hs.of_step hconsistent hok hstep

/-- In every run in order, at most one dispatch is between acquiring and releasing the lock,
the lock that a dispatch releases is its own, and so is the lease that a process releases. -/
theorem released_by_holder (settings : Settings) (job : MailLookupJob) (start : Int)
    (s : OwnerState) (h : Reaches (stepOwner settings) InOrder (.start job start) s) :
    (∀ pid q process process', s.base.processes pid = some process →
      s.base.processes q = some process' → process.holdsDispatchLock = true →
      process'.holdsDispatchLock = true → pid = q) ∧
    (∀ pid process, s.base.processes pid = some process → process.holdsDispatchLock = true →
      s.owner = some pid) ∧
    (∀ pid actor loaded rest,
      s.base.processes pid = some (.running actor loaded (.releaseDispatchLock :: rest)) →
      s.owner = some pid) ∧
    (∀ pid actor loaded rest lease,
      s.base.processes pid = some (.running actor loaded (.releaseLease :: rest)) →
      InOrder s (.run pid) → s.base.storedLease = some lease →
      s.behalf pid actor = some lease.leaseId) := by
  have hinv := ownerInv_of_reachable h
  refine ⟨?_, fun pid process hpid hholds => (hinv.holds pid process hpid hholds).1, ?_, ?_⟩
  · intro pid q process process' hpid hq hholds hholds'
    have howner := (hinv.holds pid process hpid hholds).1
    have howner' := (hinv.holds q process' hq hholds').1
    exact Option.some.inj (howner.symm.trans howner')
  · intro pid actor loaded rest hpid
    exact (hinv.holds pid _ hpid (holds_of_release (hinv.shaped pid _ hpid))).1
  · intro pid actor loaded rest lease hpid hok hstored
    obtain ⟨expiry, hkey, -⟩ := ExpiringStore.get_eq_some_iff.mp hstored
    simp only [InOrder, inOrder, hpid, decide_eq_true_eq] at hok
    rw [← hok]
    exact hinv.lease lease expiry hkey

/-- The handoff of a lease gets no answer. -/
def exUnanswered : List Action := exHandoff ++ [.answer 0 none, .run 0]

/-- The lock that the dispatch holds and the lease that it is about to release are its own. -/
theorem exUnanswered_releases : ∃ s rest,
    Reaches (stepOwner Settings.default) InOrder (.start exJob 0) s ∧
    s.base.processes 0 = some (.running (.dispatch exLease) exJob (.releaseLease :: rest)) ∧
    s.base.storedLease = some exLease ∧ s.owner = some 0 ∧
    s.behalf 0 (.dispatch exLease) = some exLease.leaseId := by
  have hrun : (execWhere (stepOwner Settings.default) inOrder (.start exJob 0) exUnanswered).map
      (fun s => (s.base.processes 0, s.base.storedLease, inOrder s (.run 0))) =
        some (some (.running (.dispatch exLease) exJob (.releaseLease ::
          .commit (withDispatchError exJob (some "executor handoff transport failed")) [] ::
          endDispatch)), some exLease, true) := by
    decide +kernel
  obtain ⟨s, hs, hfacts⟩ := Option.map_eq_some_iff.mp hrun
  simp only [Prod.mk.injEq] at hfacts
  obtain ⟨hpid, hstored, hok⟩ := hfacts
  have hreach : Reaches (stepOwner Settings.default) InOrder (.start exJob 0) s :=
    reaches_of_execWhere hs
  obtain ⟨-, howner, -, hlease⟩ := released_by_holder _ _ _ s hreach
  exact ⟨s, _, hreach, hpid, hstored, howner 0 _ hpid (by decide), hlease 0 _ _ _ _ hpid hok hstored⟩

/-- A handoff takes 91 seconds, while a poll puts the job back and a second dispatch
begins. -/
def exOutlived : List Action :=
  exHandoff ++ [Action.tick (91 * second), .poll, .read 1, .run 1, .pop, .acquire 2, .answer 0 none,
    .run 0, .run 0, .run 0]

/-- The first dispatch then releases the lock of the second. -/
theorem handoff_outlives_lock :
    ¬ ∀ (settings : Settings) (job : MailLookupJob) (start : Int) (s : OwnerState),
      Reaches (stepOwner settings) Always (.start job start) s →
      ∀ pid actor loaded rest,
        s.base.processes pid = some (.running actor loaded (.releaseDispatchLock :: rest)) →
        s.owner = some pid := by
  intro h
  have hrun : (exec (stepOwner Settings.default) (.start exJob 0) exOutlived).map
      (fun s => (s.base.processes 0, s.base.processes 2, s.owner)) =
        some (some (.running (.dispatch exLease) exJob [.releaseDispatchLock]),
          some .dispatching, some 2) := by
    decide +kernel
  obtain ⟨s, hs, hfacts⟩ := Option.map_eq_some_iff.mp hrun
  simp only [Prod.mk.injEq] at hfacts
  have howner := h _ _ _ s (reaches_of_exec hs) 0 _ _ _ hfacts.1
  rw [hfacts.2.2] at howner
  cases howner

end Trackpal.Coordinator
