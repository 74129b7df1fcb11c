import Trackpal.Coordinator.Locking

/-!
# Who acts for which lease

A dispatch reserves a lease under a fresh id, sends it to one executor and keeps
it until its handoff has been settled. A callback acts for a lease that was sent.
No step lets a process act for a lease that it did not act for before, apart from
the reservation itself.

Results:
1. `inherited_or_reserves`: where the leases of the processes come from.
2. `ledger_of_reachable`: every lease id in use was reserved once, by one dispatch.
-/

namespace Trackpal.Coordinator

open Trackpal.Protocol Trackpal.Foundation LockingLemmas

namespace Process

def reservedLease : Process → Option LookupLease
  | .building _ lease | .inFlight _ lease | .answered _ lease _
  | .running (.dispatch lease) _ _ => some lease
  | _ => none

/-- The lease of a dispatch whose handoff can still put the job in `processing`. -/
def pendingLease : Process → Option LookupLease
  | .building _ lease | .inFlight _ lease => some lease
  | .answered _ lease outcome => if handoffAccepted lease outcome then some lease else none
  | .running (.dispatch lease) _ (.commit _ [.processing] :: _) => some lease
  | _ => none

def callbackLease : Process → Option UUID
  | .completing callback | .checking callback _ | .settling callback _ _ _
  | .running (.callback callback) _ _ => some callback.leaseId
  | _ => none

/-- In what order a process commits and releases the lease. -/
def Shaped : Process → Prop
  /- A handoff is committed first or not at all. -/
  | .running (.dispatch _) _ effects => ∀ held, .commit held [.processing] ∉ effects.tail
  /- A callback does not leave the job in `processing`. -/
  | .running (.callback _) _ effects =>
    ∀ held flushed, .commit held flushed ∈ effects → flushed ≠ [] ∧ held.status ≠ .processing
  /- A poll that releases the lease ends the job before. -/
  | .running .poll _ effects =>
    .releaseLease ∈ effects → ∀ held flushed, .commit held flushed ∈ effects →
      flushed ≠ [] ∧ held.status = .timeout
  | .running _ _ effects => .releaseLease ∉ effects
  | _ => True

/-- The process `process` acts for no lease that `before` did not act for. -/
structure Inherits (before process : Process) : Prop where
  reserved : ∀ lease, process.reservedLease = some lease → before.reservedLease = some lease
  pending : ∀ lease, process.pendingLease = some lease → before.pendingLease = some lease
  callback : ∀ leaseId, process.callbackLease = some leaseId → before.callbackLease = some leaseId

end Process

/-- The dispatch `pid` has reserved the lease. -/
def Reserved (s : State) (pid : Nat) (lease : LookupLease) : Prop :=
  ∃ process, s.processes pid = some process ∧ process.reservedLease = some lease

/-- The handoff of the dispatch `pid` is pending under the lease. -/
def Pending (s : State) (pid : Nat) (lease : LookupLease) : Prop :=
  ∃ process, s.processes pid = some process ∧ process.pendingLease = some lease

/-- The process `pid` delivers a callback for the lease. -/
def Delivers (s : State) (pid : Nat) (leaseId : UUID) : Prop :=
  ∃ process, s.processes pid = some process ∧ process.callbackLease = some leaseId

/-- The leases of `s'` are leases of `s`, held by the same processes. -/
structure Inherited (s s' : State) : Prop where
  reserved : ∀ pid lease, Reserved s' pid lease → Reserved s pid lease
  pending : ∀ pid lease, Pending s' pid lease → Pending s pid lease
  delivers : ∀ pid leaseId, Delivers s' pid leaseId → Delivers s pid leaseId ∨ leaseId ∈ s.used
  used : s'.used = s.used

/-- The dispatch `pid` reserves a lease under a fresh id. -/
structure Reserves (settings : Settings) (s : State) (pid : Nat) (lease : LookupLease)
    (s' : State) : Prop where
  fresh : lease.leaseId ∉ s.used
  expires : lease.expiresAt = keyExpiry settings s.now
  absent : s.lease.get s.now () = none
  stored : s'.lease = s.lease.set () lease lease.expiresAt
  reserved : ∀ q lease', Reserved s' q lease' → q = pid ∧ lease' = lease ∨ Reserved s q lease'
  pending : ∀ q lease', Pending s' q lease' → q = pid ∧ lease' = lease ∨ Pending s q lease'
  delivers : ∀ q leaseId, Delivers s' q leaseId → Delivers s q leaseId
  used : s'.used = lease.leaseId :: s.used
  kept : s'.now = s.now ∧ s'.row = s.row ∧ s'.applied = s.applied ∧ s'.execution = s.execution

namespace LeaseLemmas

variable {settings : Settings} {s s' : State} {pid : Nat} {a : Action} {process next : Process}
  {job held : MailLookupJob} {actor : Actor} {flushed : List JobStatus} {effect : Effect}
  {rest : List Effect} {lease : LookupLease}

/-! ## Shapes -/

theorem shaped_recheckDispatch {outcome : HandoffResult} {now : Int} :
    (Process.running (.dispatch lease) job
      (recheckDispatch settings job lease outcome now)).Shaped := by
  intro held
  unfold recheckDispatch handleHandoff
  repeat' split
  all_goals simp [endDispatch]

theorem shaped_recheckPoll {now : Int} :
    (Process.running .poll job (recheckPoll settings job now)).Shaped := by
  intro hrelease held flushed hmem
  unfold recheckPoll at hrelease hmem
  split at hrelease
  · next hexpired =>
    rw [if_pos hexpired] at hmem
    split at hrelease
    · next held' hheld' =>
      rw [hheld'] at hmem
      simp only [List.mem_cons, Effect.commit.injEq, reduceCtorEq, List.not_mem_nil,
        or_false] at hmem
      obtain ⟨rfl, rfl⟩ := hmem
      exact ⟨by simp, (transitionStatus_eq_some hheld').1⟩
    · simp at hrelease
  · simp at hrelease

theorem shaped_settleEffects {callback : VerifiedCallback} {outcome : LookupOutcome}
    {inserted : Bool} {now : Int} (hheld : held.status = .processing) :
    (Process.running (.callback callback) job
      (settleEffects (settleCallback settings held flushed outcome inserted now))).Shaped := by
  intro held' flushed' hmem
  cases hsettle : settleCallback settings held flushed outcome inserted now with
  | rollback => simp [hsettle, settleEffects] at hmem
  | commit held'' flushed'' result =>
    obtain ⟨rfl, hvalid⟩ := settleCallback_eq_commit hsettle
    rw [hheld] at hvalid
    have heq : held' = held'' ∧ flushed' = flushed ++ [held''.status] := by
      rw [hsettle] at hmem
      cases result <;> by_cases hpending : held''.status = .pending <;>
        simpa [settleEffects, hpending] using hmem
    obtain ⟨rfl, rfl⟩ := heq
    exact ⟨by simp, ne_processing_of_valid hvalid⟩

theorem shaped_move (hsound : Sound s pid process)
    (hmove : Moves settings s process next) : next.Shaped := by
  cases hmove with
  | dispatch =>
    unfold readDispatch
    repeat' split
    all_goals simp [Process.Shaped, endDispatch]
  | poll hread =>
    unfold readPoll at hread
    split at hread
    · cases hread
      trivial
    split at hread
    · cases hread
      simp [Process.Shaped]
    · cases hread
  | expired hcheck =>
    obtain ⟨hstatus, -⟩ := admitCallback_eq_expired hcheck
    intro held' flushed' hmem
    simp only [List.mem_cons, Effect.commit.injEq, reduceCtorEq, List.not_mem_nil,
      or_false] at hmem
    obtain ⟨rfl, rfl⟩ := hmem
    simp [hstatus]
  | settle callback job held flushed inserted => exact shaped_settleEffects hsound.2.2.2.1
  | _ => simp [Process.Shaped, endDispatch]

theorem shaped_lock (hlock : Locks settings s process next) : next.Shaped := by
  cases hlock with
  | dispatch job lease outcome => exact shaped_recheckDispatch
  | callback callback hactive => trivial
  | cancel hactive => simp [Process.Shaped]
  | poll => exact shaped_recheckPoll

theorem shaped_tail (h : (Process.running actor job (effect :: rest)).Shaped) :
    (Process.running actor job rest).Shaped := by
  cases actor with
  | dispatch lease => exact fun held hmem => h held (List.mem_of_mem_tail hmem)
  | callback callback =>
    exact fun held flushed hmem => h held flushed (List.mem_cons_of_mem _ hmem)
  | poll =>
    exact fun hrelease held flushed hmem =>
      h (List.mem_cons_of_mem _ hrelease) held flushed (List.mem_cons_of_mem _ hmem)
  | dispatcher | cancel | cleanup =>
    exact fun hrelease => h (List.mem_cons_of_mem _ hrelease)

/-! ## Moves -/

theorem inherits_refl : process.Inherits process := ⟨fun _ h => h, fun _ h => h, fun _ h => h⟩

theorem inherits_move (hmove : Moves settings s process next) : process.Inherits next := by
  cases hmove with
  | dispatch =>
    unfold readDispatch
    repeat' split
    all_goals constructor <;>
      simp [Process.reservedLease, Process.pendingLease, Process.callbackLease]
  | poll hread =>
    unfold readPoll at hread
    split at hread
    · cases hread
      constructor <;> simp [Process.reservedLease, Process.pendingLease, Process.callbackLease]
    split at hread
    · cases hread
      constructor <;> simp [Process.reservedLease, Process.pendingLease, Process.callbackLease]
    · cases hread
  | raise hguard =>
    cases hguard <;> constructor <;>
      simp [Process.reservedLease, Process.pendingLease, Process.callbackLease]
  | _ =>
    constructor <;> simp [Process.reservedLease, Process.pendingLease, Process.callbackLease]

theorem pendingLease_recheck {outcome : HandoffResult} {now : Int} {lease' : LookupLease}
    (h : (Process.running (.dispatch lease) job
      (recheckDispatch settings job lease outcome now)).pendingLease = some lease') :
    handoffAccepted lease outcome = true ∧ lease = lease' := by
  unfold recheckDispatch handleHandoff at h
  split at h
  · cases h
  split at h
  · split at h <;> cases h
  split at h
  · next haccepted =>
    split at h
    · exact ⟨haccepted, Option.some.inj h⟩
    · cases h
  split at h
  · cases h
  split at h <;> cases h

theorem inherits_lock (hlock : Locks settings s process next) : process.Inherits next := by
  cases hlock with
  | dispatch job lease outcome =>
    refine ⟨fun _ h => h, fun lease' h => ?_, by simp [Process.callbackLease]⟩
    obtain ⟨haccepted, rfl⟩ := pendingLease_recheck h
    exact if_pos haccepted
  | _ =>
    constructor <;> simp [Process.reservedLease, Process.pendingLease, Process.callbackLease]

theorem inherits_tail (h : (Process.running actor job (effect :: rest)).Shaped) :
    (Process.running actor job (effect :: rest)).Inherits (.running actor job rest) := by
  refine ⟨?_, ?_, ?_⟩
  · cases actor <;> exact fun _ h => h
  · intro lease' hpending
    cases actor with
    | dispatch lease =>
      unfold Process.pendingLease at hpending
      split at hpending
      · simp_all
      · simp_all
      · simp_all
      · next heq =>
        cases heq
        exact absurd List.mem_cons_self (h _)
      · cases hpending
    | _ => simp [Process.pendingLease] at hpending
  · cases actor <;> exact fun _ h => h

theorem inherited_update {next : Option Process} (hused : s'.used = s.used)
    (hprocesses : s'.processes = Function.update s.processes pid next)
    (hnext : ∀ process, next = some process →
      ∃ before, s.processes pid = some before ∧ before.Inherits process) : Inherited s s' := by
  have hcases : ∀ q process, s'.processes q = some process →
      ∃ before, s.processes q = some before ∧ before.Inherits process := by
    intro q process hq
    rcases eq_or_ne q pid with rfl | hne
    · rw [hprocesses, Function.update_self] at hq
      exact hnext process hq
    · rw [hprocesses, Function.update_of_ne hne] at hq
      exact ⟨process, hq, inherits_refl⟩
  refine ⟨?_, ?_, ?_, hused⟩
  · rintro q lease ⟨process, hq, hlease⟩
    obtain ⟨before, hbefore, hinherits⟩ := hcases q process hq
    exact ⟨before, hbefore, hinherits.reserved lease hlease⟩
  · rintro q lease ⟨process, hq, hlease⟩
    obtain ⟨before, hbefore, hinherits⟩ := hcases q process hq
    exact ⟨before, hbefore, hinherits.pending lease hlease⟩
  · rintro q leaseId ⟨process, hq, hlease⟩
    obtain ⟨before, hbefore, hinherits⟩ := hcases q process hq
    exact .inl ⟨before, hbefore, hinherits.callback leaseId hlease⟩

end LeaseLemmas

open LeaseLemmas

/-- Every lease id in use was reserved once, by one dispatch. -/
structure Ledger (s : State) : Prop where
  reserved : ∀ pid lease, Reserved s pid lease → lease.leaseId ∈ s.used
  distinct : ∀ pid q lease lease', Reserved s pid lease → Reserved s q lease' →
    lease.leaseId = lease'.leaseId → pid = q
  delivers : ∀ pid leaseId, Delivers s pid leaseId → leaseId ∈ s.used
  sent : ∀ lease ∈ s.sent, lease.leaseId ∈ s.used
  applied : ∀ leaseId ∈ s.applied, leaseId ∈ s.used
  shaped : ∀ pid process, s.processes pid = some process → process.Shaped

namespace LeaseLemmas

variable {settings : Settings} {s s' : State} {pid : Nat} {a : Action}

theorem pending_reserved {lease : LookupLease} (h : Pending s pid lease) :
    Reserved s pid lease := by
  obtain ⟨process, hpid, hpending⟩ := h
  refine ⟨process, hpid, ?_⟩
  unfold Process.pendingLease at hpending
  split at hpending
  · exact hpending
  · exact hpending
  · split at hpending
    · exact hpending
    · cases hpending
  · exact hpending
  · cases hpending

theorem inherited_or_reserves (h : Ledger s) (hstep : step settings s a = some s') :
    Inherited s s' ∨ ∃ pid lease, Reserves settings s pid lease s' := by
  cases stepped_of_step hstep with
  | tick hle =>
    exact .inl ⟨fun _ _ h => h, fun _ _ h => h, fun _ _ h => .inl h, rfl⟩
  | @spawn _ process queued hactor hinitial hcallback =>
    refine .inl ⟨?_, ?_, ?_, rfl⟩
    all_goals
      rintro q lease ⟨process', hq, hlease⟩
      rcases eq_or_ne q s.next with rfl | hne
    · obtain rfl : process = process' := by simpa [State.spawn] using hq
      cases process <;> simp [Process.initial, Process.reservedLease] at hinitial hlease
    · exact ⟨process', by simpa [State.spawn, Function.update_of_ne hne] using hq, hlease⟩
    · obtain rfl : process = process' := by simpa [State.spawn] using hq
      cases process <;> simp [Process.initial, Process.pendingLease] at hinitial hlease
    · exact ⟨process', by simpa [State.spawn, Function.update_of_ne hne] using hq, hlease⟩
    · obtain rfl : process = process' := by simpa [State.spawn] using hq
      cases process with
      | completing verified =>
        obtain ⟨sent, hsent, hid⟩ := hcallback verified rfl
        obtain rfl : verified.leaseId = lease := Option.some.inj hlease
        exact .inr (hid ▸ h.sent sent hsent)
      | _ => simp [Process.initial, Process.callbackLease] at hinitial hlease
    · exact .inl ⟨process', by simpa [State.spawn, Function.update_of_ne hne] using hq, hlease⟩
  | finish dispatchLock hactor hpid hrun => exact .inl (inherited_update rfl rfl (by simp))
  | move dispatchLock hactor hpid hmove =>
    refine .inl (inherited_update rfl rfl fun process heq => ?_)
    cases heq
    exact ⟨_, hpid, inherits_move hmove⟩
  | lock hfree hpid hlock =>
    refine .inl (inherited_update rfl rfl fun process heq => ?_)
    cases heq
    exact ⟨_, hpid, inherits_lock hlock⟩
  | @reserve pid job executorId leaseId lease hpid hfresh hlease hset =>
    have habsent : s.lease.get s.now () = none := by
      rw [ExpiringStore.setNX_snd, Option.isNone_iff_eq_none] at hset
      exact hset
    refine .inr ⟨pid, lease, ?_, by rw [hlease], habsent, ?_, ?_, ?_, ?_, ?_, rfl, rfl, rfl, rfl⟩
    · rw [hlease]
      exact hfresh
    · simp [State.put, ExpiringStore.setNX, habsent]
    · rintro q lease' ⟨process, hq, hlease'⟩
      rcases eq_or_ne q pid with rfl | hne
      · obtain rfl : Process.building job lease = process := by simpa [State.put] using hq
        exact .inl ⟨rfl, (Option.some.inj hlease').symm⟩
      · exact .inr ⟨process, by simpa [State.put, Function.update_of_ne hne] using hq, hlease'⟩
    · rintro q lease' ⟨process, hq, hlease'⟩
      rcases eq_or_ne q pid with rfl | hne
      · obtain rfl : Process.building job lease = process := by simpa [State.put] using hq
        exact .inl ⟨rfl, (Option.some.inj hlease').symm⟩
      · exact .inr ⟨process, by simpa [State.put, Function.update_of_ne hne] using hq, hlease'⟩
    · rintro q leaseId' ⟨process, hq, hlease'⟩
      rcases eq_or_ne q pid with rfl | hne
      · obtain rfl : Process.building job lease = process := by simpa [State.put] using hq
        cases hlease'
      · exact ⟨process, by simpa [State.put, Function.update_of_ne hne] using hq, hlease'⟩
    · simp [State.put, hlease]
  | send hpid =>
    refine .inl (inherited_update rfl rfl fun process heq => ?_)
    cases heq
    exact ⟨_, hpid, fun _ h => h, fun _ h => h, fun _ h => h⟩
  | commit hpid | rollback hpid | releaseLease hpid | effect _ _ _ hpid =>
    refine .inl (inherited_update rfl rfl fun process heq => ?_)
    cases heq
    exact ⟨_, hpid, inherits_tail (h.shaped _ _ hpid)⟩

theorem used_step (h : Ledger s) (hstep : step settings s a = some s') {leaseId : UUID}
    (hmem : leaseId ∈ s.used) : leaseId ∈ s'.used := by
  rcases inherited_or_reserves h hstep with hinherited | ⟨pid, lease, hreserves⟩
  · rw [hinherited.used]
    exact hmem
  · rw [hreserves.used]
    exact List.mem_cons_of_mem _ hmem

theorem sent_step (h : Ledger s) (hstep : step settings s a = some s') {lease : LookupLease}
    (hmem : lease ∈ s'.sent) : lease.leaseId ∈ s.used := by
  cases stepped_of_step hstep with
  | @send pid job lease' hpid =>
    rcases List.mem_cons.mp hmem with rfl | hmem
    · exact h.reserved pid lease ⟨_, hpid, rfl⟩
    · exact h.sent lease hmem
  | _ => exact h.sent lease hmem

theorem applied_step (hconsistent : Consistent s) (h : Ledger s)
    (hstep : step settings s a = some s') {leaseId : UUID} (hmem : leaseId ∈ s'.applied) :
    leaseId ∈ s.used := by
  rcases commits_or_keeps hconsistent hstep with
    ⟨pid, actor, job, held, flushed, rest, -, hpid, -, -, rfl⟩ | ⟨-, -, -, happlied, -⟩
  · cases actor with
    | callback verified =>
      rcases List.mem_cons.mp hmem with rfl | hmem
      · exact h.delivers pid _ ⟨_, hpid, rfl⟩
      · exact h.applied _ hmem
    | _ => exact h.applied _ hmem
  · rw [happlied] at hmem
    exact h.applied _ hmem

theorem shaped_update {next : Option Process} (h : Ledger s)
    (hprocesses : s'.processes = Function.update s.processes pid next)
    (hnext : ∀ process, next = some process → process.Shaped) :
    ∀ q process, s'.processes q = some process → process.Shaped := by
  intro q process hq
  rcases eq_or_ne q pid with rfl | hne
  · rw [hprocesses, Function.update_self] at hq
    exact hnext process hq
  · rw [hprocesses, Function.update_of_ne hne] at hq
    exact h.shaped q process hq

theorem shaped_step (hconsistent : Consistent s) (h : Ledger s)
    (hstep : step settings s a = some s') :
    ∀ pid process, s'.processes pid = some process → process.Shaped := by
  cases stepped_of_step hstep with
  | tick hle => exact h.shaped
  | @spawn _ process queued hactor hinitial hcallback =>
    refine shaped_update h rfl fun process' heq => ?_
    cases heq
    cases process <;> trivial
  | finish dispatchLock hactor hpid hrun => exact shaped_update h rfl (by simp)
  | move dispatchLock hactor hpid hmove =>
    refine shaped_update h rfl fun process heq => ?_
    cases heq
    exact shaped_move (hconsistent.sound _ _ hpid) hmove
  | lock hfree hpid hlock =>
    refine shaped_update h rfl fun process heq => ?_
    cases heq
    exact shaped_lock hlock
  | reserve hpid | send hpid =>
    refine shaped_update h rfl fun process heq => ?_
    cases heq
    trivial
  | commit hpid | rollback hpid | releaseLease hpid | effect _ _ _ hpid =>
    refine shaped_update h rfl fun process heq => ?_
    cases heq
    exact shaped_tail (h.shaped _ _ hpid)

theorem ledger_start {job : MailLookupJob} {start : Int} : Ledger (State.start job start) := by
  constructor <;> simp [State.start, Reserved, Delivers]

theorem ledger_step (hconsistent : Consistent s) (h : Ledger s)
    (hstep : step settings s a = some s') : Ledger s' where
  reserved pid lease hreserved := by
    rcases inherited_or_reserves h hstep with hinherited | ⟨q, lease', hreserves⟩
    · exact used_step h hstep (h.reserved pid lease (hinherited.reserved pid lease hreserved))
    rcases hreserves.reserved pid lease hreserved with ⟨-, rfl⟩ | hold
    · rw [hreserves.used]
      exact List.mem_cons_self
    · exact used_step h hstep (h.reserved pid lease hold)
  distinct pid q lease lease' hpid hq heq := by
    rcases inherited_or_reserves h hstep with hinherited | ⟨p, fresh, hreserves⟩
    · exact h.distinct pid q lease lease' (hinherited.reserved _ _ hpid)
        (hinherited.reserved _ _ hq) heq
    -- The id of the new lease is the id of no lease reserved before.
    rcases hreserves.reserved pid lease hpid with ⟨rfl, rfl⟩ | hpid <;>
      rcases hreserves.reserved q lease' hq with ⟨rfl, rfl⟩ | hq
    · rfl
    · exact absurd (heq ▸ h.reserved _ _ hq) hreserves.fresh
    · exact absurd (heq ▸ h.reserved _ _ hpid) hreserves.fresh
    · exact h.distinct pid q lease lease' hpid hq heq
  delivers pid leaseId hdelivers := by
    rcases inherited_or_reserves h hstep with hinherited | ⟨q, lease, hreserves⟩
    · rcases hinherited.delivers pid leaseId hdelivers with hold | hused
      · exact used_step h hstep (h.delivers pid leaseId hold)
      · exact used_step h hstep hused
    · exact used_step h hstep (h.delivers pid leaseId (hreserves.delivers pid leaseId hdelivers))
  sent lease hmem := used_step h hstep (sent_step h hstep hmem)
  applied leaseId hmem := used_step h hstep (applied_step hconsistent h hstep hmem)
  shaped := shaped_step hconsistent h hstep

end LeaseLemmas

theorem ledger_of_reachable {settings : Settings} {ok : State → Action → Prop}
    {job : MailLookupJob} {start : Int} {s : State} (h : Reachable settings ok job start s) :
    Ledger s :=
  Reaches.invariant_with h (fun _ hs => consistent_of_reachable hs) ledger_start
    fun _ _ _ hconsistent hledger _ hstep => ledger_step hconsistent hledger hstep

end Trackpal.Coordinator
