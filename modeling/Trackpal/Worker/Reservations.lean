import Trackpal.Foundation.Runs
import Trackpal.Worker.Pipeline
import Trackpal.Worker.Runtime
import Mathlib.Data.List.Perm.Basic

/-!
# The reservations over whole runs

`ExecutorRuntime.accept` and `ExecutorRuntime.execute` of `worker/app/runtime.py`
as one system. A request reserves its job in the critical section of `accept`;
the background task of an accepted command waits for the pipeline, then for the
callback, and releases the reservation in its `finally` block. Any number of
tasks overlap, and each wait can end in every way the source handles.

The critical sections of `accept` and `_release` contain no wait, so each of them
is one step; a cancellation arrives at a wait.

Results:
1. `reserved_of_reaches`: the reservations are those of the executions that are not over.
2. `reservations_of_reaches`.
-/

namespace Trackpal.Worker

open Trackpal.Protocol Trackpal.Foundation

/-! ## Executions -/

/-- Where the background task of an accepted command is. -/
inductive ExecutionPhase where
  /-- `add_task` holds it; the response is not sent yet. -/
  | handed
  /-- It waits for `self._pipeline(command)`. -/
  | running
  /-- It waits for `self._callback_client.send(…)`. -/
  | sending (outcome : LookupOutcome)
  /-- It is in the `finally` block. -/
  | releasing
  | finished
deriving DecidableEq, Repr

/-- One accepted command and its background task. -/
structure Execution where
  command : LookupCommand
  context : CallbackContext
  phase : ExecutionPhase
deriving DecidableEq, Repr

namespace Execution

/-- The job and the lease that `execute` releases. -/
def identity (execution : Execution) : Option (UUID × UUID) :=
  match execution.command.jobId, execution.command.leaseId with
  | some jobId, some leaseId => some (jobId, leaseId)
  | _, _ => none

def live (execution : Execution) : Bool :=
  execution.phase ≠ .finished

def moved (execution : Execution) (phase : ExecutionPhase) : Execution :=
  { execution with phase }

@[simp] theorem identity_moved (execution : Execution) (phase : ExecutionPhase) :
    (execution.moved phase).identity = execution.identity := rfl

@[simp] theorem live_moved (execution : Execution) (phase : ExecutionPhase) :
    (execution.moved phase).live = decide (phase ≠ .finished) := rfl

end Execution

inductive PipelineEnd where
  | returned (outcome : LookupOutcome)
  /-- An `Exception`. -/
  | raised
  /-- A `CancelledError`, which is no `Exception`. -/
  | cancelled
deriving DecidableEq, Repr

inductive CallbackEnd where
  | returned (delivered : Bool)
  | raised
  | cancelled
deriving DecidableEq, Repr

/-- The outcome of a command whose pipeline raised. -/
def executorInternalError : LookupOutcome :=
  terminalOutcome "executor_internal_error" "Executor failed while processing the lookup"

/-- What `execute` does after the pipeline. -/
def PipelineEnd.next : PipelineEnd → ExecutionPhase
  | .returned outcome => .sending outcome
  | .raised => .sending executorInternalError
  | .cancelled => .releasing

/-- What `execute` does after the callback: a failure is logged, a cancellation
passes on, and both lead to the `finally` block. -/
def CallbackEnd.next : CallbackEnd → ExecutionPhase
  | .returned _ => .releasing
  | .raised => .releasing
  | .cancelled => .releasing

/-! ## The system -/

structure Reservations where
  runtime : ExecutorRuntime
  executions : List Execution

inductive ReservationEvent where
  /-- A request reaches `accept`. -/
  | accept (command : LookupCommand) (context : CallbackContext)
  | start (place : Nat)
  | pipeline (place : Nat) (ending : PipelineEnd)
  | callback (place : Nat) (ending : CallbackEnd)
  | release (place : Nat)
deriving DecidableEq, Repr

namespace Reservations

/-- A process that has just started. -/
def initial (capacity : Nat) : Reservations :=
  ⟨.new capacity, []⟩

/-- The execution at a place goes on to a phase. -/
def move (s : Reservations) (place : Nat) (execution : Execution) (phase : ExecutionPhase) :
    Reservations :=
  { s with executions := s.executions.set place (execution.moved phase) }

/-- `accept`, and `add_task` for an accepted command. -/
def handoff (s : Reservations) (command : LookupCommand) (context : CallbackContext) :
    Reservations :=
  match s.runtime.accept command context with
  | .error _ => s
  | .ok (runtime, acceptance) =>
    if acceptance.status = .accepted then
      ⟨runtime, s.executions ++ [⟨command, context, .handed⟩]⟩
    else { s with runtime }

/-- The `finally` block of the execution at a place. -/
def releaseAt (s : Reservations) (place : Nat) (execution : Execution) : Reservations :=
  match execution.identity with
  | some (jobId, leaseId) =>
    { s.move place execution .finished with runtime := s.runtime.release jobId leaseId }
  | none => s.move place execution .finished

def step (s : Reservations) : ReservationEvent → Option Reservations
  | .accept command context => some (s.handoff command context)
  | .start place =>
    match s.executions[place]? with
    | some execution =>
      if execution.phase = .handed then
        -- `execute` returns at once for a command without an identity
        some (s.move place execution
          (if execution.identity.isSome then .running else .finished))
      else none
    | none => none
  | .pipeline place ending =>
    match s.executions[place]? with
    | some execution =>
      if execution.phase = .running then some (s.move place execution ending.next) else none
    | none => none
  | .callback place ending =>
    match s.executions[place]? with
    | some execution =>
      match execution.phase with
      | .sending _ => some (s.move place execution ending.next)
      | _ => none
    | none => none
  | .release place =>
    match s.executions[place]? with
    | some execution =>
      if execution.phase = .releasing then some (s.releaseAt place execution) else none
    | none => none

/-- The identities of the accepted commands whose execution is not over. -/
def pending (s : Reservations) : List (Option (UUID × UUID)) :=
  (s.executions.filter Execution.live).map Execution.identity

/-- The reservations are those of the executions that are not over, and the
capacity is the one the process started with. -/
structure Reserved (capacity : Nat) (s : Reservations) : Prop where
  capacity_eq : s.runtime.capacity = capacity
  reserved : s.pending.Perm (s.runtime.active.map some)

end Reservations

/-! ## What the critical sections do -/

namespace ReservationLemmas

open ExecutorRuntime

variable {runtime runtime' : ExecutorRuntime} {command : LookupCommand}
  {context : CallbackContext} {acceptance : Acceptance} {jobId leaseId : UUID}

theorem tryReserve_of_accept (h : runtime.accept command context = .ok (runtime', acceptance)) :
    ∃ jobId leaseId, command.jobId = some jobId ∧ command.leaseId = some leaseId ∧
      runtime.tryReserve jobId leaseId = (runtime', acceptance) := by
  unfold accept at h
  split at h
  · cases h
  · cases h
  · cases h
  · next jobId leaseId callbackUrl hjob hlease _ =>
    split at h
    · cases h
    · split at h
      · cases h
      · split at h
        · cases h
        · exact ⟨jobId, leaseId, hjob, hlease, Except.ok.inj h⟩

theorem capacity_tryReserve : (runtime.tryReserve jobId leaseId).1.capacity = runtime.capacity := by
  unfold tryReserve
  split
  · rfl
  · split <;> rfl

theorem leaseOf_of_mem (h : (jobId, leaseId) ∈ runtime.active) :
    runtime.leaseOf jobId = some leaseId := by
  cases hlease : runtime.leaseOf jobId with
  | none => exact absurd (List.mem_map_of_mem h) (not_mem_of_leaseOf hlease)
  | some current =>
    have hmem := mem_active_of_leaseOf hlease
    -- two entries of one job are the same entry
    have := List.inj_on_of_nodup_map runtime.jobs_nodup h hmem rfl
    rw [(Prod.mk.inj this).2]

theorem leaseOf_eq_some_iff :
    runtime.leaseOf jobId = some leaseId ↔ (jobId, leaseId) ∈ runtime.active :=
  ⟨mem_active_of_leaseOf, leaseOf_of_mem⟩

theorem duplicate_iff (h : runtime.tryReserve jobId leaseId = (runtime', acceptance)) :
    acceptance.status = .duplicate ↔ (jobId, leaseId) ∈ runtime.active := by
  rw [← leaseOf_eq_some_iff]
  unfold tryReserve at h
  split at h
  · next current hcur =>
    cases h
    rw [hcur, Option.some.injEq]
    by_cases he : current = leaseId
    · simp [he]
    · simp [he]
  · next hfree =>
    rw [hfree]
    split at h <;> cases h <;> simp

theorem runtime_of_refused (h : runtime.tryReserve jobId leaseId = (runtime', acceptance))
    (hstatus : acceptance.status ≠ .accepted) : runtime' = runtime := by
  obtain ⟨he, _⟩ | ⟨he, _⟩ | ⟨_, rfl⟩ := tryReserve_cases h
  · exact he
  · exact he
  · exact absurd rfl hstatus

theorem active_of_accepted (h : runtime.tryReserve jobId leaseId = (runtime', acceptance))
    (hstatus : acceptance.status = .accepted) :
    runtime'.active = (jobId, leaseId) :: runtime.active := by
  obtain ⟨_, _, hs⟩ | ⟨_, hs⟩ | ⟨he, _⟩ := tryReserve_cases h
  · rw [hs] at hstatus
    split at hstatus <;> cases hstatus
  · rw [hs] at hstatus
    cases hstatus
  · exact he

theorem release_eq_self (h : (jobId, leaseId) ∉ runtime.active) :
    runtime.release jobId leaseId = runtime := by
  unfold release
  rw [if_neg fun hlease => h (mem_active_of_leaseOf hlease)]

theorem mem_release {entry : UUID × UUID} (h : entry ∈ runtime.active)
    (hne : entry ≠ (jobId, leaseId)) : entry ∈ (runtime.release jobId leaseId).active := by
  by_cases hmem : (jobId, leaseId) ∈ runtime.active
  · unfold release
    rw [if_pos (leaseOf_of_mem hmem)]
    refine List.mem_filter.mpr ⟨h, decide_eq_true fun hjob => hne ?_⟩
    exact List.inj_on_of_nodup_map runtime.jobs_nodup h hmem hjob
  · rw [release_eq_self hmem]
    exact h

theorem release_perm (h : (jobId, leaseId) ∈ runtime.active) :
    runtime.active.Perm ((jobId, leaseId) :: (runtime.release jobId leaseId).active) := by
  have hnodup : runtime.active.Nodup := runtime.jobs_nodup.of_map
  have hmem : (jobId, leaseId) ∉ (runtime.release jobId leaseId).active := by
    unfold release
    rw [if_pos (leaseOf_of_mem h)]
    simp
  refine (List.perm_ext_iff_of_nodup hnodup (List.nodup_cons.mpr ⟨hmem, ?_⟩)).mpr ?_
  · exact (runtime.release jobId leaseId).jobs_nodup.of_map
  · intro entry
    rw [List.mem_cons]
    constructor
    · intro hentry
      by_cases he : entry = (jobId, leaseId)
      · exact .inl he
      · exact .inr (mem_release hentry he)
    · rintro (rfl | hentry)
      · exact h
      · exact release_active_subset hentry

theorem capacity_release : (runtime.release jobId leaseId).capacity = runtime.capacity := by
  unfold release
  split <;> rfl

end ReservationLemmas

open ReservationLemmas

/-! ## Runs -/

namespace Reservations

variable {capacity place : Nat} {s s' : Reservations} {execution : Execution}
  {phase : ExecutionPhase} {command : LookupCommand} {context : CallbackContext}

theorem pending_split (h : s.executions[place]? = some execution) :
    ∃ before after, ∀ phase,
      (s.move place execution phase).pending =
        before ++ (if phase ≠ .finished then [execution.identity] else []) ++ after ∧
      (execution.phase = phase → s.pending = (s.move place execution phase).pending) := by
  obtain ⟨hlt, he⟩ := List.getElem?_eq_some_iff.mp h
  refine ⟨((s.executions.take place).filter Execution.live).map Execution.identity,
    ((s.executions.drop (place + 1)).filter Execution.live).map Execution.identity,
    fun phase => ⟨?_, ?_⟩⟩
  · unfold pending move
    dsimp only
    rw [List.set_eq_take_append_cons_drop, if_pos hlt, List.filter_append, List.map_append,
      List.filter_cons, Execution.live_moved]
    by_cases hphase : phase = .finished
    · simp [hphase]
    · simp [hphase]
  · rintro rfl
    unfold pending move Execution.moved
    dsimp only
    have hself : s.executions.set place execution = s.executions := by
      rw [← he]
      exact List.set_getElem_self hlt
    rw [hself]

theorem pending_move (h : s.executions[place]? = some execution)
    (hlive : execution.phase ≠ .finished) (hphase : phase ≠ .finished) :
    (s.move place execution phase).pending = s.pending := by
  obtain ⟨before, after, hsplit⟩ := pending_split h
  rw [(hsplit execution.phase).2 rfl, (hsplit execution.phase).1, (hsplit phase).1,
    if_pos hlive, if_pos hphase]

theorem pending_finish (h : s.executions[place]? = some execution)
    (hlive : execution.phase ≠ .finished) :
    s.pending.Perm (execution.identity :: (s.move place execution .finished).pending) := by
  obtain ⟨before, after, hsplit⟩ := pending_split h
  rw [(hsplit execution.phase).2 rfl, (hsplit execution.phase).1, (hsplit .finished).1,
    if_pos hlive, if_neg (not_not_intro rfl), List.append_nil, List.append_assoc]
  exact List.perm_middle

theorem mem_pending (h : s.executions[place]? = some execution)
    (hlive : execution.phase ≠ .finished) : execution.identity ∈ s.pending :=
  List.mem_map_of_mem (List.mem_filter.mpr ⟨List.mem_of_getElem? h, decide_eq_true hlive⟩)

theorem Reserved.active_of_live (h : s.Reserved capacity)
    (hexecution : s.executions[place]? = some execution)
    (hlive : execution.phase ≠ .finished) :
    ∃ entry, execution.identity = some entry ∧ entry ∈ s.runtime.active := by
  have hmem := h.reserved.subset (mem_pending hexecution hlive)
  obtain ⟨entry, hentry, he⟩ := List.mem_map.mp hmem
  exact ⟨entry, he.symm, hentry⟩

theorem Reserved.move (h : s.Reserved capacity) (hexecution : s.executions[place]? = some execution)
    (hlive : execution.phase ≠ .finished) (hphase : phase ≠ .finished) :
    (s.move place execution phase).Reserved capacity where
  capacity_eq := h.capacity_eq
  reserved := by
    rw [pending_move hexecution hlive hphase]
    exact h.reserved

theorem Reserved.handoff (h : s.Reserved capacity) :
    (s.handoff command context).Reserved capacity := by
  unfold Reservations.handoff
  split
  · exact h
  · next runtime acceptance haccept =>
    obtain ⟨jobId, leaseId, hjob, hlease, htry⟩ := tryReserve_of_accept haccept
    split
    · next hstatus =>
      refine ⟨?_, ?_⟩
      · have hcapacity : (s.runtime.tryReserve jobId leaseId).1.capacity = s.runtime.capacity :=
          capacity_tryReserve
        rw [htry] at hcapacity
        exact hcapacity.trans h.capacity_eq
      · have hactive := active_of_accepted htry hstatus
        have hpending : (⟨runtime, s.executions ++ [⟨command, context, .handed⟩]⟩ :
            Reservations).pending = s.pending ++ [some (jobId, leaseId)] := by
          simp [pending, Execution.live, Execution.identity, hjob, hlease]
        rw [hpending]
        dsimp only
        rw [hactive, List.map_cons]
        exact (List.perm_append_singleton _ _).trans (h.reserved.cons _)
    · next hstatus =>
      rw [runtime_of_refused htry hstatus]
      exact h

theorem Reserved.releaseAt (h : s.Reserved capacity)
    (hexecution : s.executions[place]? = some execution)
    (hlive : execution.phase ≠ .finished) :
    (s.releaseAt place execution).Reserved capacity := by
  obtain ⟨⟨jobId, leaseId⟩, hidentity, hmem⟩ := h.active_of_live hexecution hlive
  unfold Reservations.releaseAt
  rw [hidentity]
  refine ⟨?_, ?_⟩
  · exact capacity_release.trans h.capacity_eq
  · have hfinish := pending_finish hexecution hlive
    rw [hidentity] at hfinish
    have hactive := (release_perm hmem).map some
    exact (hfinish.symm.trans (h.reserved.trans hactive)).cons_inv

theorem Reserved.step {event : ReservationEvent} (h : s.Reserved capacity)
    (hstep : s.step event = some s') : s'.Reserved capacity := by
  cases event with
  | accept command context =>
    rw [← Option.some.inj hstep]
    exact h.handoff
  | start place =>
    simp only [Reservations.step] at hstep
    split at hstep
    · next execution hexecution =>
      split at hstep
      · next hphase =>
        have hlive : execution.phase ≠ .finished := by
          rw [hphase]
          decide
        obtain ⟨entry, hidentity, _⟩ := h.active_of_live hexecution hlive
        rw [hidentity, Option.isSome_some, if_pos rfl] at hstep
        rw [← Option.some.inj hstep]
        exact h.move hexecution hlive (by decide)
      · cases hstep
    · cases hstep
  | pipeline place ending =>
    simp only [Reservations.step] at hstep
    split at hstep
    · next execution hexecution =>
      split at hstep
      · next hphase =>
        rw [← Option.some.inj hstep]
        refine h.move hexecution (by rw [hphase]; decide) ?_
        cases ending <;> exact ExecutionPhase.noConfusion
      · cases hstep
    · cases hstep
  | callback place ending =>
    simp only [Reservations.step] at hstep
    split at hstep
    · next execution hexecution =>
      split at hstep
      · next hphase =>
        rw [← Option.some.inj hstep]
        refine h.move hexecution (by rw [hphase]; exact ExecutionPhase.noConfusion) ?_
        cases ending <;> exact ExecutionPhase.noConfusion
      · cases hstep
    · cases hstep
  | release place =>
    simp only [Reservations.step] at hstep
    split at hstep
    · next execution hexecution =>
      split at hstep
      · next hphase =>
        rw [← Option.some.inj hstep]
        exact h.releaseAt hexecution (by rw [hphase]; decide)
      · cases hstep
    · cases hstep

theorem reserved_of_reaches (h : Reaches step Always (initial capacity) s) : s.Reserved capacity :=
  h.invariant ⟨rfl, .nil⟩ fun _ _ _ hs _ hstep => hs.step hstep

/-- A reservation that a step frees belongs to the execution that the step
releases. -/
theorem freed_by_own_release {event : ReservationEvent} {entry : UUID × UUID}
    (hstep : s.step event = some s') (hmem : entry ∈ s.runtime.active)
    (hfreed : entry ∉ s'.runtime.active) :
    ∃ place execution, event = .release place ∧ s.executions[place]? = some execution ∧
      execution.phase = .releasing ∧ execution.identity = some entry := by
  cases event with
  | accept command context =>
    rw [← Option.some.inj hstep] at hfreed
    refine absurd ?_ hfreed
    unfold handoff
    split
    · exact hmem
    · next runtime acceptance haccept =>
      obtain ⟨jobId, leaseId, _, _, htry⟩ := tryReserve_of_accept haccept
      split
      · next hstatus =>
        dsimp only
        rw [active_of_accepted htry hstatus]
        exact List.mem_cons_of_mem _ hmem
      · next hstatus =>
        dsimp only
        rw [runtime_of_refused htry hstatus]
        exact hmem
  | start place =>
    simp only [step] at hstep
    split at hstep
    · split at hstep
      · rw [← Option.some.inj hstep] at hfreed
        exact absurd hmem hfreed
      · cases hstep
    · cases hstep
  | pipeline place ending =>
    simp only [step] at hstep
    split at hstep
    · split at hstep
      · rw [← Option.some.inj hstep] at hfreed
        exact absurd hmem hfreed
      · cases hstep
    · cases hstep
  | callback place ending =>
    simp only [step] at hstep
    split at hstep
    · split at hstep
      · rw [← Option.some.inj hstep] at hfreed
        exact absurd hmem hfreed
      · cases hstep
    · cases hstep
  | release place =>
    simp only [step] at hstep
    split at hstep
    · next execution hexecution =>
      split at hstep
      · next hphase =>
        refine ⟨place, execution, rfl, hexecution, hphase, ?_⟩
        rw [← Option.some.inj hstep] at hfreed
        unfold releaseAt at hfreed
        split at hfreed
        · next jobId leaseId hidentity =>
          by_cases he : entry = (jobId, leaseId)
          · rw [hidentity, he]
          · exact absurd (mem_release hmem he) hfreed
        · exact absurd hmem hfreed
      · cases hstep
    · cases hstep

/-- In every run of handoffs, executions and releases: the reservations stay
within the capacity, each job has at most one lease, only the release of its own
execution frees a reservation, a handoff is answered `duplicate` exactly when its
lease is active, and nothing is reserved once every accepted command is over. -/
theorem reservations_of_reaches (h : Reaches step Always (initial capacity) s) :
    s.runtime.active.length ≤ capacity ∧
    (∀ jobId leaseId leaseId', (jobId, leaseId) ∈ s.runtime.active →
      (jobId, leaseId') ∈ s.runtime.active → leaseId = leaseId') ∧
    (∀ event s' entry, s.step event = some s' → entry ∈ s.runtime.active →
      entry ∉ s'.runtime.active → ∃ place execution, event = .release place ∧
        s.executions[place]? = some execution ∧ execution.phase = .releasing ∧
        execution.identity = some entry) ∧
    (∀ command context runtime' acceptance,
      s.runtime.accept command context = .ok (runtime', acceptance) →
      (acceptance.status = .duplicate ↔ ∃ jobId leaseId, command.jobId = some jobId ∧
        command.leaseId = some leaseId ∧ (jobId, leaseId) ∈ s.runtime.active)) ∧
    ((∀ execution ∈ s.executions, execution.phase = .finished) → s.runtime.active = []) := by
  have hreserved := reserved_of_reaches h
  refine ⟨?_, ?_, ?_, ?_, ?_⟩
  · rw [← hreserved.capacity_eq]
    exact s.runtime.active_le_capacity
  · intro jobId leaseId leaseId' hmem hmem'
    have := List.inj_on_of_nodup_map s.runtime.jobs_nodup hmem hmem' rfl
    exact (Prod.mk.inj this).2
  · intro event s' entry hstep hmem hfreed
    exact freed_by_own_release hstep hmem hfreed
  · intro command context runtime' acceptance haccept
    obtain ⟨jobId, leaseId, hjob, hlease, htry⟩ := tryReserve_of_accept haccept
    rw [duplicate_iff htry, hjob, hlease]
    constructor
    · intro hmem
      exact ⟨jobId, leaseId, rfl, rfl, hmem⟩
    · rintro ⟨_, _, hj, hl, hmem⟩
      rw [Option.some.inj hj, Option.some.inj hl]
      exact hmem
  · intro hfinished
    have hnone : s.executions.filter Execution.live = [] := by
      rw [List.filter_eq_nil_iff]
      intro execution hmem
      simp [Execution.live, hfinished execution hmem]
    have hperm := hreserved.reserved
    rw [pending, hnone, List.map_nil, List.nil_perm, List.map_eq_nil_iff] at hperm
    exact hperm

def exHandoff (jobId leaseId : Nat) : ReservationEvent :=
  .accept ⟨some ⟨jobId⟩, some ⟨leaseId⟩, some "/callback"⟩ ⟨"/callback", ⟨jobId⟩, ⟨leaseId⟩⟩

/-- A job whose first execution is cancelled, while the same handoff and one under
a new lease are refused; the second execution fails in both of its waits. -/
def exEvents : List ReservationEvent :=
  [exHandoff 1 1, .start 0, exHandoff 1 1, exHandoff 1 2, .pipeline 0 .cancelled, .release 0,
    exHandoff 1 2, .start 1, .pipeline 1 .raised, .callback 1 .raised, .release 1]

/-- Both executions are over. -/
theorem nothing_reserved_after_failures :
    ∃ s, exec step (initial 1) exEvents = some s ∧ s.executions.length = 2 ∧
      s.runtime.active = [] := by
  obtain ⟨s, hs⟩ : ∃ s, exec step (initial 1) exEvents = some s := ⟨_, rfl⟩
  have hfinished : ∀ s, exec step (initial 1) exEvents = some s → s.executions.length = 2 ∧
      ∀ execution ∈ s.executions, execution.phase = .finished := by
    intro s hs
    rw [← Option.some.inj hs]
    decide
  obtain ⟨_, _, _, _, hempty⟩ := reservations_of_reaches (reaches_of_exec hs)
  exact ⟨s, hs, (hfinished s hs).1, hempty (hfinished s hs).2⟩

end Reservations

end Trackpal.Worker
