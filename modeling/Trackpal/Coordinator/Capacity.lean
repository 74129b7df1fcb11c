import Trackpal.Coordinator.Selector
import Trackpal.Store.LeaseBookkeeping

/-!
# Capacity across coordinator processes

Any number of coordinators dispatch jobs over one Redis. `_select_executor` counts
the leases of the executors one by one and chooses among what it has counted; the
reservation follows later and looks at the key of the job alone. In between
anything may happen: other dispatches count and reserve, leases are released by
callbacks, requeues and polls, and time passes.

`granted` is a history variable: how many reservations of each executor have
succeeded, now and before a selection began.
-/

namespace Trackpal.Coordinator

open Trackpal.Protocol Trackpal.Foundation Trackpal.Store

variable {K : Type*}

/-- Where `_select_executor` and the reservation stand. -/
inductive SelectionPhase (K : Type*) where
  /-- The executors that are left to look at, and the snapshots taken so far. -/
  | counting (jobId : UUID) (remaining : List UUID) (candidates : List (ExecutorCapacity K))
  /-- An executor was chosen; next is `reserve_lease`. -/
  | reserving (jobId : UUID) (selected : ExecutorCapacity K)
deriving DecidableEq, Repr

def SelectionPhase.snapshots : SelectionPhase K → List (ExecutorCapacity K)
  | .counting _ _ candidates => candidates
  | .reserving _ selected => [selected]

/-- A dispatch between its unlocked read and its reservation. -/
structure Selection (K : Type*) where
  phase : SelectionPhase K
  granted : UUID → Nat

/-- The lease keys, and the dispatches that are choosing an executor. -/
structure CapacityState (K : Type*) where
  now : K
  store : RedisLeases K
  selections : Nat → Option (Selection K)
  granted : UUID → Nat

/-- One step. `pid` is the dispatch that takes it. -/
inductive CapacityAction (K : Type*) where
  | tick (now : K)
  /-- A dispatch lists the dispatchable executors. -/
  | list (pid : Nat) (jobId : UUID) (executors : List UUID)
  | skip (pid : Nat)
  /-- `active_count` of the next executor. -/
  | count (pid : Nat) (lastSelectedAt : Option K)
  /-- `select_executor`. -/
  | select (pid : Nat)
  /-- `reserve_lease`; the key lives `late` longer than its TTL. -/
  | reserve (pid : Nat) (leaseId : UUID) (expiresAt late : K)
  /-- `release_lease` by anyone. -/
  | release (jobId : UUID)
  /-- `active_count` by anyone else. -/
  | survey (executorId : UUID)

variable [LinearOrder K]

namespace CapacityState

/-- No leases, and no dispatch. -/
def start (now : K) : CapacityState K := ⟨now, .empty, fun _ => none, fun _ => 0⟩

/-- The number of unexpired leases of the executor, as `active_count` returns it. -/
def held (s : CapacityState K) (executorId : UUID) : Nat :=
  (s.store.activeCount s.now executorId).2

/-- The dispatch `pid` moves on. -/
def put (s : CapacityState K) (pid : Nat) (phase : SelectionPhase K) (granted : UUID → Nat) :
    CapacityState K :=
  { s with selections := Function.update s.selections pid (some ⟨phase, granted⟩) }

/-- The dispatch `pid` needs the capacity no longer. -/
def finish (s : CapacityState K) (pid : Nat) : CapacityState K :=
  { s with selections := Function.update s.selections pid none }

end CapacityState

section Step

variable [Field K] [FloorRing K]

/-- The reservation of the dispatch `pid`, which has chosen `selected`. -/
def reserveSelected (s : CapacityState K) (pid : Nat) (jobId : UUID) (selected : ExecutorCapacity K)
    (leaseId : UUID) (expiresAt late : K) : CapacityState K :=
  match s.store.reserveLease s.now jobId selected.executorId leaseId expiresAt late with
  | (store, true) =>
    { s with
      store := store
      granted := Function.update s.granted selected.executorId
        (s.granted selected.executorId + 1) }.finish pid
  | (_, false) => s.finish pid

/-- One step, with a constant `max_concurrency` for each executor. -/
def stepCapacity (maxConcurrency : UUID → Nat) (s : CapacityState K) :
    CapacityAction K → Option (CapacityState K)
  | .tick now => if s.now ≤ now then some { s with now := now } else none
  | .list pid jobId executors =>
    match s.selections pid with
    | none => some (s.put pid (.counting jobId executors []) s.granted)
    | some _ => none
  | .skip pid =>
    match s.selections pid with
    | some ⟨.counting jobId (_ :: remaining) candidates, granted⟩ =>
      some (s.put pid (.counting jobId remaining candidates) granted)
    | _ => none
  | .count pid lastSelectedAt =>
    match s.selections pid with
    | some ⟨.counting jobId (executorId :: remaining) candidates, granted⟩ =>
      let (store, activeLeases) := s.store.activeCount s.now executorId
      let snapshot := ⟨executorId, activeLeases, maxConcurrency executorId, lastSelectedAt⟩
      some ({ s with store := store }.put pid
        (.counting jobId remaining (candidates ++ [snapshot])) granted)
    | _ => none
  | .select pid =>
    match s.selections pid with
    | some ⟨.counting jobId [] candidates, granted⟩ =>
      match selectExecutor candidates with
      | some selected => some (s.put pid (.reserving jobId selected) granted)
      | none => some (s.finish pid)
    | _ => none
  | .reserve pid leaseId expiresAt late =>
    match s.selections pid with
    | some ⟨.reserving jobId selected, _⟩ =>
      if 0 ≤ late then some (reserveSelected s pid jobId selected leaseId expiresAt late) else none
    | _ => none
  | .release jobId => some { s with store := s.store.releaseLease s.now jobId }
  | .survey executorId => some { s with store := (s.store.activeCount s.now executorId).1 }

/-- A reservation that finds no key of its job was not overtaken by another reservation
of its executor, or still finds room. -/
def InTime (maxConcurrency : UUID → Nat) (s : CapacityState K) : CapacityAction K → Prop
  | .reserve pid _ _ _ =>
    match s.selections pid with
    | some ⟨.reserving jobId selected, granted⟩ =>
      (s.store.leases.get s.now jobId).isSome = true ∨
      s.granted selected.executorId = granted selected.executorId ∨
      s.held selected.executorId < maxConcurrency selected.executorId
    | _ => True
  | _ => True

end Step

/-! ## What a step does to the counts -/

/-- The state of the keys and the clock changed; the counts grew by at most the leases
granted meanwhile. -/
structure Grows (s s' : CapacityState K) : Prop where
  exact : LeasesExact s'.now s'.store
  held : ∀ executorId, s'.held executorId + s.granted executorId ≤
    s.held executorId + s'.granted executorId
  granted : ∀ executorId, s.granted executorId ≤ s'.granted executorId

/-- What a dispatch relies on: each snapshot is the count of its executor, but for the
leases granted since, and the chosen executor had room. -/
structure SelectionInv (maxConcurrency : UUID → Nat) (s : CapacityState K)
    (selection : Selection K) : Prop where
  before : ∀ executorId, selection.granted executorId ≤ s.granted executorId
  maximum : ∀ item ∈ selection.phase.snapshots,
    item.maxConcurrency = maxConcurrency item.executorId
  counted : ∀ item ∈ selection.phase.snapshots,
    s.held item.executorId + selection.granted item.executorId ≤
      item.activeLeases + s.granted item.executorId
  room : ∀ jobId item, selection.phase = .reserving jobId item →
    item.activeLeases < item.maxConcurrency

/-- The keys and the sets agree, and every dispatch relies on what was so. -/
structure CapacityInv (maxConcurrency : UUID → Nat) (s : CapacityState K) : Prop where
  exact : LeasesExact s.now s.store
  selection : ∀ pid selection, s.selections pid = some selection →
    SelectionInv maxConcurrency s selection

namespace CapacityLemmas

variable {maxConcurrency : UUID → Nat} {s s' s'' : CapacityState K} {pid : Nat}
  {phase : SelectionPhase K} {granted : UUID → Nat} {selection : Selection K}

theorem SelectionInv.grows (h : SelectionInv maxConcurrency s selection) (hgrows : Grows s s') :
    SelectionInv maxConcurrency s' selection where
  before executorId := (h.before executorId).trans (hgrows.granted executorId)
  maximum := h.maximum
  counted item hmem := by
    have hcounted := h.counted item hmem
    have hheld := hgrows.held item.executorId
    omega
  room := h.room

theorem CapacityInv.grows (h : CapacityInv maxConcurrency s) (hgrows : Grows s s')
    (hsel : s'.selections = s.selections) : CapacityInv maxConcurrency s' where
  exact := hgrows.exact
  selection pid selection hpid := by
    rw [hsel] at hpid
    exact SelectionInv.grows (h.selection pid selection hpid) hgrows

theorem CapacityInv.put (h : CapacityInv maxConcurrency s)
    (hnew : SelectionInv maxConcurrency s ⟨phase, granted⟩) :
    CapacityInv maxConcurrency (s.put pid phase granted) where
  exact := h.exact
  selection pid' selection hpid := by
    rcases eq_or_ne pid' pid with rfl | hne
    · simp only [CapacityState.put, Function.update_self, Option.some.injEq] at hpid
      subst hpid
      exact { hnew with }
    · simp only [CapacityState.put, Function.update_of_ne hne] at hpid
      exact { h.selection pid' selection hpid with }

theorem CapacityInv.finish (h : CapacityInv maxConcurrency s) :
    CapacityInv maxConcurrency (s.finish pid) where
  exact := h.exact
  selection pid' selection hpid := by
    rcases eq_or_ne pid' pid with rfl | hne
    · simp [CapacityState.finish] at hpid
    · simp only [CapacityState.finish, Function.update_of_ne hne] at hpid
      exact { h.selection pid' selection hpid with }

theorem grows_tick {now : K} (h : LeasesExact s.now s.store) (hle : s.now ≤ now) :
    Grows s { s with now := now } where
  exact := h.mono hle
  held _ := Nat.add_le_add_right (h.activeCount_mono hle) _
  granted _ := le_rfl

theorem grows_release {jobId : UUID} (h : LeasesExact s.now s.store) :
    Grows s { s with store := s.store.releaseLease s.now jobId } where
  exact := h.releaseLease
  held _ := Nat.add_le_add_right h.activeCount_releaseLease _
  granted _ := le_rfl

theorem grows_count {executorId : UUID} (h : LeasesExact s.now s.store) :
    Grows s { s with store := (s.store.activeCount s.now executorId).1 } where
  exact := h.activeCount
  held _ := Nat.add_le_add_right h.activeCount_activeCount.le _
  granted _ := le_rfl

variable [Field K] [FloorRing K] [IsStrictOrderedRing K] {jobId leaseId : UUID}
  {item : ExecutorCapacity K} {expiresAt late : K}

theorem grows_reserve (h : LeasesExact s.now s.store) (hlate : 0 ≤ late) {store : RedisLeases K}
    (hset : s.store.reserveLease s.now jobId item.executorId leaseId expiresAt late =
      (store, true)) :
    Grows s { s with
      store := store
      granted := Function.update s.granted item.executorId (s.granted item.executorId + 1) } := by
  have hstore : (s.store.reserveLease s.now jobId item.executorId leaseId expiresAt late).1 = store
      := by rw [hset]
  subst hstore
  refine ⟨h.reserveLease hlate, fun executorId => ?_, fun executorId => ?_⟩
  · have hcount : ((s.store.reserveLease s.now jobId item.executorId leaseId expiresAt
          late).1.activeCount s.now executorId).2 ≤
        (s.store.activeCount s.now executorId).2 +
          if executorId = item.executorId then 1 else 0 :=
      h.activeCount_reserveLease hlate
    unfold CapacityState.held
    dsimp only
    rcases eq_or_ne executorId item.executorId with rfl | hne
    · rw [if_pos rfl] at hcount
      simp only [Function.update_self]
      omega
    · rw [if_neg hne] at hcount
      simp only [Function.update_of_ne hne]
      omega
  · rcases eq_or_ne executorId item.executorId with rfl | hne
    · simp
    · simp [hne]

end CapacityLemmas

open CapacityLemmas

variable [Field K] [FloorRing K] [IsStrictOrderedRing K] {maxConcurrency : UUID → Nat}
  {s s' : CapacityState K} {a : CapacityAction K}

/-- Every step keeps the snapshots up to date but for the leases granted since. -/
theorem CapacityInv.of_step (h : CapacityInv maxConcurrency s)
    (hstep : stepCapacity maxConcurrency s a = some s') : CapacityInv maxConcurrency s' := by
  cases a with
  | tick now =>
    simp only [stepCapacity] at hstep
    split at hstep
    · next hle =>
      cases hstep
      exact CapacityInv.grows h (grows_tick h.exact hle) rfl
    · cases hstep
  | list pid jobId executors =>
    simp only [stepCapacity] at hstep
    split at hstep
    · cases hstep
      exact CapacityInv.put h ⟨fun _ => le_rfl, by simp [SelectionPhase.snapshots],
        by simp [SelectionPhase.snapshots], by simp⟩
    · cases hstep
  | skip pid =>
    simp only [stepCapacity] at hstep
    split at hstep
    · next hpid =>
      cases hstep
      have hold := h.selection _ _ hpid
      exact CapacityInv.put h ⟨hold.before, hold.maximum, hold.counted, by simp⟩
    · cases hstep
  | count pid lastSelectedAt =>
    simp only [stepCapacity] at hstep
    split at hstep
    · next jobId executorId remaining candidates granted hpid =>
      cases hstep
      have hcount : CapacityInv maxConcurrency
          { s with store := (s.store.activeCount s.now executorId).1 } :=
        CapacityInv.grows h (grows_count h.exact) rfl
      have hold := hcount.selection _ _ hpid
      refine CapacityInv.put hcount ⟨hold.before, ?_, ?_, by simp⟩
      · intro item hmem
        rcases List.mem_append.mp hmem with hmem | hmem
        · exact hold.maximum item hmem
        · rw [List.mem_singleton.mp hmem]
      · intro item hmem
        rcases List.mem_append.mp hmem with hmem | hmem
        · exact hold.counted item hmem
        · rw [List.mem_singleton.mp hmem]
          exact Nat.add_le_add h.exact.activeCount_activeCount.le (hold.before executorId)
    · cases hstep
  | select pid =>
    simp only [stepCapacity] at hstep
    split at hstep
    · next jobId candidates granted hpid =>
      have hold := h.selection _ _ hpid
      split at hstep
      · next selected hselect =>
        cases hstep
        obtain ⟨hmem, hroom⟩ := selectExecutor_eq_some hselect
        refine CapacityInv.put h ⟨hold.before, ?_, ?_, ?_⟩
        · intro item hitem
          rw [List.mem_singleton.mp hitem]
          exact hold.maximum selected hmem
        · intro item hitem
          rw [List.mem_singleton.mp hitem]
          exact hold.counted selected hmem
        · intro jobId' item hphase
          cases hphase
          exact hroom
      · cases hstep
        exact CapacityInv.finish h
    · cases hstep
  | reserve pid leaseId expiresAt late =>
    simp only [stepCapacity] at hstep
    split at hstep
    · split at hstep
      · next hlate =>
        cases hstep
        unfold reserveSelected
        split
        · next store hset =>
          exact CapacityInv.finish (CapacityInv.grows h (grows_reserve h.exact hlate hset) rfl)
        · exact CapacityInv.finish h
      · cases hstep
    · cases hstep
  | release jobId =>
    cases hstep
    exact CapacityInv.grows h (grows_release h.exact) rfl
  | survey executorId =>
    cases hstep
    exact CapacityInv.grows h (grows_count h.exact) rfl

/-- A reservation under the condition over-commits no executor: one that was not overtaken
finds no more leases than its snapshot, which had room. -/
theorem held_le_of_reserve {pid : Nat} {jobId leaseId : UUID} {item : ExecutorCapacity K}
    {granted : UUID → Nat} {expiresAt late : K} (h : CapacityInv maxConcurrency s)
    (hpid : s.selections pid = some ⟨.reserving jobId item, granted⟩) (hlate : 0 ≤ late)
    (hok : InTime maxConcurrency s (.reserve pid leaseId expiresAt late))
    (hbound : ∀ executorId, s.held executorId ≤ maxConcurrency executorId) (executorId : UUID) :
    (reserveSelected s pid jobId item leaseId expiresAt late).held executorId ≤
      maxConcurrency executorId := by
  unfold reserveSelected
  split
  next store hset =>
    have hgrows := (grows_reserve h.exact hlate hset).held executorId
    have hexact := h.selection _ _ hpid
    have hroom : s.held item.executorId < maxConcurrency item.executorId := by
      have hcounted := hexact.counted item List.mem_cons_self
      have hmaximum := hexact.maximum item List.mem_cons_self
      have hitem := hexact.room jobId item rfl
      simp only [InTime, hpid] at hok
      rcases hok with hkey | hfresh | hroom
      · -- the reservation would have been refused
        exfalso
        unfold RedisLeases.reserveLease at hset
        rw [if_pos hkey] at hset
        split at hset
        · cases hset
        · cases hset
      · simp only at hcounted
        omega
      · exact hroom
    show CapacityState.held { s with store := store } executorId ≤ _
    rcases eq_or_ne executorId item.executorId with rfl | hne
    · simp only [Function.update_self, CapacityState.held] at hgrows hroom ⊢
      omega
    · have hold := hbound executorId
      simp only [Function.update_of_ne hne, CapacityState.held] at hgrows hold ⊢
      omega
  · exact hbound executorId

theorem held_le_of_step (h : CapacityInv maxConcurrency s)
    (hbound : ∀ executorId, s.held executorId ≤ maxConcurrency executorId)
    (hok : InTime maxConcurrency s a) (hstep : stepCapacity maxConcurrency s a = some s')
    (executorId : UUID) : s'.held executorId ≤ maxConcurrency executorId := by
  have hold := hbound executorId
  cases a with
  | tick now =>
    simp only [stepCapacity] at hstep
    split at hstep
    · next hle =>
      cases hstep
      exact (h.exact.activeCount_mono hle).trans hold
    · cases hstep
  | list pid jobId executors =>
    simp only [stepCapacity] at hstep
    split at hstep
    · cases hstep
      exact hold
    · cases hstep
  | skip pid =>
    simp only [stepCapacity] at hstep
    split at hstep
    · cases hstep
      exact hold
    · cases hstep
  | count pid lastSelectedAt =>
    simp only [stepCapacity] at hstep
    split at hstep
    · cases hstep
      exact h.exact.activeCount_activeCount.le.trans hold
    · cases hstep
  | select pid =>
    simp only [stepCapacity] at hstep
    split at hstep
    · split at hstep
      · cases hstep
        exact hold
      · cases hstep
        exact hold
    · cases hstep
  | reserve pid leaseId expiresAt late =>
    simp only [stepCapacity] at hstep
    split at hstep
    · next hpid =>
      split at hstep
      · next hlate =>
        cases hstep
        exact held_le_of_reserve h hpid hlate hok hbound executorId
      · cases hstep
    · cases hstep
  | release jobId =>
    cases hstep
    exact h.exact.activeCount_releaseLease.trans hold
  | survey executorId' =>
    cases hstep
    exact h.exact.activeCount_activeCount.le.trans hold

omit [Field K] [FloorRing K] [IsStrictOrderedRing K] in
theorem capacityInv_start {start : K} : CapacityInv maxConcurrency (.start start) where
  exact := .empty
  selection _ _ hpid := by cases hpid

/-- The snapshots are up to date but for the leases granted since, in every state of every
run. -/
theorem capacityInv_of_reachable {start : K} {ok : CapacityState K → CapacityAction K → Prop}
    (h : Reaches (stepCapacity maxConcurrency) ok (.start start) s) :
    CapacityInv maxConcurrency s :=
  h.invariant capacityInv_start fun _ _ _ hs _ hstep => hs.of_step hstep

/-- In every run whose reservations are in time, the unexpired leases that an executor
holds are never more than its `max_concurrency`. -/
theorem held_le_of_reachable {start : K}
    (h : Reaches (stepCapacity maxConcurrency) (InTime maxConcurrency) (.start start) s)
    (executorId : UUID) :
    (readableJobs s.store s.now executorId).encard ≤ maxConcurrency executorId := by
  have hbound : ∀ executorId, s.held executorId ≤ maxConcurrency executorId := by
    refine h.invariant_with
      (I := fun s => ∀ executorId, s.held executorId ≤ maxConcurrency executorId)
      (fun _ => capacityInv_of_reachable) (fun executorId => ?_) ?_
    · have hzero : (CapacityState.start start).held executorId = 0 := rfl
      omega
    · intro s a s' hs hbound hok hstep
      exact held_le_of_step hs hbound hok hstep
  rw [(capacityInv_of_reachable h).exact.activeCount_eq le_rfl]
  exact_mod_cast hbound executorId

/-! ## Two coordinators -/

def exOne : UUID → Nat := fun _ => 1

/-- The dispatch `pid` of a job chooses executor 9. -/
def exChoose (pid : Nat) (jobId : UUID) : List (CapacityAction ℚ) :=
  [.list pid jobId [⟨9⟩], .count pid none, .select pid]

/-- A reservation by the dispatch `pid` for three minutes. -/
def exReserve (pid : Nat) : CapacityAction ℚ := .reserve pid ⟨pid⟩ 180 0

/-- A single dispatch that chose executor 9 and then reserved it leaves one lease. -/
theorem exChoose_held : ∃ s, exec (stepCapacity exOne) (.start 0) (exChoose 0 ⟨1⟩) = some s ∧
    (readableJobs (reserveSelected s 0 ⟨1⟩ ⟨⟨9⟩, 0, 1, none⟩ ⟨0⟩ 180 0).store s.now ⟨9⟩).encard ≤
      exOne ⟨9⟩ := by
  obtain ⟨s, hs⟩ : ∃ s, exec (stepCapacity exOne) (.start 0) (exChoose 0 ⟨1⟩) = some s := ⟨_, rfl⟩
  have hchosen : Reaches (stepCapacity exOne) (InTime exOne) (.start 0) s := by
    refine reaches_of_exec_ok ?_ hs
    intro a hmem s
    simp only [exChoose, List.mem_cons, List.not_mem_nil, or_false] at hmem
    rcases hmem with rfl | rfl | rfl <;> exact trivial
  refine ⟨s, hs, ?_⟩
  cases hs
  exact held_le_of_reachable (.tail (a := exReserve 0) hchosen (.inr (.inl rfl)) rfl) ⟨9⟩

/-- Two coordinators that count before either has reserved both take the executor's only
place. -/
theorem twoCoordinators_overcommit :
    ∃ s, Reaches (stepCapacity exOne) Always (.start (0 : ℚ)) s ∧
      ¬(readableJobs s.store s.now ⟨9⟩).encard ≤ exOne ⟨9⟩ := by
  obtain ⟨s, hs⟩ : ∃ s, exec (stepCapacity exOne) (.start (0 : ℚ))
      (exChoose 0 ⟨1⟩ ++ exChoose 1 ⟨2⟩ ++ [exReserve 0, exReserve 1]) = some s := ⟨_, rfl⟩
  have hrun := reaches_of_exec hs
  refine ⟨s, hrun, ?_⟩
  rw [(capacityInv_of_reachable hrun).exact.activeCount_eq le_rfl]
  cases hs
  decide +kernel

end Trackpal.Coordinator
