import Trackpal.Foundation.Runs
import Trackpal.Store.RedisStore
import Mathlib.Algebra.Order.Field.Basic
import Mathlib.Data.Rat.Floor

/-!
# The lease keys and the capacity sets stay in step

A lease is recorded twice: as the key of its job, with a rounded-up TTL, and as a
member of its executor's sorted set, with the exact expiry as its score. The two
disagree on leases that have expired: the key may still be there, and so may the
member, possibly in the set of an executor that held an earlier lease of the job.
They agree on every lease that has not.

Results:
1. `LeasesExact.activeCount_eq`: the capacity check counts the readable leases. Only a reservation
   of the executor makes it grow, and by one.
2. `activeCount_eq_readable`.
-/

namespace Trackpal.Store

open Trackpal.Protocol Trackpal.Foundation

variable {K : Type*} [LinearOrder K]

/-- At `now`, the keys and the sorted sets record the same unexpired leases. -/
structure LeasesExact (now : K) (s : RedisLeases K) : Prop where
  /-- A key lives at least as long as its lease. -/
  outlives : ∀ {job lease expiry}, s.leases job = some (lease, expiry) → lease.expiresAt ≤ expiry
  /-- An unexpired member is the lease of its job. -/
  lease_of_marker : ∀ {executor job score},
    (s.executorLeases executor).get job = some score → now < score →
    ∃ lease expiry, s.leases job = some (lease, expiry) ∧ lease.executorId = executor ∧
      lease.expiresAt = score
  /-- An unexpired lease is a member of the set of its executor. -/
  marker_of_lease : ∀ {job lease expiry}, s.leases job = some (lease, expiry) →
    now < lease.expiresAt →
    (s.executorLeases lease.executorId).get job = some lease.expiresAt

def readableJobs (s : RedisLeases K) (now : K) (executorId : UUID) : Set UUID :=
  {job | ∃ lease, s.getLease now job = some lease ∧ lease.executorId = executorId}

namespace LeasesExact

variable {s : RedisLeases K} {now now' : K} {job executor leaseId : UUID} {lease : LookupLease K}

theorem empty : LeasesExact now (RedisLeases.empty : RedisLeases K) where
  outlives h := by cases h
  lease_of_marker h := by cases h
  marker_of_lease h := by cases h

/-- Time only removes leases from both records. -/
theorem mono (h : LeasesExact now s) (hle : now ≤ now') : LeasesExact now' s where
  outlives := h.outlives
  lease_of_marker hget hlt := h.lease_of_marker hget (lt_of_le_of_lt hle hlt)
  marker_of_lease hkey hlt := h.marker_of_lease hkey (lt_of_le_of_lt hle hlt)

theorem getLease_eq_some (h : LeasesExact now s) (hle : now ≤ now') :
    s.getLease now' job = some lease ↔
      (∃ expiry, s.leases job = some (lease, expiry)) ∧ now' < lease.expiresAt := by
  simp only [RedisLeases.getLease, Option.filter_eq_some_iff, ExpiringStore.get_eq_some_iff,
    decide_eq_true_eq]
  constructor
  · rintro ⟨⟨expiry, hkey, -⟩, hlt⟩
    exact ⟨⟨expiry, hkey⟩, hlt⟩
  · rintro ⟨⟨expiry, hkey⟩, hlt⟩
    exact ⟨⟨expiry, hkey, lt_of_lt_of_le hlt ((h.mono hle).outlives hkey)⟩, hlt⟩

theorem marker_iff (h : LeasesExact now s) (hle : now ≤ now') :
    (∃ score, (s.executorLeases executor).get job = some score ∧ now' < score) ↔
      ∃ lease, s.getLease now' job = some lease ∧ lease.executorId = executor := by
  have h' := h.mono hle
  constructor
  · rintro ⟨score, hget, hlt⟩
    obtain ⟨lease, expiry, hkey, hexec, rfl⟩ := h'.lease_of_marker hget hlt
    exact ⟨lease, (h'.getLease_eq_some le_rfl).mpr ⟨⟨expiry, hkey⟩, hlt⟩, hexec⟩
  · rintro ⟨lease, hget, rfl⟩
    obtain ⟨⟨expiry, hkey⟩, hlt⟩ := (h'.getLease_eq_some le_rfl).mp hget
    exact ⟨lease.expiresAt, h'.marker_of_lease hkey hlt, hlt⟩

theorem activeCount_eq (h : LeasesExact now s) (hle : now ≤ now') :
    (readableJobs s now' executor).encard = (s.activeCount now' executor).2 := by
  show _ = ((s.unexpired now' executor).size : ℕ∞)
  unfold RedisLeases.unexpired
  rw [← FiniteMap.size_keep]
  congr 1
  ext job
  simpa [readableJobs] using (h.marker_iff hle).symm

theorem executor_unique {executor₁ executor₂ : UUID} {score₁ score₂ : K} (h : LeasesExact now s)
    (h₁ : (s.executorLeases executor₁).get job = some score₁) (hlt₁ : now < score₁)
    (h₂ : (s.executorLeases executor₂).get job = some score₂) (hlt₂ : now < score₂) :
    executor₁ = executor₂ := by
  obtain ⟨lease₁, expiry₁, hkey₁, rfl, -⟩ := h.lease_of_marker h₁ hlt₁
  obtain ⟨lease₂, expiry₂, hkey₂, rfl, -⟩ := h.lease_of_marker h₂ hlt₂
  rw [hkey₁] at hkey₂
  cases hkey₂
  rfl

/-! ## Operations -/

theorem expired_of_absent {score : K} (h : LeasesExact now s)
    (habsent : s.leases.get now job = none)
    (hget : (s.executorLeases executor).get job = some score) : score ≤ now := by
  by_contra hlt
  obtain ⟨lease, expiry, hkey, -, rfl⟩ := h.lease_of_marker hget (not_le.mp hlt)
  have hlive : s.leases.get now job = some lease :=
    ExpiringStore.get_eq_some_iff.mpr
      ⟨expiry, hkey, lt_of_lt_of_le (not_le.mp hlt) (h.outlives hkey)⟩
  rw [habsent] at hlive
  cases hlive

/-- Writing a lease over no key, or a key that is gone, keeps the agreement: the older
members of the job have expired. -/
theorem record {expiry : K} (h : LeasesExact now s) (habsent : s.leases.get now lease.jobId = none)
    (hle : lease.expiresAt ≤ expiry) : LeasesExact now (s.record lease expiry) where
  outlives {job lease' expiry'} hkey := by
    rw [RedisLeases.leases_record] at hkey
    split at hkey
    · cases hkey
      exact hle
    · exact h.outlives hkey
  lease_of_marker {executor job score} hget hlt := by
    rw [RedisLeases.leases_record]
    rw [RedisLeases.markers_record] at hget
    split at hget
    · next hself =>
      cases hget
      rw [if_pos hself.2]
      exact ⟨lease, expiry, rfl, hself.1.symm, rfl⟩
    · split
      · next hjob =>
        rw [hjob] at hget
        exact absurd hlt (not_lt.mpr (h.expired_of_absent habsent hget))
      · exact h.lease_of_marker hget hlt
  marker_of_lease {job lease' expiry'} hkey hlt := by
    rw [RedisLeases.markers_record]
    rw [RedisLeases.leases_record] at hkey
    split at hkey
    · next hjob =>
      cases hkey
      rw [if_pos ⟨rfl, hjob⟩]
    · next hjob =>
      rw [if_neg fun hself => hjob hself.2]
      exact h.marker_of_lease hkey hlt

/-- A release removes the lease from both records. A key that is gone already has
no unexpired member. -/
theorem releaseLease (h : LeasesExact now s) : LeasesExact now (s.releaseLease now job) := by
  unfold RedisLeases.releaseLease
  split
  · exact h
  next lease hlease =>
  obtain ⟨expiry, hstored, -⟩ := ExpiringStore.get_eq_some_iff.mp hlease
  constructor
  · intro job' lease' expiry' hkey
    rw [RedisLeases.leases_forget] at hkey
    split at hkey
    · cases hkey
    · exact h.outlives hkey
  · intro executor' job' score hget hlt
    rw [RedisLeases.markers_forget] at hget
    split at hget
    · cases hget
    next hother =>
    obtain ⟨lease', expiry', hkey, rfl, hscore⟩ := h.lease_of_marker hget hlt
    have hne : job' ≠ job := by
      -- the unexpired members of the job are in the set of the executor of its lease
      rintro rfl
      rw [hstored] at hkey
      cases hkey
      exact hother ⟨rfl, rfl⟩
    rw [RedisLeases.leases_forget, if_neg hne]
    exact ⟨lease', expiry', hkey, rfl, hscore⟩
  · intro job' lease' expiry' hkey hlt
    rw [RedisLeases.leases_forget] at hkey
    split at hkey
    · cases hkey
    next hne =>
    rw [RedisLeases.markers_forget, if_neg fun hself => hne hself.2]
    exact h.marker_of_lease hkey hlt

theorem activeCount (h : LeasesExact now s) : LeasesExact now (s.activeCount now executor).1 := by
  have hget : ∀ {executor' job' score}, now < score →
      (((s.activeCount now executor).1.executorLeases executor').get job' = some score ↔
        (s.executorLeases executor').get job' = some score) := by
    intro executor' job' score hlt
    rcases eq_or_ne executor' executor with rfl | hne
    · simp [RedisLeases.activeCount, RedisLeases.unexpired, Option.filter_eq_some_iff, hlt]
    · simp [RedisLeases.activeCount, Function.update_of_ne hne]
  constructor
  · exact h.outlives
  · intro executor' job' score hmarker hlt
    exact h.lease_of_marker ((hget hlt).mp hmarker) hlt
  · intro job' lease expiry hkey hlt
    exact (hget hlt).mpr (h.marker_of_lease hkey hlt)

variable [Field K] [FloorRing K] [IsStrictOrderedRing K]

theorem le_ttlUntil (now expiresAt : K) : expiresAt ≤ now + ttlUntil now expiresAt := by
  have hceil : expiresAt - now ≤ ⌈expiresAt - now⌉ := Int.le_ceil _
  have hmax : (⌈expiresAt - now⌉ : K) ≤ ttlUntil now expiresAt := Int.cast_le.mpr (le_max_right _ _)
  linarith

theorem reserveLease {expiresAt late : K} (h : LeasesExact now s) (hlate : 0 ≤ late) :
    LeasesExact now (s.reserveLease now job executor leaseId expiresAt late).1 := by
  unfold RedisLeases.reserveLease
  split
  · exact h
  split
  · exact h
  next habsent =>
  refine h.record (by simpa using habsent) ?_
  have hle := le_ttlUntil now expiresAt
  show expiresAt ≤ _
  linarith

/-! ## What the operations do to the counts -/

omit [Field K] [FloorRing K] [IsStrictOrderedRing K] in
theorem activeCount_le_succ {s' : RedisLeases K} (h : LeasesExact now s)
    (h' : LeasesExact now' s')
    (hsub : readableJobs s' now' executor ⊆ insert job (readableJobs s now executor)) :
    (s'.activeCount now' executor).2 ≤ (s.activeCount now executor).2 + 1 := by
  have hle := (Set.encard_le_encard hsub).trans (Set.encard_insert_le _ _)
  rw [h'.activeCount_eq le_rfl, h.activeCount_eq le_rfl] at hle
  exact_mod_cast hle

omit [Field K] [FloorRing K] [IsStrictOrderedRing K] in
theorem activeCount_le {s' : RedisLeases K} (h : LeasesExact now s) (h' : LeasesExact now' s')
    (hsub : readableJobs s' now' executor ⊆ readableJobs s now executor) :
    (s'.activeCount now' executor).2 ≤ (s.activeCount now executor).2 := by
  have hle := Set.encard_le_encard hsub
  rw [h'.activeCount_eq le_rfl, h.activeCount_eq le_rfl] at hle
  exact_mod_cast hle

omit [Field K] [FloorRing K] [IsStrictOrderedRing K] in
theorem activeCount_mono (h : LeasesExact now s) (hle : now ≤ now') :
    (s.activeCount now' executor).2 ≤ (s.activeCount now executor).2 := by
  refine h.activeCount_le (h.mono hle) ?_
  rintro job ⟨lease, hget, hexec⟩
  obtain ⟨hstored, hlt⟩ := (h.getLease_eq_some hle).mp hget
  exact ⟨lease, (h.getLease_eq_some le_rfl).mpr ⟨hstored, lt_of_le_of_lt hle hlt⟩, hexec⟩

omit [Field K] [FloorRing K] [IsStrictOrderedRing K] in
theorem activeCount_releaseLease (h : LeasesExact now s) :
    ((s.releaseLease now job).activeCount now executor).2 ≤ (s.activeCount now executor).2 := by
  refine h.activeCount_le h.releaseLease ?_
  rintro job' ⟨lease, hget, hexec⟩
  rw [RedisLeases.getLease_releaseLease le_rfl] at hget
  split at hget
  · cases hget
  · exact ⟨lease, hget, hexec⟩

omit [Field K] [FloorRing K] [IsStrictOrderedRing K] in
theorem activeCount_activeCount {executor' : UUID} (h : LeasesExact now s) :
    ((s.activeCount now executor').1.activeCount now executor).2 = (s.activeCount now executor).2 :=
  le_antisymm (h.activeCount_le h.activeCount fun _ hmem => hmem)
    (h.activeCount.activeCount_le h fun _ hmem => hmem)

theorem activeCount_reserveLease {executor' : UUID} {expiresAt late : K} (h : LeasesExact now s)
    (hlate : 0 ≤ late) :
    ((s.reserveLease now job executor' leaseId expiresAt late).1.activeCount now executor).2 ≤
      (s.activeCount now executor).2 + if executor = executor' then 1 else 0 := by
  have h' : LeasesExact now (s.reserveLease now job executor' leaseId expiresAt late).1 :=
    h.reserveLease hlate
  unfold RedisLeases.reserveLease at h' ⊢
  split
  · exact Nat.le_add_right _ _
  next hfuture =>
  rw [if_neg hfuture] at h'
  split
  · exact Nat.le_add_right _ _
  next habsent =>
  rw [if_neg habsent] at h'
  have hget : ∀ {job'}, job' ≠ job → ((s.record ⟨job, executor', leaseId, expiresAt⟩
      (now + ttlUntil now expiresAt + late)).getLease now job' = s.getLease now job') := by
    intro job' hne
    have hlive := le_ttlUntil now expiresAt
    rw [RedisLeases.getLease_record (by show expiresAt ≤ _; linarith), if_neg hne]
  split
  · refine @activeCount_le_succ _ _ _ _ _ job _ _ h h' ?_
    rintro job' ⟨lease, hlease, hexec⟩
    rcases eq_or_ne job' job with rfl | hne
    · exact Set.mem_insert _ _
    · exact Set.mem_insert_of_mem _ ⟨lease, (hget hne) ▸ hlease, hexec⟩
  · next hother =>
    refine h.activeCount_le h' ?_
    rintro job' ⟨lease, hlease, hexec⟩
    rcases eq_or_ne job' job with rfl | hne
    · obtain ⟨⟨expiry, hstored⟩, -⟩ := (h'.getLease_eq_some le_rfl).mp hlease
      rw [RedisLeases.leases_record, if_pos rfl] at hstored
      cases hstored
      exact absurd hexec.symm hother
    · exact ⟨lease, (hget hne) ▸ hlease, hexec⟩

end LeasesExact

/-! ## Runs -/

/-- A call that concerns leases. -/
inductive LeaseOperation (K : Type*) where
  /-- The key of a reservation lives `late` longer than its TTL. -/
  | reserveLease (jobId executorId leaseId : UUID) (expiresAt late : K)
  | getLease (jobId : UUID)
  | releaseLease (jobId : UUID)
  | activeCount (executorId : UUID)

/-- No key expires before its TTL. -/
def LeaseOperation.Punctual [Zero K] : LeaseOperation K → Prop
  | .reserveLease _ _ _ _ late => 0 ≤ late
  | _ => True

variable [Field K] [FloorRing K]

/-- The keys after a call. -/
def LeaseOperation.exec (s : RedisLeases K) (now : K) : LeaseOperation K → RedisLeases K
  | .reserveLease jobId executorId leaseId expiresAt late =>
    (s.reserveLease now jobId executorId leaseId expiresAt late).1
  | .getLease _ => s
  | .releaseLease jobId => s.releaseLease now jobId
  | .activeCount executorId => (s.activeCount now executorId).1

/-- The keys, and the time of the last call. -/
structure LeaseClock (K : Type*) where
  now : K
  store : RedisLeases K

/-- One call at some time that is not before the last one. -/
def stepLease (s : LeaseClock K) (call : K × LeaseOperation K) : Option (LeaseClock K) :=
  if s.now ≤ call.1 then some ⟨call.1, call.2.exec s.store call.1⟩ else none

/-- Some run of calls from empty keys ends in `s`. -/
def LeaseReachable (start : K) (s : LeaseClock K) : Prop :=
  Reaches stepLease (fun _ call => call.2.Punctual) ⟨start, .empty⟩ s

variable [IsStrictOrderedRing K]

theorem LeasesExact.exec {s : RedisLeases K} {now : K} (h : LeasesExact now s)
    (op : LeaseOperation K) (hop : op.Punctual) : LeasesExact now (op.exec s now) := by
  cases op with
  | reserveLease jobId executorId leaseId expiresAt late => exact h.reserveLease hop
  | getLease jobId => exact h
  | releaseLease jobId => exact h.releaseLease
  | activeCount executorId => exact h.activeCount

theorem leasesExact_of_reachable {start : K} {s : LeaseClock K} (h : LeaseReachable start s) :
    LeasesExact s.now s.store := by
  refine h.invariant (I := fun s => LeasesExact s.now s.store) .empty ?_
  intro s call s' hs hok hstep
  unfold stepLease at hstep
  split at hstep
  · next hle =>
    cases hstep
    exact (hs.mono hle).exec call.2 hok
  · cases hstep

/-- At every time from the last call on, the capacity check of an executor counts
the jobs whose readable lease names it, and no job has an unexpired member in the
sets of two executors. -/
theorem activeCount_eq_readable {start now : K} {s : LeaseClock K} (h : LeaseReachable start s)
    (hle : s.now ≤ now) (executorId : UUID) :
    (readableJobs s.store now executorId).encard = (s.store.activeCount now executorId).2 ∧
      ∀ job executor₁ executor₂ score₁ score₂,
        (s.store.executorLeases executor₁).get job = some score₁ → now < score₁ →
        (s.store.executorLeases executor₂).get job = some score₂ → now < score₂ →
        executor₁ = executor₂ := by
  have hexact := leasesExact_of_reachable h
  refine ⟨hexact.activeCount_eq hle, ?_⟩
  intro job executor₁ executor₂ score₁ score₂ h₁ hlt₁ h₂ hlt₂
  exact (hexact.mono hle).executor_unique h₁ hlt₁ h₂ hlt₂

def exHalfSecond : LeaseClock ℚ :=
  ⟨0, (RedisLeases.reserveLease .empty 0 ⟨1⟩ ⟨2⟩ ⟨3⟩ (1 / 2) 0).1⟩

/-- The lease is counted while it can be read, and not while only its key is left. -/
theorem exHalfSecond_counted :
    (readableJobs exHalfSecond.store (1 / 4) ⟨2⟩).encard = 1 ∧
      (readableJobs exHalfSecond.store (3 / 4) ⟨2⟩).encard = 0 := by
  have hrun : LeaseReachable 0 exHalfSecond :=
    .tail (a := (0, .reserveLease ⟨1⟩ ⟨2⟩ ⟨3⟩ (1 / 2) 0)) .refl (le_refl (0 : ℚ)) rfl
  have hone : (exHalfSecond.store.activeCount (1 / 4) ⟨2⟩).2 = 1 := by decide +kernel
  have hzero : (exHalfSecond.store.activeCount (3 / 4) ⟨2⟩).2 = 0 := by decide +kernel
  have hbefore := (@activeCount_eq_readable ℚ _ _ _ _ 0 (1 / 4) _ hrun (by decide +kernel) ⟨2⟩).1
  have hafter := (@activeCount_eq_readable ℚ _ _ _ _ 0 (3 / 4) _ hrun (by decide +kernel) ⟨2⟩).1
  rw [hone] at hbefore
  rw [hzero] at hafter
  exact ⟨hbefore, hafter⟩

end Trackpal.Store
