import Trackpal.Protocol.Wire
import Mathlib.Data.Finset.Erase
import Mathlib.Data.Finset.Insert
import Mathlib.Data.List.Nodup

/-!
# The job queue

The list and the set behind `enqueue`, `pop` and `has_queued_jobs`. Both stores
keep them in step: a member is in the set exactly while it is in the list, so a
queued job is never queued again.

Results:
1. `mem_enqueue`, `mem_of_pop`: what the operations do to the queued jobs.
2. `hasQueuedJobs_excluding`, `hasQueuedJobs_none`: what the check says.
-/

namespace Trackpal.Store

open Trackpal.Protocol

/-- The queued jobs, oldest first, and the set that `enqueue` consults. -/
@[ext]
structure JobQueue where
  jobs : List UUID
  seen : Finset UUID
  mem_seen : ∀ job, job ∈ seen ↔ job ∈ jobs
  nodup : jobs.Nodup

namespace JobQueue

def empty : JobQueue := ⟨[], ∅, by simp, List.nodup_nil⟩

/-- `enqueue`: `SADD`, and `RPUSH` if the job is new. -/
def enqueue (q : JobQueue) (job : UUID) : JobQueue × Bool :=
  if h : job ∈ q.seen then (q, false)
  else
    (⟨q.jobs ++ [job], insert job q.seen, by
      intro job'
      rw [Finset.mem_insert, q.mem_seen, List.mem_append, List.mem_singleton]
      exact or_comm, by
      refine List.nodup_append.mpr ⟨q.nodup, List.nodup_singleton job, ?_⟩
      intro job₁ hmem₁ job₂ hmem₂ heq
      rw [heq, List.mem_singleton.mp hmem₂] at hmem₁
      exact h ((q.mem_seen job).mpr hmem₁)⟩, true)

/-- The queue without its first job. -/
def tail (q : JobQueue) (job : UUID) (rest : List UUID) (h : q.jobs = job :: rest) : JobQueue where
  jobs := rest
  seen := q.seen.erase job
  mem_seen job' := by
    have hnotin : job ∉ rest := (List.nodup_cons.mp (h ▸ q.nodup)).1
    rw [Finset.mem_erase, q.mem_seen, h, List.mem_cons]
    constructor
    · rintro ⟨hne, rfl | hmem⟩
      · exact absurd rfl hne
      · exact hmem
    · intro hmem
      exact ⟨fun heq => hnotin (heq ▸ hmem), .inr hmem⟩
  nodup := (List.nodup_cons.mp (h ▸ q.nodup)).2

/-- `pop`: `LPOP`, and `SREM` of the job. -/
def pop (q : JobQueue) : JobQueue × Option UUID :=
  match h : q.jobs with
  | [] => (q, none)
  | job :: rest => (q.tail job rest h, some job)

/-- `has_queued_jobs`: the length of the list, or a search for another job. -/
def hasQueuedJobs (q : JobQueue) : Option UUID → Bool
  | none => q.jobs.length ≠ 0
  | some excluded => q.jobs.any fun job => job ≠ excluded

variable {q q' : JobQueue} {job job' : UUID}

theorem mem_enqueue : job' ∈ (q.enqueue job).1.jobs ↔ job' ∈ q.jobs ∨ job' = job := by
  unfold enqueue
  split
  · next h =>
    rw [q.mem_seen] at h
    constructor
    · intro hmem
      exact .inl hmem
    · rintro (hmem | rfl)
      · exact hmem
      · exact h
  · simp

theorem jobs_enqueue_of_not_mem (h : job ∉ q.jobs) : (q.enqueue job).1.jobs = q.jobs ++ [job] := by
  unfold enqueue
  rw [dif_neg fun hseen => h ((q.mem_seen job).mp hseen)]

theorem pop_eq_some (h : q.pop = (q', some job)) : q.jobs = job :: q'.jobs := by
  unfold pop at h
  split at h
  · cases h
  · next heq =>
    cases h
    exact heq

theorem pop_eq_none (h : q.pop = (q', none)) : q.jobs = [] ∧ q' = q := by
  unfold pop at h
  split at h
  · next heq =>
    cases h
    exact ⟨heq, rfl⟩
  · cases h

theorem mem_of_pop (h : q.pop = (q', some job)) : job' ∈ q'.jobs ↔ job' ∈ q.jobs ∧ job' ≠ job := by
  have hjobs := pop_eq_some h
  have hnotin : job ∉ q'.jobs := (List.nodup_cons.mp (hjobs ▸ q.nodup)).1
  rw [hjobs, List.mem_cons]
  constructor
  · intro hmem
    exact ⟨.inr hmem, fun heq => hnotin (heq ▸ hmem)⟩
  · rintro ⟨rfl | hmem, hne⟩
    · exact absurd rfl hne
    · exact hmem

theorem hasQueuedJobs_none : q.hasQueuedJobs none = true ↔ q.jobs ≠ [] := by
  simp [hasQueuedJobs]

theorem hasQueuedJobs_excluding :
    q.hasQueuedJobs (some job) = true ↔ ∃ job' ∈ q.jobs, job' ≠ job := by
  simp [hasQueuedJobs]

end JobQueue

end Trackpal.Store
