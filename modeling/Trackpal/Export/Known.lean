import Trackpal.Export.Steps

/-!
# Ids and keys are drawn once

A step draws a token that was not drawn before, and takes it for a new row or a new object.
So a new id is the id of no row, no object and no process, and a new key is the key of none.

Results:
1. `known_of_reaches`: every id and every key in use was drawn, in every run.
2. `row_before`: no step inserts a row under an id that was drawn.
-/

namespace Trackpal.Export

open Trackpal.Protocol Trackpal.Foundation

variable {s : Shared} {w : World} {id : UUID} {token pid : Nat} {answer : Answer}
  {point next : Point} {process : Process} {effect : Effect} {ok : World → Action → Prop}
  {tenants : UUID → Bool} {now : Int}

/-- Every id and every key of the database and the storage was drawn. -/
structure KnownShared (s : Shared) : Prop where
  row : ∀ {id job}, s.jobs.get id = some job → id.int ∈ s.drawn
  key : ∀ {id job key}, s.jobs.get id = some job → job.r2Key = some key → key.token ∈ s.drawn
  object : ∀ {key stored}, s.objects key = some stored →
    key.token ∈ s.drawn ∧ stored.jobId.int ∈ s.drawn

/-- Every id and every key that a process has was drawn. -/
structure KnownPoint (s : Shared) (point : Point) : Prop where
  claimed : ∀ {job}, point.claimed = some job → job.id.int ∈ s.drawn
  held : ∀ {id key}, point.holds = some (id, key) → key.token ∈ s.drawn
  row : ∀ row ∈ point.rows, row.id.int ∈ s.drawn ∧ ∀ key, row.r2Key = some key → key.token ∈ s.drawn

namespace KnownLemmas

theorem writtenKey_known {status : JobStatus} {fields : StatusFields} {key : ObjectKey}
    (h : Writes point id status fields) (hkey : fields.r2Key = some key) :
    point.holds = some (id, key) ∨ ∃ row ∈ point.rows, row.id = id ∧ row.r2Key = some key := by
  cases h with
  | confirm job attempt key expiresAt cooldownUntil =>
    cases hkey
    exact .inl rfl
  | link request current jobId => exact .inr ⟨current, List.mem_cons_self, rfl, hkey⟩
  | clear job attempt prev => cases hkey
  | tenantMissing job attempt => cases hkey
  | giveUp job => cases hkey
  | reset job attempt => cases hkey
  | forget row => cases hkey
  | clearExpired row rest => cases hkey
  | redact row rest => cases hkey

theorem r2Key_of_rewrites {job job' : ExportJob} {key : ObjectKey}
    (h : Rewrites s.now id effect job job') (hkey : job'.r2Key = some key) :
    job.r2Key = some key ∨
      ∃ status fields, effect = .updateStatus id status fields ∧ fields.r2Key = some key := by
  cases h with
  | keep => exact .inl hkey
  | claim token leaseExpiresAt => exact .inl hkey
  | status _ status fields =>
    rw [withStatus_r2Key] at hkey
    split at hkey
    · exact .inr ⟨status, fields, rfl, hkey⟩
    · exact .inl hkey
  | count => exact .inl hkey
  | cancel =>
    unfold ExportJob.cancel at hkey
    split at hkey
    · exact .inl hkey
    · exact .inl hkey

theorem known_after (hs : KnownShared s) (hp : KnownPoint s point) :
    KnownShared (s.after point answer token) := by
  have hcauses := causes_performed s token answer point
  refine ⟨fun {id job'} hget => ?_, fun {id job' key} hget hkey => ?_,
    fun {key stored} hobject => ?_⟩
  · rw [get_after] at hget
    rcases rewrites_of_onRow hget with ⟨job, hrow, -⟩ | ⟨hcreate, hid, -⟩
    · exact List.mem_cons_of_mem _ (hs.row hrow)
    · rw [hcreate] at hcauses
      cases hcauses
      rw [hid]
      exact List.mem_cons_self
  · rw [get_after] at hget
    refine List.mem_cons_of_mem _ ?_
    rcases rewrites_of_onRow hget with ⟨job, hrow, hrewrites⟩ | ⟨hcreate, -⟩
    · rcases r2Key_of_rewrites hrewrites hkey with hold | ⟨status, fields, heffect, hfields⟩
      · exact hs.key hrow hold
      · rw [heffect] at hcauses
        cases hcauses with
        | status hwrites =>
          rcases writtenKey_known hwrites hfields with hheld | ⟨row, hmem, -, hrow⟩
          · exact hp.held hheld
          · exact (hp.row row hmem).2 key hrow
    · rw [hcreate] at hcauses
      cases hcauses
      cases hkey
  · rw [objects_after] at hobject
    unfold Effect.onObject at hobject
    split at hobject
    · next uploaded stored' heffect =>
      rw [heffect] at hcauses
      cases hcauses with
      | upload job attempt =>
        split at hobject
        · next heq =>
          cases hobject
          rw [heq]
          exact ⟨List.mem_cons_self, List.mem_cons_of_mem _ (hp.claimed rfl)⟩
        · have hold := hs.object hobject
          exact ⟨List.mem_cons_of_mem _ hold.1, List.mem_cons_of_mem _ hold.2⟩
    · split at hobject
      · cases hobject
      · have hold := hs.object hobject
        exact ⟨List.mem_cons_of_mem _ hold.1, List.mem_cons_of_mem _ hold.2⟩
    · have hold := hs.object hobject
      exact ⟨List.mem_cons_of_mem _ hold.1, List.mem_cons_of_mem _ hold.2⟩

theorem knownPoint_other {point' : Point} (h : KnownPoint s point') :
    KnownPoint (s.after point answer token) point' where
  claimed hclaimed := List.mem_cons_of_mem _ (h.claimed hclaimed)
  held hheld := List.mem_cons_of_mem _ (h.held hheld)
  row row hrow := ⟨List.mem_cons_of_mem _ (h.row row hrow).1,
    fun key hkey => List.mem_cons_of_mem _ ((h.row row hrow).2 key hkey)⟩

theorem knownPoint_next (hs : KnownShared s) (hp : KnownPoint s point)
    (h : point.next s token answer = some next) :
    KnownPoint (s.after point answer token) next := by
  refine ⟨fun {job} hclaimed => ?_, fun {id key} hheld => ?_, fun row hrow => ?_⟩
  · rcases claimed_next h hclaimed with hold | ⟨-, -, row, hrow, rfl⟩
    · exact List.mem_cons_of_mem _ (hp.claimed hold)
    · exact List.mem_cons_of_mem _ (hs.row (claimable_eq_some hrow).1)
  · rcases holds_next h hheld with hold | ⟨-, job, attempt, -, hnew⟩
    · exact List.mem_cons_of_mem _ (hp.held hold)
    · cases hnew
      exact List.mem_cons_self
  · rcases rows_next h hrow with hold | ⟨-, -, hget, -⟩
    · exact (knownPoint_other hp).row row hold
    · exact ⟨List.mem_cons_of_mem _ (hs.row hget),
        fun key hkey => List.mem_cons_of_mem _ (hs.key hget hkey)⟩

theorem knownPoint_start (operation : Operation) : KnownPoint s (operation.point s.now) := by
  refine ⟨fun h => ?_, fun h => ?_, fun row h => ?_⟩
  · rw [claimed_start] at h
    cases h
  · rw [holds_start] at h
    cases h
  · rw [rows_start] at h
    cases h

end KnownLemmas

open KnownLemmas

theorem known_of_reaches (h : Reaches step ok (World.start tenants now) w) :
    KnownShared w.shared ∧ ∀ q ∈ w.processes.running, KnownPoint w.shared q.point := by
  refine each_of_reaches (I := KnownShared) (A := KnownPoint) h ?_ ?_ ?_ ?_
  · refine ⟨⟨fun h => ?_, fun h => ?_, fun h => ?_⟩, fun q hq => ?_⟩
    · rw [start_get] at h
      cases h
    · rw [start_get] at h
      cases h
    · rw [start_objects] at h
      cases h
    · rw [start_running] at hq
      cases hq
  · intro s now _ hs
    exact ⟨⟨hs.row, hs.key, hs.object⟩, fun point hp => ⟨hp.claimed, hp.held, hp.row⟩⟩
  · exact fun operation _ _ => knownPoint_start operation
  · intro w pid process answer token _ _ hpid _ hs hp
    have hprocess := hp process (Threads.mem_running_of_get hpid)
    exact ⟨known_after hs hprocess, fun q hq => knownPoint_other (hp q hq),
      fun next hnext => knownPoint_next hs hprocess hnext⟩

theorem row_before {job' : ExportJob} (htoken : token ∉ s.drawn) (hid : id.int ∈ s.drawn)
    (hget : (s.after point answer token).jobs.get id = some job') :
    ∃ job, s.jobs.get id = some job ∧
      Rewrites s.now id (point.performed s token answer) job job' := by
  rw [get_after] at hget
  rcases rewrites_of_onRow hget with hold | ⟨hcreate, heq, -⟩
  · exact hold
  · have hcauses := causes_performed s token answer point
    rw [hcreate] at hcauses
    cases hcauses
    rw [heq] at hid
    exact absurd hid htoken

end Trackpal.Export
