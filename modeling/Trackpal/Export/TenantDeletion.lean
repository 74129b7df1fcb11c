import Mathlib.Data.List.Dedup
import Trackpal.Export.Artifacts

/-!
# The deletion of a tenant and its artifacts

The deletion lists the keys that the rows of the tenant record, deletes their objects, and
then the rows. It does not wait for a worker that has uploaded an object and has yet to record
its key. A run in which no worker records a key for a tenant whose keys have been listed, and
in which no artifact is lost otherwise, leaves nothing of a deleted tenant in the storage.

Results:
1. `accounted_of_reaches`: after the listing of its keys, an object of the tenant is held by a
   worker or waits to be deleted.
2. `deleted_tenant_leaves_nothing`.
-/

namespace Trackpal.Export

open Trackpal.Protocol Trackpal.Foundation ArtifactLemmas

variable {s : Shared} {w w' : World} {id tenantId : UUID} {token pid : Nat} {answer : Answer}
  {point next : Point} {process : Process} {row : ExportJob} {key : ObjectKey} {effect : Effect}
  {ok : World → Action → Prop} {tenants : UUID → Bool} {now : Int} {stored : StoredExport}

/-- The tenant of which the process has listed the keys and has yet to end the deletion. -/
def Point.purges : Point → Option UUID
  | .deletion (.deletingKeys tenantId _ _) | .deletion (.deletingInstance tenantId)
  | .deletion (.selectingRows tenantId) | .deletion (.deletingRows tenantId _)
  | .deletion (.removingTenant tenantId) => some tenantId
  | _ => none

/-- The keys that a deletion has yet to delete. -/
def Point.remaining : Point → List ObjectKey
  | .deletion (.deletingKeys _ key rest) => key :: rest
  | _ => []

/-- A worker is inside `_process_job_with_session` for a job of the tenant. -/
def Point.insideTenant (tenantId : UUID) : Point → Bool
  | .worker p => p.job.any (·.tenantId = tenantId)
  | _ => false

def recordsInTime (w : World) (answer : Answer) : Point → Bool
  | .worker (.confirming job _ _ _ _) => !answer.applied ||
      w.shared.tenants job.tenantId &&
        decide (∀ q ∈ w.processes.running, q.point.purges ≠ some job.tenantId)
  | _ => true

/-- A step that leaves no artifact behind. -/
def keepsDeletions (w : World) : Action → Bool
  | .run pid answer _ => (w.processes.get pid).all fun process =>
      uploadKept answer process.point && keyKept w.shared answer process.point &&
        recordsInTime w answer process.point
  | .kill pid => (w.processes.get pid).all fun process => process.point.holds = none
  | _ => true

/-! ## One tenant for an object, its row and its worker -/

def SameTenant (s : Shared) : Prop :=
  ∀ key stored job, s.objects key = some stored → s.jobs.get stored.jobId = some job →
    job.tenantId = stored.tenantId

structure TenantPoint (s : Shared) (point : Point) : Prop where
  claimed : ∀ {job row}, point.claimed = some job → s.jobs.get job.id = some row →
    row.tenantId = job.tenantId
  held : ∀ {job id key stored}, point.claimed = some job → point.holds = some (id, key) →
    s.objects key = some stored → stored = ⟨job.id, job.tenantId⟩
  ids : ∀ {tenantId ids}, point = .deletion (.deletingRows tenantId ids) → ∀ id ∈ ids,
    id.int ∈ s.drawn ∧ ∀ row, s.jobs.get id = some row → row.tenantId = tenantId

namespace DeletionLemmas

theorem tenantId_of_rewrites {job job' : ExportJob} (h : Rewrites now id effect job job') :
    job'.tenantId = job.tenantId := by
  cases h with
  | keep => rfl
  | claim => rfl
  | status => exact withStatus_tenantId
  | count => rfl
  | cancel =>
    unfold ExportJob.cancel
    split <;> rfl

theorem tenantId_before {row' : ExportJob} (htoken : token ∉ s.drawn) (hid : id.int ∈ s.drawn)
    (hget : (s.after point answer token).jobs.get id = some row') :
    ∃ row, s.jobs.get id = some row ∧ row'.tenantId = row.tenantId := by
  obtain ⟨row, hrow, hrewrites⟩ := row_before htoken hid hget
  exact ⟨row, hrow, tenantId_of_rewrites hrewrites⟩

theorem claimed_of_holds (h : point.holds = some (id, key)) :
    ∃ job, point.claimed = some job ∧ job.id = id := by
  obtain ⟨p, rfl⟩ := StepLemmas.worker_of_holds h
  cases p with
  | uploaded job attempt key' =>
    cases h
    exact ⟨job, rfl, rfl⟩
  | purging job key' =>
    cases h
    exact ⟨job, rfl, rfl⟩
  | confirming job attempt key' expiresAt cooldownUntil =>
    cases h
    exact ⟨job, rfl, rfl⟩
  | _ => cases h

theorem insideTenant_of_holds {job : ClaimedJob} (hclaimed : point.claimed = some job)
    (hholds : point.holds = some (id, key)) : point.insideTenant job.tenantId = true := by
  obtain ⟨p, rfl⟩ := StepLemmas.worker_of_holds hholds
  cases p with
  | uploaded job attempt key' =>
    cases hclaimed
    exact decide_eq_true rfl
  | purging job key' =>
    cases hclaimed
    exact decide_eq_true rfl
  | confirming job attempt key' expiresAt cooldownUntil =>
    cases hclaimed
    exact decide_eq_true rfl
  | _ => cases hholds

theorem sameTenant_after (htoken : token ∉ s.drawn) (hknown : KnownShared s)
    (hknownPoint : KnownPoint s point) (htenant : SameTenant s) (hpoint : TenantPoint s point) :
    SameTenant (s.after point answer token) := by
  intro key stored job' hobject hget
  rcases object_before hobject with ⟨hbefore, -⟩ | ⟨-, job, attempt, rfl, rfl, rfl⟩
  · obtain ⟨job, hrow, heq⟩ := tenantId_before htoken (hknown.object hbefore).2 hget
    rw [heq]
    exact htenant key stored job hbefore hrow
  · obtain ⟨row, hrow, heq⟩ := tenantId_before htoken (hknownPoint.claimed rfl) hget
    rw [heq]
    exact hpoint.claimed rfl hrow

theorem tenantPoint_other {point' : Point} (htoken : token ∉ s.drawn)
    (hknownPoint : KnownPoint s point') (hpoint : TenantPoint s point') :
    TenantPoint (s.after point answer token) point' where
  claimed hclaimed hget := by
    obtain ⟨row, hrow, heq⟩ := tenantId_before htoken (hknownPoint.claimed hclaimed) hget
    rw [heq]
    exact hpoint.claimed hclaimed hrow
  held hclaimed hholds hobject := by
    rcases object_before hobject with ⟨hbefore, -⟩ | ⟨-, job, attempt, -, rfl, -⟩
    · exact hpoint.held hclaimed hholds hbefore
    · exact absurd (hknownPoint.held hholds) htoken
  ids heq id hid := by
    obtain ⟨hdrawn, htenant⟩ := hpoint.ids heq id hid
    refine ⟨List.mem_cons_of_mem _ hdrawn, fun row' hget => ?_⟩
    obtain ⟨row, hrow, htenantId⟩ := tenantId_before htoken hdrawn hget
    rw [htenantId]
    exact htenant row hrow

inductive DeletionMoves (s : Shared) (answer : Answer) : DeletionPoint → DeletionPoint → Prop
  | cancel (tenantId : UUID) (cancel cancel' : CancelPoint) :
      DeletionMoves s answer (.cancelling tenantId cancel) (.cancelling tenantId cancel')
  | wait (tenantId : UUID) (cancel : CancelPoint) :
      DeletionMoves s answer (.cancelling tenantId cancel) (.waiting tenantId)
  | skip (tenantId : UUID) (cancel : CancelPoint) :
      DeletionMoves s answer (.cancelling tenantId cancel) (.listing tenantId)
  | list (tenantId : UUID) : DeletionMoves s answer (.waiting tenantId) (.listing tenantId)
  | purge (tenantId : UUID) :
      DeletionMoves s answer (.listing tenantId)
        (purgeKeys tenantId (recordedKeys s.jobs tenantId))
  | deleteKey (tenantId : UUID) (key : ObjectKey) (rest : List ObjectKey)
      (hreturned : answer = .returned) :
      DeletionMoves s answer (.deletingKeys tenantId key rest) (purgeKeys tenantId rest)
  | deleteInstance (tenantId : UUID) :
      DeletionMoves s answer (.deletingInstance tenantId) (.selectingRows tenantId)
  | selectRows (tenantId : UUID) :
      DeletionMoves s answer (.selectingRows tenantId)
        (.deletingRows tenantId ((s.jobs.select fun job => job.tenantId = tenantId).map (·.id)))
  | deleteRows (tenantId : UUID) (ids : List UUID) :
      DeletionMoves s answer (.deletingRows tenantId ids) (.removingTenant tenantId)

theorem deletionMoves_of_next {p p' : DeletionPoint} (h : p.next s answer = some p') :
    DeletionMoves s answer p p' := by
  cases p with
  | cancelling tenantId cancel =>
    dsimp only [DeletionPoint.next] at h
    split at h
    · cases h
      exact .cancel tenantId cancel _
    · cases h
      exact .wait tenantId cancel
    · cases h
      exact .skip tenantId cancel
    · cases h
  | waiting tenantId =>
    dsimp only [DeletionPoint.next] at h
    split at h
    · cases h
      exact .list tenantId
    · cases h
  | listing tenantId =>
    dsimp only [DeletionPoint.next] at h
    split at h
    · cases h
      exact .purge tenantId
    · cases h
  | deletingKeys tenantId key rest =>
    dsimp only [DeletionPoint.next] at h
    split at h
    · next hreturned =>
      cases h
      exact .deleteKey tenantId key rest hreturned
    · cases h
  | deletingInstance tenantId =>
    dsimp only [DeletionPoint.next] at h
    split at h
    · cases h
      exact .deleteInstance tenantId
    · cases h
  | selectingRows tenantId =>
    dsimp only [DeletionPoint.next] at h
    split at h
    · cases h
      exact .selectRows tenantId
    · cases h
  | deletingRows tenantId ids =>
    dsimp only [DeletionPoint.next] at h
    split at h
    · cases h
      exact .deleteRows tenantId ids
    · cases h
  | removingTenant tenantId => cases h

theorem next_deletion {p' : DeletionPoint}
    (h : point.next s token answer = some (.deletion p')) :
    ∃ p, point = .deletion p ∧ DeletionMoves s answer p p' := by
  cases point with
  | worker p => cases StepLemmas.worker_next h
  | request p =>
    obtain ⟨_, -, hp⟩ := Option.map_eq_some_iff.mp h
    cases hp
  | cancel p =>
    obtain ⟨_, -, hp⟩ := StepLemmas.cancel_next h
    cases hp
  | status p =>
    obtain ⟨_, -, hp⟩ := Option.map_eq_some_iff.mp h
    cases hp
  | cleanup p =>
    obtain ⟨_, -, hp⟩ := Option.map_eq_some_iff.mp h
    cases hp
  | deletion p =>
    obtain ⟨p'', hp, heq⟩ := Option.map_eq_some_iff.mp h
    cases heq
    exact ⟨p, rfl, deletionMoves_of_next hp⟩

theorem purgeKeys_ne {keys : List ObjectKey} {ids : List UUID} {other : UUID} :
    purgeKeys tenantId keys ≠ .deletingRows other ids := by
  intro h
  cases keys <;> cases h

theorem tenantPoint_next (htoken : token ∉ s.drawn) (hknown : KnownShared s)
    (hknownPoint : KnownPoint s point) (hpoint : TenantPoint s point)
    (h : point.next s token answer = some next) :
    TenantPoint (s.after point answer token) next where
  claimed := by
    intro job row' hclaimed hget
    rcases claimed_next h hclaimed with hold | ⟨-, -, row, hrow, rfl⟩
    · exact (tenantPoint_other htoken hknownPoint hpoint).claimed hold hget
    · have hclaimable := (claimable_eq_some hrow).1
      obtain ⟨old, hold, heq⟩ := tenantId_before htoken (hknown.row hclaimable) hget
      rw [heq]
      cases hold.symm.trans hclaimable
      rfl
  held := by
    intro job id key stored hclaimed hholds hobject
    have hold := (claimed_next h hclaimed).resolve_right fun ⟨hpolling, _, _⟩ => by
      -- a worker that claims its job holds no key
      rcases holds_next h hholds with hheld | ⟨-, job, attempt, huploading, -⟩
      · rw [hpolling] at hheld
        cases hheld
      · rw [hpolling] at huploading
        cases huploading
    rcases holds_next h hholds with hheld | ⟨-, job', attempt, rfl, hnew⟩
    · exact (tenantPoint_other htoken hknownPoint hpoint).held hold hheld hobject
    · cases hold
      cases hnew
      rcases object_before hobject with ⟨hbefore, -⟩ | ⟨-, job, attempt, hp, -, rfl⟩
      · exact absurd (hknown.object hbefore).1 htoken
      · cases hp
        rfl
  ids := by
    rintro tenantId ids rfl id hid
    obtain ⟨p, rfl, hmoves⟩ := next_deletion h
    generalize hp' : DeletionPoint.deletingRows tenantId ids = p' at hmoves
    cases hmoves with
    | purge => exact absurd hp'.symm purgeKeys_ne
    | deleteKey => exact absurd hp'.symm purgeKeys_ne
    | selectRows =>
      cases hp'
      obtain ⟨row, hrow, rfl⟩ := List.mem_map.mp hid
      obtain ⟨hget, htenant⟩ := Table.get_of_mem_select hrow
      refine ⟨List.mem_cons_of_mem _ (hknown.row hget), fun row' hget' => ?_⟩
      obtain ⟨old, hold, heq⟩ := tenantId_before htoken (hknown.row hget) hget'
      cases hold.symm.trans hget
      rw [heq]
      exact of_decide_eq_true htenant
    | _ => cases hp'

theorem tenantPoint_start (operation : Operation) : TenantPoint s (operation.point now) where
  claimed h _ := by
    rw [claimed_start] at h
    cases h
  held h _ _ := by
    rw [claimed_start] at h
    cases h
  ids h := by cases operation <;> cases h

end DeletionLemmas

open DeletionLemmas

/-- In every run, an object, its row and its worker are of one tenant. -/
theorem tenants_of_reaches (h : Reaches step ok (World.start tenants now) w) :
    SameTenant w.shared ∧ ∀ q ∈ w.processes.running, TenantPoint w.shared q.point := by
  refine each_of_reaches (I := SameTenant) (A := TenantPoint) h ?_ ?_ ?_ ?_
  · refine ⟨fun key stored job hobject => ?_, fun q hq => ?_⟩
    · rw [start_objects] at hobject
      cases hobject
    · rw [start_running] at hq
      cases hq
  · exact fun _ htenant => ⟨htenant, fun _ hp => ⟨hp.claimed, hp.held, hp.ids⟩⟩
  · exact fun operation _ _ => tenantPoint_start operation
  · intro w pid process answer token hreach _ hpid htoken htenant hp
    obtain ⟨hknown, hknownPoint⟩ := known_of_reaches hreach
    have hmem := Threads.mem_running_of_get hpid
    exact ⟨sameTenant_after htoken hknown (hknownPoint process hmem) htenant (hp process hmem),
      fun q hq => tenantPoint_other htoken (hknownPoint q hq) (hp q hq),
      fun next hnext => tenantPoint_next htoken hknown (hknownPoint process hmem)
        (hp process hmem) hnext⟩

/-! ## Where the objects of a tenant are while it is deleted -/

/-- The objects of the tenant are held, or among the keys. -/
def Accounted (w : World) (tenantId : UUID) (keys : List ObjectKey) : Prop :=
  ∀ key stored, w.shared.objects key = some stored → stored.tenantId = tenantId →
    Held w stored.jobId key ∨ key ∈ keys

/-- Every deletion that has listed the keys, and every one that has succeeded, accounts for the
objects of its tenant. -/
structure Deleting (w : World) : Prop where
  referenced : Referenced w
  purges : ∀ q ∈ w.processes.running, ∀ tenantId, q.point.purges = some tenantId →
    Accounted w tenantId q.point.remaining
  deleted : ∀ tenantId ∈ w.deleted, w.shared.tenants tenantId = false ∧ Accounted w tenantId []

namespace DeletionLemmas

theorem kept_of_deletion (hkeeps : keepsDeletions w (.run pid answer token) = true)
    (hpid : w.processes.get pid = some process) :
    uploadKept answer process.point = true ∧ keyKept w.shared answer process.point = true ∧
      recordsInTime w answer process.point = true := by
  simpa [keepsDeletions, hpid, and_assoc] using hkeeps

theorem accounted_run {keys : List ObjectKey} (hpid : w.processes.get pid = some process)
    (hupload : uploadKept answer process.point = true) (hpoint : TenantPoint w.shared process.point)
    (hunrecorded : ∀ job attempt key expiresAt cooldownUntil,
      process.point = .worker (.confirming job attempt key expiresAt cooldownUntil) →
      answer.applied = true → job.tenantId ≠ tenantId)
    (h : Accounted w tenantId keys) :
    Accounted (w.run pid process answer token) tenantId
      (keys.filter fun key => process.point.performed w.shared token answer ≠ .delete key) := by
  intro key stored hobject htenant
  rcases object_before hobject with ⟨hbefore, hdeleted⟩ | ⟨happlied, job, attempt, hp, rfl, rfl⟩
  · rcases h key stored hbefore htenant with hheld | hmem
    · rcases held_run hpid hupload hdeleted hheld with
        hstays | ⟨job, attempt, expiresAt, cooled, hp, hid, happlied⟩
      · exact .inl hstays
      · have hclaimed : process.point.claimed = some job := by
          rw [hp]
          rfl
        have hholds : process.point.holds = some (job.id, key) := by
          rw [hp]
          rfl
        rw [hpoint.held hclaimed hholds hbefore] at htenant
        exact absurd htenant (hunrecorded job attempt key expiresAt cooled hp happlied)
    · exact .inr (List.mem_filter.mpr ⟨hmem, by simpa using hdeleted⟩)
  · exact .inl (held_uploaded hpid hupload happlied hp)

theorem accounted_mono {keys keys' : List ObjectKey} (hsub : ∀ key ∈ keys, key ∈ keys')
    (h : Accounted w tenantId keys) : Accounted w tenantId keys' :=
  fun key stored hobject htenant => (h key stored hobject htenant).imp_right (hsub key)

theorem filter_sub {keys : List ObjectKey} {p : ObjectKey → Bool} :
    ∀ key ∈ keys.filter p, key ∈ keys := fun _ => List.mem_of_mem_filter

@[simp] theorem purges_purgeKeys {keys : List ObjectKey} :
    (Point.deletion (purgeKeys tenantId keys)).purges = some tenantId := by
  cases keys <;> rfl

@[simp] theorem remaining_purgeKeys {keys : List ObjectKey} :
    (Point.deletion (purgeKeys tenantId keys)).remaining = keys := by
  cases keys <;> rfl

theorem accounted_listed (htenant : SameTenant w.shared) (h : Referenced w) :
    Accounted w tenantId (recordedKeys w.shared.jobs tenantId) := by
  intro key stored hobject hstored
  refine (h key stored hobject).imp_right fun ⟨job, hget, hkey⟩ => ?_
  have hjob : job.tenantId = tenantId := (htenant key stored job hobject hget).trans hstored
  refine List.mem_dedup.mpr (List.mem_filterMap.mpr ⟨job, ?_, hkey⟩)
  exact List.mem_filter.mpr ⟨(Table.get_eq_some.mp hget).1, decide_eq_true hjob⟩

theorem unrecorded_of_purges {q : Process}
    (hrecords : recordsInTime w answer process.point = true) (hq : q ∈ w.processes.running)
    (hpurges : q.point.purges = some tenantId) :
    ∀ job attempt key expiresAt cooldownUntil,
      process.point = .worker (.confirming job attempt key expiresAt cooldownUntil) →
      answer.applied = true → job.tenantId ≠ tenantId := by
  rintro job attempt key expiresAt cooldownUntil hp happlied rfl
  rw [hp] at hrecords
  have hboth := kept_of_applied happlied hrecords
  simp only [Bool.and_eq_true, decide_eq_true_eq] at hboth
  exact hboth.2 q hq hpurges

theorem unrecorded_of_gone (hrecords : recordsInTime w answer process.point = true)
    (hgone : w.shared.tenants tenantId = false) :
    ∀ job attempt key expiresAt cooldownUntil,
      process.point = .worker (.confirming job attempt key expiresAt cooldownUntil) →
      answer.applied = true → job.tenantId ≠ tenantId := by
  rintro job attempt key expiresAt cooldownUntil hp happlied rfl
  rw [hp] at hrecords
  have hboth := kept_of_applied happlied hrecords
  simp only [Bool.and_eq_true, decide_eq_true_eq] at hboth
  rw [hgone] at hboth
  cases hboth.1

theorem tenants_after (h : s.tenants tenantId = false) :
    (s.after point answer token).tenants tenantId = false := by
  show (s.apply (point.performed s token answer)).tenants tenantId = false
  generalize point.performed s token answer = effect
  cases effect with
  | removeTenant other =>
    show (decide (tenantId ≠ other) && s.tenants tenantId) = false
    rw [h, Bool.and_false]
  | _ => exact h

theorem purges_next (hpid : w.processes.get pid = some process)
    (htenant : SameTenant w.shared) (hpoint : TenantPoint w.shared process.point)
    (hupload : uploadKept answer process.point = true) (hw : Deleting w)
    (hnext : process.point.next w.shared token answer = some next)
    (hpurges : next.purges = some tenantId) :
    Accounted (w.run pid process answer token) tenantId next.remaining := by
  have hmem := Threads.mem_running_of_get hpid
  have hnotWorker : (∃ p, process.point = .deletion p) → ∀ job attempt key expiresAt cooldownUntil,
      process.point = .worker (.confirming job attempt key expiresAt cooldownUntil) →
      answer.applied = true → job.tenantId ≠ tenantId := by
    rintro ⟨p, hp⟩ job attempt key expiresAt cooldownUntil hworker
    rw [hp] at hworker
    cases hworker
  obtain ⟨p', rfl⟩ : ∃ p', next = .deletion p' := by
    cases next with
    | deletion p' => exact ⟨p', rfl⟩
    | _ => cases hpurges
  obtain ⟨p, hp, hmoves⟩ := next_deletion hnext
  have hkept : ∀ keys, Accounted w tenantId keys →
      Accounted (w.run pid process answer token) tenantId
        (keys.filter fun key => process.point.performed w.shared token answer ≠ .delete key) :=
    fun keys => accounted_run hpid hupload hpoint (hnotWorker ⟨p, hp⟩)
  have hold := hw.purges process hmem
  rw [hp] at hold
  cases hmoves with
  | cancel => cases hpurges
  | wait => cases hpurges
  | skip => cases hpurges
  | list => cases hpurges
  | purge =>
    rw [purges_purgeKeys] at hpurges
    cases hpurges
    rw [remaining_purgeKeys]
    exact accounted_mono filter_sub (hkept _ (accounted_listed htenant hw.referenced))
  | deleteKey other key rest hreturned =>
    rw [purges_purgeKeys] at hpurges
    cases hpurges
    rw [remaining_purgeKeys]
    refine accounted_mono (fun key' hmem' => ?_) (hkept _ (hold tenantId rfl))
    obtain ⟨hmem', hdeleted⟩ := List.mem_filter.mp hmem'
    refine (List.mem_cons.mp hmem').resolve_left fun heq => ?_
    subst heq hreturned
    rw [hp] at hdeleted
    exact of_decide_eq_true hdeleted rfl
  | deleteInstance other =>
    cases hpurges
    exact hkept _ (hold tenantId rfl)
  | selectRows other =>
    cases hpurges
    exact hkept _ (hold tenantId rfl)
  | deleteRows other ids =>
    cases hpurges
    exact hkept _ (hold tenantId rfl)

theorem rows_gone (hpid : w.processes.get pid = some process) (htenant : SameTenant w.shared)
    (hpoint : TenantPoint w.shared process.point)
    (hupload : uploadKept answer process.point = true) (hw : Deleting w)
    (hobject : w.shared.objects key = some stored)
    (hrecorded : Recorded w.shared stored.jobId key) :
    (w.shared.after process.point answer token).jobs.get stored.jobId ≠ none ∨
      Held (w.run pid process answer token) stored.jobId key := by
  obtain ⟨job, hget, -⟩ := hrecorded
  have hmem := Threads.mem_running_of_get hpid
  have hjob := htenant key stored job hobject hget
  have hcauses := causes_performed w.shared token answer process.point
  -- the key of an object of the deleted tenant was listed, and its object deleted
  have hheld : process.point.purges = some stored.tenantId → process.point.remaining = [] →
      process.point.performed w.shared token answer ≠ .delete key →
      (∀ job attempt expiresAt cooldownUntil, process.point ≠
        .worker (.confirming job attempt key expiresAt cooldownUntil)) →
      Held (w.run pid process answer token) stored.jobId key := by
    intro hpurges hremaining hdeleted hworker
    have haccounted := hw.purges process hmem stored.tenantId hpurges key stored hobject rfl
    rw [hremaining] at haccounted
    refine (held_run hpid hupload hdeleted (haccounted.resolve_right List.not_mem_nil)).resolve_right
      ?_
    rintro ⟨job, attempt, expiresAt, cooldownUntil, hp, -, -⟩
    exact hworker job attempt expiresAt cooldownUntil hp
  by_cases hdelete : (∃ ids, process.point.performed w.shared token answer = .deleteJobs ids) ∨
      ∃ other, process.point.performed w.shared token answer = .removeTenant other
  · rcases hdelete with ⟨ids, heffect⟩ | ⟨other, heffect⟩
    · rw [heffect] at hcauses
      generalize hp : process.point = point at hcauses
      cases hcauses with
      | deleteRows other _ =>
        by_cases hid : stored.jobId ∈ ids
        · have hother := (hpoint.ids hp stored.jobId hid).2 job hget
          refine .inr (hheld ?_ ?_ ?_ ?_)
          · rw [hp, ← hjob, hother]
            rfl
          · rw [hp]
            rfl
          · rw [heffect]
            simp
          · rw [hp]
            simp
        · refine .inl ?_
          rw [get_after, ← hp, heffect, hget]
          have hkey := Table.key_of_get hget
          simp [Effect.onRow, hkey, hid]
    · rw [heffect] at hcauses
      generalize hp : process.point = point at hcauses
      cases hcauses with
      | removeTenant _ =>
        by_cases hother : job.tenantId = other
        · refine .inr (hheld ?_ ?_ ?_ ?_)
          · rw [hp, ← hjob, hother]
            rfl
          · rw [hp]
            rfl
          · rw [heffect]
            simp
          · rw [hp]
            simp
        · refine .inl ?_
          rw [get_after, ← hp, heffect, hget]
          simp [Effect.onRow, hother]
  · rw [not_or] at hdelete
    refine .inl ?_
    rw [get_after]
    refine onRow_ne_none ?_ (fun ids heq => hdelete.1 ⟨ids, heq⟩)
      fun other heq => hdelete.2 ⟨other, heq⟩
    rw [hget]
    exact Option.some_ne_none job

theorem deleting_run (hpid : w.processes.get pid = some process)
    (hkeeps : keepsDeletions w (.run pid answer token) = true)
    (hsound : Sound w.shared process.point) (htenant : SameTenant w.shared)
    (hpoint : TenantPoint w.shared process.point) (hw : Deleting w) :
    Deleting (w.run pid process answer token) := by
  obtain ⟨hupload, hkey, hrecords⟩ := kept_of_deletion hkeeps hpid
  have hmem := Threads.mem_running_of_get hpid
  refine ⟨?_, fun q hq other hpurges => ?_, fun other hdeleted => ?_⟩
  · exact referenced_run hpid hsound hupload hkey
      (fun key stored hobject hrecorded =>
        rows_gone hpid htenant hpoint hupload hw hobject hrecorded) hw.referenced
  · obtain ⟨pid', hpid'⟩ := Threads.mem_running.mp hq
    rcases eq_or_ne pid' pid with rfl | hne
    · rw [get_run_self hpid] at hpid'
      obtain ⟨next, hnext, rfl⟩ := Option.map_eq_some_iff.mp hpid'
      exact purges_next hpid htenant hpoint hupload hw hnext hpurges
    · rw [get_run_of_ne hne] at hpid'
      obtain ⟨old, hold, rfl⟩ := Option.map_eq_some_iff.mp hpid'
      have hold := Threads.mem_running_of_get hold
      exact accounted_mono filter_sub (accounted_run hpid hupload hpoint
        (unrecorded_of_purges hrecords hold hpurges) (hw.purges old hold other hpurges))
  · rcases List.mem_append.mp hdeleted with hnew | hold
    · have hp : process.point = .deletion (.removingTenant other) ∧ answer = .returned := by
        unfold Point.deletes at hnew
        split at hnew
        · next tenantId hp =>
          split at hnew
          · next hreturned =>
            rw [hp, List.mem_singleton.mp hnew]
            exact ⟨rfl, hreturned⟩
          · cases hnew
        · cases hnew
      obtain ⟨hp, rfl⟩ := hp
      have haccounted := hw.purges process hmem other (by rw [hp]; rfl)
      refine ⟨?_, ?_⟩
      · show (w.shared.apply (process.point.performed w.shared token .returned)).tenants other = false
        rw [hp]
        show (decide (other ≠ other) && w.shared.tenants other) = false
        simp
      · rw [hp] at haccounted
        refine accounted_run hpid hupload hpoint ?_ haccounted
        rintro job attempt key expiresAt cooldownUntil hworker
        rw [hp] at hworker
        cases hworker
    · obtain ⟨hgone, haccounted⟩ := hw.deleted other hold
      exact ⟨tenants_after hgone, accounted_run hpid hupload hpoint
        (unrecorded_of_gone hrecords hgone) haccounted⟩

end DeletionLemmas

theorem accounted_of_reaches
    (h : Reaches step (fun w a => keepsDeletions w a = true) (World.start tenants now) w) :
    Deleting w := by
  refine h.invariant_with
    (J := fun w => Reaches step (fun w a => keepsDeletions w a = true) (World.start tenants now) w)
    (fun _ hreach => hreach) ?_ ?_
  · refine ⟨fun key stored hobject => ?_, fun q hq => ?_, fun tenantId hdeleted => ?_⟩
    · rw [start_objects] at hobject
      cases hobject
    · rw [start_running] at hq
      cases hq
    · cases hdeleted
  · intro w a w' hreach hw hkeeps hstep
    cases stepped_of_step hstep with
    | tick hle => exact ⟨hw.referenced, hw.purges, hw.deleted⟩
    | start operation =>
      have haccounted : ∀ {tenantId keys}, Accounted w tenantId keys → Accounted
          { w with processes := w.processes.spawn ⟨operation.point w.shared.now, []⟩ }
          tenantId keys :=
        fun h key stored hobject htenant => (h key stored hobject htenant).imp_left held_spawn
      refine ⟨fun key stored hobject => ?_, ?_, fun tenantId hdeleted => ?_⟩
      · exact (hw.referenced key stored hobject).imp_left held_spawn
      · refine Threads.forall_spawn (fun q hq tenantId hpurges => ?_) fun tenantId hpurges => ?_
        · exact haccounted (hw.purges q hq tenantId hpurges)
        · cases operation <;> cases hpurges
      · exact (hw.deleted tenantId hdeleted).imp_right haccounted
    | @run pid token process answer hpid htoken =>
      obtain ⟨htenant, hpoint⟩ := tenants_of_reaches hreach
      have hsound := sound_of_reaches (fun hkeeps hpid => (kept_of_deletion hkeeps hpid).2.1) hreach
      have hmem := Threads.mem_running_of_get hpid
      exact deleting_run hpid hkeeps (hsound process hmem) htenant (hpoint process hmem) hw
    | @kill pid process hpid =>
      have hfree : process.point.holds = none := by simpa [keepsDeletions, hpid] using hkeeps
      have haccounted : ∀ {tenantId keys}, Accounted w tenantId keys →
          Accounted { w with processes := w.processes.put pid none } tenantId keys :=
        fun h key stored hobject htenant =>
          (h key stored hobject htenant).imp_left (held_kill hpid hfree)
      refine ⟨fun key stored hobject => ?_, ?_, fun tenantId hdeleted => ?_⟩
      · exact (hw.referenced key stored hobject).imp_left (held_kill hpid hfree)
      · refine Threads.forall_put (fun q hq tenantId hpurges => ?_) fun q hq => by cases hq
        exact haccounted (hw.purges q hq tenantId hpurges)
      · exact (hw.deleted tenantId hdeleted).imp_right haccounted

/-- In a run that leaves no artifact behind, nothing is stored for a tenant whose deletion has
succeeded, once no worker is inside for one of its jobs. -/
theorem deleted_tenant_leaves_nothing
    (h : Reaches step (fun w a => keepsDeletions w a = true) (World.start tenants now) w)
    (hdeleted : tenantId ∈ w.deleted)
    (hfinished : ∀ q ∈ w.processes.running, q.point.insideTenant tenantId = false)
    (hobject : w.shared.objects key = some stored) : stored.tenantId ≠ tenantId := by
  rintro rfl
  obtain ⟨-, haccounted⟩ := (accounted_of_reaches h).deleted stored.tenantId hdeleted
  obtain ⟨q, hq, hholds⟩ := (haccounted key stored hobject rfl).resolve_right List.not_mem_nil
  obtain ⟨job, hclaimed, -⟩ := claimed_of_holds hholds
  have hstored := ((tenants_of_reaches h).2 q hq).held hclaimed hholds hobject
  have hinside : q.point.insideTenant job.tenantId = true := insideTenant_of_holds hclaimed hholds
  rw [hstored] at hfinished
  rw [hfinished q hq] at hinside
  cases hinside

/-! ## An artifact that survives its tenant -/

def exDeletion (pid first count : Nat) : List Action :=
  .start (.delete ⟨1⟩) :: exRuns pid first count

/-- The artifact of a job that was done goes with its tenant. -/
theorem deleted_tenant_purged : ∃ w : World, ⟨1⟩ ∈ w.deleted ∧
    ∀ key stored, w.shared.objects key = some stored → stored.tenantId ≠ ⟨1⟩ := by
  have hexec : (execWhere step keepsDeletions (World.start exTenants 0)
      (exRecorded ++ exDeletion 2 21 7)).any (fun w : World => ⟨1⟩ ∈ w.deleted ∧
        ∀ q ∈ w.processes.running, q.point.insideTenant ⟨1⟩ = false) = true := by
    decide +kernel
  obtain ⟨w, hreach, hw⟩ := exists_of_execWhere hexec
  obtain ⟨hdeleted, hfinished⟩ := of_decide_eq_true hw
  exact ⟨w, hdeleted, fun key stored hobject =>
    deleted_tenant_leaves_nothing hreach hdeleted hfinished hobject⟩

/-- A worker that is about to record its key leaves the object behind when the tenant is
deleted first. -/
theorem deleted_tenant_left_artifact :
    ¬∀ (tenants : UUID → Bool) (now : Int) (w : World) (tenantId : UUID) (key : ObjectKey)
        (stored : StoredExport),
      Reaches step Always (World.start tenants now) w → tenantId ∈ w.deleted →
      (∀ q ∈ w.processes.running, q.point.insideTenant tenantId = false) →
      w.shared.objects key = some stored → stored.tenantId ≠ tenantId := by
  intro hall
  have hexec : (execWhere step (fun _ _ => true) (World.start exTenants 0)
      (exUploaded ++ exDeletion 2 20 8 ++ exRuns 1 28 1)).any (fun w : World => ⟨1⟩ ∈ w.deleted ∧
        (∀ q ∈ w.processes.running, q.point.insideTenant ⟨1⟩ = false) ∧
        w.shared.objects ⟨18⟩ = some ⟨⟨2⟩, ⟨1⟩⟩) = true := by
    decide +kernel
  obtain ⟨w, hreach, hw⟩ := exists_of_execWhere hexec
  obtain ⟨hdeleted, hfinished, hobject⟩ := of_decide_eq_true hw
  exact hall exTenants 0 w ⟨1⟩ ⟨18⟩ _ (hreach.mono fun _ _ _ => trivial) hdeleted hfinished hobject
    rfl

end Trackpal.Export
