import Trackpal.Export.Machine

/-!
# Which artifact a download serves, and for how long

`get_download_url`: the choice of `get_downloadable_job_for_tenant` among the ready jobs of a
tenant that have not expired and have a key, and the lifetime that `_cap_signed_url_expiry`
gives the link. Durations are in microseconds, the lifetime in seconds.

Results:
1. `downloadable_of_live`: the choice is the last job to become ready, or the one before it
   while a replacement of the last one is under way.
2. `signed_of_live`.
-/

namespace Trackpal.Export

open Trackpal.Protocol Trackpal.Foundation

/-! ## Definitions -/

def signedUrlTtlSeconds : Int := 900

def oneSecond : Int := 1000000

def capSignedUrlExpiry : Option Int → Int
  | none => signedUrlTtlSeconds
  | some remainingLifetime => min signedUrlTtlSeconds (max (remainingLifetime.tdiv oneSecond) 60)

/-- What `get_download_url` asks the storage to sign: the key, and the lifetime of the link. -/
structure SignedGet where
  key : ObjectKey
  expiresInSeconds : Int
deriving DecidableEq, Repr

/-- `get_download_url` up to the storage: `now` is the clock of the query, `later` that of the
second look at `expires_at`. -/
def getDownloadUrl (jobs : Jobs) (tenantId : UUID) (now later : Int) : Option SignedGet :=
  match downloadable jobs tenantId now with
  | none => none
  | some job =>
    match job.r2Key with
    | none => none
    | some key =>
      match job.expiresAt with
      | none => some ⟨key, capSignedUrlExpiry none⟩
      | some expiresAt =>
        if expiresAt - later ≤ 0 then none
        else some ⟨key, capSignedUrlExpiry (some (expiresAt - later))⟩

/-- A ready job of the tenant that has not expired and has a key. -/
structure Live (jobs : Jobs) (tenantId : UUID) (now : Int) (job : ExportJob) : Prop where
  row : jobs.get job.id = some job
  tenant : job.tenantId = tenantId
  ready : job.status = .ready
  unexpired : after now job.expiresAt = true
  key : job.r2Key ≠ none

/-- The replacement of a job is `pending` or `processing`. -/
def BeingReplaced (jobs : Jobs) (job : ExportJob) : Prop :=
  ∃ replacement, job.replacementJobId.bind jobs.get = some replacement ∧
    replacement.status.active = true

def ReadyLast (job other : ExportJob) : Prop := other.readyAt.getD 0 ≤ job.readyAt.getD 0

instance (job other : ExportJob) : Decidable (ReadyLast job other) :=
  inferInstanceAs (Decidable (_ ≤ _))

/-- What `get_downloadable_job_for_tenant` chooses: the live job that became ready last; while that
one is being replaced, the last one of the others, if there is another. -/
inductive Chosen (jobs : Jobs) (tenantId : UUID) (now : Int) (job : ExportJob) : Prop
  | last (hlive : Live jobs tenantId now job)
      (hlast : ∀ other, Live jobs tenantId now other → ReadyLast job other)
      (hkept : ¬BeingReplaced jobs job ∨ ∀ other, Live jobs tenantId now other → other = job)
  | previous (latest : ExportJob) (hlive : Live jobs tenantId now job)
      (hlatest : Live jobs tenantId now latest) (hne : job.id ≠ latest.id)
      (hreplaced : BeingReplaced jobs latest)
      (hlast : ∀ other, Live jobs tenantId now other → ReadyLast latest other)
      (hnext : ∀ other, Live jobs tenantId now other → other.id ≠ latest.id → ReadyLast job other)

namespace DownloadLemmas

variable {jobs : Jobs} {tenantId : UUID} {now later : Int} {job latest : ExportJob}
  {others : List ExportJob}

theorem mem_readyJobs_iff : job ∈ readyJobs jobs tenantId now ↔ Live jobs tenantId now job := by
  rw [readyJobs, List.mem_mergeSort, Table.select, List.mem_filter]
  simp only [unexpired, Bool.and_eq_true, decide_eq_true_eq, Option.isSome_iff_ne_none]
  constructor
  · rintro ⟨hmem, ⟨htenant, hready, hafter⟩, hkey⟩
    exact ⟨Table.get_of_mem hmem, htenant, hready, hafter, hkey⟩
  · intro h
    exact ⟨(Table.get_eq_some.mp h.row).1, ⟨h.tenant, h.ready, h.unexpired⟩, h.key⟩

theorem pairwise_readyJobs : (readyJobs jobs tenantId now).Pairwise ReadyLast := by
  have hsorted : (readyJobs jobs tenantId now).Pairwise fun a b =>
      decide (b.readyAt.getD 0 ≤ a.readyAt.getD 0) = true := by
    refine List.pairwise_mergeSort (fun a b c hab hbc => ?_) (fun a b => ?_) _
    · rw [decide_eq_true_eq] at *
      omega
    · rw [Bool.or_eq_true, decide_eq_true_eq, decide_eq_true_eq]
      omega
  exact hsorted.imp fun h => of_decide_eq_true h

theorem nodup_readyJobs : ((readyJobs jobs tenantId now).map (·.id)).Nodup := by
  rw [readyJobs, ((List.mergeSort_perm _ _).map _).nodup_iff]
  exact jobs.nodup.sublist (List.filter_sublist.map _)

theorem downloadable_of_readyJobs (h : readyJobs jobs tenantId now = latest :: others) :
    BeingReplaced jobs latest ∧ downloadable jobs tenantId now = some (others.headD latest) ∨
      ¬BeingReplaced jobs latest ∧ downloadable jobs tenantId now = some latest := by
  unfold downloadable
  rw [h]
  dsimp only
  cases hreplacement : latest.replacementJobId.bind jobs.get with
  | none =>
    refine .inr ⟨?_, rfl⟩
    rintro ⟨replacement, hsome, -⟩
    rw [hreplacement] at hsome
    cases hsome
  | some replacement =>
    dsimp only
    split
    · next hactive => exact .inl ⟨⟨replacement, hreplacement, hactive⟩, rfl⟩
    · next hdone =>
      refine .inr ⟨?_, rfl⟩
      rintro ⟨found, hsome, hactive⟩
      rw [hreplacement] at hsome
      cases hsome
      exact hdone hactive

end DownloadLemmas

open DownloadLemmas

variable {jobs : Jobs} {tenantId : UUID} {now later : Int} {job live : ExportJob}

theorem downloadable_of_live (h : Live jobs tenantId now live) :
    ∃ job, downloadable jobs tenantId now = some job ∧ Chosen jobs tenantId now job := by
  have hmem := mem_readyJobs_iff.mpr h
  have hsorted := @pairwise_readyJobs jobs tenantId now
  have hnodup := @nodup_readyJobs jobs tenantId now
  have hall : ∀ other, Live jobs tenantId now other ↔ other ∈ readyJobs jobs tenantId now :=
    fun other => mem_readyJobs_iff.symm
  cases hready : readyJobs jobs tenantId now with
  | nil =>
    rw [hready] at hmem
    cases hmem
  | cons latest others =>
    rw [hready] at hsorted hnodup hall
    rw [List.pairwise_cons] at hsorted
    have hlatest : Live jobs tenantId now latest := (hall latest).mpr List.mem_cons_self
    have hlast : ∀ other, Live jobs tenantId now other → ReadyLast latest other := by
      intro other hother
      rcases List.mem_cons.mp ((hall other).mp hother) with rfl | hmem
      · exact le_refl _
      · exact hsorted.1 other hmem
    rcases downloadable_of_readyJobs hready with ⟨hreplaced, hchoice⟩ | ⟨hkept, hchoice⟩
    · refine ⟨_, hchoice, ?_⟩
      cases others with
      | nil =>
        refine .last hlatest hlast (.inr fun other hother => ?_)
        exact List.mem_singleton.mp ((hall other).mp hother)
      | cons next rest =>
        rw [List.map_cons, List.nodup_cons, List.map_cons] at hnodup
        have hne : next.id ≠ latest.id := fun heq =>
          hnodup.1 (heq ▸ List.mem_cons_self)
        have hnext : Live jobs tenantId now next :=
          (hall next).mpr (List.mem_cons_of_mem _ List.mem_cons_self)
        refine .previous latest hnext hlatest hne hreplaced hlast fun other hother hid => ?_
        rcases List.mem_cons.mp ((hall other).mp hother) with rfl | hmem
        · exact absurd rfl hid
        · rcases List.mem_cons.mp hmem with rfl | hrest
          · exact le_refl _
          · exact (List.pairwise_cons.mp hsorted.2).1 other hrest
    · exact ⟨latest, hchoice, .last hlatest hlast (.inl hkept)⟩

theorem capSignedUrlExpiry_bounds (remaining : Option Int) :
    0 < capSignedUrlExpiry remaining ∧ capSignedUrlExpiry remaining ≤ signedUrlTtlSeconds := by
  cases remaining with
  | none => exact ⟨by decide, le_refl _⟩
  | some remaining =>
    have hpos : 0 < signedUrlTtlSeconds := by decide
    unfold capSignedUrlExpiry
    dsimp only
    omega

theorem capSignedUrlExpiry_le {remaining : Int} (h : 60 * oneSecond ≤ remaining) :
    capSignedUrlExpiry (some remaining) * oneSecond ≤ remaining := by
  unfold capSignedUrlExpiry oneSecond at *
  dsimp only
  rw [Int.tdiv_eq_ediv_of_nonneg (by omega)]
  omega

/-- Where the tenant has a live job, the key of the chosen one is signed until it expires; the link
lives for a while, no longer than a quarter of an hour, and where a minute or more is left, no longer
than the object. -/
theorem signed_of_live (h : Live jobs tenantId now live) :
    ∃ job key expiresAt, Chosen jobs tenantId now job ∧ job.r2Key = some key ∧
      job.expiresAt = some expiresAt ∧
      getDownloadUrl jobs tenantId now later = (if expiresAt ≤ later then none
        else some ⟨key, capSignedUrlExpiry (some (expiresAt - later))⟩) ∧
      0 < capSignedUrlExpiry (some (expiresAt - later)) ∧
      capSignedUrlExpiry (some (expiresAt - later)) ≤ signedUrlTtlSeconds ∧
      (60 * oneSecond ≤ expiresAt - later →
        later + capSignedUrlExpiry (some (expiresAt - later)) * oneSecond ≤ expiresAt) := by
  obtain ⟨job, hchoice, hchosen⟩ := downloadable_of_live h
  have hlive : Live jobs tenantId now job := by
    cases hchosen with
    | last hlive => exact hlive
    | previous latest hlive => exact hlive
  obtain ⟨key, hkey⟩ := Option.ne_none_iff_exists'.mp hlive.key
  obtain ⟨expiresAt, hexpiry, -⟩ := (Option.any_eq_true _ _).mp hlive.unexpired
  have hbounds := capSignedUrlExpiry_bounds (some (expiresAt - later))
  refine ⟨job, key, expiresAt, hchosen, hkey, hexpiry, ?_, hbounds.1, hbounds.2, fun hminute => ?_⟩
  · unfold getDownloadUrl
    rw [hchoice]
    dsimp only
    rw [hkey, hexpiry]
    dsimp only
    by_cases hpast : expiresAt ≤ later
    · rw [if_pos hpast, if_pos (by omega)]
    · rw [if_neg hpast, if_neg (by omega)]
  · have hle := capSignedUrlExpiry_le hminute
    omega

/-! ## An older artifact -/

def exFirst : List Action :=
  .start (.request ⟨1⟩ ⟨2⟩ "tenant") :: exRuns 0 0 3 ++ .start .worker :: exRuns 1 3 18

/-- A day later a second one; its worker stops before it takes the key of the first. A day after
that, a third is requested. -/
def exThird : List Action :=
  [Action.tick (25 * hour), .start (.request ⟨1⟩ ⟨2⟩ "tenant")] ++ exRuns 2 30 4 ++
    exRuns 1 40 18 ++ [Action.kill 1, .tick (50 * hour), .start (.request ⟨1⟩ ⟨2⟩ "tenant")] ++
    exRuns 3 70 4

def exLate : Int := 72 * hour - 30 * oneSecond

def exOldest : ExportJob :=
  { newJob ⟨2⟩ ⟨1⟩ ⟨2⟩ "tenant" 0 cooldown none with
    status := .ready
    r2Key := some ⟨18⟩
    readyAt := some (25 * hour)
    expiresAt := some exportTtl
    replacementJobId := some ⟨32⟩ }

def exNewest : ExportJob :=
  { newJob ⟨32⟩ ⟨1⟩ ⟨2⟩ "tenant" (25 * hour) (49 * hour) (some ⟨2⟩) with
    status := .ready
    r2Key := some ⟨55⟩
    readyAt := some (50 * hour)
    expiresAt := some (25 * hour + exportTtl)
    replacementJobId := some ⟨72⟩ }

/-- What the query finds of a tenant. -/
def candidates (jobs : Jobs) (tenantId : UUID) (now : Int) : List ExportJob :=
  jobs.select fun job => job.tenantId = tenantId && unexpired now job && job.r2Key.isSome

theorem downloadable_of_pair {latest previous : ExportJob}
    (hcandidates : candidates jobs tenantId now = [latest, previous])
    (hle : ReadyLast latest previous) (hreplaced : BeingReplaced jobs latest) :
    downloadable jobs tenantId now = some previous := by
  have hready : readyJobs jobs tenantId now = [latest, previous] := by
    show (candidates jobs tenantId now).mergeSort _ = _
    rw [hcandidates]
    exact List.mergeSort_of_pairwise (by simpa [ReadyLast] using hle)
  rcases downloadable_of_readyJobs hready with ⟨-, hchoice⟩ | ⟨hkept, -⟩
  · exact hchoice
  · exact absurd hreplaced hkept

/-- The first artifact is served while the second, generated a day later, is live, and half a minute
before it expires the link to it is signed for a minute. -/
theorem older_artifact_signed : ∃ w w' : World,
    Reaches step Always (World.start exTenants 0) w ∧ exec step w exThird = some w' ∧
      (w.shared.objects ⟨18⟩).isSome = true ∧ w.shared.objects ⟨55⟩ = none ∧
      Live w'.shared.jobs ⟨1⟩ w'.shared.now exNewest ∧ exNewest.r2Key = some ⟨55⟩ ∧
      getDownloadUrl w'.shared.jobs ⟨1⟩ w'.shared.now w'.shared.now = some ⟨⟨18⟩, 900⟩ ∧
      getDownloadUrl w'.shared.jobs ⟨1⟩ exLate exLate = some ⟨⟨18⟩, 60⟩ ∧
      exOldest.expiresAt = some exportTtl ∧ exportTtl < exLate + 60 * oneSecond := by
  have hexec : (exec step (World.start exTenants 0) exFirst).any (fun w =>
      (w.shared.objects ⟨18⟩).isSome = true ∧ w.shared.objects ⟨55⟩ = none ∧
      (exec step w exThird).any fun w' =>
        w'.shared.jobs.get ⟨32⟩ = some exNewest ∧ w'.shared.now = 50 * hour ∧
        candidates w'.shared.jobs ⟨1⟩ (50 * hour) = [exNewest, exOldest] ∧
        candidates w'.shared.jobs ⟨1⟩ exLate = [exNewest, exOldest] ∧
        (w'.shared.jobs.get ⟨72⟩).any (·.status.active)) = true := by
    decide +kernel
  obtain ⟨w, hw, hfacts⟩ := (Option.any_eq_true _ _).mp hexec
  obtain ⟨hfirst, hsecond, hthird⟩ := of_decide_eq_true hfacts
  obtain ⟨w', hw', hfacts'⟩ := (Option.any_eq_true _ _).mp hthird
  obtain ⟨hnewest, hnow, hthen, hlate, hactive⟩ := of_decide_eq_true hfacts'
  have hreplaced : BeingReplaced w'.shared.jobs exNewest := (Option.any_eq_true _ _).mp hactive
  have hlast : ReadyLast exNewest exOldest := by decide
  have hlive : Live w'.shared.jobs ⟨1⟩ (50 * hour) exNewest :=
    ⟨hnewest, rfl, rfl, by decide, Option.some_ne_none _⟩
  refine ⟨w, w', reaches_of_exec hw, hw', hfirst, hsecond, hnow ▸ hlive, rfl, ?_, ?_, rfl, by decide⟩
  · rw [hnow, getDownloadUrl, downloadable_of_pair hthen hlast hreplaced]
    decide
  · rw [getDownloadUrl, downloadable_of_pair hlate hlast hreplaced]
    decide

def exReplaced : Jobs :=
  ⟨[exOldest, exNewest, newJob ⟨72⟩ ⟨1⟩ ⟨2⟩ "tenant" (50 * hour) (74 * hour) (some ⟨32⟩)], by decide⟩

/-- Of the two artifacts of a tenant one is signed, a second after it was chosen. -/
theorem one_of_two_signed :
    ∃ job key expiresAt, Chosen exReplaced ⟨1⟩ (50 * hour) job ∧ job.r2Key = some key ∧
      job.expiresAt = some expiresAt ∧
      getDownloadUrl exReplaced ⟨1⟩ (50 * hour) (50 * hour + oneSecond) =
        (if expiresAt ≤ 50 * hour + oneSecond then none
          else some ⟨key, capSignedUrlExpiry (some (expiresAt - (50 * hour + oneSecond)))⟩) ∧
      0 < capSignedUrlExpiry (some (expiresAt - (50 * hour + oneSecond))) ∧
      capSignedUrlExpiry (some (expiresAt - (50 * hour + oneSecond))) ≤ signedUrlTtlSeconds ∧
      (60 * oneSecond ≤ expiresAt - (50 * hour + oneSecond) → 50 * hour + oneSecond +
        capSignedUrlExpiry (some (expiresAt - (50 * hour + oneSecond))) * oneSecond ≤ expiresAt) := by
  have hlive : Live exReplaced ⟨1⟩ (50 * hour) exNewest :=
    ⟨by decide, rfl, rfl, by decide, Option.some_ne_none _⟩
  exact signed_of_live hlive

end Trackpal.Export
