import Trackpal.Export.Cancellation

/-!
# One generation at a time

`request_export` looks for a cooldown and then inserts its job, with nothing in between that
keeps another request out; it does not look for a job that is still active, the writes of a
status go by id alone, and a replacement becomes ready before its predecessor loses its key.
A run in which each of these steps finds the tenant as it should be has one generation at a
time: one active job, one job that can be downloaded, and a day between two jobs.

Results:
1. `generations_of_reaches`: what such a run keeps about the rows of a tenant.
2. `one_generation_at_a_time`.
3. `mayCreate_kept`: an `INSERT` finds its tenant so if the look did and nothing came in between.
-/

namespace Trackpal.Export

open Trackpal.Protocol Trackpal.Foundation

variable {s : Shared} {w : World} {id i j : UUID} {token pid : Nat} {answer : Answer}
  {point next : Point} {process : Process} {job job' a b : ExportJob} {effect : Effect}
  {tenants : UUID → Bool} {now : Int}

/-- A ready job that has not expired and has its key. -/
def served (now : Int) (job : ExportJob) : Bool := unexpired now job && job.r2Key.isSome

/-- No job of the tenant is active, and no cooldown of the tenant ends after the instant. -/
def mayCreate (jobs : Jobs) (tenantId : UUID) (createdAt : Int) : Bool :=
  (jobs.select fun job => job.tenantId = tenantId && job.status.active).isEmpty &&
    (isWithinCooldown jobs tenantId createdAt).isNone

def endedKept (jobs : Jobs) (id : UUID) (status : JobStatus) : Bool :=
  (jobs.get id).all fun job => job.status.active || !status.active

/-- No other job of the tenant can be downloaded. -/
def onlyServed (s : Shared) (id : UUID) : Bool :=
  (s.jobs.get id).all fun job =>
    (readyJobs s.jobs job.tenantId s.now).all fun other => other.id = id

def Effect.keepsGeneration (s : Shared) : Effect → Bool
  | .create job => mayCreate s.jobs job.tenantId job.createdAt
  | .claim id _ _ => endedKept s.jobs id .processing
  | .updateStatus id status fields =>
    endedKept s.jobs id status && (status ≠ .ready || fields.r2Key.isNone || onlyServed s id)
  | _ => true

/-- A step whose effect finds the tenant as it should be. -/
def keepsGenerations (w : World) : Action → Bool
  | .run pid answer token => (w.processes.get pid).all fun process =>
      (process.point.performed w.shared token answer).keepsGeneration w.shared
  | _ => true

/-- The jobs of a tenant come one at a time. -/
structure OneGeneration (s : Shared) : Prop where
  active : ∀ {i j a b}, s.jobs.get i = some a → s.jobs.get j = some b → a.tenantId = b.tenantId →
    a.status.active = true → b.status.active = true → i = j
  served : ∀ {i j a b}, s.jobs.get i = some a → s.jobs.get j = some b → a.tenantId = b.tenantId →
    served s.now a = true → served s.now b = true → i = j
  apart : ∀ {i j a b}, s.jobs.get i = some a → s.jobs.get j = some b → a.tenantId = b.tenantId →
    i ≠ j → a.createdAt + cooldown ≤ b.createdAt ∨ b.createdAt + cooldown ≤ a.createdAt

/-! ## Cooldowns -/

/-- The cooldown of the job covers the day after its creation. -/
def Cooled (now : Int) (job : ExportJob) : Prop :=
  job.createdAt ≤ now ∧ ∃ ends, job.cooldownUntil = some ends ∧ job.createdAt + cooldown ≤ ends

/-- What is known about the instants that a process carries. -/
def Timely (s : Shared) : Point → Prop
  | .request (.cooling request) | .request (.judging request _) | .request (.looking request) =>
    request.begunAt ≤ s.now
  | .request (.creating request _ cooldownUntil) =>
    request.begunAt ≤ s.now ∧ request.begunAt + cooldown ≤ cooldownUntil
  | .worker (.confirming claimed _ _ _ cooldownUntil) =>
    ∀ job, s.jobs.get claimed.id = some job → job.createdAt + cooldown ≤ cooldownUntil
  | _ => True

/-- What is known about the rows. -/
structure Generations (s : Shared) : Prop extends OneGeneration s where
  cooled : ∀ {id job}, s.jobs.get id = some job → Cooled s.now job

namespace GenerationLemmas

theorem tenant_of_rewrites (h : Rewrites now id effect job job') :
    job'.tenantId = job.tenantId ∧ job'.createdAt = job.createdAt := by
  cases h with
  | keep => exact ⟨rfl, rfl⟩
  | claim => exact ⟨rfl, rfl⟩
  | status => exact ⟨withStatus_tenantId, withStatus_createdAt⟩
  | count => exact ⟨rfl, rfl⟩
  | cancel =>
    unfold ExportJob.cancel
    split
    · exact ⟨rfl, rfl⟩
    · exact ⟨rfl, rfl⟩

theorem active_of_rewrites (h : Rewrites s.now id effect job job')
    (hget : s.jobs.get id = some job) (hkeeps : effect.keepsGeneration s = true)
    (hactive : job'.status.active = true) : job.status.active = true := by
  cases h with
  | keep => exact hactive
  | claim token leaseExpiresAt =>
    simpa [Effect.keepsGeneration, endedKept, hget, JobStatus.active] using hkeeps
  | status _ status fields =>
    rw [withStatus_status] at hactive
    simp only [Effect.keepsGeneration, endedKept, hget, Option.all_some, hactive, Bool.not_true,
      Bool.or_false, Bool.and_eq_true] at hkeeps
    exact hkeeps.1
  | count => exact hactive
  | cancel =>
    unfold ExportJob.cancel at hactive
    split at hactive
    · cases hactive
    · exact hactive

theorem served_of_rewrites (h : Rewrites s.now id effect job job')
    (hserved : served s.now job' = true) :
    served s.now job = true ∨
      ∃ fields, effect = .updateStatus id .ready fields ∧ fields.r2Key ≠ none := by
  cases h with
  | keep => exact .inl hserved
  | claim token leaseExpiresAt => cases hserved
  | status _ status fields =>
    simp only [served, unexpired, Bool.and_eq_true, decide_eq_true_eq, withStatus_status,
      withStatus_r2Key] at hserved
    obtain ⟨⟨rfl, -⟩, hkey⟩ := hserved
    rw [if_pos rfl] at hkey
    exact .inr ⟨fields, rfl, Option.isSome_iff_ne_none.mp hkey⟩
  | count => exact .inl hserved
  | cancel =>
    unfold ExportJob.cancel at hserved
    split at hserved
    · cases hserved
    · exact .inl hserved

theorem mem_readyJobs_of_served (hget : s.jobs.get id = some job)
    (hserved : served s.now job = true) : job ∈ readyJobs s.jobs job.tenantId s.now := by
  obtain ⟨hunexpired, hkey⟩ := (Bool.and_eq_true _ _).mp hserved
  refine List.mem_mergeSort.mpr (List.mem_filter.mpr ⟨(Table.get_eq_some.mp hget).1, ?_⟩)
  simp only [hunexpired, hkey, decide_true, Bool.and_true]

theorem only_of_keeps {fields : StatusFields}
    (hkeeps : (Effect.updateStatus i .ready fields).keepsGeneration s = true)
    (hkey : fields.r2Key ≠ none) (ha : s.jobs.get i = some a) (hb : s.jobs.get j = some b)
    (htenant : a.tenantId = b.tenantId) (hserved : served s.now b = true) : i = j := by
  obtain ⟨key, hkey⟩ := Option.ne_none_iff_exists'.mp hkey
  simp only [Effect.keepsGeneration, onlyServed, ha, hkey, Option.all_some, ne_eq,
    not_true_eq_false, decide_false, Option.isNone_some, Bool.or_self, Bool.false_or,
    Bool.and_eq_true, htenant, List.all_eq_true, decide_eq_true_eq] at hkeeps
  rw [← hkeeps.2 b (mem_readyJobs_of_served hb hserved), Table.key_of_get hb]

/-! ## Pairs of rows -/

theorem pairs_after {R : UUID → ExportJob → UUID → ExportJob → Prop}
    (hsymm : ∀ i a j b, R i a j b → R j b i a) (hrefl : ∀ i a, R i a i a)
    (hold : ∀ i a a' j b b', s.jobs.get i = some a → s.jobs.get j = some b →
      Rewrites s.now i (point.performed s token answer) a a' →
      Rewrites s.now j (point.performed s token answer) b b' → R i a' j b')
    (hnew : ∀ job j b, point.performed s token answer = .create job → s.jobs.get j = some b →
      R job.id job j b)
    (ha : (s.after point answer token).jobs.get i = some a)
    (hb : (s.after point answer token).jobs.get j = some b) : R i a j b := by
  have hkept : ∀ {job row row' : ExportJob} {id : UUID},
      Rewrites s.now id (.create job) row row' → row' = row := by
    intro job row row' id h
    cases h
    rfl
  rw [get_after] at ha hb
  rcases rewrites_of_onRow ha with ⟨a₀, ha₀, hra⟩ | ⟨hcreate, rfl, -⟩
  · rcases rewrites_of_onRow hb with ⟨b₀, hb₀, hrb⟩ | ⟨hcreate, rfl, -⟩
    · exact hold i a₀ a j b₀ b ha₀ hb₀ hra hrb
    · rw [hcreate] at hra
      rw [hkept hra]
      exact hsymm _ _ _ _ (hnew b i a₀ hcreate ha₀)
  · rcases rewrites_of_onRow hb with ⟨b₀, hb₀, hrb⟩ | ⟨hcreate', rfl, -⟩
    · rw [hcreate] at hrb
      rw [hkept hrb]
      exact hnew a j b₀ hcreate hb₀
    · rw [hcreate] at hcreate'
      cases hcreate'
      exact hrefl _ _

theorem inactive_of_create (hkeeps : (Effect.create job).keepsGeneration s = true)
    (hb : s.jobs.get j = some b) (htenant : job.tenantId = b.tenantId) :
    b.status.active = false := by
  simp only [Effect.keepsGeneration, mayCreate, Bool.and_eq_true, List.isEmpty_iff] at hkeeps
  rw [Bool.eq_false_iff]
  intro hactive
  have hmem : b ∈ s.jobs.select fun row => row.tenantId = job.tenantId && row.status.active := by
    refine List.mem_filter.mpr ⟨(Table.get_eq_some.mp hb).1, ?_⟩
    simp only [htenant, hactive, decide_true, Bool.and_true]
  rw [hkeeps.1] at hmem
  cases hmem

theorem cooled_of_create (hkeeps : (Effect.create job).keepsGeneration s = true)
    (hb : s.jobs.get j = some b) (htenant : job.tenantId = b.tenantId) (hcooled : Cooled s.now b) :
    b.createdAt + cooldown ≤ job.createdAt := by
  simp only [Effect.keepsGeneration, mayCreate, Bool.and_eq_true, Option.isNone_iff_eq_none]
    at hkeeps
  obtain ⟨-, ends, hends, hle⟩ := hcooled
  refine Int.le_trans hle (Int.not_lt.mp fun hlt => ?_)
  have hmem : b ∈ s.jobs.select fun row =>
      row.tenantId = job.tenantId && after job.createdAt row.cooldownUntil := by
    refine List.mem_filter.mpr ⟨(Table.get_eq_some.mp hb).1, ?_⟩
    simp only [htenant, hends, after, Option.any_some, hlt, decide_true, Bool.and_true]
  rw [pick_eq_none.mp hkeeps.2] at hmem
  cases hmem

theorem oneGeneration_after (hs : Generations s)
    (hkeeps : (point.performed s token answer).keepsGeneration s = true) :
    OneGeneration (s.after point answer token) where
  active {i j a b} ha hb := by
    refine pairs_after (R := fun i a j b => a.tenantId = b.tenantId → a.status.active = true →
      b.status.active = true → i = j) ?_ ?_ ?_ ?_ ha hb
    · exact fun i a j b h htenant hactive hactive' => (h htenant.symm hactive' hactive).symm
    · exact fun _ _ _ _ _ => rfl
    · intro i a a' j b b' ha hb hra hrb htenant hactive hactive'
      rw [(tenant_of_rewrites hra).1, (tenant_of_rewrites hrb).1] at htenant
      exact hs.active ha hb htenant (active_of_rewrites hra ha hkeeps hactive)
        (active_of_rewrites hrb hb hkeeps hactive')
    · intro job j b hcreate hb htenant _ hactive
      rw [hcreate] at hkeeps
      rw [inactive_of_create hkeeps hb htenant] at hactive
      cases hactive
  served {i j a b} ha hb := by
    rw [now_after]
    refine pairs_after (R := fun i a j b => a.tenantId = b.tenantId → served s.now a = true →
      served s.now b = true → i = j) ?_ ?_ ?_ ?_ ha hb
    · exact fun i a j b h htenant hserved hserved' => (h htenant.symm hserved' hserved).symm
    · exact fun _ _ _ _ _ => rfl
    · intro i a a' j b b' ha hb hra hrb htenant hserved hserved'
      rw [(tenant_of_rewrites hra).1, (tenant_of_rewrites hrb).1] at htenant
      rcases served_of_rewrites hra hserved with hbefore | ⟨fields, heffect, hkey⟩
      · rcases served_of_rewrites hrb hserved' with hbefore' | ⟨fields, heffect, hkey⟩
        · exact hs.served ha hb htenant hbefore hbefore'
        · rw [heffect] at hkeeps
          exact (only_of_keeps hkeeps hkey hb ha htenant.symm hbefore).symm
      · rcases served_of_rewrites hrb hserved' with hbefore' | ⟨fields', heffect', -⟩
        · rw [heffect] at hkeeps
          exact only_of_keeps hkeeps hkey ha hb htenant hbefore'
        · rw [heffect] at heffect'
          cases heffect'
          rfl
    · intro job j b hcreate hb htenant hserved
      have hcauses := causes_performed s token answer point
      rw [hcreate] at hcauses
      cases hcauses
      cases hserved
  apart {i j a b} ha hb := by
    refine pairs_after (R := fun i a j b => a.tenantId = b.tenantId → i ≠ j →
      a.createdAt + cooldown ≤ b.createdAt ∨ b.createdAt + cooldown ≤ a.createdAt) ?_ ?_ ?_ ?_ ha hb
    · exact fun i a j b h htenant hne => (h htenant.symm (Ne.symm hne)).symm
    · exact fun _ _ _ hne => absurd rfl hne
    · intro i a a' j b b' ha hb hra hrb htenant hne
      rw [(tenant_of_rewrites hra).1, (tenant_of_rewrites hrb).1] at htenant
      rw [(tenant_of_rewrites hra).2, (tenant_of_rewrites hrb).2]
      exact hs.apart ha hb htenant hne
    · intro job j b hcreate hb htenant _
      rw [hcreate] at hkeeps
      exact .inr (cooled_of_create hkeeps hb htenant (hs.cooled hb))

/-! ## Cooldowns after a step -/

theorem cooldown_of_writes {status : JobStatus} {fields : StatusFields} {ends : Int}
    (h : Writes point id status fields) (hends : fields.cooldownUntil = some ends)
    (htimely : Timely s point) (hget : s.jobs.get id = some job) :
    job.createdAt + cooldown ≤ ends := by
  cases h with
  | confirm claimed attempt key expiresAt cooldownUntil =>
    cases hends
    exact htimely job hget
  | _ => cases hends

theorem cooled_of_rewrites (htimely : Timely s point)
    (h : Rewrites s.now id (point.performed s token answer) job job')
    (hget : s.jobs.get id = some job) (hcooled : Cooled s.now job) : Cooled s.now job' := by
  have hbefore := hcooled
  obtain ⟨hcreated, ends, hends, hle⟩ := hbefore
  have hcauses := causes_performed s token answer point
  generalize point.performed s token answer = effect at h hcauses
  cases h with
  | keep => exact hcooled
  | claim token leaseExpiresAt => exact ⟨hcreated, ends, hends, hle⟩
  | status _ status fields =>
    cases hcauses with
    | status hwrites =>
      unfold Cooled
      rw [withStatus_createdAt, withStatus_cooldownUntil]
      refine ⟨hcreated, ?_⟩
      cases hfields : fields.cooldownUntil with
      | none => exact ⟨ends, hends, hle⟩
      | some written => exact ⟨written, rfl, cooldown_of_writes hwrites hfields htimely hget⟩
  | count => exact ⟨hcreated, ends, hends, hle⟩
  | cancel =>
    unfold ExportJob.cancel
    split
    · exact ⟨hcreated, ends, hends, hle⟩
    · exact hcooled

theorem cooled_after (hs : Generations s) (htimely : Timely s point)
    (hget : (s.after point answer token).jobs.get id = some job') : Cooled s.now job' := by
  rw [get_after] at hget
  rcases rewrites_of_onRow hget with ⟨job, hrow, hrewrites⟩ | ⟨hcreate, -, -⟩
  · exact cooled_of_rewrites htimely hrewrites hrow (hs.cooled hrow)
  · have hcauses := causes_performed s token answer point
    rw [hcreate] at hcauses
    cases hcauses with
    | create request current cooldownUntil htenant =>
      exact ⟨htimely.1, cooldownUntil, rfl, htimely.2⟩

/-! ## The instants that a process carries -/

theorem timely_other {moved : Point} (htoken : token ∉ s.drawn) (hknown : KnownPoint s point)
    (h : Timely s point) : Timely (s.after moved answer token) point := by
  cases point with
  | request p =>
    cases p with
    | linking request current jobId => trivial
    | creating request current cooldownUntil => exact ⟨le_of_le_of_eq h.1 now_after.symm, h.2⟩
    | _ => exact le_of_le_of_eq h now_after.symm
  | worker p =>
    cases p with
    | confirming claimed attempt key expiresAt cooldownUntil =>
      intro job' hget
      obtain ⟨job, hrow, hrewrites⟩ := row_before htoken (hknown.claimed rfl) hget
      rw [(tenant_of_rewrites hrewrites).2]
      exact h job hrow
    | _ => trivial
  | _ => trivial

theorem timely_worker {p : WorkerPoint} (hs : Generations s) (htoken : token ∉ s.drawn)
    (hknown : KnownPoint s (.worker p)) :
    Timely (s.after (.worker p) answer token) (.worker (p.next s token answer)) := by
  fun_cases WorkerPoint.next s token answer p
  case case20 claimed attempt key hlook hreturned =>
    -- the cooldown begins when the artifact is uploaded
    intro job' hget
    obtain ⟨job, hrow, hrewrites⟩ := row_before htoken (hknown.claimed rfl) hget
    rw [(tenant_of_rewrites hrewrites).2]
    exact Int.add_le_add_right (hs.cooled hrow).1 cooldown
  all_goals trivial

theorem timely_request {p : RequestPoint} (h : Timely s (.request p))
    (hnext : (Point.request p).next s token answer = some next) :
    Timely (s.after (.request p) answer token) next := by
  obtain ⟨p', hp', rfl⟩ := Option.map_eq_some_iff.mp hnext
  cases p with
  | cooling request =>
    dsimp only [RequestPoint.next] at hp'
    split at hp'
    · split at hp'
      · cases hp'
        exact le_of_le_of_eq h now_after.symm
      · cases hp'
        exact le_of_le_of_eq h now_after.symm
    · cases hp'
  | judging request cooldownUntil =>
    dsimp only [RequestPoint.next] at hp'
    split at hp'
    · cases hp'
    · cases hp'
      exact le_of_le_of_eq h now_after.symm
  | looking request =>
    dsimp only [RequestPoint.next] at hp'
    split at hp'
    · cases hp'
      exact ⟨le_of_le_of_eq h now_after.symm, Int.add_le_add_right h cooldown⟩
    · cases hp'
  | creating request current cooldownUntil =>
    dsimp only [RequestPoint.next] at hp'
    split at hp'
    · obtain ⟨job, rfl, rfl⟩ := Option.map_eq_some_iff.mp hp'
      trivial
    · cases hp'
  | linking request current jobId => cases hp'

theorem timely_next (hs : Generations s) (htoken : token ∉ s.drawn) (hknown : KnownPoint s point)
    (h : Timely s point) (hnext : point.next s token answer = some next) :
    Timely (s.after point answer token) next := by
  cases point with
  | worker p =>
    obtain rfl := StepLemmas.worker_next hnext
    exact timely_worker hs htoken hknown
  | request p => exact timely_request h hnext
  | cancel p =>
    obtain ⟨p', -, rfl⟩ := StepLemmas.cancel_next hnext
    trivial
  | status p =>
    obtain ⟨p', -, rfl⟩ := Option.map_eq_some_iff.mp hnext
    trivial
  | cleanup p =>
    obtain ⟨p', -, rfl⟩ := Option.map_eq_some_iff.mp hnext
    trivial
  | deletion p =>
    obtain ⟨p', -, rfl⟩ := Option.map_eq_some_iff.mp hnext
    trivial

theorem generations_tick (hle : s.now ≤ now) (hs : Generations s) :
    Generations { s with now } where
  active := hs.active
  served ha hb htenant hserved hserved' := by
    have hbefore : ∀ {job : ExportJob}, served now job = true → served s.now job = true := by
      intro job h
      simp only [served, unexpired, after, Bool.and_eq_true, decide_eq_true_eq,
        Option.any_eq_true] at h ⊢
      obtain ⟨⟨hready, expiresAt, hexpires, hlt⟩, hkey⟩ := h
      exact ⟨⟨hready, expiresAt, hexpires, Int.lt_of_le_of_lt hle hlt⟩, hkey⟩
    exact hs.served ha hb htenant (hbefore hserved) (hbefore hserved')
  apart := hs.apart
  cooled hget := by
    obtain ⟨hcreated, hends⟩ := hs.cooled hget
    exact ⟨Int.le_trans hcreated hle, hends⟩

theorem timely_tick (hle : s.now ≤ now) (h : Timely s point) : Timely { s with now } point := by
  cases point with
  | request p =>
    cases p with
    | linking request current jobId => trivial
    | creating request current cooldownUntil => exact ⟨Int.le_trans h.1 hle, h.2⟩
    | _ => exact Int.le_trans h hle
  | worker p =>
    cases p with
    | confirming => exact h
    | _ => trivial
  | _ => trivial

end GenerationLemmas

open GenerationLemmas

theorem generations_of_reaches
    (h : Reaches step (fun w a => keepsGenerations w a = true) (World.start tenants now) w) :
    Generations w.shared ∧ ∀ q ∈ w.processes.running, Timely w.shared q.point := by
  refine each_of_reaches (I := Generations) (A := Timely) h ?_ ?_ ?_ ?_
  · refine ⟨⟨⟨fun ha => ?_, fun ha => ?_, fun ha => ?_⟩, fun ha => ?_⟩, fun q hq => ?_⟩
    · cases ha
    · cases ha
    · cases ha
    · cases ha
    · rw [start_running] at hq
      cases hq
  · exact fun hle hs => ⟨generations_tick hle hs, fun point => timely_tick hle⟩
  · intro w operation _ _
    cases operation with
    | request tenantId actorId actorRole => exact Int.le_refl _
    | _ => trivial
  · intro w pid process answer token hreach hkeeps hpid htoken hs htimely
    have hknown := (known_of_reaches hreach).2
    have hmem := Threads.mem_running_of_get hpid
    simp only [keepsGenerations, hpid, Option.all_some] at hkeeps
    refine ⟨⟨oneGeneration_after hs hkeeps, fun hget => ?_⟩, fun q hq => ?_, fun next hnext => ?_⟩
    · rw [now_after]
      exact cooled_after hs (htimely process hmem) hget
    · exact timely_other htoken (hknown q hq) (htimely q hq)
    · exact timely_next hs htoken (hknown process hmem) (htimely process hmem) hnext

/-- In a run whose steps find the tenants as they should be, two jobs of a tenant are not both
active, are not both downloadable, and were created a day apart. -/
theorem one_generation_at_a_time
    (h : Reaches step (fun w a => keepsGenerations w a = true) (World.start tenants now) w)
    (ha : w.shared.jobs.get i = some a) (hb : w.shared.jobs.get j = some b)
    (htenant : a.tenantId = b.tenantId) (hne : i ≠ j) :
    ¬(a.status.active = true ∧ b.status.active = true) ∧
      ¬(served w.shared.now a = true ∧ served w.shared.now b = true) ∧
      (a.createdAt + cooldown ≤ b.createdAt ∨ b.createdAt + cooldown ≤ a.createdAt) := by
  have hs := (generations_of_reaches h).1
  refine ⟨fun hactive => ?_, fun hserved => ?_, hs.apart ha hb htenant hne⟩
  · exact hne (hs.active ha hb htenant hactive.1 hactive.2)
  · exact hne (hs.served ha hb htenant hserved.1 hserved.2)

/-! ## From the look to the `INSERT` -/

/-- No job of the tenant is inserted, and none gets a cooldown. -/
def Effect.spares (s : Shared) (tenantId : UUID) : Effect → Bool
  | .create job => job.tenantId ≠ tenantId
  | .updateStatus id _ fields =>
    fields.cooldownUntil.isNone || (s.jobs.get id).all (·.tenantId ≠ tenantId)
  | _ => true

def spares (tenantId : UUID) (w : World) : Action → Bool
  | .run pid answer token => (w.processes.get pid).all fun process =>
      (process.point.performed w.shared token answer).spares w.shared tenantId
  | _ => true

namespace GenerationLemmas

variable {tenantId : UUID} {createdAt : Int} {jobs : Jobs}

theorem mayCreate_eq_true : mayCreate jobs tenantId createdAt = true ↔
    ∀ job ∈ jobs.rows, job.tenantId = tenantId →
      job.status.active = false ∧ after createdAt job.cooldownUntil = false := by
  rw [mayCreate, Bool.and_eq_true, List.isEmpty_iff, Table.select_eq_nil,
    Option.isNone_iff_eq_none, isWithinCooldown, pick_eq_none, Table.select_eq_nil]
  simp only [Bool.and_eq_false_imp, decide_eq_true_eq, imp_and, forall_and]

theorem cooldown_of_rewrites (h : Rewrites s.now id effect job job')
    (hget : s.jobs.get id = some job) (hspares : effect.spares s job.tenantId = true) :
    job'.cooldownUntil = job.cooldownUntil := by
  cases h with
  | status _ status fields =>
    simp only [Effect.spares, hget, Option.all_some, ne_eq, not_true_eq_false, decide_false,
      Bool.or_false, Option.isNone_iff_eq_none] at hspares
    rw [withStatus_cooldownUntil, hspares, Option.none_or]
  | cancel =>
    unfold ExportJob.cancel
    split <;> rfl
  | _ => rfl

theorem mayCreate_after (hkeeps : (point.performed s token answer).keepsGeneration s = true)
    (hspares : (point.performed s token answer).spares s tenantId = true)
    (h : mayCreate s.jobs tenantId createdAt = true) :
    mayCreate (s.after point answer token).jobs tenantId createdAt = true := by
  rw [mayCreate_eq_true] at h ⊢
  intro job' hmem htenant
  have hget := Table.get_of_mem hmem
  rw [get_after] at hget
  rcases rewrites_of_onRow hget with ⟨job, hrow, hrewrites⟩ | ⟨hcreate, -, -⟩
  · have hsame := (tenant_of_rewrites hrewrites).1
    obtain ⟨hinactive, hcooled⟩ := h job (Table.get_eq_some.mp hrow).1 (hsame ▸ htenant)
    constructor
    · refine Bool.eq_false_iff.mpr fun hactive => ?_
      rw [active_of_rewrites hrewrites hrow hkeeps hactive] at hinactive
      cases hinactive
    · rw [← htenant, hsame] at hspares
      rw [cooldown_of_rewrites hrewrites hrow hspares]
      exact hcooled
  · rw [hcreate] at hspares
    exact absurd htenant (of_decide_eq_true hspares)

end GenerationLemmas

/-- What an `INSERT` must find it does find if it held at the look, unless another request of the
tenant or the end of a generation came in between. -/
theorem mayCreate_kept {tenantId : UUID} {createdAt : Int} {w w' : World}
    (h : Reaches step (fun w a => keepsGenerations w a = true ∧ spares tenantId w a = true) w w')
    (hmay : mayCreate w.shared.jobs tenantId createdAt = true) :
    mayCreate w'.shared.jobs tenantId createdAt = true := by
  refine h.invariant (I := fun w => mayCreate w.shared.jobs tenantId createdAt = true) hmay ?_
  intro w a w' hmay hok hstep
  obtain ⟨hkeeps, hspares⟩ := hok
  cases stepped_of_step hstep with
  | run answer hpid htoken =>
    simp only [keepsGenerations, spares, hpid, Option.all_some] at hkeeps hspares
    exact mayCreate_after hkeeps hspares hmay
  | _ => exact hmay

/-! ## Two requests at the same time -/

def exNextDay : List Action :=
  .start (.request ⟨1⟩ ⟨2⟩ "tenant") :: exRuns 0 0 3 ++ .start (.cancel ⟨1⟩) :: exRuns 1 3 2 ++
    [Action.tick cooldown, .start (.request ⟨1⟩ ⟨2⟩ "tenant")] ++ exRuns 2 5 3

def exBothRequested : List Action :=
  [Action.start (.request ⟨1⟩ ⟨2⟩ "tenant"), .start (.request ⟨1⟩ ⟨3⟩ "master")] ++
    exRuns 0 0 2 ++ exRuns 1 2 2 ++ exRuns 0 4 1 ++ exRuns 1 5 1

/-- The jobs of two days are a day apart. -/
theorem next_day_generation : ∃ a b : ExportJob, a.id ≠ b.id ∧ a.tenantId = b.tenantId ∧
    ¬(a.status.active = true ∧ b.status.active = true) ∧
      (a.createdAt + cooldown ≤ b.createdAt ∨ b.createdAt + cooldown ≤ a.createdAt) := by
  have hexec : (execWhere step keepsGenerations (World.start exTenants 0) exNextDay).any
      (fun w : World => (w.shared.jobs.get ⟨2⟩).any fun a =>
        (w.shared.jobs.get ⟨7⟩).any fun b => a.tenantId = b.tenantId) = true := by
    decide +kernel
  obtain ⟨w, hreach, hw⟩ := exists_of_execWhere hexec
  obtain ⟨a, ha, hb⟩ := (Option.any_eq_true _ _).mp hw
  obtain ⟨b, hb, htenant⟩ := (Option.any_eq_true _ _).mp hb
  have hone := one_generation_at_a_time hreach ha hb (of_decide_eq_true htenant) (by decide)
  refine ⟨a, b, ?_, of_decide_eq_true htenant, hone.1, hone.2.2⟩
  rw [Table.key_of_get ha, Table.key_of_get hb]
  decide

/-- Two requests at the same time leave two active jobs of one tenant. -/
theorem two_active_jobs :
    ¬∀ (tenants : UUID → Bool) (now : Int) (w : World) (i j : UUID) (a b : ExportJob),
      Reaches step Always (World.start tenants now) w →
      w.shared.jobs.get i = some a → w.shared.jobs.get j = some b → a.tenantId = b.tenantId →
      i ≠ j →
      ¬(a.status.active = true ∧ b.status.active = true) ∧
        ¬(served w.shared.now a = true ∧ served w.shared.now b = true) ∧
        (a.createdAt + cooldown ≤ b.createdAt ∨ b.createdAt + cooldown ≤ a.createdAt) := by
  intro hall
  have hexec : (execWhere step (fun _ _ => true) (World.start exTenants 0) exBothRequested).any
      (fun w : World => (w.shared.jobs.get ⟨4⟩).any fun a =>
        (w.shared.jobs.get ⟨5⟩).any fun b =>
          a.tenantId = b.tenantId ∧ a.status.active = true ∧ b.status.active = true) = true := by
    decide +kernel
  obtain ⟨w, hreach, hw⟩ := exists_of_execWhere hexec
  obtain ⟨a, ha, hb⟩ := (Option.any_eq_true _ _).mp hw
  obtain ⟨b, hb, hboth⟩ := (Option.any_eq_true _ _).mp hb
  obtain ⟨htenant, hactive⟩ := of_decide_eq_true hboth
  exact (hall exTenants 0 w ⟨4⟩ ⟨5⟩ a b (hreach.mono fun _ _ _ => trivial) ha hb htenant
    (by decide)).1 hactive

end Trackpal.Export
