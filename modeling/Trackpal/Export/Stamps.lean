import Trackpal.Export.Known

/-!
# When a job became ready, and when it failed

`update_status` writes `ready_at` whenever its argument is `ready`, and `failed_at` whenever it is
`failed`. It is also how the metadata of a job is edited in the status that the job has: by
`request_export`, which links a replacement, `confirm_replacement_ready`, which takes the key of
the job that was replaced, the reconciliation of a missing artifact, and both cleanups. Such an
edit stamps the job anew.

Results:
1. `second_cleanup_idle_iff`: a cleanup leaves nothing to a second one at the same time if and
   only if it found no expired job.
2. `stamps_written_once`.
-/

namespace Trackpal.Export

open Trackpal.Protocol Trackpal.Foundation

/-! ## Stamps -/

/-- `update_status` with this argument writes a stamp that the job has, at another time. -/
def ExportJob.restampedBy (job : ExportJob) (now : Int) : JobStatus → Bool
  | .ready => job.readyAt.any (· ≠ now)
  | .failed => job.failedAt.any (· ≠ now)
  | _ => false

/-- The effect is an `update_status` that writes a stamp anew. -/
def Shared.restamps (s : Shared) : Effect → Bool
  | .updateStatus id status _ => (s.jobs.get id).any (·.restampedBy s.now status)
  | _ => false

/-- The step commits an `update_status` that writes a stamp anew. -/
def restamps (w : World) : Action → Bool
  | .run pid answer token =>
    (w.processes.get pid).any fun process =>
      w.shared.restamps (process.point.performed w.shared token answer)
  | _ => false

def ExportJob.KeepsStamps (job job' : ExportJob) : Prop :=
  (job.readyAt ≠ none → job'.readyAt = job.readyAt) ∧
    (job.failedAt ≠ none → job'.failedAt = job.failedAt)

def StampsKept (before after : Shared) : Prop :=
  ∀ id job job', before.jobs.get id = some job → after.jobs.get id = some job' →
    job.KeepsStamps job'

namespace StampLemmas

variable {s : Shared} {w w₀ w' : World} {a : Action} {id : UUID} {now : Int} {token pid : Nat}
  {answer : Answer} {point : Point} {job job' : ExportJob} {effect : Effect} {status : JobStatus}
  {fields : StatusFields} {tenants : UUID → Bool} {ok : World → Action → Prop}

theorem keepsStamps_refl : job.KeepsStamps job := ⟨fun _ => rfl, fun _ => rfl⟩

theorem keepsStamps_trans {job'' : ExportJob} (h : job.KeepsStamps job')
    (h' : job'.KeepsStamps job'') : job.KeepsStamps job'' := by
  refine ⟨fun hready => ?_, fun hfailed => ?_⟩
  · have heq := h.1 hready
    exact (h'.1 (heq ▸ hready)).trans heq
  · have heq := h.2 hfailed
    exact (h'.2 (heq ▸ hfailed)).trans heq

theorem any_ne_eq_false {stamp : Option Int} :
    stamp.any (· ≠ now) = false ↔ (stamp ≠ none → some now = stamp) := by
  cases stamp with
  | none => simp
  | some at' =>
    rw [Option.any_some, decide_eq_false_iff_not, not_not, Option.some.injEq, eq_comm]
    exact ⟨fun heq _ => heq, fun h => h (Option.some_ne_none at')⟩

theorem keepsStamps_withStatus : job.KeepsStamps (job.withStatus now status fields) ↔
    job.restampedBy now status = false := by
  cases status with
  | ready =>
    refine Iff.trans ?_ any_ne_eq_false.symm
    exact ⟨fun h => h.1, fun h => ⟨h, fun _ => rfl⟩⟩
  | failed =>
    refine Iff.trans ?_ any_ne_eq_false.symm
    exact ⟨fun h => h.2, fun h => ⟨fun _ => rfl, h⟩⟩
  | pending => exact iff_of_true keepsStamps_refl rfl
  | processing => exact iff_of_true keepsStamps_refl rfl
  | cancelled => exact iff_of_true keepsStamps_refl rfl

theorem keepsStamps_of_rewrites (h : Rewrites s.now id effect job job')
    (hget : s.jobs.get id = some job) (hrestamps : s.restamps effect = false) :
    job.KeepsStamps job' := by
  cases h with
  | keep => exact keepsStamps_refl
  | claim token leaseExpiresAt => exact keepsStamps_refl
  | status _ status fields =>
    rw [Shared.restamps, hget] at hrestamps
    exact keepsStamps_withStatus.mpr hrestamps
  | count => exact keepsStamps_refl
  | cancel =>
    unfold ExportJob.cancel
    split
    · exact keepsStamps_refl
    · exact keepsStamps_refl

theorem stampsKept_after : StampsKept s (s.after point answer token) ↔
    s.restamps (point.performed s token answer) = false := by
  constructor
  · intro h
    rw [Bool.eq_false_iff]
    intro hrestamps
    unfold Shared.restamps at hrestamps
    split at hrestamps
    · next id status fields heffect =>
      obtain ⟨job, hget, hjob⟩ := (Option.any_eq_true _ _).mp hrestamps
      have hafter : (s.after point answer token).jobs.get id =
          some (job.withStatus s.now status fields) := by
        rw [get_after, heffect, hget]
        exact if_pos rfl
      have hkept := keepsStamps_withStatus.mp (h id job _ hget hafter)
      rw [hkept] at hjob
      cases hjob
    · cases hrestamps
  · intro h id job job' hget hget'
    rw [get_after] at hget'
    rcases rewrites_of_onRow hget' with ⟨old, hold, hrewrites⟩ | ⟨-, -, hnone⟩
    · rw [hget] at hold
      obtain rfl := Option.some.inj hold
      exact keepsStamps_of_rewrites hrewrites hget h
    · rw [hget] at hnone
      cases hnone

theorem stamps_kept_iff (hstep : step w a = some w') :
    StampsKept w.shared w'.shared ↔ restamps w a = false := by
  have hsame : StampsKept w.shared w.shared := by
    intro id job job' hget hget'
    rw [hget] at hget'
    obtain rfl := Option.some.inj hget'
    exact keepsStamps_refl
  cases stepped_of_step hstep with
  | tick hle => exact iff_of_true hsame rfl
  | start operation => exact iff_of_true hsame rfl
  | @run pid token process answer hpid htoken =>
    rw [restamps, hpid]
    exact stampsKept_after
  | kill hpid => exact iff_of_true hsame rfl

theorem keepsStamps_of_reaches (hok : ∀ w a, ok w a → restamps w a = false)
    (h : Reaches step ok w₀ w) (hjob : w₀.shared.jobs.get id = some job)
    (hdrawn : id.int ∈ w₀.shared.drawn) :
    id.int ∈ w.shared.drawn ∧ ∀ job', w.shared.jobs.get id = some job' → job.KeepsStamps job' := by
  refine h.invariant (I := fun w => id.int ∈ w.shared.drawn ∧
    ∀ job', w.shared.jobs.get id = some job' → job.KeepsStamps job')
    ⟨hdrawn, fun job' hget => ?_⟩ ?_
  · rw [hjob] at hget
    obtain rfl := Option.some.inj hget
    exact keepsStamps_refl
  · rintro w a w' ⟨hdrawn, hkept⟩ hact hstep
    cases stepped_of_step hstep with
    | tick hle => exact ⟨hdrawn, hkept⟩
    | start operation => exact ⟨hdrawn, hkept⟩
    | @run pid token process answer hpid htoken =>
      refine ⟨List.mem_cons_of_mem _ hdrawn, fun job' hget => ?_⟩
      -- the id was drawn, so the row is not a new one
      obtain ⟨old, hold, -⟩ := row_before htoken hdrawn hget
      have hstamps := (stamps_kept_iff hstep).mpr (hok w _ hact)
      exact keepsStamps_trans (hkept old hold) (hstamps id old job' hold hget)
    | kill hpid => exact ⟨hdrawn, hkept⟩

end StampLemmas

/-! ## Two cleanups at one time -/

def CleansUp (pid : Nat) (_ : World) : Action → Prop
  | .run other answer _ => other = pid ∧ answer = .returned
  | _ => False

/-- No expired job is `ready`. -/
def NoneExpired (s : Shared) : Prop :=
  ∀ id job, s.jobs.get id = some job → job.status = .ready → job.expiresAt.any (· < s.now) = false

def StaleAmong (s : Shared) (ids : List UUID) : Prop :=
  ∀ id job, s.jobs.get id = some job → job.status = .failed →
    job.failedAt.any (· < s.now - exportTtl) = true → id ∈ ids

def CleanPoint (s : Shared) : Option Point → Prop
  | some (.cleanup .sweeping) | some (.cleanup .sweepingFailed) => NoneExpired s
  | some (.cleanup (.redacting row rest)) => NoneExpired s ∧
      (∀ carried ∈ row :: rest, carried.status = .failed) ∧
      StaleAmong s ((row :: rest).map (·.id))
  | none => NoneExpired s ∧ StaleAmong s []
  | _ => False

namespace StampLemmas

variable {s : Shared} {w w' : World} {a : Action} {id : UUID} {now : Int} {token pid : Nat}
  {answer : Answer} {point : Point} {p : CleanupPoint} {job : ExportJob} {rows : List ExportJob}

theorem expiredReady_eq_nil : expiredReady s.jobs s.now = [] ↔ NoneExpired s := by
  unfold expiredReady
  rw [Table.select_eq_nil]
  constructor
  · intro h id job hget hready
    have hrow := h job (Table.get_eq_some.mp hget).1
    simpa [hready] using hrow
  · intro h job hmem
    have hjob := h job.id job (Table.get_of_mem hmem)
    by_cases hready : job.status = .ready
    · simp [hjob hready]
    · simp [hready]

theorem staleFailed_eq_nil : staleFailed s.jobs s.now = [] ↔ StaleAmong s [] := by
  unfold staleFailed
  rw [Table.select_eq_nil]
  constructor
  · intro h id job hget hfailed hstale
    have hrow := h job (Table.get_eq_some.mp hget).1
    simp [hfailed, hstale] at hrow
  · intro h job hmem
    have hjob := h job.id job (Table.get_of_mem hmem)
    simpa using hjob

theorem staleAmong_staleFailed : StaleAmong s ((staleFailed s.jobs s.now).map (·.id)) := by
  intro id job hget hfailed hstale
  refine List.mem_map.mpr ⟨job, List.mem_filter.mpr ⟨(Table.get_eq_some.mp hget).1, ?_⟩,
    Table.key_of_get hget⟩
  simp [hfailed, hstale]

theorem redact_row {row : ExportJob} (hrow : row.status = .failed)
    (hget : (s.apply (.updateStatus row.id row.status { errorCode := row.errorCode })).jobs.get id =
      some job) :
    id = row.id ∧ job.status = .failed ∧ job.failedAt = some s.now ∨
      id ≠ row.id ∧ s.jobs.get id = some job := by
  rw [get_apply] at hget
  dsimp only [Effect.onRow] at hget
  split at hget
  · next heq =>
    obtain ⟨old, -, rfl⟩ := Option.map_eq_some_iff.mp hget
    rw [hrow]
    exact .inl ⟨heq, rfl, rfl⟩
  · next hne => exact .inr ⟨hne, hget⟩

theorem cleanPoint_next (h : CleanPoint s (some (.cleanup p))) :
    CleanPoint (s.after (.cleanup p) .returned token)
      ((Point.cleanup p).next s token .returned) := by
  cases p with
  | sweeping =>
    have hnone : expiredReady s.jobs s.now = [] := expiredReady_eq_nil.mpr h
    have hnext : (Point.cleanup .sweeping).next s token .returned =
        some (.cleanup (sweep (expiredReady s.jobs s.now))) := rfl
    rw [hnext, hnone]
    exact h
  | deletingExpired row key rest => exact h.elim
  | clearingExpired row rest => exact h.elim
  | sweepingFailed =>
    have hnext : (Point.cleanup .sweepingFailed).next s token .returned =
        (redact (staleFailed s.jobs s.now)).map .cleanup := rfl
    have hstale := staleAmong_staleFailed (s := s)
    have hfailed : ∀ row ∈ staleFailed s.jobs s.now, row.status = .failed :=
      fun row hrow => (mem_staleFailed hrow).2
    rw [hnext]
    cases hrows : staleFailed s.jobs s.now with
    | nil =>
      rw [hrows] at hstale
      exact ⟨h, hstale⟩
    | cons row rest =>
      rw [hrows] at hstale hfailed
      exact ⟨h, hfailed, hstale⟩
  | redacting row rest =>
    obtain ⟨hexpired, hfailed, hstale⟩ := h
    have hrow := hfailed row List.mem_cons_self
    have hlater : NoneExpired (s.after (.cleanup (.redacting row rest)) .returned token) := by
      intro id job hget hready
      rcases redact_row hrow hget with ⟨-, hstatus, -⟩ | ⟨-, hold⟩
      · rw [hstatus] at hready
        cases hready
      · rw [now_after]
        exact hexpired id job hold hready
    have hleft : StaleAmong (s.after (.cleanup (.redacting row rest)) .returned token)
        (rest.map (·.id)) := by
      intro id job hget hstatus hjob
      rw [now_after] at hjob
      rcases redact_row hrow hget with ⟨-, -, hnow⟩ | ⟨hne, hold⟩
      · -- it has failed just now
        rw [hnow, Option.any_some, decide_eq_true_eq] at hjob
        have hpos : 0 < exportTtl := by decide
        omega
      · exact (List.mem_cons.mp (hstale id job hold hstatus hjob)).resolve_left hne
    have hnext : (Point.cleanup (.redacting row rest)).next s token .returned =
        (redact rest).map .cleanup := rfl
    rw [hnext]
    cases rest with
    | nil => exact ⟨hlater, hleft⟩
    | cons first rest =>
      exact ⟨hlater, fun carried hmem => hfailed carried (List.mem_cons_of_mem _ hmem), hleft⟩

end StampLemmas

/-- The row of a job is `ready` with this expiry, and so is every copy of it that a cleanup
carries. -/
def KeepsExpiry (id : UUID) (expiresAt : Int) (s : Shared) (point : Option Point) : Prop :=
  (∃ job, s.jobs.get id = some job ∧ job.status = .ready ∧ job.expiresAt = some expiresAt) ∧
    ∀ p, point = some p → (∃ cleanup, p = .cleanup cleanup) ∧ ∀ row ∈ p.rows, row.id = id →
      row.status = .ready ∧ row.expiresAt = some expiresAt

namespace StampLemmas

variable {s : Shared} {w w' : World} {id : UUID} {now : Int} {token pid : Nat}
  {answer : Answer} {p : CleanupPoint} {job : ExportJob} {process : Process}

theorem expiry_withStatus {expiresAt : Int} {fields : StatusFields}
    (hexpiry : job.expiresAt = some expiresAt)
    (hfields : fields.expiresAt = none ∨ fields.expiresAt = some expiresAt) :
    (job.withStatus now .ready fields).expiresAt = some expiresAt := by
  show fields.expiresAt.or job.expiresAt = _
  rcases hfields with hnone | hsome
  · rw [hnone, Option.none_or, hexpiry]
  · rw [hsome, Option.some_or]

theorem keepsExpiry_next {expiresAt : Int} (h : KeepsExpiry id expiresAt s (some (.cleanup p))) :
    KeepsExpiry id expiresAt (s.after (.cleanup p) .returned token)
      ((Point.cleanup p).next s token .returned) := by
  obtain ⟨⟨job, hget, hready, hexpiry⟩, hpoint⟩ := h
  obtain ⟨-, hrows⟩ := hpoint _ rfl
  have hrewrite : ∀ (row : ExportJob) (fields : StatusFields),
      (row.id = id → row.status = .ready) →
      (row.id = id → fields.expiresAt = none ∨ fields.expiresAt = some expiresAt) →
      ∃ job', (Effect.updateStatus row.id row.status fields).onRow s.now id (some job) =
        some job' ∧ job'.status = .ready ∧ job'.expiresAt = some expiresAt := by
    intro row fields hstatus hfields
    dsimp only [Effect.onRow]
    split
    · next heq =>
      rw [hstatus heq.symm]
      exact ⟨_, rfl, withStatus_status, expiry_withStatus hexpiry (hfields heq.symm)⟩
    · exact ⟨job, rfl, hready, hexpiry⟩
  refine ⟨?_, fun next hnext => ⟨?_, fun row hrow hid => ?_⟩⟩
  · rw [get_after, hget]
    cases p with
    | clearingExpired row rest =>
      exact hrewrite row { expiresAt := row.expiresAt }
        (fun hid => (hrows row List.mem_cons_self hid).1)
        fun hid => .inr (hrows row List.mem_cons_self hid).2
    | redacting row rest =>
      exact hrewrite row { errorCode := row.errorCode }
        (fun hid => (hrows row List.mem_cons_self hid).1) fun _ => .inl rfl
    | _ => exact ⟨job, rfl, hready, hexpiry⟩
  · obtain ⟨p', -, rfl⟩ := Option.map_eq_some_iff.mp hnext
    exact ⟨p', rfl⟩
  · rcases rows_next hnext hrow with hold | ⟨-, -, hfresh, -⟩
    · exact hrows row hold hid
    · rw [hid, hget] at hfresh
      obtain rfl := Option.some.inj hfresh
      exact ⟨hready, hexpiry⟩

theorem point_run_self (hpid : w.processes.get pid = some process) :
    ((w.run pid process answer token).processes.get pid).map (·.point) =
      process.point.next w.shared token answer := by
  rw [get_run_self hpid, Option.map_map]
  exact Option.map_id'

theorem cleansUp_invariant {A : Shared → Option Point → Prop}
    (hA : ∀ s p token, A s (some (.cleanup p)) →
      A (s.after (.cleanup p) .returned token) ((Point.cleanup p).next s token .returned))
    (hcleanup : ∀ s point, A s (some point) → ∃ p, point = .cleanup p)
    (h : Reaches step (CleansUp pid) w w')
    (hstart : A w.shared ((w.processes.get pid).map (·.point))) :
    A w'.shared ((w'.processes.get pid).map (·.point)) ∧ w'.shared.now = w.shared.now := by
  refine h.invariant (I := fun w' => A w'.shared ((w'.processes.get pid).map (·.point)) ∧
    w'.shared.now = w.shared.now) ⟨hstart, rfl⟩ ?_
  rintro w₁ a w₂ ⟨hpoint, hnow⟩ hact hstep
  cases stepped_of_step hstep with
  | tick hle => exact hact.elim
  | start operation => exact hact.elim
  | @run other token process answer hpid htoken =>
    obtain ⟨rfl, rfl⟩ := hact
    rw [hpid, Option.map_some] at hpoint
    obtain ⟨p, hp⟩ : ∃ p, process.point = .cleanup p := hcleanup _ _ hpoint
    rw [hp] at hpoint
    refine ⟨?_, now_after.trans hnow⟩
    rw [point_run_self hpid, hp]
    show A (w₁.shared.after process.point .returned token) _
    rw [hp]
    exact hA w₁.shared p token hpoint
  | kill hpid => exact hact.elim

theorem second_cleanup_idle_iff
    (hstart : (w.processes.get pid).map (·.point) = some (.cleanup .sweeping))
    (h : Reaches step (CleansUp pid) w w') (hend : w'.processes.get pid = none) :
    (expiredReady w'.shared.jobs w'.shared.now = [] ∧
        staleFailed w'.shared.jobs w'.shared.now = []) ↔
      expiredReady w.shared.jobs w.shared.now = [] := by
  constructor
  · rintro ⟨hnone, -⟩
    refine List.eq_nil_iff_forall_not_mem.mpr fun job hmem => ?_
    obtain ⟨hget, hready⟩ := mem_expiredReady hmem
    have hexpired := (List.mem_filter.mp hmem).2
    simp only [Bool.and_eq_true, decide_eq_true_eq] at hexpired
    obtain ⟨expiresAt, hexpiry, hlt⟩ := (Option.any_eq_true _ _).mp hexpired.2
    have hkeeps : KeepsExpiry job.id expiresAt w.shared (some (.cleanup .sweeping)) := by
      refine ⟨⟨job, hget, hready, hexpiry⟩, fun p hp => ?_⟩
      cases hp
      exact ⟨⟨_, rfl⟩, fun row hrow => (nomatch hrow)⟩
    obtain ⟨⟨⟨job', hget', hready', hexpiry'⟩, -⟩, hnow⟩ :=
      cleansUp_invariant (fun s p token => keepsExpiry_next)
        (fun s point hpoint => (hpoint.2 point rfl).1) h (hstart ▸ hkeeps)
    have hleft := expiredReady_eq_nil.mp hnone job.id job' hget' hready'
    rw [hexpiry', hnow, Option.any_some, hlt] at hleft
    cases hleft
  · intro hnone
    have hclean : CleanPoint w.shared (some (.cleanup .sweeping)) := expiredReady_eq_nil.mp hnone
    obtain ⟨hpoint, -⟩ := cleansUp_invariant (A := CleanPoint)
      (fun s p token => cleanPoint_next) (fun s point hpoint => by
        cases point with
        | cleanup p => exact ⟨p, rfl⟩
        | _ => exact hpoint.elim) h (hstart ▸ hclean)
    rw [hend] at hpoint
    exact ⟨expiredReady_eq_nil.mpr hpoint.1, staleFailed_eq_nil.mpr hpoint.2⟩

end StampLemmas

open StampLemmas

/-- In every run whose steps restamp no job, the stamps of a job never change once they are
written, and a step that does restamp one changes them; a cleanup leaves nothing to a second one at
the same time if and only if it found no expired job. -/
theorem stamps_written_once {tenants : UUID → Bool} {now : Int} {w : World}
    (h : Reaches step (fun w a => restamps w a = false) (World.start tenants now) w) :
    (∀ w', Reaches step (fun w a => restamps w a = false) w w' → StampsKept w.shared w'.shared) ∧
    (∀ a w', step w a = some w' → (StampsKept w.shared w'.shared ↔ restamps w a = false)) ∧
    ∀ pid w', (w.processes.get pid).map (·.point) = some (.cleanup .sweeping) →
      Reaches step (CleansUp pid) w w' → w'.processes.get pid = none →
      ((expiredReady w'.shared.jobs w'.shared.now = [] ∧
          staleFailed w'.shared.jobs w'.shared.now = []) ↔
        expiredReady w.shared.jobs w.shared.now = []) := by
  refine ⟨fun w' h' id job job' hget hget' => ?_, fun a w' hstep => stamps_kept_iff hstep,
    fun pid w' hstart h' hend => second_cleanup_idle_iff hstart h' hend⟩
  have hdrawn := (known_of_reaches h).1.row hget
  exact (keepsStamps_of_reaches (fun _ _ hok => hok) h' hget hdrawn).2 job' hget'

/-! ## A job that is stamped anew -/

def exReadied : List Action :=
  .start (.request ⟨1⟩ ⟨2⟩ "tenant") :: exRuns 0 0 3 ++ .start .worker :: exRuns 1 3 18

def exSwept : List Action :=
  [Action.tick (exportTtl + 1), .start .cleanup] ++ exRuns 2 30 4

/-- The job became ready at the start, and in every run without restamping it stays so. -/
theorem stamp_of_ready_job_stays : ∃ w : World,
    (w.shared.jobs.get ⟨2⟩).map (·.readyAt) = some (some 0) ∧
      ∀ w' job, Reaches step (fun w a => restamps w a = false) w w' →
        w'.shared.jobs.get ⟨2⟩ = some job → job.readyAt = some 0 := by
  have hexec : (execWhere step (fun w a => !restamps w a) (World.start exTenants 0) exReadied).any
      (fun w => (w.shared.jobs.get ⟨2⟩).map (·.readyAt) = some (some 0)) = true := by
    decide +kernel
  obtain ⟨w, hreach, hready⟩ := exists_of_execWhere hexec
  have hready := of_decide_eq_true hready
  have hreach : Reaches step (fun w a => restamps w a = false) (World.start exTenants 0) w :=
    hreach.mono fun w a hok => by simpa using hok
  refine ⟨w, hready, fun w' job' h' hget' => ?_⟩
  obtain ⟨job, hget, hstamp⟩ := Option.map_eq_some_iff.mp hready
  have hkept := (stamps_written_once hreach).1 w' h' ⟨2⟩ job job' hget hget'
  rw [hkept.1 (by rw [hstamp]; exact Option.some_ne_none _), hstamp]

/-- A cleanup stamps an expired job anew, and a second one at the same time finds it again. -/
theorem expired_job_restamped : ∃ w w' : World,
    Reaches step Always (World.start exTenants 0) w ∧ exec step w exSwept = some w' ∧
      (w.shared.jobs.get ⟨2⟩).map (·.readyAt) = some (some 0) ∧
      (w'.shared.jobs.get ⟨2⟩).map (·.readyAt) = some (some (exportTtl + 1)) ∧
      w'.processes.get 2 = none ∧ expiredReady w'.shared.jobs w'.shared.now ≠ [] := by
  have hexec : (exec step (World.start exTenants 0) exReadied).any (fun w =>
      (w.shared.jobs.get ⟨2⟩).map (·.readyAt) = some (some 0) ∧
        (exec step w exSwept).any fun w' =>
          (w'.shared.jobs.get ⟨2⟩).map (·.readyAt) = some (some (exportTtl + 1)) ∧
            w'.processes.get 2 = none ∧ expiredReady w'.shared.jobs w'.shared.now ≠ []) = true := by
    decide +kernel
  obtain ⟨w, hw, hfacts⟩ := (Option.any_eq_true _ _).mp hexec
  obtain ⟨hready, hswept⟩ := of_decide_eq_true hfacts
  obtain ⟨w', hw', hfacts'⟩ := (Option.any_eq_true _ _).mp hswept
  exact ⟨w, w', reaches_of_exec hw, hw', hready, of_decide_eq_true hfacts'⟩

end Trackpal.Export
