import Trackpal.Coordinator.Leases
import Trackpal.Coordinator.Replies

/-!
# Jobs that share a delivery log

Any family of jobs, each with its own processes, over one `mail_code_delivery_log`.
`record_delivery_atomic` inserts the key of a found result inside the transaction
of the callback: an insert waits for the transaction that holds an uncommitted
row of the same key, does nothing if the row is committed, and disappears with
its transaction. The two partial unique indexes together make the key, with or
without a message id, unique. Rows of the log are not deleted.

`completions` is a history variable: every commit that completed a job with a
found result, newest first.

Results:
1. `settle_found`, `settle_other`: what an outcome makes of the job.
2. `world_step_eq_some`: what a step does to the jobs and to the log.
-/

namespace Trackpal.Coordinator

open Trackpal.Protocol Trackpal.Foundation

structure DeliveryKey where
  tenantId : UUID
  mailboxId : UUID
  serviceKey : String
  messageId : Option String
  fingerprint : String
deriving DecidableEq, Repr

/-- The key that a complete `found` outcome asks the log for. -/
def deliveryKey (job : MailLookupJob) (outcome : LookupOutcome) : Option DeliveryKey :=
  if outcome.kind = .found then
    (foundComplete outcome).map fun (_, _, fingerprint) =>
      ⟨job.tenantId, job.mailboxId, job.serviceKey, outcome.messageId, fingerprint⟩
  else none

structure Completion (ι : Type*) where
  job : ι
  key : DeliveryKey
  held : MailLookupJob

/-- The jobs, the committed rows of the log, and the uncommitted ones with the job
and the process that inserted them. -/
structure World (ι : Type*) where
  jobs : ι → State
  log : List DeliveryKey
  inserts : List ((ι × Nat) × DeliveryKey)
  completions : List (Completion ι)

variable {ι : Type*}

namespace World

/-- Jobs that have just been created. -/
def start (jobs : ι → MailLookupJob) (now : Int) (log : List DeliveryKey) : World ι where
  jobs i := State.start (jobs i) now
  log := log
  inserts := []
  completions := []

/-- `record_delivery_atomic`; `none` means that the insert waits. -/
def recordDelivery (w : World ι) (key : DeliveryKey) : Option Bool :=
  if w.inserts.any (·.2 = key) then none else some (key ∉ w.log)

def completed (i : ι) (actor : Actor) (job held : MailLookupJob) : Option (Completion ι) :=
  match actor with
  | .callback callback =>
    if held.status = .completed then
      (deliveryKey job callback.outcome).map (⟨i, ·, held⟩)
    else none
  | _ => none

variable [DecidableEq ι]

/-- The transaction of the process rolls back. -/
def rollback (w : World ι) (owner : ι × Nat) : World ι :=
  { w with inserts := w.inserts.filter (·.1 ≠ owner) }

def commit (w : World ι) (owner : ι × Nat) (actor : Actor) (job held : MailLookupJob) : World ι :=
  { w.rollback owner with
    log := (w.inserts.filter (·.1 = owner)).map (·.2) ++ w.log
    completions := (completed owner.1 actor job held).toList ++ w.completions }

/-- What a step of job `i` means for the log. -/
def recorded (w : World ι) (i : ι) : Action → Option (World ι)
  | .settle pid inserted =>
    match (w.jobs i).processes pid with
    | some (.settling callback _ held _) =>
      match deliveryKey held callback.outcome with
      | none => some w
      | some key =>
        if w.recordDelivery key = some inserted then
          some { w with
            inserts := if inserted then ((i, pid), key) :: w.inserts else w.inserts }
        else none
    | _ => some w
  | .run pid =>
    match (w.jobs i).processes pid with
    | some (.running actor job (.commit held _ :: _)) => some (w.commit (i, pid) actor job held)
    | some (.running _ _ (.rollback :: _)) | some (.running _ _ []) =>
      some (w.rollback (i, pid))
    | _ => some w
  | .cancelled pid | .abort pid => some (w.rollback (i, pid))
  | _ => some w

def step (settings : Settings) (w : World ι) (move : ι × Action) : Option (World ι) :=
  (w.recorded move.1 move.2).bind fun recorded =>
    (Coordinator.step settings (w.jobs move.1) move.2).map fun s =>
      { recorded with jobs := Function.update w.jobs move.1 s }

end World

/-- Some run of the jobs ends in `w`. -/
def WorldReachable [DecidableEq ι] (settings : Settings) (jobs : ι → MailLookupJob) (now : Int)
    (log : List DeliveryKey) (w : World ι) : Prop :=
  Reaches (World.step settings) Always (World.start jobs now log) w

/-! ## Settlements -/

namespace DeliveryLemmas

variable {settings : Settings} {job held held' : MailLookupJob} {flushed flushed' : List JobStatus}
  {outcome : LookupOutcome} {inserted : Bool} {now : Int}
  {result : Option (ResultType × String × Int)}

theorem delivered_literal {type : ResultType} {job : MailLookupJob}
    (h : job.resultType = some type.literal) : delivered job = true := by
  rw [delivered_iff, h]
  cases type <;> simp [ResultType.literal]

theorem not_delivered_of_none {job : MailLookupJob} (h : job.resultType = none) :
    delivered job = false := by
  simp [delivered, h]

theorem resultType_of_transition {status : JobStatus} {details : TransitionDetails}
    (h : transitionStatus job now status details = some held) :
    held.resultType = details.resultType.or job.resultType := by
  unfold transitionStatus at h
  split at h
  · cases h
    cases status <;> rfl
  · cases h

theorem settleWith_eq_commit {status : JobStatus} {details : TransitionDetails}
    {result' : Option (ResultType × String × Int)}
    (h : settleWith held flushed now status details result' = .commit held' flushed' result) :
    held'.status = status ∧ held'.resultType = details.resultType.or held.resultType := by
  unfold settleWith at h
  split at h
  · next job hjob =>
    cases h
    exact ⟨(transitionStatus_eq_some hjob).1, resultType_of_transition hjob⟩
  · cases h

theorem settle_found {key : DeliveryKey} (hkey : deliveryKey held outcome = some key)
    (h : settleCallback settings held flushed outcome inserted now =
      .commit held' flushed' result) :
    held'.status = .completed ∧
      if inserted then delivered held' = true
      else held'.resultType = some "duplicate_suppressed" := by
  unfold deliveryKey at hkey
  split at hkey
  · next hkind =>
    obtain ⟨⟨type, value, fingerprint⟩, hfound, -⟩ := Option.map_eq_some_iff.mp hkey
    simp only [settleCallback, hkind, hfound] at h
    cases inserted with
    | false => exact settleWith_eq_commit h
    | true =>
      rw [if_neg (by simp)] at h
      split at h
      · cases h
      · obtain ⟨hstatus, hresult⟩ := settleWith_eq_commit h
        exact ⟨hstatus, delivered_literal hresult⟩
  · cases hkey

theorem settle_other (hkey : deliveryKey held outcome = none)
    (h : settleCallback settings held flushed outcome inserted now =
      .commit held' flushed' result) :
    held'.status = .completed ∧ held'.resultType = some "not_found" ∨
      held'.status ≠ .completed ∧ held'.resultType = held.resultType := by
  unfold settleCallback at h
  split at h
  · next hkind =>
    split at h
    · cases h
    · next hfound => simp [deliveryKey, hkind, hfound] at hkey
  · exact .inl (settleWith_eq_commit h)
  · obtain ⟨hstatus, hresult⟩ := settleWith_eq_commit h
    refine .inr ⟨?_, hresult⟩
    rw [hstatus]
    split <;> simp
  · obtain ⟨hstatus, hresult⟩ := settleWith_eq_commit h
    exact .inr ⟨by rw [hstatus]; simp, hresult⟩

end DeliveryLemmas

/-! ## What a step means for the log -/

/-- The cases of `World.recorded`. -/
inductive Logs [DecidableEq ι] (w : World ι) (i : ι) (a : Action) : World ι → Prop
  | insert {pid : Nat} {callback : VerifiedCallback} {job held : MailLookupJob}
      {flushed : List JobStatus} {key : DeliveryKey} (haction : a = .settle pid true)
      (hpid : (w.jobs i).processes pid = some (.settling callback job held flushed))
      (hkey : deliveryKey held callback.outcome = some key)
      (hunclaimed : ∀ x ∈ w.inserts, x.2 ≠ key) (hnew : key ∉ w.log) :
      Logs w i a { w with inserts := ((i, pid), key) :: w.inserts }
  | known {pid : Nat} {callback : VerifiedCallback} {job held : MailLookupJob}
      {flushed : List JobStatus} {key : DeliveryKey} (haction : a = .settle pid false)
      (hpid : (w.jobs i).processes pid = some (.settling callback job held flushed))
      (hkey : deliveryKey held callback.outcome = some key) (hlog : key ∈ w.log) : Logs w i a w
  | commit {pid : Nat} {actor : Actor} {job held : MailLookupJob} {flushed : List JobStatus}
      {rest : List Effect} (haction : a = .run pid)
      (hpid : (w.jobs i).processes pid = some (.running actor job (.commit held flushed :: rest))) :
      Logs w i a (w.commit (i, pid) actor job held)
  | rollback {pid : Nat} (hactor : a.pid = some pid)
      (hrun : a = .run pid → ∃ actor job,
        (w.jobs i).processes pid = some (.running actor job []) ∨
          ∃ rest, (w.jobs i).processes pid = some (.running actor job (.rollback :: rest)))
      (hsettle : ∀ q inserted, a ≠ .settle q inserted) : Logs w i a (w.rollback (i, pid))
  | nothing
      (hcommit : ∀ pid actor job held flushed rest, a = .run pid →
        (w.jobs i).processes pid ≠ some (.running actor job (.commit held flushed :: rest)))
      (hsettle : ∀ pid inserted callback job held flushed, a = .settle pid inserted →
        (w.jobs i).processes pid = some (.settling callback job held flushed) →
        deliveryKey held callback.outcome = none) : Logs w i a w

namespace DeliveryLemmas

variable {settings : Settings} {w w' recorded : World ι} {i : ι} {a : Action}

theorem recordDelivery_eq_some {key : DeliveryKey} {inserted : Bool}
    (h : w.recordDelivery key = some inserted) :
    (∀ x ∈ w.inserts, x.2 ≠ key) ∧ (inserted = true ↔ key ∉ w.log) := by
  unfold World.recordDelivery at h
  split at h
  · cases h
  · next hnone =>
    cases h
    refine ⟨fun x hx heq => hnone (List.any_eq_true.mpr ⟨x, hx, by simpa using heq⟩), ?_⟩
    simp

variable [DecidableEq ι]

theorem logs_of_recorded (h : w.recorded i a = some recorded) : Logs w i a recorded := by
  cases a with
  | settle pid inserted =>
    simp only [World.recorded] at h
    split at h
    · next callback job held flushed hpid =>
      split at h
      · next hkey =>
        cases h
        refine .nothing (by simp) fun q inserted' callback' job' held' flushed' heq hq => ?_
        cases heq
        rw [hpid] at hq
        cases hq
        exact hkey
      · next key hkey =>
        split at h
        · next hinserted =>
          obtain ⟨hunclaimed, hnew⟩ := recordDelivery_eq_some hinserted
          cases inserted with
          | true =>
            cases h
            exact .insert rfl hpid hkey hunclaimed (hnew.mp rfl)
          | false =>
            cases h
            exact .known rfl hpid hkey (not_not.mp fun hnot => by simpa using hnew.mpr hnot)
        · cases h
    · next hpid =>
      cases h
      refine .nothing (by simp) fun q inserted' callback job held flushed heq hq => ?_
      cases heq
      exact absurd hq (hpid _ _ _ _)
  | run pid =>
    simp only [World.recorded] at h
    split at h
    · next hpid =>
      cases h
      exact .commit rfl hpid
    · next hpid =>
      cases h
      exact .rollback rfl (fun _ => ⟨_, _, .inr ⟨_, hpid⟩⟩) (by simp)
    · next hpid =>
      cases h
      exact .rollback rfl (fun _ => ⟨_, _, .inl hpid⟩) (by simp)
    · next hpid _ _ =>
      cases h
      refine .nothing (fun q actor job held flushed rest heq hcommit => ?_) (by simp)
      cases heq
      exact hpid _ _ _ _ _ hcommit
  | cancelled pid | abort pid =>
    cases h
    exact .rollback rfl (by simp) (by simp)
  | _ =>
    cases h
    exact .nothing (by simp) (by simp)

theorem world_step_eq_some {move : ι × Action} (h : World.step settings w move = some w') :
    ∃ recorded s, Logs w move.1 move.2 recorded ∧
      step settings (w.jobs move.1) move.2 = some s ∧
      w' = { recorded with jobs := Function.update w.jobs move.1 s } := by
  obtain ⟨recorded, hrecorded, hmap⟩ := Option.bind_eq_some_iff.mp h
  obtain ⟨s, hs, rfl⟩ := Option.map_eq_some_iff.mp hmap
  exact ⟨recorded, s, logs_of_recorded hrecorded, hs, rfl⟩

theorem job_reachable {jobs : ι → MailLookupJob} {now : Int} {log : List DeliveryKey}
    (h : WorldReachable settings jobs now log w) (i : ι) :
    Reachable settings Always (jobs i) now (w.jobs i) := by
  refine Reaches.invariant
    (I := fun w : World ι => ∀ i, Reachable settings Always (jobs i) now (w.jobs i)) h
    (fun _ => .refl) (fun w move w' hw _ hstep j => ?_) i
  obtain ⟨recorded, s, -, hs, rfl⟩ := world_step_eq_some hstep
  by_cases hj : j = move.1
  · subst hj
    have hnext : Reachable settings Always (jobs move.1) now s := .tail (hw _) trivial hs
    simpa using hnext
  · simpa [Function.update_of_ne hj] using hw j

end DeliveryLemmas

end Trackpal.Coordinator
