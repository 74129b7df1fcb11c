import Trackpal.Coordinator.Delivery
import Mathlib.Data.List.Nodup

/-!
# Delivered once
-/

namespace Trackpal.Coordinator

open Trackpal.Protocol Trackpal.Foundation

variable {ι : Type*}

/-! ## Invariants -/

/-- What is known of the commit of a process about the log. -/
inductive Accounted (w : World ι) (owner : ι × Nat) (job held : MailLookupJob) : Actor → Prop
  /-- It does not complete the job. -/
  | kept {actor : Actor} (hresult : held.resultType = job.resultType)
      (hnone : World.completed owner.1 actor job held = none) : Accounted w owner job held actor
  | notFound {callback : VerifiedCallback} (hstatus : held.status = .completed)
      (hkey : deliveryKey job callback.outcome = none)
      (hresult : held.resultType = some "not_found") :
      Accounted w owner job held (.callback callback)
  | delivered {callback : VerifiedCallback} {key : DeliveryKey} (hstatus : held.status = .completed)
      (hkey : deliveryKey job callback.outcome = some key) (hinserted : (owner, key) ∈ w.inserts)
      (hdelivered : delivered held = true) : Accounted w owner job held (.callback callback)
  | duplicate {callback : VerifiedCallback} {key : DeliveryKey} (hstatus : held.status = .completed)
      (hkey : deliveryKey job callback.outcome = some key) (hlog : key ∈ w.log)
      (hresult : held.resultType = some "duplicate_suppressed") :
      Accounted w owner job held (.callback callback)

def AccountedProcess (w : World ι) (owner : ι × Nat) : Process → Prop
  | .running actor job effects =>
    ∀ held flushed, .commit held flushed ∈ effects → Accounted w owner job held actor
  | .settling callback job held _ =>
    held.resultType = job.resultType ∧
      deliveryKey held callback.outcome = deliveryKey job callback.outcome
  | _ => True

structure LogInvariant (w : World ι) : Prop where
  fresh : ∀ x ∈ w.inserts, x.2 ∉ w.log
  unclaimed : (w.inserts.map (·.2)).Nodup
  logged : ∀ c ∈ w.completions, c.key ∈ w.log
  completed : ∀ c ∈ w.completions, c.held.status = .completed ∧
    (delivered c.held = true ∨ c.held.resultType = some "duplicate_suppressed")
  once : ((w.completions.filter (delivered ·.held)).map (·.key)).Nodup

structure RowInvariant (w : World ι) : Prop where
  active : ∀ i, (w.jobs i).row.status.active = true → (w.jobs i).row.resultType = none
  ended : ∀ c ∈ w.completions, (w.jobs c.job).row.status.active = false ∧
    (w.jobs c.job).row.resultType = c.held.resultType
  origin : ∀ i, delivered (w.jobs i).row = true →
    ∃ c ∈ w.completions, c.job = i ∧ delivered c.held = true

/-- `w'` has the log of `w`, and the uncommitted rows of all but one transaction. -/
structure Extends (w w' : World ι) (owner : Option (ι × Nat)) : Prop where
  log : ∀ key ∈ w.log, key ∈ w'.log
  inserts : ∀ x ∈ w.inserts, some x.1 ≠ owner → x ∈ w'.inserts

namespace DeliveryLemmas

variable {settings : Settings} {w w' recorded : World ι} {i : ι} {a : Action} {owner : ι × Nat}
  {pid : Nat} {actor : Actor} {job held : MailLookupJob} {process next : Process}

theorem accounted_extends (h : Accounted w owner job held actor) {acting : Option (ι × Nat)}
    (hextends : Extends w w' acting) (hne : some owner ≠ acting) :
    Accounted w' owner job held actor := by
  cases h with
  | kept hresult hnone => exact .kept hresult hnone
  | notFound hstatus hkey hresult => exact .notFound hstatus hkey hresult
  | delivered hstatus hkey hinserted hdelivered =>
    exact .delivered hstatus hkey (hextends.inserts _ hinserted hne) hdelivered
  | duplicate hstatus hkey hlog hresult =>
    exact .duplicate hstatus hkey (hextends.log _ hlog) hresult

theorem accountedProcess_extends (h : AccountedProcess w owner process)
    {acting : Option (ι × Nat)} (hextends : Extends w w' acting) (hne : some owner ≠ acting) :
    AccountedProcess w' owner process := by
  cases process with
  | running actor job effects =>
    exact fun held flushed hmem => accounted_extends (h held flushed hmem) hextends hne
  | settling => exact h
  | _ => trivial

theorem accounted_keeps (hcallback : ∀ callback, actor ≠ .callback callback)
    (hresult : held.resultType = job.resultType) : Accounted w owner job held actor := by
  refine .kept hresult ?_
  cases actor with
  | callback callback => exact absurd rfl (hcallback callback)
  | _ => rfl

theorem resultType_of_deadline {now : Int} {errorCode errorDetail : Option String}
    (h : deadlineExpired job now errorCode errorDetail = some held) :
    held.resultType = job.resultType :=
  resultType_of_transition h

theorem resultType_of_expired {lease : Option LookupLease} {callback : VerifiedCallback}
    {now : Int} (h : admitCallback settings job lease callback now = .expired held) :
    held.resultType = job.resultType := by
  unfold admitCallback at h
  split at h
  · cases h
  split at h
  · cases h
  split at h
  · split at h
    · next hheld =>
      cases h
      exact resultType_of_deadline hheld
    · cases h
  split at h
  · split at h <;> cases h
  · cases h

theorem resultType_of_admitted {lease : Option LookupLease} {callback : VerifiedCallback}
    {now : Int} {flushed : List JobStatus}
    (h : admitCallback settings job lease callback now = .admitted held flushed) :
    held.resultType = job.resultType := by
  unfold admitCallback at h
  split at h
  · cases h
  split at h
  · cases h
  split at h
  · split at h <;> cases h
  split at h
  · split at h
    · next hheld =>
      cases h
      exact resultType_of_transition hheld
    · cases h
  · cases h
    rfl

theorem accounted_recheckDispatch {lease : LookupLease} {outcome : HandoffResult} {now : Int} :
    AccountedProcess w owner (.running (.dispatch lease) job
      (recheckDispatch settings job lease outcome now)) := by
  intro held flushed hmem
  refine accounted_keeps (by simp) ?_
  unfold recheckDispatch handleHandoff at hmem
  split at hmem
  · simp [endDispatch] at hmem
  split at hmem
  · split at hmem
    · next hheld =>
      obtain ⟨rfl, -⟩ : held = _ ∧ flushed = _ := by simpa [endDispatch] using hmem
      exact resultType_of_deadline hheld
    · simp [endDispatch] at hmem
  split at hmem
  · split at hmem
    · next hheld =>
      obtain ⟨rfl, -⟩ : held = _ ∧ flushed = _ := by simpa [endDispatch] using hmem
      exact resultType_of_transition hheld
    · simp [endDispatch] at hmem
  split at hmem
  · obtain ⟨rfl, -⟩ : held = _ ∧ flushed = _ := by simpa [endDispatch] using hmem
    rfl
  split at hmem
  · obtain ⟨rfl, -⟩ : held = _ ∧ flushed = _ := by simpa [endDispatch] using hmem
    rfl
  · obtain ⟨rfl, -⟩ : held = _ ∧ flushed = _ := by simpa [endDispatch] using hmem
    rfl

theorem accounted_recheckPoll {now : Int} :
    AccountedProcess w owner (.running .poll job (recheckPoll settings job now)) := by
  intro held flushed hmem
  refine accounted_keeps (by simp) ?_
  unfold recheckPoll at hmem
  split at hmem
  · split at hmem
    · next hheld =>
      obtain ⟨rfl, -⟩ : held = _ ∧ flushed = _ := by simpa using hmem
      exact resultType_of_deadline hheld
    · simp at hmem
  · obtain ⟨rfl, -⟩ : held = _ ∧ flushed = _ := by simpa using hmem
    rfl

theorem accounted_move {s : State} (hmove : Moves settings s process next)
    (hsound : Sound s pid process)
    (hsettling : ∀ callback job held flushed, process ≠ .settling callback job held flushed) :
    AccountedProcess w owner next := by
  cases hmove with
  | dispatch =>
    unfold readDispatch
    split
    · simp [AccountedProcess, endDispatch]
    split
    · split
      · next hheld =>
        intro held flushed hmem
        obtain ⟨rfl, -⟩ : held = _ ∧ flushed = _ := by simpa [endDispatch] using hmem
        exact accounted_keeps (by simp) (resultType_of_deadline hheld)
      · simp [AccountedProcess, endDispatch]
    · trivial
  | poll hread =>
    unfold readPoll at hread
    split at hread
    · cases hread
      trivial
    split at hread
    · cases hread
      simp [AccountedProcess]
    · cases hread
  | cleanup hstale =>
    intro held flushed hmem
    obtain ⟨rfl, -⟩ : held = _ ∧ flushed = _ := by simpa using hmem
    exact accounted_keeps (by simp) rfl
  | unbuilt job lease | unanswered job lease =>
    intro held flushed hmem
    obtain ⟨rfl, -⟩ : held = _ ∧ flushed = _ := by simpa [endDispatch] using hmem
    exact accounted_keeps (by simp) rfl
  | expired hcheck =>
    intro held' flushed hmem
    obtain ⟨rfl, -⟩ : held' = _ ∧ flushed = _ := by simpa using hmem
    refine .kept (resultType_of_expired hcheck) ?_
    simp [World.completed, (admitCallback_eq_expired hcheck).1]
  | admitted hcheck =>
    obtain ⟨-, -, hid, htenant, hmailbox, hservice, -⟩ :=
      admitCallback_eq_admitted hsound.2.2 hcheck
    refine ⟨resultType_of_admitted hcheck, ?_⟩
    simp only [deliveryKey, htenant, hmailbox, hservice]
  | settle callback job held flushed inserted =>
    exact absurd rfl (hsettling callback job held flushed)
  | _ => simp [AccountedProcess, endDispatch]

theorem accounted_lock {s : State} (hlock : Locks settings s process next) :
    AccountedProcess w owner next := by
  cases hlock with
  | dispatch job lease outcome => exact accounted_recheckDispatch
  | callback callback hactive => trivial
  | cancel hactive =>
    intro held flushed hmem
    obtain ⟨rfl, -⟩ : held = _ ∧ flushed = _ := by simpa using hmem
    exact accounted_keeps (by simp) rfl
  | poll => exact accounted_recheckPoll

theorem accounted_rest {s : State} {effect : Effect} {rest : List Effect}
    (hsound : Sound s pid (.running actor job (effect :: rest)))
    (hends : effect.endsTransaction = true) :
    AccountedProcess w owner (.running actor job rest) :=
  fun _ _ hmem => absurd hmem (LockingLemmas.not_commit_mem_of_ends hsound hends)

theorem accounted_tail {effect : Effect} {rest : List Effect}
    (h : AccountedProcess w owner (.running actor job (effect :: rest))) :
    AccountedProcess w owner (.running actor job rest) :=
  fun held flushed hmem => h held flushed (List.mem_cons_of_mem _ hmem)

theorem completed_eq_some {c : Completion ι} (h : Accounted w owner job held actor)
    (hcompleted : World.completed owner.1 actor job held = some c) :
    c.job = owner.1 ∧ c.held = held ∧ held.status = .completed ∧
      ((owner, c.key) ∈ w.inserts ∧ delivered held = true ∨
        c.key ∈ w.log ∧ held.resultType = some "duplicate_suppressed") := by
  cases h with
  | kept hresult hnone =>
    rw [hnone] at hcompleted
    cases hcompleted
  | notFound hstatus hkey hresult => simp [World.completed, hkey] at hcompleted
  | delivered hstatus hkey hinserted hdelivered =>
    simp only [World.completed, if_pos hstatus, hkey, Option.map_some,
      Option.some.injEq] at hcompleted
    subst hcompleted
    exact ⟨rfl, rfl, hstatus, .inl ⟨hinserted, hdelivered⟩⟩
  | duplicate hstatus hkey hlog hresult =>
    simp only [World.completed, if_pos hstatus, hkey, Option.map_some,
      Option.some.injEq] at hcompleted
    subst hcompleted
    exact ⟨rfl, rfl, hstatus, .inr ⟨hlog, hresult⟩⟩

theorem not_delivered_of_duplicate {job : MailLookupJob}
    (h : job.resultType = some "duplicate_suppressed") : delivered job = false := by
  simp [delivered, h]

variable [DecidableEq ι]

theorem extends_of_logs (h : Logs w i a w') : Extends w w' (a.pid.map (i, ·)) := by
  cases h with
  | insert => exact ⟨fun _ hkey => hkey, fun _ hx _ => List.mem_cons_of_mem _ hx⟩
  | known | nothing => exact ⟨fun _ hkey => hkey, fun _ hx _ => hx⟩
  | commit haction hpid =>
    subst haction
    refine ⟨fun key hkey => List.mem_append_right _ hkey, fun x hx hne => ?_⟩
    exact List.mem_filter.mpr ⟨hx, by simpa [Action.pid] using hne⟩
  | rollback hactor =>
    rw [hactor]
    refine ⟨fun key hkey => hkey, fun x hx hne => ?_⟩
    exact List.mem_filter.mpr ⟨hx, by simpa using hne⟩

theorem accounted_settle {callback : VerifiedCallback} {flushed : List JobStatus}
    {inserted : Bool} {now : Int} (haction : a = .settle pid inserted)
    (hlogs : Logs w i a recorded)
    (hpid : (w.jobs i).processes pid = some (.settling callback job held flushed))
    (hsettling : AccountedProcess w (i, pid) (.settling callback job held flushed)) :
    AccountedProcess recorded (i, pid) (.running (.callback callback) job
      (settleEffects (settleCallback settings held flushed callback.outcome inserted now))) := by
  obtain ⟨hkept, hsame⟩ := hsettling
  intro held' flushed' hmem
  cases hsettle : settleCallback settings held flushed callback.outcome inserted now with
  | rollback => simp [hsettle, settleEffects] at hmem
  | commit held'' flushed'' result =>
    obtain ⟨rfl, -⟩ : held' = held'' ∧ flushed' = flushed'' := by
      rw [hsettle] at hmem
      cases result <;> by_cases hpending : held''.status = .pending <;>
        simpa [settleEffects, hpending] using hmem
    cases hkey : deliveryKey held callback.outcome with
    | none =>
      rcases settle_other hkey hsettle with ⟨hstatus, hresult⟩ | ⟨hstatus, hresult⟩
      · exact .notFound hstatus (hsame ▸ hkey) hresult
      · exact .kept (hresult.trans hkept) (by simp [World.completed, hstatus])
    | some key =>
      obtain ⟨hstatus, hresult⟩ := settle_found hkey hsettle
      cases hlogs with
      | insert haction' hpid' hkey' hunclaimed hnew =>
        rw [haction'] at haction
        cases haction
        rw [hpid] at hpid'
        cases hpid'
        rw [hkey] at hkey'
        cases hkey'
        exact .delivered hstatus (hsame ▸ hkey) List.mem_cons_self hresult
      | known haction' hpid' hkey' hlog =>
        rw [haction'] at haction
        cases haction
        rw [hpid] at hpid'
        cases hpid'
        rw [hkey] at hkey'
        cases hkey'
        exact .duplicate hstatus (hsame ▸ hkey) hlog hresult
      | commit haction' => simp [haction'] at haction
      | rollback _ _ hnot => exact absurd haction (hnot _ _)
      | nothing _ hnone =>
        rw [hnone _ _ _ _ _ _ haction hpid] at hkey
        cases hkey

def AllAccounted (w : World ι) : Prop :=
  ∀ i pid process, (w.jobs i).processes pid = some process → AccountedProcess w (i, pid) process

theorem accounted_update {s : State} {next : Option Process} (h : AllAccounted w)
    (hlogs : Logs w i a recorded) (hactor : a.pid = some pid)
    (hprocesses : s.processes = Function.update (w.jobs i).processes pid next)
    (hnext : ∀ process, next = some process → AccountedProcess recorded (i, pid) process) :
    ∀ q process, s.processes q = some process → AccountedProcess recorded (i, q) process := by
  intro q process hq
  rcases eq_or_ne q pid with rfl | hne
  · rw [hprocesses, Function.update_self] at hq
    exact hnext process hq
  · rw [hprocesses, Function.update_of_ne hne] at hq
    refine accountedProcess_extends (h i q process hq) (extends_of_logs hlogs) ?_
    simp [hactor, hne]

theorem logs_run {effect : Effect} {rest : List Effect} (hlogs : Logs w i (.run pid) recorded)
    (hpid : (w.jobs i).processes pid = some (.running actor job (effect :: rest)))
    (hcommit : ∀ held flushed, effect ≠ .commit held flushed) (hrollback : effect ≠ .rollback) :
    recorded = w := by
  cases hlogs with
  | insert haction | known haction => cases haction
  | commit haction hpid' =>
    cases haction
    rw [hpid] at hpid'
    cases hpid'
    exact absurd rfl (hcommit _ _)
  | rollback hactor hrun =>
    cases hactor
    obtain ⟨_, _, hnil | ⟨_, hcons⟩⟩ := hrun rfl
    · simp [hpid] at hnil
    · rw [hpid] at hcons
      cases hcons
      exact absurd rfl hrollback
  | nothing => rfl

theorem accounted_jobs {s : State} (hconsistent : Consistent (w.jobs i)) (h : AllAccounted w)
    (hlogs : Logs w i a recorded) (hstep : step settings (w.jobs i) a = some s) :
    ∀ q process, s.processes q = some process → AccountedProcess recorded (i, q) process := by
  have hupdate := @accounted_update ι w recorded i a
  cases stepped_of_step hstep with
  | tick hle =>
    exact fun q process hq =>
      accountedProcess_extends (h i q process hq) (extends_of_logs hlogs) (by simp [Action.pid])
  | @spawn _ process queued hactor hinitial hcallback =>
    intro q process' hq
    rcases eq_or_ne q (w.jobs i).next with rfl | hne
    · obtain rfl : process = process' := by simpa [State.spawn] using hq
      cases process <;> trivial
    · have hold : (w.jobs i).processes q = some process' := by
        simpa [State.spawn, Function.update_of_ne hne] using hq
      exact accountedProcess_extends (h i q process' hold) (extends_of_logs hlogs)
        (by simp [hactor])
  | finish dispatchLock hactor hpid hrun => exact hupdate h hlogs hactor rfl (by simp)
  | @move _ pid process next dispatchLock hactor hpid hmove hrun hsettle =>
    refine hupdate h hlogs hactor rfl fun process' heq => ?_
    cases heq
    by_cases hsettling : ∃ callback job held flushed,
        process = .settling callback job held flushed
    · obtain ⟨callback, job, held, flushed, rfl⟩ := hsettling
      obtain ⟨inserted, haction, rfl⟩ := hsettle _ _ _ _ rfl
      exact accounted_settle haction hlogs hpid (h i pid _ hpid)
    · push Not at hsettling
      exact accounted_move hmove (hconsistent.sound _ _ hpid) hsettling
  | lock hfree hpid hlock =>
    refine hupdate h hlogs rfl rfl fun process heq => ?_
    cases heq
    exact accounted_lock hlock
  | reserve hpid | send hpid =>
    refine hupdate h hlogs rfl rfl fun process heq => ?_
    cases heq
    trivial
  | commit hpid | rollback hpid =>
    refine hupdate h hlogs rfl rfl fun process heq => ?_
    cases heq
    exact accounted_rest (hconsistent.sound _ _ hpid) rfl
  | releaseLease hpid =>
    refine hupdate h hlogs rfl rfl fun process heq => ?_
    cases heq
    rw [logs_run hlogs hpid (by simp) (by simp)]
    exact accounted_tail (h i _ _ hpid)
  | effect _ _ _ hpid hcommit hrollback =>
    refine hupdate h hlogs rfl rfl fun process heq => ?_
    cases heq
    rw [logs_run hlogs hpid hcommit hrollback]
    exact accounted_tail (h i _ _ hpid)

theorem accounted_step {move : ι × Action} (hconsistent : ∀ i, Consistent (w.jobs i))
    (h : AllAccounted w) (hstep : World.step settings w move = some w') : AllAccounted w' := by
  obtain ⟨recorded, s, hlogs, hs, rfl⟩ := world_step_eq_some hstep
  intro j q process hq
  -- Only the log of the new world matters to a process, not its jobs.
  suffices hrecorded : AccountedProcess recorded (j, q) process by
    cases process with
    | running actor job effects =>
      intro held flushed hmem
      cases hrecorded held flushed hmem with
      | kept hresult hnone => exact .kept hresult hnone
      | notFound hstatus hkey hresult => exact .notFound hstatus hkey hresult
      | delivered hstatus hkey hinserted hdelivered =>
        exact .delivered hstatus hkey hinserted hdelivered
      | duplicate hstatus hkey hlog hresult => exact .duplicate hstatus hkey hlog hresult
    | settling => exact hrecorded
    | _ => trivial
  by_cases hj : j = move.1
  · subst hj
    have hnew : s.processes q = some process := by simpa using hq
    exact accounted_jobs (hconsistent move.1) h hlogs hs q process hnew
  · have hold : (w.jobs j).processes q = some process := by
      simpa [Function.update_of_ne hj] using hq
    refine accountedProcess_extends (h j q process hold) (extends_of_logs hlogs) ?_
    cases move.2.pid <;> simp [hj]

/-! ## The log -/

theorem log_rollback (h : LogInvariant w) : LogInvariant (w.rollback owner) where
  fresh x hx := h.fresh x (List.mem_filter.mp hx).1
  unclaimed := (List.filter_sublist.map _).nodup h.unclaimed
  logged := h.logged
  completed := h.completed
  once := h.once

theorem log_commit (h : LogInvariant w) (haccounted : Accounted w owner job held actor) :
    LogInvariant (w.commit owner actor job held) where
  fresh x hx hmem := by
    obtain ⟨hx, hother⟩ := List.mem_filter.mp hx
    rcases List.mem_append.mp hmem with hmem | hmem
    · obtain ⟨y, hy, hkey⟩ := List.mem_map.mp hmem
      obtain ⟨hy, howner⟩ := List.mem_filter.mp hy
      obtain rfl : y = x := List.inj_on_of_nodup_map h.unclaimed hy hx hkey
      simp_all
    · exact h.fresh x hx hmem
  unclaimed := (List.filter_sublist.map _).nodup h.unclaimed
  logged c hc := by
    rcases List.mem_append.mp hc with hc | hc
    · obtain ⟨-, -, -, ⟨hinserted, -⟩ | ⟨hlog, -⟩⟩ :=
        completed_eq_some haccounted (Option.mem_toList.mp hc)
      · refine List.mem_append_left _ (List.mem_map.mpr ⟨(owner, c.key), ?_, rfl⟩)
        exact List.mem_filter.mpr ⟨hinserted, by simp⟩
      · exact List.mem_append_right _ hlog
    · exact List.mem_append_right _ (h.logged c hc)
  completed c hc := by
    rcases List.mem_append.mp hc with hc | hc
    · obtain ⟨-, rfl, hstatus, ⟨-, hdelivered⟩ | ⟨-, hresult⟩⟩ :=
        completed_eq_some haccounted (Option.mem_toList.mp hc)
      · exact ⟨hstatus, .inl hdelivered⟩
      · exact ⟨hstatus, .inr hresult⟩
    · exact h.completed c hc
  once := by
    change (((World.completed owner.1 actor job held).toList ++ w.completions).filter _ |>.map
      _).Nodup
    cases hcompleted : World.completed owner.1 actor job held with
    | none => exact h.once
    | some c =>
      obtain ⟨-, rfl, -, ⟨hinserted, hdelivered⟩ | ⟨-, hresult⟩⟩ :=
        completed_eq_some haccounted hcompleted
      · simp only [Option.toList_some, List.cons_append, List.nil_append]
        rw [List.filter_cons, if_pos hdelivered, List.map_cons, List.nodup_cons]
        -- The keys delivered before are in the log, the inserted one is not.
        refine ⟨fun hmem => ?_, h.once⟩
        obtain ⟨c', hc', hkey⟩ := List.mem_map.mp hmem
        have hlogged := h.logged c' (List.mem_filter.mp hc').1
        rw [hkey] at hlogged
        exact h.fresh _ hinserted hlogged
      · have hnot := not_delivered_of_duplicate hresult
        simp only [Option.toList_some, List.cons_append, List.nil_append]
        rw [List.filter_cons_of_neg (by simp [hnot])]
        exact h.once

theorem log_of_logs (haccounted : AllAccounted w) (h : LogInvariant w)
    (hlogs : Logs w i a recorded) : LogInvariant recorded := by
  cases hlogs with
  | @insert pid callback job held flushed key haction hpid hkey hunclaimed hnew =>
    refine ⟨fun x hx => ?_, ?_, h.logged, h.completed, h.once⟩
    · rcases List.mem_cons.mp hx with rfl | hx
      · exact hnew
      · exact h.fresh x hx
    · rw [List.map_cons, List.nodup_cons]
      refine ⟨fun hmem => ?_, h.unclaimed⟩
      obtain ⟨x, hx, hkey⟩ := List.mem_map.mp hmem
      exact hunclaimed x hx hkey
  | known | nothing => exact h
  | commit haction hpid => exact log_commit h (haccounted i _ _ hpid _ _ List.mem_cons_self)
  | rollback => exact log_rollback h

theorem log_step {move : ι × Action} (haccounted : AllAccounted w) (h : LogInvariant w)
    (hstep : World.step settings w move = some w') : LogInvariant w' := by
  obtain ⟨recorded, s, hlogs, hs, rfl⟩ := world_step_eq_some hstep
  have hrecorded := log_of_logs haccounted h hlogs
  exact ⟨hrecorded.fresh, hrecorded.unclaimed, hrecorded.logged, hrecorded.completed,
    hrecorded.once⟩

/-! ## The rows -/

omit [DecidableEq ι] in
theorem completed_keeps (h : ∀ callback, actor ≠ .callback callback) :
    World.completed i actor job held = none := by
  cases actor with
  | callback callback => exact absurd rfl (h callback)
  | _ => rfl

theorem logs_commit {flushed : List JobStatus} {rest : List Effect}
    (hlogs : Logs w i (.run pid) recorded)
    (hpid : (w.jobs i).processes pid = some (.running actor job (.commit held flushed :: rest))) :
    recorded = w.commit (i, pid) actor job held := by
  cases hlogs with
  | insert haction | known haction => cases haction
  | commit haction hpid' =>
    cases haction
    rw [hpid] at hpid'
    cases hpid'
    rfl
  | rollback hactor hrun =>
    cases hactor
    obtain ⟨_, _, hnil | ⟨_, hcons⟩⟩ := hrun rfl
    · simp [hpid] at hnil
    · simp [hpid] at hcons
  | nothing hcommit => exact absurd hpid (hcommit _ _ _ _ _ _ rfl)

theorem completions_of_logs (hlogs : Logs w i a recorded)
    (hcommit : ∀ pid, a = .run pid → ∀ actor job held flushed rest,
      (w.jobs i).processes pid ≠ some (.running actor job (.commit held flushed :: rest))) :
    recorded.completions = w.completions := by
  cases hlogs with
  | commit haction hpid => exact absurd hpid (hcommit _ haction _ _ _ _ _)
  | _ => rfl

/-- A step of job `i` keeps the invariant if the new row of the job agrees with the
completions of the job, old and new. -/
theorem row_update {s : State} (h : RowInvariant w) {new : List (Completion ι)}
    (hjobs : w'.jobs = Function.update w.jobs i s)
    (hcompletions : w'.completions = new ++ w.completions)
    (hactive : s.row.status.active = true → s.row.resultType = none)
    (hended : ∀ c ∈ w'.completions, c.job = i →
      s.row.status.active = false ∧ s.row.resultType = c.held.resultType)
    (hnew : ∀ c ∈ new, c.job = i)
    (horigin : delivered s.row = true →
      ∃ c ∈ w'.completions, c.job = i ∧ delivered c.held = true) : RowInvariant w' where
  active j hj := by
    rw [hjobs] at hj ⊢
    by_cases heq : j = i
    · subst heq
      rw [Function.update_self] at hj ⊢
      exact hactive hj
    · rw [Function.update_of_ne heq] at hj ⊢
      exact h.active j hj
  ended c hc := by
    rw [hjobs]
    by_cases heq : c.job = i
    · rw [heq, Function.update_self]
      exact hended c hc heq
    · rw [Function.update_of_ne heq]
      rw [hcompletions] at hc
      rcases List.mem_append.mp hc with hc | hc
      · exact absurd (hnew c hc) heq
      · exact h.ended c hc
  origin j hj := by
    rw [hjobs] at hj
    by_cases heq : j = i
    · subst heq
      rw [Function.update_self] at hj
      exact horigin hj
    · rw [Function.update_of_ne heq] at hj
      obtain ⟨c, hc, hfacts⟩ := h.origin j hj
      rw [hcompletions]
      exact ⟨c, List.mem_append_right _ hc, hfacts⟩

omit [DecidableEq ι] in
theorem not_completed_of_active (h : RowInvariant w)
    (hactive : (w.jobs i).row.status.active = true) {c : Completion ι} (hc : c ∈ w.completions) :
    c.job ≠ i := by
  rintro rfl
  rw [(h.ended c hc).1] at hactive
  cases hactive

omit [DecidableEq ι] in
theorem delivered_congr {job job' : MailLookupJob} (h : job.resultType = job'.resultType) :
    delivered job = delivered job' := by
  simp only [delivered, h]

theorem row_commit {s s' : State} {flushed : List JobStatus} {rest : List Effect}
    (h : RowInvariant w) (hledger : Ledger (w.jobs i))
    (hpid : (w.jobs i).processes pid = some (.running actor job (.commit held flushed :: rest)))
    (hsound : CommitSound (w.jobs i) pid actor job held flushed)
    (haccounted : Accounted w (i, pid) job held actor)
    (hs : s = (w.jobs i).commit actor job held flushed) (hrow : s'.row = s.row) :
    RowInvariant { w.commit (i, pid) actor job held with jobs := Function.update w.jobs i s' } := by
  have hjobs : ∀ new : List (Completion ι), new = (World.completed i actor job held).toList →
      { w.commit (i, pid) actor job held with
        jobs := Function.update w.jobs i s' }.completions = new ++ w.completions := by
    rintro new rfl
    rfl
  cases hsound with
  | neutral hactor hverdict =>
    have hnone : World.completed i actor job held = none := by
      refine completed_keeps fun callback heq => ?_
      subst heq
      exact absurd rfl (hledger.shaped pid _ hpid held [] List.mem_cons_self).1
    have hsame : verdict s'.row = verdict (w.jobs i).row := by
      rw [hrow, hs]
      exact LockingLemmas.verdict_commit_neutral hverdict
    obtain ⟨hstatus, hrest⟩ := Prod.mk.inj hsame
    have hresult := (Prod.mk.inj hrest).1
    have hcompletions := hjobs [] (by rw [hnone]; rfl)
    refine row_update h rfl hcompletions ?_ ?_ (by simp) ?_
    · rw [hstatus, hresult]
      exact h.active i
    · rw [hcompletions, hstatus, hresult]
      rintro c hc rfl
      exact h.ended c hc
    · rw [hcompletions, delivered_congr hresult]
      exact h.origin i
  | locked hactor hlocked hloaded hactive hflushes hprocessing =>
    have hverdict : verdict s'.row = verdict held := by
      rw [hrow, hs]
      exact LockingLemmas.verdict_commit_locked hloaded
    obtain ⟨hstatus, hrest⟩ := Prod.mk.inj hverdict
    have hresult := (Prod.mk.inj hrest).1
    have hnone : job.resultType = none := by
      rw [← hloaded]
      exact h.active i (by rw [hloaded]; exact hactive)
    have hold : ∀ c ∈ w.completions, c.job ≠ i := fun c hc =>
      not_completed_of_active h (by rw [hloaded]; exact hactive) hc
    have hcompletions := hjobs _ rfl
    refine row_update h rfl hcompletions ?_ ?_ ?_ ?_
    · intro hactive'
      rw [hstatus] at hactive'
      rw [hresult]
      cases haccounted with
      | kept hkept => exact hkept.trans hnone
      | notFound hended | delivered hended | duplicate hended =>
        rw [hended] at hactive'
        cases hactive'
    · intro c hc hjob
      rw [hcompletions] at hc
      rcases List.mem_append.mp hc with hc | hc
      · obtain ⟨-, rfl, hended, -⟩ := completed_eq_some haccounted (Option.mem_toList.mp hc)
        rw [hstatus, hended]
        exact ⟨rfl, hresult⟩
      · exact absurd hjob (hold c hc)
    · exact fun c hc => (completed_eq_some haccounted (Option.mem_toList.mp hc)).1
    · intro hdelivered
      rw [delivered_congr hresult] at hdelivered
      rw [hcompletions]
      cases haccounted with
      | kept hkept =>
        rw [not_delivered_of_none (hkept.trans hnone)] at hdelivered
        cases hdelivered
      | notFound hended hkey hnotFound => simp [delivered, hnotFound] at hdelivered
      | @delivered callback key hended hkey =>
        have hnew : World.completed i (.callback callback) job held = some ⟨i, key, held⟩ := by
          simp [World.completed, hended, hkey]
        exact ⟨⟨i, key, held⟩,
          List.mem_append_left _ (by rw [hnew]; exact List.mem_singleton_self _),
          rfl, hdelivered⟩
      | duplicate hended hkey hlog hduplicate =>
        rw [not_delivered_of_duplicate hduplicate] at hdelivered
        cases hdelivered
  | deadline hactor hfree hactive hstatus hresult =>
    have hnone : World.completed i actor job held = none :=
      completed_keeps (by rintro callback rfl; cases hactor)
    have hended : s'.row.status = .timeout := by
      rw [hrow, hs]
      exact LockingLemmas.status_commit_deadline hactive hstatus
    have hkept : s'.row.resultType = (w.jobs i).row.resultType := by
      rw [hrow, hs]
      exact netChange_of_eq hresult
    have hcompletions := hjobs [] (by rw [hnone]; rfl)
    refine row_update h rfl hcompletions ?_ ?_ (by simp) ?_
    · rw [hended]
      exact fun hactive' => by cases hactive'
    · rw [hcompletions, hended, hkept]
      rintro c hc rfl
      exact ⟨rfl, (h.ended c hc).2⟩
    · rw [hcompletions, delivered_congr hkept]
      exact h.origin i

theorem row_step {move : ι × Action} (hconsistent : ∀ i, Consistent (w.jobs i))
    (hledger : ∀ i, Ledger (w.jobs i)) (haccounted : AllAccounted w) (h : RowInvariant w)
    (hstep : World.step settings w move = some w') : RowInvariant w' := by
  obtain ⟨i, a⟩ := move
  obtain ⟨recorded, s, hlogs, hs, rfl⟩ := world_step_eq_some hstep
  rcases LockingLemmas.commits_or_keeps (hconsistent i) hs with
    ⟨pid, actor, job, held, flushed, rest, rfl, hpid, -, hsound, rfl⟩ | ⟨hrow, -, -, -, hcommit⟩
  · rw [logs_commit hlogs hpid]
    exact row_commit h (hledger i) hpid hsound (haccounted i _ _ hpid _ _ List.mem_cons_self) rfl
      rfl
  · have hcompletions := completions_of_logs hlogs hcommit
    refine row_update h (i := i) (s := s) rfl (show _ = [] ++ _ from hcompletions) ?_ ?_ (by simp)
      ?_
    · rw [hrow]
      exact h.active i
    · rw [hrow]
      rintro c hc rfl
      exact h.ended c (hcompletions ▸ hc)
    · rw [hrow]
      intro hdelivered
      obtain ⟨c, hc, hfacts⟩ := h.origin i hdelivered
      exact ⟨c, hcompletions.symm ▸ hc, hfacts⟩

/-! ## Runs -/

omit [DecidableEq ι] in
theorem invariants_start {jobs : ι → MailLookupJob} {now : Int} {log : List DeliveryKey} :
    AllAccounted (World.start jobs now log) ∧ LogInvariant (World.start jobs now log) ∧
      RowInvariant (World.start jobs now log) := by
  refine ⟨?_, ⟨by simp [World.start], by simp [World.start], by simp [World.start],
    by simp [World.start], by simp [World.start]⟩, ⟨fun i _ => rfl, by simp [World.start], ?_⟩⟩
  · rintro i pid process hpid
    cases hpid
  · rintro i hdelivered
    rw [not_delivered_of_none rfl] at hdelivered
    cases hdelivered

theorem invariants_of_reachable {jobs : ι → MailLookupJob} {now : Int} {log : List DeliveryKey}
    (h : WorldReachable settings jobs now log w) :
    AllAccounted w ∧ LogInvariant w ∧ RowInvariant w := by
  refine Reaches.invariant_with
    (I := fun w : World ι => AllAccounted w ∧ LogInvariant w ∧ RowInvariant w)
    (J := fun w : World ι => (∀ i, Consistent (w.jobs i)) ∧ ∀ i, Ledger (w.jobs i)) h
    (fun w hw => ⟨fun i => consistent_of_reachable (job_reachable hw i),
      fun i => ledger_of_reachable (job_reachable hw i)⟩) invariants_start ?_
  rintro w move w' ⟨hconsistent, hledger⟩ ⟨haccounted, hlog, hrow⟩ - hstep
  exact ⟨accounted_step hconsistent haccounted hstep, log_step haccounted hlog hstep,
    row_step hconsistent hledger haccounted hrow hstep⟩

end DeliveryLemmas

open DeliveryLemmas

variable [DecidableEq ι]

/-- The step of job `i` rolls the transaction of `pid` back. -/
def RollsBack (w : World ι) (i : ι) (pid : Nat) (a : Action) : Prop :=
  a = .abort pid ∨ a = .cancelled pid ∨ a = .run pid ∧ ∃ actor job rest,
    (w.jobs i).processes pid = some (.running actor job (.rollback :: rest))

theorem rollback_frees {settings : Settings} {w w' : World ι} {i : ι} {pid : Nat} {a : Action}
    {key : DeliveryKey} (h : LogInvariant w) (hinserted : ((i, pid), key) ∈ w.inserts)
    (hback : RollsBack w i pid a) (hstep : World.step settings w (i, a) = some w') :
    w'.recordDelivery key = some true ∧ ∀ c ∈ w'.completions, c.key ≠ key := by
  have hrecorded : w.recorded i a = some (w.rollback (i, pid)) := by
    rcases hback with rfl | rfl | ⟨rfl, actor, job, rest, hpid⟩
    · rfl
    · rfl
    · simp only [World.recorded, hpid]
  obtain ⟨recorded, hrecorded', hmap⟩ := Option.bind_eq_some_iff.mp hstep
  rw [hrecorded] at hrecorded'
  cases hrecorded'
  obtain ⟨s, -, rfl⟩ := Option.map_eq_some_iff.mp hmap
  have hlog : key ∉ w.log := h.fresh _ hinserted
  constructor
  · have hnone : ¬(w.rollback (i, pid)).inserts.any (·.2 = key) = true := by
      intro hany
      obtain ⟨x, hx, hkey⟩ := List.any_eq_true.mp hany
      obtain ⟨hx, hother⟩ := List.mem_filter.mp hx
      obtain rfl : x = ((i, pid), key) :=
        List.inj_on_of_nodup_map h.unclaimed hx hinserted (by simpa using hkey)
      simp at hother
    exact (if_neg hnone).trans (by simpa [World.rollback] using hlog)
  · rintro c hc rfl
    exact hlog (h.logged c hc)

/-- Over every run of any family of jobs: at most one commit delivers a key; every
other job completed for it is a suppressed duplicate, and none of its readers is
told a value; a job with a delivered result got it by such a commit; and the
rollback of the transaction that holds a key leaves the key free, and no job
completed for it. -/
theorem delivered_once (settings : Settings) (jobs : ι → MailLookupJob) (now : Int)
    (log : List DeliveryKey) (w : World ι) (h : WorldReachable settings jobs now log w) :
    ((w.completions.filter (delivered ·.held)).map (·.key)).Nodup ∧
    (∀ i, delivered (w.jobs i).row = true →
      ∃ c ∈ w.completions, c.job = i ∧ delivered c.held = true) ∧
    (∀ c ∈ w.completions, c.held.status = .completed ∧
      (w.jobs c.job).row.resultType = c.held.resultType ∧
      (delivered c.held = false → c.held.resultType = some "duplicate_suppressed" ∧
        ∀ texts locale outcome cached,
          (resumePayload texts locale c.held outcome).resultValue = none ∧
          (resumePayload texts locale c.held outcome).reply =
            some (withActions texts locale (texts.t locale "wa.tenant.codigo.duplicate" [])) ∧
          (statusResponse texts locale (w.jobs c.job).row cached).resultValue = none ∧
          (statusResponse texts locale (w.jobs c.job).row cached).reply =
            terminalReply texts locale (w.jobs c.job).row none)) ∧
    ∀ i pid key, ((i, pid), key) ∈ w.inserts → ∀ a w', RollsBack w i pid a →
      World.step settings w (i, a) = some w' →
      w'.recordDelivery key = some true ∧ ∀ c ∈ w'.completions, c.key ≠ key := by
  obtain ⟨-, hlog, hrow⟩ := invariants_of_reachable h
  refine ⟨hlog.once, hrow.origin, fun c hc => ?_, fun i pid key hinserted a w' hback hstep =>
    rollback_frees hlog hinserted hback hstep⟩
  obtain ⟨hstatus, hkind⟩ := hlog.completed c hc
  have hsame := (hrow.ended c hc).2
  refine ⟨hstatus, hsame, fun hnot => ?_⟩
  have hduplicate : c.held.resultType = some "duplicate_suppressed" :=
    hkind.resolve_left (by simp [hnot])
  refine ⟨hduplicate, fun texts locale outcome cached => ⟨?_, ?_, ?_⟩⟩
  · exact resultValue_of_not_delivered hnot outcome
  · exact terminalReply_of_duplicate hstatus hduplicate _
  · exact statusResponse_value (not_delivered_of_duplicate (hsame.trans hduplicate)) cached

def exJobs (second : Bool) : MailLookupJob :=
  { exJob with id := if second then ⟨11⟩ else ⟨10⟩ }

def exFound : VerifiedCallback :=
  ⟨⟨7⟩, ⟨8⟩, ⟨.found, some .code, some "123456", some "<1@mail>", some "f1", none, none⟩⟩

def exFind (inserted : Bool) : List Action :=
  [Action.pop, .acquire 0, .read 0, .select 0 (some ⟨7⟩), .reserve 0 ⟨8⟩, .build 0 true,
    .callback exFound, .lock 1, .check 1, .settle 1 inserted, .run 1] ++
    if inserted then [Action.run 1] else []

/-- The second of two jobs that find the same mail completes without a value. -/
theorem second_job_suppressed : ∃ w : World Bool,
    WorldReachable Settings.default exJobs 0 [] w ∧
    (w.jobs false).row.resultType = some "code" ∧
    (w.jobs true).row.resultType = some "duplicate_suppressed" ∧
    ((w.completions.filter (delivered ·.held)).map (·.key)).Nodup := by
  have hrun : (exec (World.step Settings.default) (World.start exJobs 0 [])
      ((exFind true).map (Prod.mk false) ++ (exFind false).map (Prod.mk true))).map
      (fun w => ((w.jobs false).row.resultType, (w.jobs true).row.resultType)) =
        some (some "code", some "duplicate_suppressed") := by decide +kernel
  obtain ⟨w, hw, hfacts⟩ := Option.map_eq_some_iff.mp hrun
  obtain ⟨hfirst, hsecond⟩ := Prod.mk.inj hfacts
  have hreach : WorldReachable Settings.default exJobs 0 [] w := reaches_of_exec hw
  exact ⟨w, hreach, hfirst, hsecond, (delivered_once _ _ _ _ w hreach).1⟩

end Trackpal.Coordinator
