import Trackpal.Console.Codigo
import Trackpal.Foundation.Runs

/-!
# The lookups of a conversation

A conversation creates jobs, and its session keeps the id of the last one. The jobs of the others
are to be over.
-/

namespace Trackpal.Console.Codigo

open Trackpal.Foundation Coordinator

/-! ## Conversations -/

/-- The two dialogs. -/
inductive Side where
  | unauthenticated
  | tenant
deriving DecidableEq, Repr

/-- The session with its store, and the jobs that the conversation has created. -/
structure State where
  store : Store
  created : List Nat

inductive Action where
  | message (turn : Turn) (fromMenu : Bool) (text : String)
  | block
  | expire
  | progress (id : Nat) (status : JobStatus)
  | delete (id : Nat)

namespace Side

/-- A message of the conversation. -/
def handle (side : Side) (turn : Turn) (tenantId : Nat) (store : Store) (fromMenu : Bool)
    (text : String) : Response × Store :=
  match side with
  | .unauthenticated => handleUnauthenticatedCodigo turn tenantId store text
  | .tenant => handleTenantCodigo turn tenantId store fromMenu text

/-- A message gives the job of the session up without cancelling it. -/
def abandons (side : Side) (turn : Turn) (text : String) : Bool :=
  match side with
  | .unauthenticated => abandonsUnauth turn text
  | .tenant => abandonsTenant text

end Side

/-- `_cancel_codigo_for_phone` and `_cancel_target_codigo_flow`, for the session of a key. -/
def cancelCodigo (tenantId : Nat) (store : Store) : Store :=
  match store.session with
  | none => store
  | some session => ⟨cancelSessionJob tenantId store.jobs session.temp, none⟩

variable (side : Side) (tenantId : Nat)

def step (s : State) : Action → Option State
  | .message turn fromMenu text =>
    if (s.store.jobs.get turn.newId).isSome ∨ turn.newId ∈ s.created then none
    else
      let (response, store) := side.handle turn tenantId s.store fromMenu text
      some ⟨store, response.lookupJobId.toList ++ s.created⟩
  | .block => some { s with store := cancelCodigo tenantId s.store }
  | .expire => some { s with store := s.store.clear }
  | .progress id status =>
    (s.store.jobs.get id).bind fun job =>
      if status ∈ validTransitions job.status then
        some { s with store := { s.store with jobs := s.store.jobs.setStatus id status } }
      else none
  | .delete id => some { s with store := { s.store with jobs := s.store.jobs.remove (·.id = id) } }

/-- Every active job of the conversation is the one of its session. -/
def Held (s : State) : Prop :=
  ∀ id ∈ s.created, s.store.jobs.isActive id = true → jobIdOf s.store.session = some id

/-- The session has a job that is active. -/
def looking (s : State) : Bool := (jobIdOf s.store.session).any s.store.jobs.isActive

/-- The actions that leave an active job without the session. -/
def loses (s : State) : Action → Bool
  | .message turn _ text => looking s && side.abandons turn text
  | .expire => looking s
  | _ => false

/-- What holds of a conversation besides. -/
structure Sound (s : State) : Prop where
  shaped : Shaped s.store.session
  created : ∀ id, jobIdOf s.store.session = some id → id ∈ s.created
  tenant : ∀ id ∈ s.created, ∀ job, s.store.jobs.get id = some job → job.tenantId = tenantId

variable {side : Side} {tenantId : Nat} {jobs : Jobs} {session : Option Session} {s s' : State}
  {a : Action} {id id' : Nat} {abandoned : Bool}

namespace LookupsLemmas

open CodigoLemmas

/-! ## The status of a job -/

theorem isActive_setStatus {status : JobStatus} : (jobs.setStatus id status).isActive id' =
    if id' = id then (jobs.get id).isSome && status.active else jobs.isActive id' := by
  unfold Jobs.isActive Jobs.setStatus
  split
  · next h =>
    rw [h, Table.get_modify_self]
    cases jobs.get id <;> rfl
  · next h => rw [Table.get_modify_of_ne h]

theorem get_setStatus {status : JobStatus} {job : LookupJob}
    (h : (jobs.setStatus id status).get id' = some job) :
    ∃ old, jobs.get id' = some old ∧ old.tenantId = job.tenantId := by
  unfold Jobs.setStatus at h
  by_cases heq : id' = id
  · rw [heq, Table.get_modify_self] at h
    obtain ⟨old, hold, rfl⟩ := Option.map_eq_some_iff.mp h
    exact ⟨old, heq ▸ hold, rfl⟩
  · rw [Table.get_modify_of_ne heq] at h
    exact ⟨job, h, rfl⟩

theorem active_of_validTransitions {status status' : JobStatus}
    (h : status' ∈ validTransitions status) : status.active = true := by
  cases status with
  | pending | processing => rfl
  | completed | failed | timeout => cases h

theorem isActive_cancelActiveJob
    (htenant : ∀ job, jobs.get id = some job → job.tenantId = tenantId) :
    (jobs.cancelActiveJob tenantId id).isActive id' = (jobs.isActive id' && id' ≠ id) := by
  have hget : jobs.getJob tenantId id = jobs.get id := by
    unfold Jobs.getJob
    cases hjob : jobs.get id with
    | none => rfl
    | some job => rw [Option.filter_some, if_pos (by simpa using htenant job hjob)]
  unfold Jobs.cancelActiveJob
  rw [hget]
  by_cases hactive : (jobs.get id).any (·.status.active) = true
  · rw [if_pos hactive, isActive_setStatus]
    by_cases heq : id' = id
    · simp [heq, JobStatus.active]
    · simp [heq]
  · rw [if_neg hactive]
    by_cases heq : id' = id
    · rw [heq]
      simpa [Jobs.isActive] using hactive
    · simp [heq]

theorem isActive_createJob (hfresh : jobs.get id = none) :
    (jobs.createJob tenantId id).isActive id' = (jobs.isActive id' || id' = id) := by
  unfold Jobs.createJob Jobs.isActive
  by_cases heq : id' = id
  · have hget : (jobs.insert ⟨id, tenantId, .pending⟩).get id = some ⟨id, tenantId, .pending⟩ :=
      Table.get_insert_self hfresh
    rw [heq, hget]
    simp [JobStatus.active]
  · rw [Table.get_insert_of_ne heq]
    simp [heq]

theorem isActive_remove {p : LookupJob → Bool} (h : Jobs.isActive (jobs.remove p) id = true) :
    jobs.isActive id = true := by
  unfold Jobs.isActive at h ⊢
  rw [Table.get_remove] at h
  cases hget : jobs.get id with
  | none =>
    rw [hget] at h
    cases h
  | some job =>
    rw [hget, Option.filter_some] at h
    split at h
    · exact h
    · cases h

theorem get_cancelActiveJob : ((jobs.cancelActiveJob tenantId id).get id').map (·.tenantId) =
    (jobs.get id').map (·.tenantId) := by
  unfold Jobs.cancelActiveJob
  split
  · unfold Jobs.setStatus
    by_cases heq : id' = id
    · rw [heq, Table.get_modify_self, Option.map_map]
      rfl
    · rw [Table.get_modify_of_ne heq]
  · rfl

theorem get_cancelJobOf : ((cancelJobOf tenantId jobs session).get id).map (·.tenantId) =
    (jobs.get id).map (·.tenantId) := by
  unfold cancelJobOf
  cases jobIdOf session with
  | none => rfl
  | some job => exact get_cancelActiveJob

theorem fresh_cancelJobOf (h : jobs.get id = none) :
    (cancelJobOf tenantId jobs session).get id = none := by
  rw [← Option.map_eq_none_iff, get_cancelJobOf, h]
  rfl

theorem isActive_cancelJobOf (hs : Sound tenantId s) :
    (cancelJobOf tenantId s.store.jobs s.store.session).isActive id =
      (s.store.jobs.isActive id && decide (jobIdOf s.store.session ≠ some id)) := by
  unfold cancelJobOf
  cases hjob : jobIdOf s.store.session with
  | none => simp
  | some job =>
    rw [Option.elim_some, isActive_cancelActiveJob (hs.tenant job (hs.created job hjob))]
    congr 1
    simp [eq_comm]

theorem looking_eq_false (hs : Sound tenantId s) (hheld : Held s) :
    looking s = false ↔ ∀ id ∈ s.created, s.store.jobs.isActive id = false := by
  unfold looking
  constructor
  · intro h id hid
    by_contra hactive
    rw [Bool.not_eq_false] at hactive
    rw [hheld id hid hactive, Option.any_some, hactive] at h
    cases h
  · intro h
    cases hjob : jobIdOf s.store.session with
    | none => rfl
    | some id => exact h id (hs.created id hjob)

theorem looking_of_none (h : jobIdOf s.store.session = none) : looking s = false := by
  unfold looking
  rw [h]
  rfl

theorem kept_of (h : jobIdOf s.store.session = none ∨ abandoned = false) :
    (looking s && abandoned) = false := by
  obtain h | h := h
  · rw [looking_of_none h, Bool.false_and]
  · rw [h, Bool.and_false]

theorem sound_moves {newId : Nat} {abandoned : Bool} {jobId : Option Nat} {store : Store}
    (hs : Sound tenantId s) (hfresh : ∀ id, jobId = some id → s.store.jobs.get id = none)
    (h : Moves tenantId newId s.store abandoned jobId store) :
    Sound tenantId ⟨store, jobId.toList ++ s.created⟩ := by
  have hcancelled : ∀ id ∈ s.created, ∀ job,
      (cancelJobOf tenantId s.store.jobs s.store.session).get id = some job →
        job.tenantId = tenantId := by
    intro id hid job hjob
    have hmap : ((cancelJobOf tenantId s.store.jobs s.store.session).get id).map (·.tenantId) =
        (s.store.jobs.get id).map (·.tenantId) := get_cancelJobOf
    rw [hjob, Option.map_some] at hmap
    obtain ⟨job₀, hjob₀, htenant⟩ := Option.map_eq_some_iff.mp hmap.symm
    rw [← htenant]
    exact hs.tenant id hid job₀ hjob₀
  cases h with
  | keeps _ hjob hshaped =>
    exact ⟨hshaped, fun id hid => hs.created id (hjob ▸ hid), hs.tenant⟩
  | drops _ hjob hshaped =>
    refine ⟨hshaped, fun id hid => ?_, hs.tenant⟩
    rw [hjob] at hid
    cases hid
  | cancels _ hjob hshaped =>
    refine ⟨hshaped, fun id hid => ?_, hcancelled⟩
    rw [hjob] at hid
    cases hid
  | creates _ hjob hshaped =>
    refine ⟨hshaped, fun id hid => ?_, fun id hid job hget => ?_⟩
    · rw [hjob] at hid
      rw [← Option.some.inj hid]
      exact List.mem_cons_self
    · unfold Jobs.createJob at hget
      by_cases heq : id = newId
      · have hnew : ((cancelJobOf tenantId s.store.jobs s.store.session).insert
            ⟨newId, tenantId, .pending⟩).get newId = some ⟨newId, tenantId, .pending⟩ :=
          Table.get_insert_self (fresh_cancelJobOf (hfresh newId rfl))
        rw [heq, hnew] at hget
        rw [← Option.some.inj hget]
      · rw [Table.get_insert_of_ne heq] at hget
        obtain hid | hid := List.mem_cons.mp hid
        · exact absurd hid heq
        · exact hcancelled id hid job hget

theorem held_moves {newId : Nat} {jobId : Option Nat} {store : Store} (hs : Sound tenantId s)
    (hheld : Held s) (hfresh : ∀ id, jobId = some id → s.store.jobs.get id = none)
    (h : Moves tenantId newId s.store abandoned jobId store) :
    Held ⟨store, jobId.toList ++ s.created⟩ ↔ (looking s && abandoned) = false := by
  cases h with
  | keeps hkept hjob _ =>
    refine iff_of_true (fun id hid hactive => ?_) (kept_of hkept.symm)
    exact hjob.trans (hheld id hid hactive)
  | drops hdropped hjob _ =>
    have hlooking : (looking s && abandoned) = looking s := by
      obtain h | h := hdropped
      · rw [h, Bool.and_true]
      · rw [looking_of_none h, Bool.false_and]
    rw [hlooking, looking_eq_false hs hheld]
    constructor
    · intro h id hid
      by_contra hactive
      have hsession := h id hid (by simpa using hactive)
      rw [show jobIdOf _ = none from hjob] at hsession
      cases hsession
    · intro h id hid hactive
      rw [show s.store.jobs.isActive id = false from h id hid] at hactive
      cases hactive
  | cancels hkept hjob _ =>
    refine iff_of_true (fun id hid hactive => ?_) (kept_of hkept.symm)
    have hcancelled : (cancelJobOf tenantId s.store.jobs s.store.session).isActive id = true :=
      hactive
    rw [isActive_cancelJobOf hs, Bool.and_eq_true, decide_eq_true_eq] at hcancelled
    exact absurd (hheld id hid hcancelled.1) hcancelled.2
  | creates hkept hjob _ =>
    refine iff_of_true (fun id hid hactive => ?_) (kept_of hkept.symm)
    have hcreated : ((cancelJobOf tenantId s.store.jobs s.store.session).createJob tenantId
        newId).isActive id = true := hactive
    rw [isActive_createJob (fresh_cancelJobOf (hfresh newId rfl)), Bool.or_eq_true, decide_eq_true_eq,
      isActive_cancelJobOf hs, Bool.and_eq_true, decide_eq_true_eq] at hcreated
    obtain ⟨hold, hne⟩ | hnew := hcreated
    · obtain hid | hid := List.mem_cons.mp hid
      · rw [hid]
        exact hjob
      · exact absurd (hheld id hid hold) hne
    · rw [hnew]
      exact hjob

theorem moves_handle {turn : Turn} {store : Store} {fromMenu : Bool} {text : String}
    (hshaped : Shaped store.session) :
    Moves tenantId turn.newId store (side.abandons turn text)
      (side.handle turn tenantId store fromMenu text).1.lookupJobId
      (side.handle turn tenantId store fromMenu text).2 := by
  unfold Side.handle Side.abandons
  cases side with
  | unauthenticated =>
    dsimp only
    exact moves_unauthenticated hshaped
  | tenant =>
    dsimp only
    exact moves_tenant hshaped

theorem reported_moves {newId : Nat} {jobId : Option Nat} {store store' : Store}
    (h : Moves tenantId newId store abandoned jobId store') (hid : jobId = some id) :
    id = newId := by
  cases h with
  | keeps | drops | cancels => cases hid
  | creates => exact (Option.some.inj hid).symm

theorem store_cancelCodigo {store : Store} :
    cancelCodigo tenantId store = ⟨cancelJobOf tenantId store.jobs store.session, none⟩ := by
  obtain ⟨jobs, session⟩ := store
  cases session <;> rfl

end LookupsLemmas

open CodigoLemmas LookupsLemmas

/-- An action keeps what holds of a conversation, and the jobs held unless it loses one. -/
theorem tracked_step (hs : Sound tenantId s) (hheld : Held s) (h : step side tenantId s a = some s') :
    Sound tenantId s' ∧ (Held s' ↔ loses side s a = false) := by
  cases a with
  | message turn fromMenu text =>
    unfold step at h
    dsimp only at h
    split at h
    · cases h
    next hfresh =>
    rw [not_or, Option.not_isSome_iff_eq_none] at hfresh
    rw [← Option.some.inj h]
    have hmoves : Moves tenantId turn.newId s.store (side.abandons turn text)
        (side.handle turn tenantId s.store fromMenu text).1.lookupJobId
        (side.handle turn tenantId s.store fromMenu text).2 := moves_handle hs.shaped
    have hnew : ∀ id, (side.handle turn tenantId s.store fromMenu text).1.lookupJobId = some id →
        s.store.jobs.get id = none := fun id hid => reported_moves hmoves hid ▸ hfresh.1
    exact ⟨sound_moves hs hnew hmoves, held_moves hs hheld hnew hmoves⟩
  | block =>
    have hmoves : Moves tenantId 0 s.store false none (cancelCodigo tenantId s.store) := by
      rw [store_cancelCodigo]
      exact .cancels (Or.inl rfl) rfl shaped_none
    have hnew : ∀ id, none = some id → s.store.jobs.get id = none := fun id hid => by cases hid
    rw [← Option.some.inj h]
    refine ⟨sound_moves hs hnew hmoves, ?_⟩
    exact (held_moves hs hheld hnew hmoves).trans (by rw [Bool.and_false]; rfl)
  | expire =>
    have hmoves : Moves tenantId 0 s.store true none s.store.clear :=
      .drops (Or.inl rfl) rfl shaped_none
    have hnew : ∀ id, none = some id → s.store.jobs.get id = none := fun id hid => by cases hid
    rw [← Option.some.inj h]
    refine ⟨sound_moves hs hnew hmoves, ?_⟩
    exact (held_moves hs hheld hnew hmoves).trans (by rw [Bool.and_true]; rfl)
  | progress id status =>
    obtain ⟨job, hget, hmove⟩ := Option.bind_eq_some_iff.mp h
    dsimp only at hmove
    split at hmove
    · next hvalid =>
      rw [← Option.some.inj hmove]
      refine ⟨⟨hs.shaped, hs.created, fun id' hid job' hget' => ?_⟩, iff_of_true ?_ rfl⟩
      · obtain ⟨old, hold, htenant⟩ := get_setStatus hget'
        rw [← htenant]
        exact hs.tenant id' hid old hold
      · intro id' hid hactive
        refine hheld id' hid ?_
        rw [isActive_setStatus] at hactive
        split at hactive
        · next heq =>
          rw [heq]
          unfold Jobs.isActive
          rw [hget]
          exact active_of_validTransitions hvalid
        · exact hactive
    · cases hmove
  | delete id =>
    rw [← Option.some.inj h]
    refine ⟨⟨hs.shaped, hs.created, fun id' hid job hget => ?_⟩, iff_of_true ?_ rfl⟩
    · refine hs.tenant id' hid job ?_
      dsimp only at hget
      rw [Table.get_remove] at hget
      exact (Option.filter_eq_some_iff.mp hget).1
    · exact fun id' hid hactive => hheld id' hid (isActive_remove hactive)

/-- In a run that loses no job, at most one job of the conversation is active, and none once the
session is gone; and exactly the actions that lose one leave an active job which the session does
not keep. -/
theorem lookups_of_reaches (side : Side) (tenantId : Nat) (jobs : Jobs) (s : State)
    (h : Reaches (step side tenantId) (fun s a => loses side s a = false) ⟨⟨jobs, none⟩, []⟩ s) :
    (∀ id ∈ s.created, ∀ id' ∈ s.created, s.store.jobs.isActive id = true →
      s.store.jobs.isActive id' = true → id = id') ∧
    (s.store.session = none → ∀ id ∈ s.created, s.store.jobs.isActive id = false) ∧
    ∀ a s', step side tenantId s a = some s' → (Held s' ↔ loses side s a = false) := by
  have hinvariant : Sound tenantId s ∧ Held s := by
    have hstart : Sound tenantId ⟨⟨jobs, none⟩, []⟩ :=
      ⟨shaped_none, fun _ hid => absurd hid (Option.some_ne_none _).symm,
        fun _ hid => absurd hid List.not_mem_nil⟩
    refine h.invariant (I := fun s => Sound tenantId s ∧ Held s)
      ⟨hstart, fun _ hid => absurd hid List.not_mem_nil⟩ ?_
    intro s a s' hs hok hstep
    obtain ⟨hsound, hheld⟩ := tracked_step hs.1 hs.2 hstep
    exact ⟨hsound, hheld.mpr hok⟩
  obtain ⟨hs, hheld⟩ := hinvariant
  refine ⟨fun id hid id' hid' hactive hactive' => ?_, fun hsession id hid => ?_,
    fun a s' hstep => (tracked_step hs hheld hstep).2⟩
  · exact Option.some.inj ((hheld id hid hactive).symm.trans (hheld id' hid' hactive'))
  · by_contra hactive
    have hjob := hheld id hid (by simpa using hactive)
    rw [hsession] at hjob
    cases hjob

/-! ## The way back to the services -/

def exTurn (newId : Nat) : Turn := ⟨true, ["netflix"], some, newId, true⟩

def exConfirmed (newId : Nat) : List Action :=
  [.message (exTurn newId) false "1", .message (exTurn newId) false "ana@example.com",
    .message (exTurn newId) false "1"]

def exStart : State := ⟨⟨Table.empty, none⟩, []⟩

def exRetried : List Action :=
  .message (exTurn 1) false "codigo" :: exConfirmed 1 ++ [Action.message (exTurn 2) false "1"]

/-- A sender retries, and only the new lookup is active. -/
theorem lookups_of_reaches_retried : ∃ s : State, s.created = [2, 1] ∧
    s.store.jobs.isActive 2 = true ∧ ∀ id ∈ s.created, ∀ id' ∈ s.created,
      s.store.jobs.isActive id = true → s.store.jobs.isActive id' = true → id = id' := by
  have hrun : (execWhere (step .unauthenticated 1) (fun s a => !loses .unauthenticated s a) exStart
      exRetried).any fun s : State => s.created = [2, 1] && s.store.jobs.isActive 2 := by
    decide +kernel
  obtain ⟨s, hreaches, hs⟩ := exists_of_execWhere hrun
  rw [Bool.and_eq_true, decide_eq_true_eq] at hs
  exact ⟨s, hs.1, hs.2, (lookups_of_reaches .unauthenticated 1 Table.empty s
    (hreaches.mono fun _ _ hok => by simpa using hok)).1⟩

/-- A sender who goes back to the services while the job is pending and confirms another lookup has
two active jobs, and after a cancel there is still one. -/
theorem two_lookups : ∃ s s' : State, Reaches (step .unauthenticated 1) Always exStart s ∧
    s.created = [2, 1] ∧ s.store.jobs.isActive 1 = true ∧ s.store.jobs.isActive 2 = true ∧
    step .unauthenticated 1 s (.message (exTurn 3) false "cancelar") = some s' ∧
    s'.store.session = none ∧ s'.store.jobs.isActive 2 = true := by
  have hrun : ((exec (step .unauthenticated 1) exStart
      (.message (exTurn 1) false "codigo" :: exConfirmed 1 ++
        .message (exTurn 2) false "2" :: exConfirmed 2)).any fun s : State =>
        s.created = [2, 1] && (s.store.jobs.isActive 1 && (s.store.jobs.isActive 2 &&
          (step .unauthenticated 1 s (.message (exTurn 3) false "cancelar")).any fun s' : State =>
            s'.store.session = none && s'.store.jobs.isActive 2))) = true := by
    decide +kernel
  obtain ⟨s, hexec, hs⟩ := (Option.any_eq_true _ _).mp hrun
  rw [Bool.and_eq_true, decide_eq_true_eq, Bool.and_eq_true, Bool.and_eq_true,
    Option.any_eq_true] at hs
  obtain ⟨hcreated, hfirst, hsecond, s', hstep, hs'⟩ := hs
  rw [Bool.and_eq_true, decide_eq_true_eq] at hs'
  exact ⟨s, s', reaches_of_exec hexec, hcreated, hfirst, hsecond, hstep, hs'⟩

end Trackpal.Console.Codigo
