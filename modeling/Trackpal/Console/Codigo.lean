import Trackpal.Console.Routing
import Trackpal.Coordinator.Job

/-!
# The lookup dialogs

A sender who is not an admin, and the admin of a tenant, look a code up in a dialog: a service, an
address, a confirmation, and the answer to the result. A confirmation creates a lookup job, and the
session of the dialog keeps its id.

Results:
1. `moves_unauthenticated`, `moves_tenant`: what a message makes of the job of the session.
-/

namespace Trackpal.Console.Codigo

open Trackpal.Foundation Coordinator

/-! ## Jobs -/

/-- A row of `mail_lookup_jobs`. -/
structure LookupJob where
  id : Nat
  tenantId : Nat
  status : JobStatus
deriving DecidableEq, Repr

abbrev Jobs := Table LookupJob.id

namespace Jobs

variable (jobs : Jobs) (tenantId : Nat)

/-- `get_job`, with the tenant. -/
def getJob (id : Nat) : Option LookupJob := (jobs.get id).filter (·.tenantId = tenantId)

def createJob (id : Nat) : Jobs := jobs.insert ⟨id, tenantId, .pending⟩

def setStatus (id : Nat) (status : JobStatus) : Jobs :=
  jobs.modify id (fun job => { job with status := status }) fun _ => rfl

/-- `cancel_active_job_if_present`. -/
def cancelActiveJob (id : Nat) : Jobs :=
  if (jobs.getJob tenantId id).any (·.status.active) then jobs.setStatus id .failed else jobs

def isActive (id : Nat) : Bool := (jobs.get id).any (·.status.active)

end Jobs

/-! ## Sessions -/

inductive Step where
  | service
  | email
  | emailConfirm
  | awaitingResult
deriving DecidableEq, Repr

structure TempData where
  effectiveKeys : List String
  currentPage : Nat
  serviceKey : Option String
  targetEmail : Option String
  pendingLookupIntent : Bool
  lookupJobId : Option Nat
  startedFromMenu : Bool
deriving DecidableEq, Repr

structure Session where
  step : Step
  temp : TempData
deriving DecidableEq, Repr

/-- The session of a dialog that begins. -/
def begun (effectiveKeys : List String) (startedFromMenu : Bool) : Session :=
  ⟨.service, effectiveKeys, 0, none, none, false, none, startedFromMenu⟩

/-- The replies, under their names in the catalog. -/
inductive Reply where
  | accessDenied
  | mailboxUnavailableExternal
  | noCodeServicesClient
  | noCodeServicesTenant
  | noMailbox
  | servicePrompt (effectiveKeys : List String) (page : Nat)
  | invalidService
  | emailPrompt (serviceKey : String)
  | invalidEmail
  | emailConfirmPrompt (serviceKey targetEmail : String)
  | invalidEmailConfirmOption
  | buscando
  | stillChecking
  | error
  | cancelled
  | goodbye
  | help
deriving DecidableEq, Repr

structure Response where
  reply : Reply
  closed : Bool
  lookupJobId : Option Nat
deriving DecidableEq, Repr

/-- A reply that neither closes the chat nor reports a job. -/
def say (reply : Reply) : Response := ⟨reply, false, none⟩

/-- What else decides on a message: the mailbox of the tenant, its services, the validator of
addresses, the id of a new job, and whether it can be created. -/
structure Turn where
  connected : Bool
  effectiveKeys : List String
  validateEmail : String → Option String
  newId : Nat
  creates : Bool

/-- What a message can change: the jobs and the session. -/
structure Store where
  jobs : Jobs
  session : Option Session

variable (turn : Turn) (tenantId : Nat) (store : Store) (session : Session)

def Store.save (session : Session) : Store := { store with session := some session }

def Store.clear : Store := { store with session := none }

def pageSize : Nat := 7

def totalPages (keys : List String) : Nat := (keys.length + pageSize - 1) / pageSize

/-- `cancelled` with the chat closed. -/
def cancelledClosed : Response := ⟨.cancelled, true, none⟩

/-! ## The dialog of a sender -/

/-- The session is cleared and a new one begins. -/
def restart : Response × Store :=
  if turn.effectiveKeys = [] then (say .noCodeServicesClient, store.clear)
  else (say (.servicePrompt turn.effectiveKeys 0), store.save (begun turn.effectiveKeys false))

/-- The part of `_handle_unauthenticated_codigo` without a session. -/
def startUnauthCodigo (msg : String) : Response × Store :=
  if lower msg ∉ codigoKeywords then (say .accessDenied, store)
  else if !turn.connected then (say .mailboxUnavailableExternal, store)
  else if turn.effectiveKeys = [] then (say .noCodeServicesClient, store)
  else (say (.servicePrompt turn.effectiveKeys 0), store.save (begun turn.effectiveKeys false))

def serviceAt (temp : TempData) (index : Int) : Option String :=
  let actual := temp.currentPage * pageSize + (index - 1)
  if actual < 0 then none else temp.effectiveKeys[actual.toNat]?

def turnPage (page : Nat) : Response × Store :=
  (say (.servicePrompt session.temp.effectiveKeys page),
    store.save { session with temp := { session.temp with currentPage := page } })

def chooseService (serviceKey : String) : Response × Store :=
  (say (.emailPrompt serviceKey), store.save
    { session with step := .email, temp := { session.temp with serviceKey := some serviceKey } })

def handleUnauthCodigoService (msg : String) : Response × Store :=
  let temp := session.temp
  if temp.effectiveKeys = [] then (say .noCodeServicesClient, store.clear)
  else if isCancel msg then (cancelledClosed, store.clear)
  else
    match parseInt (strip msg) with
    | none => (say .invalidService, store)
    | some index =>
      let pages := totalPages temp.effectiveKeys
      if index = 9 ∧ 1 < pages ∧ temp.currentPage + 1 < pages then
        turnPage store session (temp.currentPage + 1)
      else if index = 8 ∧ 1 < pages ∧ 0 < temp.currentPage then
        turnPage store session (temp.currentPage - 1)
      else
        match serviceAt temp index with
        | none => (say .invalidService, store)
        | some serviceKey => chooseService store session serviceKey

def handleUnauthCodigoEmail (msg : String) : Response × Store :=
  if isCancel msg then (cancelledClosed, store.clear)
  else
    match turn.validateEmail msg with
    | none => (say .invalidEmail, store)
    | some email =>
      match truthy session.temp.serviceKey with
      | none => (say .cancelled, store.clear)
      | some serviceKey =>
        (say (.emailConfirmPrompt serviceKey (lower email)), store.save { session with
          step := .emailConfirm
          temp := { session.temp with targetEmail := some (lower email) } })

/-- The address is asked for again. -/
def correctEmail : Response × Store :=
  (say (.emailPrompt (session.temp.serviceKey.getD "")), store.save { session with
    step := .email
    temp := { session.temp with targetEmail := none, pendingLookupIntent := false } })

/-- Back to the services: `none` if there are none. -/
def backToServices : Option (Response × Store) :=
  let keys := if session.temp.effectiveKeys = [] then turn.effectiveKeys
    else session.temp.effectiveKeys
  if keys = [] then none
  else some (say (.servicePrompt keys 0), store.save { session with
    step := .service
    temp := { session.temp with
      effectiveKeys := keys
      currentPage := 0
      serviceKey := none
      targetEmail := none
      pendingLookupIntent := false
      lookupJobId := none } })

/-- The service and the address that a session has. -/
def subject (temp : TempData) : Option (String × String) :=
  match truthy temp.serviceKey, truthy temp.targetEmail with
  | some serviceKey, some targetEmail => some (serviceKey, targetEmail)
  | _, _ => none

def awaitJob (jobs : Jobs) : Response × Store :=
  (⟨.buscando, false, some turn.newId⟩,
    ⟨jobs.createJob tenantId turn.newId, some { session with
      step := .awaitingResult
      temp := { session.temp with lookupJobId := some turn.newId } }⟩)

def handleUnauthCodigoEmailConfirm (msg : String) : Response × Store :=
  if strip msg = "2" then correctEmail store session
  else if strip msg = "9" then
    (backToServices turn store session).getD (say .noCodeServicesClient, store.clear)
  else if strip msg = "0" then (cancelledClosed, store.clear)
  else if strip msg ≠ "1" then (say .invalidEmailConfirmOption, store)
  else if (subject session.temp).isNone then (say .cancelled, store.clear)
  else if !turn.connected then (say .noMailbox, store)
  else if !turn.creates then (say .error, store)
  else awaitJob turn tenantId session store.jobs

def cancelSessionJob (jobs : Jobs) (temp : TempData) : Jobs :=
  temp.lookupJobId.elim jobs (jobs.cancelActiveJob tenantId)

def jobDone (jobs : Jobs) (temp : TempData) : Bool :=
  (temp.lookupJobId.bind (jobs.getJob tenantId)).any fun job =>
    job.status ∈ [.completed, .failed, .timeout]

def handleUnauthCodigoResult (msg : String) : Response × Store :=
  if isCancel msg then (cancelledClosed, store.clear)
  else if clean msg ∈ codigoKeywords then
    restart turn { store with jobs := cancelSessionJob tenantId store.jobs session.temp }
  else if !jobDone tenantId store.jobs session.temp && strip msg = "2" then restart turn store
  else if !jobDone tenantId store.jobs session.temp && strip msg ∉ ["1", "2", "0"] then
    (say .stillChecking, store)
  else if strip msg = "1" then
    if (subject session.temp).isNone then restart turn store
    else if !turn.connected then (say .noMailbox, store.clear)
    else if !turn.creates then restart turn store
    else awaitJob turn tenantId session (cancelSessionJob tenantId store.jobs session.temp)
  else if strip msg = "2" then restart turn store
  else if strip msg = "0" then (cancelledClosed, store.clear)
  else (say .stillChecking, store)

def handleUnauthenticatedCodigo (message : String) : Response × Store :=
  let msg := strip message
  match store.session with
  | none => startUnauthCodigo turn store msg
  | some session =>
    match session.step with
    | .service => handleUnauthCodigoService store session msg
    | .email => handleUnauthCodigoEmail turn store session msg
    | .emailConfirm => handleUnauthCodigoEmailConfirm turn tenantId store session msg
    | .awaitingResult => handleUnauthCodigoResult turn tenantId store session msg

/-! ## The dialog of an admin -/

def startCodigoFlow (startedFromMenu : Bool) : Reply × Store :=
  if !turn.connected then (.noMailbox, store)
  else if turn.effectiveKeys = [] then (.noCodeServicesTenant, store)
  else (.servicePrompt turn.effectiveKeys 0, store.save (begun turn.effectiveKeys startedFromMenu))

def handleCodigoService (msg : String) : Reply × Store :=
  let keys := if session.temp.effectiveKeys = [] then turn.effectiveKeys
    else session.temp.effectiveKeys
  if keys = [] then (.noCodeServicesTenant, store.clear)
  else
    let found := { session with temp := { session.temp with effectiveKeys := keys } }
    let store := if session.temp.effectiveKeys = [] then store.save found else store
    let session := found
    let temp := found.temp
    if isCancel msg then (.cancelled, store.clear)
    else if isBack msg then (.cancelled, store.clear)
    else
      match parseInt (strip msg) with
      | none => (.invalidService, store)
      | some index =>
        let pages := totalPages keys
        if index = 9 ∧ 1 < pages ∧ temp.currentPage + 1 < pages then
          (.servicePrompt keys (temp.currentPage + 1),
            (turnPage store session (temp.currentPage + 1)).2)
        else if index = 8 ∧ 1 < pages ∧ 0 < temp.currentPage then
          (.servicePrompt keys (temp.currentPage - 1),
            (turnPage store session (temp.currentPage - 1)).2)
        else if index < 1 ∨ (pageSize : Int) < index then (.invalidService, store)
        else
          match serviceAt temp index with
          | none => (.invalidService, store)
          | some serviceKey =>
            (.emailPrompt serviceKey, (chooseService store session serviceKey).2)

def handleCodigoEmail (msg : String) : Reply × Store :=
  if isCancel msg then (.cancelled, store.clear)
  else
    match turn.validateEmail msg with
    | none => (.invalidEmail, store)
    | some email =>
      match truthy session.temp.serviceKey with
      | none => (.cancelled, store.clear)
      | some serviceKey =>
        (.emailConfirmPrompt serviceKey (lower email), store.save { session with
          step := .emailConfirm
          temp := { session.temp with
            targetEmail := some (lower email)
            pendingLookupIntent := false
            lookupJobId := none } })

def intend : Reply × Store :=
  (.buscando, store.save { session with
    step := .awaitingResult
    temp := { session.temp with pendingLookupIntent := true } })

def handleCodigoEmailConfirm (msg : String) : Reply × Store :=
  if strip msg = "1" then intend store session
  else if strip msg = "2" then
    (.emailPrompt (session.temp.serviceKey.getD ""), (correctEmail store session).2)
  else if strip msg = "9" then
    match backToServices turn store session with
    | none => (.noCodeServicesTenant, store.clear)
    | some (response, store) => (response.reply, store)
  else if strip msg = "0" then (.cancelled, store.clear)
  else (.invalidEmailConfirmOption, store)

/-- The session is cleared and a new one begins. -/
def restartTenant : Reply × Store :=
  if turn.effectiveKeys = [] then (.noCodeServicesTenant, store.clear)
  else (.servicePrompt turn.effectiveKeys 0, store.save (begun turn.effectiveKeys false))

def handleCodigoAwaitingResult (msg : String) : Reply × Store :=
  if isCancel msg then (.cancelled, store.clear)
  else if clean msg ∈ codigoKeywords then
    startCodigoFlow turn
      (Store.clear { store with jobs := cancelSessionJob tenantId store.jobs session.temp }) false
  else if strip msg = "1" then
    if (subject session.temp).isSome then intend store session
    else restartTenant turn store
  else if strip msg = "2" then restartTenant turn store
  else if strip msg = "0" then (.cancelled, store.clear)
  else (.stillChecking, store)

def routeCodigoFlow (msg : String) : Reply × Store :=
  match session.step with
  | .service => handleCodigoService turn store session msg
  | .email => handleCodigoEmail turn store session msg
  | .emailConfirm => handleCodigoEmailConfirm turn store session msg
  | .awaitingResult => handleCodigoAwaitingResult turn tenantId store session msg

/-- The part of `process_message` for a session of the flow. -/
def processMessage (message : String) : Reply × Store :=
  let msg := strip message
  let strict := session.step = .emailConfirm
  if ¬strict ∧ (isCancel msg ∨ lower msg ∈ ["menu", "menú", "/menu"]) then
    (if msg = "0" then .goodbye else .cancelled, store.clear)
  else if ¬strict ∧ lower msg = "ayuda" then (.help, store)
  else routeCodigoFlow turn tenantId store session msg

/-- The part of `_handle_tenant_console` that creates the job of a session with an intent. -/
def orchestrate (reply : Reply) : Response × Store :=
  match store.session with
  | none => (say reply, store)
  | some session =>
    if !session.temp.pendingLookupIntent || (subject session.temp).isNone then (say reply, store)
    else if !turn.connected || !turn.creates then (say .error, store)
    else
      (⟨reply, false, some turn.newId⟩,
        ⟨(cancelSessionJob tenantId store.jobs session.temp).createJob tenantId turn.newId,
          some { session with temp := { session.temp with
            pendingLookupIntent := false
            lookupJobId := some turn.newId } }⟩)

/-- `_handle_tenant_console`, for an admin without another flow. The dialog begins with a keyword
or with an entry of the menu. -/
def handleTenantCodigo (fromMenu : Bool) (message : String) : Response × Store :=
  let (reply, store) := match store.session with
    | none => startCodigoFlow turn store fromMenu
    | some session => processMessage turn tenantId store session message
  let (response, store) := orchestrate turn tenantId store reply
  ({ response with closed := isCancel message }, store)

/-! ## The job of a session -/

def jobIdOf (session : Option Session) : Option Nat := session.bind (·.temp.lookupJobId)

/-- A session with a job has what it was made from, and one with a job or an intent awaits a
result. -/
structure Shaped (session : Option Session) : Prop where
  subject : ∀ s, session = some s → s.temp.lookupJobId ≠ none → (subject s.temp).isSome = true
  step : ∀ s, session = some s →
    s.temp.lookupJobId ≠ none ∨ s.temp.pendingLookupIntent = true → s.step = .awaitingResult

def cancelJobOf (jobs : Jobs) (session : Option Session) : Jobs :=
  (jobIdOf session).elim jobs (jobs.cancelActiveJob tenantId)

/-- What a message makes of the job of the session: `abandoned` tells that the message gives a job up
that it does not cancel, and the id is that of the job which the response reports. -/
inductive Moves (tenantId newId : Nat) (store : Store) (abandoned : Bool) :
    Option Nat → Store → Prop where
  | keeps {session : Option Session} (h : abandoned = false ∨ jobIdOf store.session = none)
      (hjob : jobIdOf session = jobIdOf store.session) (hshaped : Shaped session) :
      Moves tenantId newId store abandoned none ⟨store.jobs, session⟩
  | drops {session : Option Session} (h : abandoned = true ∨ jobIdOf store.session = none)
      (hjob : jobIdOf session = none) (hshaped : Shaped session) :
      Moves tenantId newId store abandoned none ⟨store.jobs, session⟩
  | cancels {session : Option Session} (h : abandoned = false ∨ jobIdOf store.session = none)
      (hjob : jobIdOf session = none) (hshaped : Shaped session) :
      Moves tenantId newId store abandoned none
        ⟨cancelJobOf tenantId store.jobs store.session, session⟩
  | creates {session : Option Session} (h : abandoned = false ∨ jobIdOf store.session = none)
      (hjob : jobIdOf session = some newId) (hshaped : Shaped session) :
      Moves tenantId newId store abandoned (some newId)
        ⟨(cancelJobOf tenantId store.jobs store.session).createJob tenantId newId, session⟩

/-- A sender gives the job up with a cancel, with the way back to the services, and with a new try
that fails. -/
def abandonsUnauth (turn : Turn) (text : String) : Bool :=
  let msg := strip text
  isCancel msg || strip msg = "2" || (strip msg = "1" && (!turn.connected || !turn.creates))

/-- An admin gives the job up with a cancel, with a menu, and with the way back to the services. -/
def abandonsTenant (text : String) : Bool :=
  let msg := strip text
  isCancel msg || lower msg ∈ ["menu", "menú", "/menu"] || strip msg = "2"

variable {turn : Turn} {tenantId newId : Nat} {store : Store} {session : Session} {msg text : String}

namespace CodigoLemmas

/-- A session without a job and an intent. -/
structure Quiet (session : Session) : Prop where
  job : session.temp.lookupJobId = none
  intent : session.temp.pendingLookupIntent = false

theorem Quiet.shaped {session : Session} (h : Quiet session) : Shaped (some session) := by
  refine ⟨fun s hs hjob => ?_, fun s hs hactive => ?_⟩
  · rw [← Option.some.inj hs] at hjob
    exact absurd h.job hjob
  · rw [← Option.some.inj hs, h.job, h.intent] at hactive
    obtain hjob | hintent := hactive
    · exact absurd rfl hjob
    · cases hintent

theorem shaped_none : Shaped none where
  subject _ hs := by cases hs
  step _ hs := by cases hs

/-- A message leaves the jobs, and the session has none. -/
structure Idle (store : Store) (jobId : Option Nat) (store' : Store) : Prop where
  unreported : jobId = none
  jobs : store'.jobs = store.jobs
  session : jobIdOf store'.session = none
  shaped : Shaped store'.session

theorem Idle.moves {abandoned : Bool} {jobId : Option Nat} {store' : Store}
    (h : Idle store jobId store') (hnone : jobIdOf store.session = none) :
    Moves tenantId newId store abandoned jobId store' := by
  obtain ⟨rfl, hjobs, hsession, hshaped⟩ := h
  obtain ⟨jobs, session⟩ := store'
  cases hjobs
  exact .drops (Or.inr hnone) hsession hshaped

theorem idle_self (hnone : jobIdOf store.session = none) (hshaped : Shaped store.session) :
    Idle store none store := ⟨rfl, rfl, hnone, hshaped⟩

theorem idle_clear : Idle store none store.clear := ⟨rfl, rfl, rfl, shaped_none⟩

theorem idle_save {session : Session} (h : Quiet session) : Idle store none (store.save session) :=
  ⟨rfl, rfl, h.job, h.shaped⟩

theorem quiet_begun {keys : List String} {fromMenu : Bool} : Quiet (begun keys fromMenu) :=
  ⟨rfl, rfl⟩

theorem quiet_of_shaped (hsession : store.session = some session) (hshaped : Shaped store.session)
    (hstep : session.step ≠ .awaitingResult) : Quiet session := by
  constructor
  · by_contra h
    exact hstep (hshaped.step session hsession (Or.inl h))
  · by_contra h
    exact hstep (hshaped.step session hsession (Or.inr (by simpa using h)))

theorem jobId_of_subject (hsession : store.session = some session) (hshaped : Shaped store.session)
    (hsubject : (subject session.temp).isNone = true) : jobIdOf store.session = none := by
  rw [hsession]
  by_contra h
  have hsome := hshaped.subject session hsession h
  rw [Option.isNone_iff_eq_none] at hsubject
  rw [hsubject] at hsome
  cases hsome

/-! ## The dialog of a sender -/

theorem idle_startUnauthCodigo (hnone : jobIdOf store.session = none)
    (hshaped : Shaped store.session) :
    Idle store (startUnauthCodigo turn store msg).1.lookupJobId
      (startUnauthCodigo turn store msg).2 := by
  unfold startUnauthCodigo
  split
  · exact idle_self hnone hshaped
  split
  · exact idle_self hnone hshaped
  split
  · exact idle_self hnone hshaped
  · exact idle_save quiet_begun

theorem idle_unauthService (hnone : jobIdOf store.session = none) (hshaped : Shaped store.session)
    (hquiet : Quiet session) :
    Idle store (handleUnauthCodigoService store session msg).1.lookupJobId
      (handleUnauthCodigoService store session msg).2 := by
  unfold handleUnauthCodigoService
  dsimp only
  split
  · exact idle_clear
  split
  · exact idle_clear
  split
  · exact idle_self hnone hshaped
  split
  · exact idle_save ⟨hquiet.job, hquiet.intent⟩
  split
  · exact idle_save ⟨hquiet.job, hquiet.intent⟩
  split
  · exact idle_self hnone hshaped
  · exact idle_save ⟨hquiet.job, hquiet.intent⟩

theorem idle_unauthEmail (hnone : jobIdOf store.session = none) (hshaped : Shaped store.session)
    (hquiet : Quiet session) :
    Idle store (handleUnauthCodigoEmail turn store session msg).1.lookupJobId
      (handleUnauthCodigoEmail turn store session msg).2 := by
  unfold handleUnauthCodigoEmail
  split
  · exact idle_clear
  split
  · exact idle_self hnone hshaped
  split
  · exact idle_clear
  · exact idle_save ⟨hquiet.job, hquiet.intent⟩

theorem idle_backToServices {result : Response × Store}
    (h : backToServices turn store session = some result) :
    Idle store result.1.lookupJobId result.2 := by
  unfold backToServices at h
  dsimp only at h
  generalize (if session.temp.effectiveKeys = [] then turn.effectiveKeys
    else session.temp.effectiveKeys) = keys at h
  split at h
  · cases h
  · rw [← Option.some.inj h]
    exact idle_save ⟨rfl, rfl⟩

theorem moves_awaitJob {abandoned : Bool}
    (habandoned : abandoned = false ∨ jobIdOf store.session = none)
    (hsubject : (subject session.temp).isSome = true) {jobs : Jobs}
    (hjobs : jobs = cancelJobOf tenantId store.jobs store.session) :
    Moves tenantId turn.newId store abandoned (awaitJob turn tenantId session jobs).1.lookupJobId
      (awaitJob turn tenantId session jobs).2 := by
  rw [hjobs]
  refine .creates habandoned rfl ⟨fun s hs _ => ?_, fun s hs _ => ?_⟩
  · rw [← Option.some.inj hs]
    exact hsubject
  · rw [← Option.some.inj hs]

theorem moves_unauthEmailConfirm {abandoned : Bool} (hnone : jobIdOf store.session = none)
    (hshaped : Shaped store.session) (hquiet : Quiet session) :
    Moves tenantId turn.newId store abandoned
      (handleUnauthCodigoEmailConfirm turn tenantId store session msg).1.lookupJobId
      (handleUnauthCodigoEmailConfirm turn tenantId store session msg).2 := by
  unfold handleUnauthCodigoEmailConfirm
  split
  · exact Idle.moves (idle_save ⟨hquiet.job, rfl⟩) hnone
  split
  · cases hback : backToServices turn store session with
    | none => exact Idle.moves idle_clear hnone
    | some result => exact Idle.moves (idle_backToServices hback) hnone
  split
  · exact Idle.moves idle_clear hnone
  split
  · exact Idle.moves (idle_self hnone hshaped) hnone
  split
  · exact Idle.moves idle_clear hnone
  split
  · exact Idle.moves (idle_self hnone hshaped) hnone
  split
  · exact Idle.moves (idle_self hnone hshaped) hnone
  · next hsubject _ _ =>
    refine moves_awaitJob (Or.inr hnone) (by simpa [← Option.isSome_iff_ne_none] using hsubject) ?_
    unfold cancelJobOf
    rw [hnone]
    rfl

theorem idle_restart : Idle store (restart turn store).1.lookupJobId (restart turn store).2 := by
  unfold restart
  split
  · exact idle_clear
  · exact idle_save quiet_begun

theorem drops_restart : Moves tenantId newId store true (restart turn store).1.lookupJobId
    (restart turn store).2 := by
  unfold restart
  split
  · exact .drops (Or.inl rfl) rfl shaped_none
  · exact .drops (Or.inl rfl) rfl quiet_begun.shaped

theorem cancels_restart :
    Moves tenantId newId store false
      (restart turn { store with jobs := cancelJobOf tenantId store.jobs store.session }).1.lookupJobId
      (restart turn { store with jobs := cancelJobOf tenantId store.jobs store.session }).2 := by
  unfold restart
  split
  · exact .cancels (Or.inl rfl) rfl shaped_none
  · exact .cancels (Or.inl rfl) rfl quiet_begun.shaped

theorem cancelSessionJob_eq (hsession : store.session = some session) :
    cancelSessionJob tenantId store.jobs session.temp =
      cancelJobOf tenantId store.jobs store.session := by
  unfold cancelSessionJob cancelJobOf
  rw [hsession]
  rfl

theorem keeps_self (hshaped : Shaped store.session) : Moves tenantId newId store false none store :=
  .keeps (Or.inl rfl) rfl hshaped

theorem not_digit_of_keyword {digit : String} (h : clean msg ∈ codigoKeywords)
    (hdigit : lower digit ∉ codigoKeywords) : strip msg ≠ digit :=
  fun hmsg => hdigit (by rw [← hmsg]; exact h)

theorem not_zero_of_cancel (h : isCancel msg = false) : strip msg ≠ "0" := by
  intro hmsg
  have hclean : clean msg = "0" := by
    unfold clean
    rw [hmsg]
    decide
  unfold isCancel at h
  rw [hclean] at h
  cases h

theorem moves_unauthResult (hsession : store.session = some session)
    (hshaped : Shaped store.session) :
    Moves tenantId turn.newId store
      (isCancel msg || strip msg = "2" || (strip msg = "1" && (!turn.connected || !turn.creates)))
      (handleUnauthCodigoResult turn tenantId store session msg).1.lookupJobId
      (handleUnauthCodigoResult turn tenantId store session msg).2 := by
  unfold handleUnauthCodigoResult
  rw [cancelSessionJob_eq hsession]
  by_cases hcancel : isCancel msg = true
  · rw [if_pos hcancel, hcancel]
    exact .drops (Or.inl rfl) rfl shaped_none
  rw [if_neg hcancel]
  rw [Bool.not_eq_true] at hcancel
  have hzero := not_zero_of_cancel hcancel
  rw [hcancel, Bool.false_or]
  by_cases hkeyword : clean msg ∈ codigoKeywords
  · have hback : strip msg ≠ "2" := not_digit_of_keyword hkeyword (by decide)
    have hretry : strip msg ≠ "1" := not_digit_of_keyword hkeyword (by decide)
    rw [if_pos hkeyword, decide_eq_false hback, decide_eq_false hretry]
    exact cancels_restart
  rw [if_neg hkeyword]
  by_cases hback : strip msg = "2"
  · have hretry : strip msg ≠ "1" := by rw [hback]; decide
    have hresult : ∀ {done : Bool} {other other' : Response × Store},
        (if (!done && decide (strip msg = "2")) = true then restart turn store
        else if (!done && decide (strip msg ∉ ["1", "2", "0"])) = true then other
        else if strip msg = "1" then other'
        else if strip msg = "2" then restart turn store
        else if strip msg = "0" then (cancelledClosed, store.clear)
        else (say .stillChecking, store)) = restart turn store := by
      intro done other other'
      cases done <;> simp [hback]
    rw [hresult, decide_eq_true hback]
    exact drops_restart
  rw [decide_eq_false hback, Bool.and_false, if_neg Bool.false_ne_true, Bool.false_or]
  by_cases hretry : strip msg = "1"
  · have hmem : strip msg ∈ ["1", "2", "0"] := by rw [hretry]; decide
    rw [decide_eq_false (not_not.mpr hmem), Bool.and_false, if_neg Bool.false_ne_true,
      if_pos hretry, decide_eq_true hretry, Bool.true_and]
    by_cases hsubject : (subject session.temp).isNone = true
    · rw [if_pos hsubject]
      exact Idle.moves idle_restart (jobId_of_subject hsession hshaped hsubject)
    rw [if_neg hsubject]
    cases hconnected : turn.connected with
    | false => exact .drops (Or.inl rfl) rfl shaped_none
    | true =>
      cases hcreates : turn.creates with
      | false => exact drops_restart
      | true =>
        refine moves_awaitJob (Or.inl rfl) ?_ rfl
        rwa [Bool.not_eq_true, Option.isNone_eq_false_iff] at hsubject
  · have hmem : strip msg ∉ ["1", "2", "0"] := by simp [hretry, hback, hzero]
    rw [decide_eq_false hretry, Bool.false_and, if_neg hretry, if_neg hback, if_neg hzero, ite_self]
    exact keeps_self hshaped

end CodigoLemmas

open CodigoLemmas

theorem moves_unauthenticated (hshaped : Shaped store.session) :
    Moves tenantId turn.newId store (abandonsUnauth turn text)
      (handleUnauthenticatedCodigo turn tenantId store text).1.lookupJobId
      (handleUnauthenticatedCodigo turn tenantId store text).2 := by
  unfold handleUnauthenticatedCodigo abandonsUnauth
  dsimp only
  cases hsession : store.session with
  | none =>
    have hnone : jobIdOf store.session = none := by rw [hsession]; rfl
    dsimp only
    exact Idle.moves (idle_startUnauthCodigo hnone hshaped) hnone
  | some session =>
    by_cases hstep : session.step = .awaitingResult
    · dsimp only
      rw [hstep]
      dsimp only
      exact moves_unauthResult hsession hshaped
    have hquiet := quiet_of_shaped hsession hshaped hstep
    have hnone : jobIdOf store.session = none := by rw [hsession]; exact hquiet.job
    dsimp only
    cases hcase : session.step with
    | service =>
      dsimp only
      exact Idle.moves (idle_unauthService hnone hshaped hquiet) hnone
    | email =>
      dsimp only
      exact Idle.moves (idle_unauthEmail hnone hshaped hquiet) hnone
    | emailConfirm =>
      dsimp only
      exact moves_unauthEmailConfirm hnone hshaped hquiet
    | awaitingResult => exact absurd hcase hstep

namespace CodigoLemmas

/-! ## The dialog of an admin -/

/-- What a message of an admin makes of the job before the orchestration. -/
inductive Replies (tenantId : Nat) (store : Store) (abandoned : Bool) : Store → Prop where
  | keeps {session : Option Session} (h : abandoned = false ∨ jobIdOf store.session = none)
      (hjob : jobIdOf session = jobIdOf store.session) (hshaped : Shaped session) :
      Replies tenantId store abandoned ⟨store.jobs, session⟩
  | drops {session : Option Session} (h : abandoned = true)
      (hquiet : ∀ s, session = some s → Quiet s) :
      Replies tenantId store abandoned ⟨store.jobs, session⟩
  | cancels {session : Option Session} (h : abandoned = false)
      (hquiet : ∀ s, session = some s → Quiet s) :
      Replies tenantId store abandoned ⟨cancelJobOf tenantId store.jobs store.session, session⟩

theorem job_of_quiet {session : Option Session} (h : ∀ s, session = some s → Quiet s) :
    jobIdOf session = none ∧ Shaped session := by
  cases session with
  | none => exact ⟨rfl, shaped_none⟩
  | some s => exact ⟨(h s rfl).job, (h s rfl).shaped⟩

theorem orchestrate_quiet {reply : Reply} (h : ∀ s, store.session = some s → Quiet s) :
    orchestrate turn tenantId store reply = (say reply, store) := by
  unfold orchestrate
  cases hsession : store.session with
  | none => rfl
  | some session =>
    dsimp only
    rw [(h session hsession).intent]
    rfl

theorem orchestrate_cases (store : Store) {reply : Reply} (hshaped : Shaped store.session) :
    ((orchestrate turn tenantId store reply).1.lookupJobId = none ∧
      (orchestrate turn tenantId store reply).2 = store) ∨
    ∃ session, Shaped (some session) ∧ session.temp.lookupJobId = some turn.newId ∧
      (orchestrate turn tenantId store reply).1.lookupJobId = some turn.newId ∧
      (orchestrate turn tenantId store reply).2 =
        ⟨(cancelJobOf tenantId store.jobs store.session).createJob tenantId turn.newId,
          some session⟩ := by
  unfold orchestrate
  cases hsession : store.session with
  | none => exact Or.inl ⟨rfl, rfl⟩
  | some session =>
    dsimp only
    split
    · exact Or.inl ⟨rfl, rfl⟩
    next hintent =>
    split
    · exact Or.inl ⟨rfl, rfl⟩
    rw [Bool.or_eq_true, not_or, Bool.not_eq_true', Bool.not_eq_false, Bool.not_eq_true,
      Option.isNone_eq_false_iff] at hintent
    have hstep := hshaped.step session hsession (Or.inr hintent.1)
    let created : Session := { session with temp := { session.temp with
      pendingLookupIntent := false
      lookupJobId := some turn.newId } }
    refine Or.inr ⟨created, ⟨?_, ?_⟩, rfl, rfl, ?_⟩
    · intro s hs _
      rw [← Option.some.inj hs]
      exact hintent.2
    · intro s hs _
      rw [← Option.some.inj hs]
      exact hstep
    · rw [cancelSessionJob_eq hsession, hsession]

theorem Replies.moves {abandoned : Bool} {store' : Store} {reply : Reply}
    (h : Replies tenantId store abandoned store') :
    Moves tenantId turn.newId store abandoned
      (orchestrate turn tenantId store' reply).1.lookupJobId
      (orchestrate turn tenantId store' reply).2 := by
  cases h with
  | @keeps session habandoned hjob hshaped =>
    obtain ⟨hnone, hstore⟩ | ⟨created, hcreated, hid, hreported, hstore⟩ :=
      orchestrate_cases ⟨store.jobs, session⟩ hshaped
    · rw [hnone, hstore]
      exact .keeps habandoned hjob hshaped
    · have hcancel : cancelJobOf tenantId store.jobs session =
          cancelJobOf tenantId store.jobs store.session := by
        unfold cancelJobOf
        rw [hjob]
      rw [hreported, hstore, hcancel]
      exact .creates habandoned hid hcreated
  | drops habandoned hquiet =>
    obtain ⟨hjob, hshaped⟩ := job_of_quiet hquiet
    rw [orchestrate_quiet hquiet]
    exact .drops (Or.inl habandoned) hjob hshaped
  | cancels habandoned hquiet =>
    obtain ⟨hjob, hshaped⟩ := job_of_quiet hquiet
    rw [orchestrate_quiet hquiet]
    exact .cancels (Or.inl habandoned) hjob hshaped

theorem Idle.replies {abandoned : Bool} {store' : Store} (h : Idle store none store')
    (hnone : jobIdOf store.session = none) : Replies tenantId store abandoned store' := by
  obtain ⟨-, hjobs, hsession, hshaped⟩ := h
  obtain ⟨jobs, session⟩ := store'
  cases hjobs
  exact .keeps (Or.inr hnone) (hsession.trans hnone.symm) hshaped

theorem idle_startCodigoFlow {fromMenu : Bool} (hnone : jobIdOf store.session = none)
    (hshaped : Shaped store.session) : Idle store none (startCodigoFlow turn store fromMenu).2 := by
  unfold startCodigoFlow
  split
  · exact idle_self hnone hshaped
  split
  · exact idle_self hnone hshaped
  · exact idle_save quiet_begun

theorem idle_codigoService (hnone : jobIdOf store.session = none) (hshaped : Shaped store.session)
    (hquiet : Quiet session) : Idle store none (handleCodigoService turn store session msg).2 := by
  unfold handleCodigoService
  dsimp only
  generalize (if session.temp.effectiveKeys = [] then turn.effectiveKeys
    else session.temp.effectiveKeys) = keys
  split
  · exact idle_clear
  generalize hstore : (if session.temp.effectiveKeys = [] then store.save _ else store) = store₁
  have hidle : Idle store none store₁ := by
    rw [← hstore]
    split
    · exact idle_save ⟨hquiet.job, hquiet.intent⟩
    · exact idle_self hnone hshaped
  have hsave : ∀ s, Quiet s → Idle store none (store₁.save s) := fun s hs =>
    ⟨rfl, hidle.jobs, hs.job, hs.shaped⟩
  split
  · exact ⟨rfl, hidle.jobs, rfl, shaped_none⟩
  split
  · exact ⟨rfl, hidle.jobs, rfl, shaped_none⟩
  split
  · exact hidle
  split
  · exact hsave _ ⟨hquiet.job, hquiet.intent⟩
  split
  · exact hsave _ ⟨hquiet.job, hquiet.intent⟩
  split
  · exact hidle
  split
  · exact hidle
  · exact hsave _ ⟨hquiet.job, hquiet.intent⟩

theorem idle_codigoEmail (hnone : jobIdOf store.session = none) (hshaped : Shaped store.session) :
    Idle store none (handleCodigoEmail turn store session msg).2 := by
  unfold handleCodigoEmail
  split
  · exact idle_clear
  split
  · exact idle_self hnone hshaped
  split
  · exact idle_clear
  · exact idle_save ⟨rfl, rfl⟩

theorem shaped_intend (store : Store) (hsubject : session.temp.lookupJobId ≠ none →
    (subject session.temp).isSome = true) : Shaped (intend store session).2.session := by
  refine ⟨fun s hs hjob => ?_, fun s hs _ => ?_⟩
  · rw [← Option.some.inj hs] at hjob ⊢
    exact hsubject hjob
  · rw [← Option.some.inj hs]

theorem idle_codigoEmailConfirm (hnone : jobIdOf store.session = none)
    (hshaped : Shaped store.session) (hquiet : Quiet session) :
    Idle store none (handleCodigoEmailConfirm turn store session msg).2 := by
  unfold handleCodigoEmailConfirm
  split
  · exact ⟨rfl, rfl, hquiet.job, shaped_intend store fun hjob => absurd hquiet.job hjob⟩
  split
  · exact idle_save ⟨hquiet.job, rfl⟩
  split
  · cases hback : backToServices turn store session with
    | none => exact idle_clear
    | some result =>
      have hidle := idle_backToServices hback
      exact ⟨rfl, hidle.jobs, hidle.session, hidle.shaped⟩
  split
  · exact idle_clear
  · exact idle_self hnone hshaped

theorem idle_restartTenant : Idle store none (restartTenant turn store).2 := by
  unfold restartTenant
  split
  · exact idle_clear
  · exact idle_save quiet_begun

theorem not_help_of_digit (h : strip msg = "2") : lower msg ≠ "ayuda" := by
  intro hhelp
  have hmem : '2' ∈ msg.toList := by
    refine ( stripBy_infix (p := isSpace)).subset ?_
    rw [show stripBy isSpace msg = "2" from h]
    decide
  have hlower : '2' ∈ (lower msg).toList := by
    unfold lower
    rw [String.toList_ofList]
    exact List.mem_map.mpr ⟨'2', hmem, by decide⟩
  rw [hhelp] at hlower
  exact absurd hlower (by decide)

theorem replies_awaitingResult (hsession : store.session = some session)
    (hshaped : Shaped store.session) (hcancel : isCancel msg = false) :
    Replies tenantId store (decide (strip msg = "2"))
      (handleCodigoAwaitingResult turn tenantId store session msg).2 := by
  unfold handleCodigoAwaitingResult
  rw [cancelSessionJob_eq hsession, if_neg (by simp [hcancel])]
  by_cases hkeyword : clean msg ∈ codigoKeywords
  · have hback : strip msg ≠ "2" := not_digit_of_keyword hkeyword (by decide)
    rw [if_pos hkeyword, decide_eq_false hback]
    unfold startCodigoFlow
    split
    · exact .cancels rfl fun s hs => by cases hs
    split
    · exact .cancels rfl fun s hs => by cases hs
    · refine .cancels rfl fun s hs => ?_
      rw [← Option.some.inj hs]
      exact quiet_begun
  rw [if_neg hkeyword]
  by_cases hretry : strip msg = "1"
  · have hback : strip msg ≠ "2" := by rw [hretry]; decide
    rw [if_pos hretry, decide_eq_false hback]
    split
    · next hsubject =>
      refine .keeps (Or.inl rfl) ?_ (shaped_intend store fun _ => hsubject)
      rw [hsession]
      rfl
    · next hsubject =>
      have hnone := jobId_of_subject hsession hshaped
        (Option.isNone_iff_eq_none.mpr (Option.not_isSome_iff_eq_none.mp hsubject))
      exact Idle.replies idle_restartTenant hnone
  rw [if_neg hretry]
  by_cases hback : strip msg = "2"
  · rw [if_pos hback, decide_eq_true hback]
    unfold restartTenant
    split
    · exact .drops rfl fun s hs => by cases hs
    · refine .drops rfl fun s hs => ?_
      rw [← Option.some.inj hs]
      exact quiet_begun
  · rw [if_neg hback, if_neg (not_zero_of_cancel hcancel), decide_eq_false hback]
    exact .keeps (Or.inl rfl) rfl hshaped

theorem idle_routeCodigoFlow (hnone : jobIdOf store.session = none)
    (hshaped : Shaped store.session) (hquiet : Quiet session)
    (hstep : session.step ≠ .awaitingResult) :
    Idle store none (routeCodigoFlow turn tenantId store session msg).2 := by
  unfold routeCodigoFlow
  cases hcase : session.step with
  | service => exact idle_codigoService hnone hshaped hquiet
  | email => exact idle_codigoEmail hnone hshaped
  | emailConfirm => exact idle_codigoEmailConfirm hnone hshaped hquiet
  | awaitingResult => exact absurd hcase hstep

theorem replies_processMessage (hsession : store.session = some session)
    (hshaped : Shaped store.session) : Replies tenantId store (abandonsTenant text)
      (processMessage turn tenantId store session text).2 := by
  unfold processMessage abandonsTenant
  dsimp only
  by_cases hcommand : isCancel (strip text) = true ∨ lower (strip text) ∈ ["menu", "menú", "/menu"]
  · by_cases hstrict : session.step = .emailConfirm
    · have hstep : session.step ≠ .awaitingResult := by rw [hstrict]; decide
      have hquiet := quiet_of_shaped hsession hshaped hstep
      have hnone : jobIdOf store.session = none := by rw [hsession]; exact hquiet.job
      rw [if_neg fun h => h.1 hstrict, if_neg fun h => h.1 hstrict]
      exact Idle.replies (idle_routeCodigoFlow hnone hshaped hquiet hstep) hnone
    · have habandoned : (isCancel (strip text) ||
          decide (lower (strip text) ∈ ["menu", "menú", "/menu"]) ||
          decide (strip (strip text) = "2")) = true := by
        obtain h | h := hcommand
        · rw [h, Bool.true_or, Bool.true_or]
        · rw [decide_eq_true h, Bool.or_true, Bool.true_or]
      rw [if_pos ⟨hstrict, hcommand⟩, habandoned]
      exact .drops rfl fun s hs => by cases hs
  rw [if_neg fun h => hcommand h.2]
  rw [not_or, Bool.not_eq_true] at hcommand
  rw [hcommand.1, decide_eq_false hcommand.2, Bool.false_or, Bool.false_or]
  by_cases hstep : session.step = .awaitingResult
  · by_cases hhelp : ¬session.step = .emailConfirm ∧ lower (strip text) = "ayuda"
    · have hback : strip (strip text) ≠ "2" := fun h => not_help_of_digit h hhelp.2
      rw [if_pos hhelp, decide_eq_false hback]
      exact .keeps (Or.inl rfl) rfl hshaped
    · rw [if_neg hhelp]
      unfold routeCodigoFlow
      rw [hstep]
      exact replies_awaitingResult hsession hshaped hcommand.1
  have hquiet := quiet_of_shaped hsession hshaped hstep
  have hnone : jobIdOf store.session = none := by rw [hsession]; exact hquiet.job
  split
  · exact Idle.replies (idle_self hnone hshaped) hnone
  · exact Idle.replies (idle_routeCodigoFlow hnone hshaped hquiet hstep) hnone

end CodigoLemmas

theorem moves_tenant {fromMenu : Bool} (hshaped : Shaped store.session) :
    Moves tenantId turn.newId store (abandonsTenant text)
      (handleTenantCodigo turn tenantId store fromMenu text).1.lookupJobId
      (handleTenantCodigo turn tenantId store fromMenu text).2 := by
  unfold handleTenantCodigo
  cases hsession : store.session with
  | none =>
    have hnone : jobIdOf store.session = none := by rw [hsession]; rfl
    dsimp only
    exact Replies.moves (Idle.replies (idle_startCodigoFlow hnone hshaped) hnone)
  | some session =>
    dsimp only
    exact Replies.moves (replies_processMessage hsession hshaped)

end Trackpal.Console.Codigo
