import Mathlib.Logic.Function.Basic
import Trackpal.Console.Lookups
import Trackpal.Foundation.Unwinding

/-!
# Lookups of different senders

The lookup of a sender has its session under a key that is made from the tenant and from the phone
of the sender, or from the address if there is no phone. Messages, remote cancels and blocks make
the key again.
-/

namespace Trackpal.Console.Codigo

open Trackpal.Foundation Coordinator

/-! ## Conversations -/

/-- Who a sender is: the address counts if there is no phone. -/
inductive Identity where
  | phone (digits : String)
  | lid (text : String)
  | unknown
deriving DecidableEq, Repr

/-- What a session of a lookup is for. -/
structure Contact where
  tenantId : Nat
  identity : Identity
deriving DecidableEq, Repr

def Contact.of (tenantId : Nat) (phoneDigits : String) (senderLid : Option String) : Contact :=
  ⟨tenantId, if phoneDigits ≠ "" then .phone phoneDigits
    else (truthy senderLid).elim .unknown .lid⟩

def Contact.key (c : Contact) : String :=
  match c.identity with
  | .phone digits => unauthSessionKey digits none c.tenantId
  | .lid lid => unauthSessionKey "" (some lid) c.tenantId
  | .unknown => unauthSessionKey "" none c.tenantId

/-- A sender has a phone with digits only, or an address that is not empty. -/
def Identity.Known : Identity → Prop
  | .phone digits => normalizePhone (some digits) = some digits
  | .lid text => text ≠ ""
  | .unknown => True

structure Conversation extends Contact where
  known : identity.Known

/-- Who a session is of; the admin of a tenant has one for the dialog in its console. -/
inductive Owner where
  | sender (contact : Contact)
  | admin (phone : String)
deriving DecidableEq, Repr

def adminKey (phone : String) : String := "admin:" ++ phone

def Owner.key : Owner → String
  | .sender contact => contact.key
  | .admin phone => adminKey phone

/-! ## The system -/

/-- What a sender gets: a reply of the dialog, or what the router decides else. -/
inductive Answer where
  | dialog (response : Response)
  | routed (destination : Destination)

/-- The jobs and the sessions, who has created a job, and what the senders got. -/
structure World where
  jobs : Jobs
  sessions : String → Option Session
  creator : Nat → Option Owner
  heard : List (Contact × Answer)

namespace World

/-- The store of the dialog under a key. -/
def slot (w : World) (key : String) : Store := ⟨w.jobs, w.sessions key⟩

def put (w : World) (key : String) (store : Store) : World :=
  { w with jobs := store.jobs, sessions := Function.update w.sessions key store.session }

def hear (w : World) (contact : Contact) (answer : Answer) : World :=
  { w with heard := (contact, answer) :: w.heard }

/-- The job of a reply is of the owner. -/
def credit (w : World) (owner : Owner) (jobId : Option Nat) : World :=
  { w with creator := jobId.elim w.creator fun id => Function.update w.creator id (some owner) }

end World

/-- What a request finds: the records of the shortcut, the tables, and the tenant of the
instance. -/
structure Context where
  inContext : String → Bool
  dir : Directory
  db : Database
  tenant : Tenant

inductive Event where
  /-- A request for the instance of a tenant: a message of a sender, or a trigger of the admin. -/
  | request (ctx : Context) (r : Request) (turn : Turn)
  /-- A message of an admin in the lookup dialog of the console. -/
  | console (tenantId : Nat) (phone : String) (turn : Turn) (fromMenu : Bool) (text : String)
  | block (tenantId : Nat) (phone : String)
  | expire (owner : Owner)
  | progress (owner : Owner) (id : Nat) (status : JobStatus)
  | delete (owner : Owner) (id : Nat)

def dialog (w : World) (side : Side) (owner : Owner) (key : String) (tenantId : Nat) (turn : Turn)
    (fromMenu : Bool) (text : String) : Option (Response × World) :=
  if (w.creator turn.newId).isSome then none
  else
    let (response, store) := side.handle turn tenantId (w.slot key) fromMenu text
    some (response, (w.put key store).credit owner response.lookupJobId)

def cancelAt (tenantId : Nat) (w : World) (key : String) : World :=
  w.put key (cancelCodigo tenantId (w.slot key))

/-- The `candidate_keys` of `_cancel_target_codigo_flow`. -/
def candidateKeys (tenantId : Nat) (targetPhone targetLid : Option String) : List String :=
  (((truthy targetPhone).map fun phone => unauthSessionKey phone none tenantId).toList ++
    ((truthy targetLid).map fun lid => unauthSessionKey "" (some lid) tenantId).toList).eraseDups

def cancelTargetCodigoFlow (w : World) (tenantId : Nat) (targetPhone targetLid : Option String) :
    World :=
  (candidateKeys tenantId targetPhone targetLid).foldl (cancelAt tenantId) w

def cancelCodigoForPhone (w : World) (tenantId : Nat) (phone : String) : World :=
  ["unreg:" ++ uuidHead tenantId ++ ":" ++ phone, adminKey phone].foldl (cancelAt tenantId) w

def senderDigits (r : Request) : String :=
  let phone := (normalizePhone (some r.phone)).getD ""
  (normalizePhone (some phone)).getD phone

def senderContact (ctx : Context) (r : Request) : Contact :=
  .of ctx.tenant.id (senderDigits r) r.senderLid

/-- Where a request goes. -/
def route (w : World) (ctx : Context) (r : Request) : Destination :=
  routeTenant (fun key => (w.sessions key).isSome) ctx.inContext ctx.dir ctx.db ctx.tenant r

/-- What a destination makes of the sessions of lookups. -/
def deliver (w : World) (ctx : Context) (r : Request) (turn : Turn) : Destination → Option World
  | .codigo phoneDigits senderLid =>
    (dialog w .unauthenticated (.sender (senderContact ctx r))
      (unauthSessionKey phoneDigits senderLid ctx.tenant.id) ctx.tenant.id turn false r.message).map
      fun (response, w) => w.hear (senderContact ctx r) (.dialog response)
  | .remoteCancel targetPhone targetLid =>
    some (cancelTargetCodigoFlow w ctx.tenant.id targetPhone targetLid)
  | destination =>
    some (if r.fromMe then w else w.hear (senderContact ctx r) (.routed destination))

def act (w : World) : Event → Option World
  | .request ctx r turn => deliver w ctx r turn (route w ctx r)
  | .console tenantId phone turn fromMenu text =>
    (dialog w .tenant (.admin phone) (adminKey phone) tenantId turn fromMenu text).map (·.2)
  | .block tenantId phone =>
    -- the schema requires a phone
    if phone = "" then none else some (cancelCodigoForPhone w tenantId phone)
  | .expire owner => some (w.put owner.key (w.slot owner.key).clear)
  | .progress owner id status =>
    if w.creator id = some owner then
      (w.jobs.get id).bind fun job =>
        if status ∈ validTransitions job.status then
          some { w with jobs := w.jobs.setStatus id status }
        else none
    else none
  | .delete owner id =>
    if w.creator id = some owner then some { w with jobs := w.jobs.remove (·.id = id) } else none

/-- No session, and no job. -/
def World.initial : World := ⟨Table.empty, fun _ => none, fun _ => none, []⟩

/-- The contacts that a trigger of an admin is about. -/
def targets (ctx : Context) (r : Request) : List Owner :=
  ((truthy (normalizePhone (truthy r.targetPhone))).map fun phone =>
      Owner.sender ⟨ctx.tenant.id, .phone phone⟩).toList ++
    ((truthy r.targetLid).map fun lid => Owner.sender ⟨ctx.tenant.id, .lid lid⟩).toList

def Event.owners : Event → List Owner
  | .request ctx r _ => if r.fromMe then targets ctx r else [.sender (senderContact ctx r)]
  | .console _ phone _ _ _ => [.admin phone]
  | .block tenantId phone => [.sender ⟨tenantId, .phone phone⟩, .admin phone]
  | .expire owner | .progress owner _ _ | .delete owner _ => [owner]

def observes (c : Contact) (e : Event) : Bool := .sender c ∈ e.owners

/-- The events of two senders, and of admins. -/
def Between (c c' : Contact) (e : Event) : Prop :=
  ∀ owner ∈ e.owners, owner = .sender c ∨ owner = .sender c' ∨ ∃ phone, owner = .admin phone

/-- What a sender got, and the session. -/
def view (c : Contact) (w : World) : List (Contact × Answer) × Option Session :=
  (w.heard.filter (·.1 = c), w.sessions c.key)

/-- In every interleaving, a sender gets the same and has the same session as without the other. -/
def Isolated (c c' : Contact) : Prop :=
  Noninterferes act (observes c) (Between c c') (view c) .initial

variable {w w' v : World} {ctx : Context} {r : Request} {turn : Turn} {c c' : Contact}
  {owner : Owner} {key key' text phoneDigits : String} {senderLid : Option String}
  {tenantId id : Nat} {side : Side} {fromMenu : Bool} {inLookup inLookup' inContext : String → Bool}
  {dir : Directory} {db : Database} {tenant : Tenant} {jobs jobs' : Jobs}

namespace IsolationLemmas

open LookupsLemmas CodigoLemmas

theorem key_of : (Contact.of tenantId phoneDigits senderLid).key =
    unauthSessionKey phoneDigits senderLid tenantId := by
  unfold Contact.of Contact.key
  dsimp only
  by_cases hphone : phoneDigits ≠ ""
  · rw [if_pos hphone]
    show unauthSessionKey phoneDigits none tenantId = _
    unfold unauthSessionKey
    rw [if_pos hphone, if_pos hphone]
  · rw [if_neg hphone]
    cases hlid : truthy senderLid with
    | none =>
      unfold unauthSessionKey
      rw [if_neg hphone, hlid]
      rfl
    | some lid =>
      have htruthy : truthy (some lid) = some lid := by
        obtain ⟨-, hne⟩ := Option.filter_eq_some_iff.mp hlid
        exact Option.filter_eq_some_iff.mpr ⟨rfl, hne⟩
      show unauthSessionKey "" (some lid) tenantId = _
      unfold unauthSessionKey
      rw [if_neg hphone, if_neg (not_not.mpr rfl), hlid, htruthy]

theorem key_senderContact : (senderContact ctx r).key =
    unauthSessionKey (senderDigits r) r.senderLid ctx.tenant.id := key_of

theorem routeSender_congr
    (h : inLookup (unauthSessionKey phoneDigits senderLid tenant.id) =
      inLookup' (unauthSessionKey phoneDigits senderLid tenant.id)) {message : String} :
    routeSender inLookup dir db tenant phoneDigits senderLid message =
      routeSender inLookup' dir db tenant phoneDigits senderLid message := by
  unfold routeSender
  rw [h]

theorem routeTenant_congr
    (h : inLookup (senderContact ctx r).key = inLookup' (senderContact ctx r).key) :
    routeTenant inLookup inContext dir db ctx.tenant r =
      routeTenant inLookup' inContext dir db ctx.tenant r := by
  rw [key_senderContact] at h
  have hsender : ∀ message,
      routeSender inLookup dir db ctx.tenant (senderDigits r) r.senderLid message =
        routeSender inLookup' dir db ctx.tenant (senderDigits r) r.senderLid message :=
    fun _ => routeSender_congr h
  unfold senderDigits at hsender
  unfold routeTenant routeInbound
  dsimp only at hsender ⊢
  rw [hsender]

theorem routeTenant_trigger (h : r.fromMe = true) :
    routeTenant inLookup inContext dir db tenant r =
      routeTenant inLookup' inContext dir db tenant r := by
  unfold routeTenant
  rw [if_pos h, if_pos h]

theorem of_routeSender_codigo {message p : String} {l : Option String}
    (h : routeSender inLookup dir db tenant phoneDigits senderLid message = .codigo p l) :
    p = phoneDigits ∧ l = senderLid := by
  unfold routeSender at h
  dsimp only at h
  cases hclient : senderClient db tenant.id phoneDigits senderLid with
  | multiple =>
    rw [hclient] at h
    cases h
  | raised =>
    rw [hclient] at h
    cases h
  | found client =>
    rw [hclient] at h
    cases hadmin : isTenantAdmin tenant phoneDigits senderLid <;> rw [hadmin] at h <;>
      cases client <;> dsimp only at h
    · split at h
      · cases h
      split at h
      · cases h
        exact ⟨rfl, rfl⟩
      · cases h
    · split at h
      · cases h
        exact ⟨rfl, rfl⟩
      split at h <;> cases h
    · cases h
    · cases h

theorem of_routeFromMe_codigo {p : String} {l : Option String} :
    routeFromMe inContext tenant r ≠ .codigo p l := by
  unfold routeFromMe
  cases resolvedAdminPhone tenant r.adminPhone with
  | none => exact fun h => by cases h
  | some adminPhone =>
    dsimp only
    split_ifs <;> exact fun h => by cases h

theorem of_routeTenant_codigo {p : String} {l : Option String}
    (h : routeTenant inLookup inContext dir db tenant r = .codigo p l) :
    r.fromMe = false ∧ p = senderDigits r ∧ l = r.senderLid := by
  unfold routeTenant at h
  split at h
  · cases h
  split at h
  · cases h
  split at h
  · cases h
  split at h
  · exact absurd h of_routeFromMe_codigo
  next hfrom =>
  refine ⟨by simpa using hfrom, ?_⟩
  unfold routeInbound at h
  dsimp only at h
  split at h
  · cases h
  · exact of_routeSender_codigo h

theorem of_routeSender_cancel {message : String} {p l : Option String} :
    routeSender inLookup dir db tenant phoneDigits senderLid message ≠ .remoteCancel p l := by
  unfold routeSender
  dsimp only
  cases senderClient db tenant.id phoneDigits senderLid with
  | multiple => exact fun h => by cases h
  | raised => exact fun h => by cases h
  | found client =>
    cases isTenantAdmin tenant phoneDigits senderLid <;> cases client <;> dsimp only
    · split_ifs <;> exact fun h => by cases h
    · split_ifs <;> exact fun h => by cases h
    · exact fun h => by cases h
    · exact fun h => by cases h

theorem of_routeTenant_cancel {p l : Option String}
    (h : routeTenant inLookup inContext dir db tenant r = .remoteCancel p l) :
    r.fromMe = true ∧ p = normalizePhone (truthy r.targetPhone) ∧ l = r.targetLid := by
  unfold routeTenant at h
  split at h
  · cases h
  split at h
  · cases h
  split at h
  · cases h
  split at h
  · next hfrom =>
    refine ⟨hfrom, ?_⟩
    unfold routeFromMe at h
    cases hadmin : resolvedAdminPhone tenant r.adminPhone with
    | none =>
      rw [hadmin] at h
      cases h
    | some adminPhone =>
      rw [hadmin] at h
      dsimp only at h
      split_ifs at h
      cases h
      exact ⟨rfl, rfl⟩
  · unfold routeInbound at h
    dsimp only at h
    split at h
    · cases h
    · exact absurd h of_routeSender_cancel

def AgreeOn (ids : Nat → Prop) (jobs jobs' : Jobs) : Prop :=
  ∀ id, ids id → jobs.get id = jobs'.get id

/-- The results of a message agree, but for jobs of others. -/
structure Alike (ids : Nat → Prop) (result result' : Response × Store) : Prop where
  response : result.1 = result'.1
  session : result.2.session = result'.2.session
  jobs : AgreeOn ids result.2.jobs result'.2.jobs

variable {ids : Nat → Prop} {session : Option Session} {found : Session} {msg : String}

theorem agreeOn_cancelActiveJob (h : AgreeOn ids jobs jobs') (hid : ids id) :
    AgreeOn ids (jobs.cancelActiveJob tenantId id) (jobs'.cancelActiveJob tenantId id) := by
  have hget : jobs.getJob tenantId id = jobs'.getJob tenantId id := by
    unfold Jobs.getJob
    rw [h id hid]
  unfold Jobs.cancelActiveJob
  rw [hget]
  split
  · intro id' hid'
    unfold Jobs.setStatus
    by_cases heq : id' = id
    · rw [heq, Table.get_modify_self, Table.get_modify_self, h id hid]
    · rw [Table.get_modify_of_ne heq, Table.get_modify_of_ne heq, h id' hid']
  · exact h

theorem agreeOn_cancelSessionJob (tenantId : Nat) {temp : TempData} (h : AgreeOn ids jobs jobs')
    (hjob : ∀ id, temp.lookupJobId = some id → ids id) :
    AgreeOn ids (cancelSessionJob tenantId jobs temp) (cancelSessionJob tenantId jobs' temp) := by
  unfold cancelSessionJob
  cases hid : temp.lookupJobId with
  | none => exact h
  | some id => exact agreeOn_cancelActiveJob h (hjob id hid)

theorem agreeOn_createJob (h : AgreeOn ids jobs jobs') :
    AgreeOn ids (jobs.createJob tenantId id) (jobs'.createJob tenantId id) := by
  intro id' hid'
  have hsame := h id' hid'
  unfold Jobs.createJob
  by_cases heq : id' = id
  · subst heq
    cases hget : jobs.get id' with
    | none =>
      have hnew : ∀ {jobs : Jobs}, jobs.get id' = none →
          (jobs.insert ⟨id', tenantId, .pending⟩).get id' = some ⟨id', tenantId, .pending⟩ :=
        fun hnone => Table.get_insert_self hnone
      rw [hnew hget, hnew (hsame ▸ hget)]
    | some job => rw [Table.get_insert_of_get hget, Table.get_insert_of_get (hsame ▸ hget)]
  · rw [Table.get_insert_of_ne heq, Table.get_insert_of_ne heq, hsame]

theorem jobDone_congr {temp : TempData} (h : AgreeOn ids jobs jobs')
    (hjob : ∀ id, temp.lookupJobId = some id → ids id) :
    jobDone tenantId jobs temp = jobDone tenantId jobs' temp := by
  unfold jobDone
  cases hid : temp.lookupJobId with
  | none => rfl
  | some id =>
    rw [Option.bind_some, Option.bind_some]
    unfold Jobs.getJob
    rw [h id (hjob id hid)]

theorem alike_ite {p : Prop} [Decidable p] {yes yes' no no' : Response × Store}
    (hyes : Alike ids yes yes') (hno : Alike ids no no') :
    Alike ids (if p then yes else no) (if p then yes' else no') := by
  by_cases h : p
  · rw [if_pos h, if_pos h]
    exact hyes
  · rw [if_neg h, if_neg h]
    exact hno

theorem alike_start (h : AgreeOn ids jobs jobs') :
    Alike ids (startUnauthCodigo turn ⟨jobs, session⟩ msg)
      (startUnauthCodigo turn ⟨jobs', session⟩ msg) := by
  unfold startUnauthCodigo
  split_ifs <;> exact ⟨rfl, rfl, h⟩

theorem alike_service (h : AgreeOn ids jobs jobs') :
    Alike ids (handleUnauthCodigoService ⟨jobs, session⟩ found msg)
      (handleUnauthCodigoService ⟨jobs', session⟩ found msg) := by
  unfold handleUnauthCodigoService
  dsimp only
  cases parseInt (strip msg) with
  | none => split_ifs <;> exact ⟨rfl, rfl, h⟩
  | some index =>
    dsimp only
    cases serviceAt found.temp index <;> split_ifs <;> exact ⟨rfl, rfl, h⟩

theorem alike_email (h : AgreeOn ids jobs jobs') :
    Alike ids (handleUnauthCodigoEmail turn ⟨jobs, session⟩ found msg)
      (handleUnauthCodigoEmail turn ⟨jobs', session⟩ found msg) := by
  unfold handleUnauthCodigoEmail
  cases turn.validateEmail msg with
  | none => split_ifs <;> exact ⟨rfl, rfl, h⟩
  | some email =>
    dsimp only
    cases truthy found.temp.serviceKey <;> split_ifs <;> exact ⟨rfl, rfl, h⟩

theorem alike_awaitJob (h : AgreeOn ids jobs jobs') :
    Alike ids (awaitJob turn tenantId found jobs) (awaitJob turn tenantId found jobs') :=
  ⟨rfl, rfl, agreeOn_createJob h⟩

theorem alike_emailConfirm (h : AgreeOn ids jobs jobs') :
    Alike ids (handleUnauthCodigoEmailConfirm turn tenantId ⟨jobs, session⟩ found msg)
      (handleUnauthCodigoEmailConfirm turn tenantId ⟨jobs', session⟩ found msg) := by
  have hback : Alike ids ((backToServices turn ⟨jobs, session⟩ found).getD
        (say .noCodeServicesClient, Store.clear ⟨jobs, session⟩))
      ((backToServices turn ⟨jobs', session⟩ found).getD
        (say .noCodeServicesClient, Store.clear ⟨jobs', session⟩)) := by
    unfold backToServices
    dsimp only
    split_ifs <;> exact ⟨rfl, rfl, h⟩
  unfold handleUnauthCodigoEmailConfirm
  refine alike_ite ⟨rfl, rfl, h⟩ (alike_ite hback ?_)
  refine alike_ite ⟨rfl, rfl, h⟩ (alike_ite ⟨rfl, rfl, h⟩ ?_)
  refine alike_ite ⟨rfl, rfl, h⟩ (alike_ite ⟨rfl, rfl, h⟩ ?_)
  exact alike_ite ⟨rfl, rfl, h⟩ (alike_awaitJob h)

theorem alike_restart (h : AgreeOn ids jobs jobs') :
    Alike ids (restart turn ⟨jobs, session⟩) (restart turn ⟨jobs', session⟩) := by
  unfold restart
  split_ifs <;> exact ⟨rfl, rfl, h⟩

theorem alike_result (h : AgreeOn ids jobs jobs')
    (hjob : ∀ id, found.temp.lookupJobId = some id → ids id) :
    Alike ids (handleUnauthCodigoResult turn tenantId ⟨jobs, session⟩ found msg)
      (handleUnauthCodigoResult turn tenantId ⟨jobs', session⟩ found msg) := by
  have hcancelled := agreeOn_cancelSessionJob tenantId h hjob
  unfold handleUnauthCodigoResult
  rw [jobDone_congr h hjob]
  refine alike_ite ⟨rfl, rfl, h⟩ (alike_ite (alike_restart hcancelled) ?_)
  refine alike_ite (alike_restart h) (alike_ite ⟨rfl, rfl, h⟩ (alike_ite ?_ ?_))
  · refine alike_ite (alike_restart h) (alike_ite ⟨rfl, rfl, h⟩ ?_)
    exact alike_ite (alike_restart h) (alike_awaitJob hcancelled)
  · exact alike_ite (alike_restart h) (alike_ite ⟨rfl, rfl, h⟩ ⟨rfl, rfl, h⟩)

theorem alike_handle (h : AgreeOn ids jobs jobs')
    (hjob : ∀ id, jobIdOf session = some id → ids id) :
    Alike ids (handleUnauthenticatedCodigo turn tenantId ⟨jobs, session⟩ text)
      (handleUnauthenticatedCodigo turn tenantId ⟨jobs', session⟩ text) := by
  unfold handleUnauthenticatedCodigo
  dsimp only
  cases session with
  | none => exact alike_start h
  | some found =>
    dsimp only
    cases found.step with
    | service => exact alike_service h
    | email => exact alike_email h
    | emailConfirm => exact alike_emailConfirm h
    | awaitingResult => exact alike_result h hjob

/-- The job of a session has a creator, who is the sender exactly if the session is. -/
structure Tidy (c : Contact) (w : World) : Prop where
  shaped : ∀ key, Shaped (w.sessions key)
  own : ∀ key id, jobIdOf (w.sessions key) = some id →
    ∃ owner, w.creator id = some owner ∧ (owner = .sender c ↔ key = c.key)
  created : ∀ id, w.creator id = none → w.jobs.get id = none

/-- What the sender has and gets is the same, and the second world has drawn no other ids. -/
structure Same (c : Contact) (w v : World) : Prop where
  session : w.sessions c.key = v.sessions c.key
  heard : w.heard.filter (·.1 = c) = v.heard.filter (·.1 = c)
  creator : ∀ id, w.creator id = some (.sender c) ↔ v.creator id = some (.sender c)
  drawn : ∀ id, w.creator id = none → v.creator id = none
  jobs : AgreeOn (fun id => w.creator id = some (.sender c)) w.jobs v.jobs

theorem Same.refl : Same c w w := ⟨rfl, rfl, fun _ => Iff.rfl, fun _ h => h, fun _ _ => rfl⟩

theorem Same.trans {u : World} (h : Same c w v) (h' : Same c v u) : Same c w u where
  session := h.session.trans h'.session
  heard := h.heard.trans h'.heard
  creator id := (h.creator id).trans (h'.creator id)
  drawn id hid := h'.drawn id (h.drawn id hid)
  jobs id hid := (h.jobs id hid).trans (h'.jobs id ((h.creator id).mp hid))

theorem Same.symm (h : Same c w v) (hcreator : w.creator = v.creator) : Same c v w where
  session := h.session.symm
  heard := h.heard.symm
  creator id := (h.creator id).symm
  drawn id hid := by rwa [hcreator]
  jobs id hid := (h.jobs id ((h.creator id).mpr hid)).symm

theorem get_cancelJobOf_of_ne {session : Option Session} (h : jobIdOf session ≠ some id) :
    (cancelJobOf tenantId jobs session).get id = jobs.get id := by
  unfold cancelJobOf
  cases hid : jobIdOf session with
  | none => rfl
  | some id' =>
    have hne : id ≠ id' := fun heq => h (by rw [hid, heq])
    show (jobs.cancelActiveJob tenantId id').get id = jobs.get id
    unfold Jobs.cancelActiveJob
    split
    · unfold Jobs.setStatus
      rw [Table.get_modify_of_ne hne]
    · rfl

variable {store store' : Store} {jobId : Option Nat} {abandoned : Bool} {newId : Nat}
  {keys : List String} {session : Option Session}

theorem get_createJob_of_ne (h : id ≠ newId) :
    (jobs.createJob tenantId newId).get id = jobs.get id := Table.get_insert_of_ne h

theorem tidy_of_moves (owner : Owner) (htidy : Tidy c w)
    (hnew : jobId.isSome = true → w.creator newId = none ∧ (owner = .sender c ↔ key = c.key))
    (h : Moves tenantId newId (w.slot key) abandoned jobId store) :
    Tidy c ((w.put key store).credit owner jobId) := by
  have hold : ∀ {session : Option Session}, Shaped session →
      (jobIdOf session = none ∨ jobIdOf session = jobIdOf (w.sessions key)) → ∀ {jobs : Jobs},
      (∀ id, w.jobs.get id = none → jobs.get id = none) →
      Tidy c ((w.put key ⟨jobs, session⟩).credit owner none) := by
    intro session hshaped hjob jobs hjobs
    refine ⟨fun key' => ?_, fun key' id hid => ?_, fun id hid => hjobs id (htidy.created id hid)⟩
    · show Shaped (Function.update w.sessions key session key')
      by_cases heq : key' = key
      · rwa [heq, Function.update_self]
      · rw [Function.update_of_ne heq]
        exact htidy.shaped key'
    · change jobIdOf (Function.update w.sessions key session key') = some id at hid
      by_cases heq : key' = key
      · rw [heq, Function.update_self] at hid
        obtain hnone | hsame := hjob
        · rw [hnone] at hid
          cases hid
        · rw [heq]
          exact htidy.own key id (hsame ▸ hid)
      · rw [Function.update_of_ne heq] at hid
        exact htidy.own key' id hid
  cases h with
  | keeps _ hjob hshaped => exact hold hshaped (.inr hjob) fun _ h => h
  | drops _ hjob hshaped => exact hold hshaped (.inl hjob) fun _ h => h
  | cancels _ hjob hshaped => exact hold hshaped (.inl hjob) fun _ h => fresh_cancelJobOf h
  | @creates session _ hjob hshaped =>
    obtain ⟨hfresh, howner⟩ := hnew rfl
    refine ⟨fun key' => ?_, fun key' id hid => ?_, fun id hid => ?_⟩
    · show Shaped (Function.update w.sessions key session key')
      by_cases heq : key' = key
      · rwa [heq, Function.update_self]
      · rw [Function.update_of_ne heq]
        exact htidy.shaped key'
    · change jobIdOf (Function.update w.sessions key session key') = some id at hid
      show ∃ o, Function.update w.creator newId (some owner) id = some o ∧ _
      by_cases heq : key' = key
      · rw [heq, Function.update_self, hjob] at hid
        rw [← Option.some.inj hid, Function.update_self, heq]
        exact ⟨owner, rfl, howner⟩
      · rw [Function.update_of_ne heq] at hid
        obtain ⟨o, ho, hiff⟩ := htidy.own key' id hid
        have hne : id ≠ newId := by
          rintro rfl
          rw [hfresh] at ho
          cases ho
        rw [Function.update_of_ne hne]
        exact ⟨o, ho, hiff⟩
    · change Function.update w.creator newId (some owner) id = none at hid
      have hne : id ≠ newId := by
        rintro rfl
        rw [Function.update_self] at hid
        cases hid
      rw [Function.update_of_ne hne] at hid
      show ((cancelJobOf tenantId w.jobs (w.sessions key)).createJob tenantId newId).get id = none
      rw [get_createJob_of_ne hne]
      exact fresh_cancelJobOf (htidy.created id hid)

theorem same_of_moves (owner : Owner) (htidy : Tidy c w) (hkey : key ≠ c.key)
    (hnew : jobId.isSome = true → w.creator newId = none ∧ owner ≠ .sender c)
    (h : Moves tenantId newId (w.slot key) abandoned jobId store) :
    Same c ((w.put key store).credit owner jobId) w := by
  have hsession : ∀ session, Function.update w.sessions key session c.key = w.sessions c.key :=
    fun _ => Function.update_of_ne (Ne.symm hkey) ..
  -- the job of the session is of another
  have hcancel : ∀ id, w.creator id = some (.sender c) →
      (cancelJobOf tenantId w.jobs (w.sessions key)).get id = w.jobs.get id := by
    intro id hid
    refine get_cancelJobOf_of_ne fun hjob => ?_
    obtain ⟨o, ho, hiff⟩ := htidy.own key id hjob
    exact hkey (hiff.mp (Option.some.inj (ho.symm.trans hid)))
  cases h with
  | keeps => exact ⟨hsession _, rfl, fun _ => Iff.rfl, fun _ h => h, fun _ _ => rfl⟩
  | drops => exact ⟨hsession _, rfl, fun _ => Iff.rfl, fun _ h => h, fun _ _ => rfl⟩
  | cancels => exact ⟨hsession _, rfl, fun _ => Iff.rfl, fun _ h => h, hcancel⟩
  | creates =>
    obtain ⟨hfresh, howner⟩ := hnew rfl
    have hcreator : ∀ id, Function.update w.creator newId (some owner) id = some (.sender c) ↔
        w.creator id = some (.sender c) := by
      intro id
      by_cases heq : id = newId
      · rw [heq, Function.update_self, hfresh]
        exact iff_of_false (fun h => howner (Option.some.inj h)) (by simp)
      · rw [Function.update_of_ne heq]
    refine ⟨hsession _, rfl, hcreator, fun id hid => ?_, fun id hid => ?_⟩
    · change Function.update w.creator newId (some owner) id = none at hid
      by_cases heq : id = newId
      · rw [heq, Function.update_self] at hid
        cases hid
      · rwa [Function.update_of_ne heq] at hid
    · have hold : w.creator id = some (.sender c) := (hcreator id).mp hid
      have hne : id ≠ newId := by
        rintro rfl
        rw [hfresh] at hold
        cases hold
      exact (get_createJob_of_ne hne).trans (hcancel id hold)

theorem moves_cancelCodigo (htidy : Tidy c w) :
    Moves tenantId 0 (w.slot key) false none (cancelCodigo tenantId (w.slot key)) := by
  unfold cancelCodigo
  cases hsession : (w.slot key).session with
  | none =>
    have hshaped : Shaped (w.slot key).session := htidy.shaped key
    exact .keeps (Or.inl rfl) rfl hshaped
  | some session =>
    dsimp only
    rw [cancelSessionJob_eq hsession]
    exact .cancels (Or.inl rfl) rfl shaped_none

theorem tidy_cancelAt (htidy : Tidy c w) : Tidy c (cancelAt tenantId w key) :=
  tidy_of_moves (.admin "") htidy (fun h => by cases h) (moves_cancelCodigo htidy)

theorem same_cancelAt (htidy : Tidy c w) (hkey : key ≠ c.key) :
    Same c (cancelAt tenantId w key) w :=
  same_of_moves (.admin "") htidy hkey (fun h => by cases h) (moves_cancelCodigo htidy)

theorem same_cancelAt_both (h : Same c w v) (hw : Tidy c w) (hv : Tidy c v) :
    Same c (cancelAt tenantId w key) (cancelAt tenantId v key) := by
  by_cases hkey : key = c.key
  · subst hkey
    have hcancel : (cancelCodigo tenantId (w.slot c.key)).session =
          (cancelCodigo tenantId (v.slot c.key)).session ∧
        AgreeOn (fun id => w.creator id = some (.sender c))
          (cancelCodigo tenantId (w.slot c.key)).jobs
          (cancelCodigo tenantId (v.slot c.key)).jobs := by
      have hsession : (v.slot c.key).session = (w.slot c.key).session := h.session.symm
      unfold cancelCodigo
      rw [hsession]
      cases hfound : (w.slot c.key).session with
      | none => exact ⟨hsession.trans hfound |>.symm ▸ hfound, h.jobs⟩
      | some session =>
        refine ⟨rfl, agreeOn_cancelSessionJob tenantId h.jobs fun id hid => ?_⟩
        have hjob : jobIdOf (w.sessions c.key) = some id := by
          change w.sessions c.key = some session at hfound
          rw [hfound]
          exact hid
        obtain ⟨o, ho, hiff⟩ := hw.own c.key id hjob
        rw [ho, hiff.mpr rfl]
    refine ⟨?_, h.heard, h.creator, h.drawn, hcancel.2⟩
    show Function.update w.sessions c.key _ c.key = Function.update v.sessions c.key _ c.key
    rw [Function.update_self, Function.update_self]
    exact hcancel.1
  · exact (same_cancelAt hw hkey).trans (h.trans ((same_cancelAt hv hkey).symm rfl))

theorem tidy_cancels (htidy : Tidy c w) : Tidy c (keys.foldl (cancelAt tenantId) w) := by
  induction keys generalizing w with
  | nil => exact htidy
  | cons key keys ih => exact ih (tidy_cancelAt htidy)

theorem same_cancels (htidy : Tidy c w) (hkeys : ∀ key ∈ keys, key ≠ c.key) :
    Same c (keys.foldl (cancelAt tenantId) w) w := by
  induction keys generalizing w with
  | nil => exact .refl
  | cons key keys ih =>
    have hfirst : Tidy c (cancelAt tenantId w key) := tidy_cancelAt htidy
    have hrest := ih hfirst fun key' hkey' => hkeys key' (List.mem_cons_of_mem _ hkey')
    exact hrest.trans (same_cancelAt htidy (hkeys key List.mem_cons_self))

theorem same_cancels_both (h : Same c w v) (hw : Tidy c w) (hv : Tidy c v) :
    Same c (keys.foldl (cancelAt tenantId) w) (keys.foldl (cancelAt tenantId) v) := by
  induction keys generalizing w v with
  | nil => exact h
  | cons key keys ih =>
    exact ih (same_cancelAt_both h hw hv) (tidy_cancelAt hw) (tidy_cancelAt hv)

variable {response : Response}

theorem of_dialog (h : dialog w side owner key tenantId turn fromMenu text = some (response, w')) :
    w.creator turn.newId = none ∧
      response = (side.handle turn tenantId (w.slot key) fromMenu text).1 ∧
      w' = (w.put key (side.handle turn tenantId (w.slot key) fromMenu text).2).credit owner
        response.lookupJobId := by
  unfold dialog at h
  split at h
  · cases h
  · next hfresh =>
    obtain ⟨rfl, rfl⟩ := Prod.mk.inj (Option.some.inj h)
    exact ⟨by simpa using hfresh, rfl, rfl⟩

theorem tidy_dialog (htidy : Tidy c w) (howner : owner = .sender c ↔ key = c.key)
    (h : dialog w side owner key tenantId turn fromMenu text = some (response, w')) :
    Tidy c w' := by
  obtain ⟨hfresh, rfl, rfl⟩ := of_dialog h
  have hshaped : Shaped (w.slot key).session := htidy.shaped key
  exact tidy_of_moves owner htidy (fun _ => ⟨hfresh, howner⟩) (moves_handle hshaped)

theorem same_dialog (htidy : Tidy c w) (howner : owner ≠ .sender c) (hkey : key ≠ c.key)
    (h : dialog w side owner key tenantId turn fromMenu text = some (response, w')) :
    Same c w' w := by
  obtain ⟨hfresh, rfl, rfl⟩ := of_dialog h
  have hshaped : Shaped (w.slot key).session := htidy.shaped key
  exact same_of_moves owner htidy hkey (fun _ => ⟨hfresh, howner⟩) (moves_handle hshaped)

theorem jobId_of_moves (h : Moves tenantId newId store abandoned jobId store') :
    jobId = none ∨ jobId = some newId := by
  cases h with
  | keeps | drops | cancels => exact Or.inl rfl
  | creates => exact Or.inr rfl

/-- The sender's own job, or the new one. -/
def Mine (c : Contact) (w : World) (newId id : Nat) : Prop :=
  w.creator id = some (.sender c) ∨ id = newId

theorem same_of_alike {result result' : Response × Store} (hsame : Same c w v)
    (hfresh : w.creator newId = none)
    (hjob : result.1.lookupJobId = none ∨ result.1.lookupJobId = some newId)
    (h : Alike (Mine c w newId) result result') :
    Same c ((w.put c.key result.2).credit (.sender c) result.1.lookupJobId)
      ((v.put c.key result'.2).credit (.sender c) result.1.lookupJobId) := by
  have hvfresh := hsame.drawn _ hfresh
  have hsession : (w.put c.key result.2).sessions c.key =
      (v.put c.key result'.2).sessions c.key := by
    show Function.update w.sessions c.key _ c.key = Function.update v.sessions c.key _ c.key
    rw [Function.update_self, Function.update_self, h.session]
  obtain hnone | hsome := hjob
  · rw [hnone]
    exact ⟨hsession, hsame.heard, hsame.creator, hsame.drawn, fun id hid => h.jobs id (Or.inl hid)⟩
  · rw [hsome]
    refine ⟨hsession, hsame.heard, fun id => ?_, fun id hid => ?_, fun id hid => ?_⟩
    · show Function.update w.creator newId _ id = _ ↔ Function.update v.creator newId _ id = _
      by_cases heq : id = newId
      · rw [heq, Function.update_self, Function.update_self]
      · rw [Function.update_of_ne heq, Function.update_of_ne heq]
        exact hsame.creator id
    · change Function.update w.creator newId _ id = none at hid
      show Function.update v.creator newId _ id = none
      by_cases heq : id = newId
      · rw [heq, Function.update_self] at hid
        cases hid
      · rw [Function.update_of_ne heq] at hid ⊢
        exact hsame.drawn id hid
    · change Function.update w.creator newId _ id = some (.sender c) at hid
      refine h.jobs id ?_
      by_cases heq : id = newId
      · exact Or.inr heq
      · rw [Function.update_of_ne heq] at hid
        exact Or.inl hid

theorem same_dialog_both (hsame : Same c w v) (hw : Tidy c w) (hv : Tidy c v)
    (h : dialog w .unauthenticated (.sender c) c.key tenantId turn fromMenu text =
      some (response, w')) :
    ∃ v', dialog v .unauthenticated (.sender c) c.key tenantId turn fromMenu text =
      some (response, v') ∧ Same c w' v' := by
  obtain ⟨hfresh, rfl, rfl⟩ := of_dialog h
  have hvfresh := hsame.drawn _ hfresh
  have hagree : AgreeOn (Mine c w turn.newId) w.jobs v.jobs := by
    rintro id (hid | rfl)
    · exact hsame.jobs id hid
    · rw [hw.created _ hfresh, hv.created _ hvfresh]
  have hjob : ∀ id, jobIdOf (w.sessions c.key) = some id → Mine c w turn.newId id := by
    intro id hid
    obtain ⟨o, ho, hiff⟩ := hw.own c.key id hid
    exact Or.inl (by rw [ho, hiff.mpr rfl])
  have hslot : v.slot c.key = ⟨v.jobs, w.sessions c.key⟩ := by
    unfold World.slot
    rw [hsame.session]
  have halike : Alike (Mine c w turn.newId)
      (handleUnauthenticatedCodigo turn tenantId (w.slot c.key) text)
      (handleUnauthenticatedCodigo turn tenantId (v.slot c.key) text) := by
    rw [hslot]
    exact alike_handle hagree hjob
  have hshaped : Shaped (w.slot c.key).session := hw.shaped c.key
  refine ⟨_, ?_, same_of_alike hsame hfresh (jobId_of_moves (moves_unauthenticated hshaped)) halike⟩
  unfold dialog
  rw [hvfresh]
  refine congrArg some (Prod.ext halike.response.symm ?_)
  show World.credit _ _
    (handleUnauthenticatedCodigo turn tenantId (v.slot c.key) text).1.lookupJobId = _
  rw [← halike.response]
  rfl

variable {event : Event} {contact : Contact} {answer : Answer} {destination : Destination}

/-- The events whose owners are the sender or have another key. -/
def Apart (c : Contact) (event : Event) : Prop :=
  ∀ owner ∈ event.owners, owner = .sender c ∨ owner.key ≠ c.key

theorem tidy_hear (h : Tidy c w) : Tidy c (w.hear contact answer) := ⟨h.shaped, h.own, h.created⟩

theorem same_hear (h : contact ≠ c) : Same c (w.hear contact answer) w := by
  refine ⟨rfl, ?_, fun _ => Iff.rfl, fun _ h => h, fun _ _ => rfl⟩
  exact List.filter_cons_of_neg (by simpa using h)

theorem same_hear_both (h : Same c w v) :
    Same c (w.hear contact answer) (v.hear contact answer) := by
  refine ⟨h.session, ?_, h.creator, h.drawn, h.jobs⟩
  show List.filter _ (_ :: w.heard) = List.filter _ (_ :: v.heard)
  rw [List.filter_cons, List.filter_cons, h.heard]

theorem tidy_jobs (h : Tidy c w) (hjobs : ∀ id, w.jobs.get id = none → jobs.get id = none) :
    Tidy c { w with jobs := jobs } :=
  ⟨h.shaped, h.own, fun id hid => hjobs id (h.created id hid)⟩

theorem same_jobs (hjobs : ∀ id, w.creator id = some (.sender c) → jobs.get id = w.jobs.get id) :
    Same c { w with jobs := jobs } w :=
  ⟨rfl, rfl, fun _ => Iff.rfl, fun _ h => h, hjobs⟩

theorem same_jobs_both (h : Same c w v)
    (hjobs : AgreeOn (fun id => w.creator id = some (.sender c)) jobs jobs') :
    Same c { w with jobs := jobs } { v with jobs := jobs' } :=
  ⟨h.session, h.heard, h.creator, h.drawn, hjobs⟩

theorem of_candidateKeys {p l : Option String} (hphone : p = normalizePhone (truthy r.targetPhone))
    (hlid : l = r.targetLid) (h : key ∈ candidateKeys ctx.tenant.id p l) :
    ∃ owner ∈ targets ctx r, owner.key = key := by
  subst hphone hlid
  unfold candidateKeys at h
  unfold targets
  obtain h | h := List.mem_append.mp (List.mem_eraseDups.mp h)
  · obtain ⟨phone, hphone, rfl⟩ := Option.map_eq_some_iff.mp (Option.mem_toList.mp h)
    exact ⟨_, List.mem_append_left _ (Option.mem_toList.mpr (Option.map_eq_some_iff.mpr
      ⟨phone, hphone, rfl⟩)), rfl⟩
  · obtain ⟨lid, hlid, rfl⟩ := Option.map_eq_some_iff.mp (Option.mem_toList.mp h)
    exact ⟨_, List.mem_append_right _ (Option.mem_toList.mpr (Option.map_eq_some_iff.mpr
      ⟨lid, hlid, rfl⟩)), rfl⟩

theorem deliver_cases (turn : Turn) (hroute : route w ctx r = destination) :
    (r.fromMe = false ∧ ∀ v, deliver v ctx r turn destination =
        (dialog v .unauthenticated (.sender (senderContact ctx r)) (senderContact ctx r).key
          ctx.tenant.id turn false r.message).map
            fun (response, v) => v.hear (senderContact ctx r) (.dialog response)) ∨
      (r.fromMe = true ∧ ∃ keys : List String,
        (∀ key ∈ keys, ∃ owner ∈ targets ctx r, owner.key = key) ∧
        ∀ v, deliver v ctx r turn destination = some (keys.foldl (cancelAt ctx.tenant.id) v)) ∨
      (r.fromMe = false ∧ ∀ v, deliver v ctx r turn destination =
        some (v.hear (senderContact ctx r) (.routed destination))) := by
  have hother : (∀ v, deliver v ctx r turn destination = some
        (if r.fromMe then v else v.hear (senderContact ctx r) (.routed destination))) →
      (r.fromMe = true ∧ ∃ keys : List String,
        (∀ key ∈ keys, ∃ owner ∈ targets ctx r, owner.key = key) ∧
        ∀ v, deliver v ctx r turn destination = some (keys.foldl (cancelAt ctx.tenant.id) v)) ∨
      (r.fromMe = false ∧ ∀ v, deliver v ctx r turn destination =
        some (v.hear (senderContact ctx r) (.routed destination))) := by
    intro h
    cases hfrom : r.fromMe with
    | true =>
      refine Or.inl ⟨rfl, [], fun _ h => absurd h List.not_mem_nil, fun v => ?_⟩
      rw [h, hfrom, if_pos rfl]
      rfl
    | false =>
      refine Or.inr ⟨rfl, fun v => ?_⟩
      rw [h, hfrom, if_neg Bool.false_ne_true]
  cases destination with
  | codigo p l =>
    obtain ⟨hfrom, hphone, hlid⟩ := of_routeTenant_codigo hroute
    refine Or.inl ⟨hfrom, fun v => ?_⟩
    unfold deliver
    dsimp only
    rw [hphone, hlid, ← key_senderContact]
  | remoteCancel p l =>
    obtain ⟨hfrom, hphone, hlid⟩ := of_routeTenant_cancel hroute
    exact Or.inr (Or.inl ⟨hfrom, _, fun key hkey => of_candidateKeys hphone hlid hkey,
      fun v => rfl⟩)
  | _ => exact Or.inr (hother fun v => rfl)

theorem ne_of_hidden (hapart : Apart c event) (hhidden : observes c event = false)
    (hmem : owner ∈ event.owners) : owner ≠ .sender c ∧ owner.key ≠ c.key := by
  have hne : owner ≠ .sender c := by
    rintro rfl
    exact absurd hmem (of_decide_eq_false hhidden)
  exact ⟨hne, (hapart owner hmem).resolve_left hne⟩

theorem iff_of_apart (hapart : Apart c event) (hmem : owner ∈ event.owners) :
    owner = .sender c ↔ owner.key = c.key :=
  ⟨fun h => by rw [h]; rfl, fun h => (hapart owner hmem).resolve_right (not_not.mpr h)⟩

theorem moves_clear : Moves 0 0 (w.slot key) true none (w.slot key).clear :=
  .drops (Or.inl rfl) rfl shaped_none

theorem block_key {phone : String} (h : phone ≠ "") :
    "unreg:" ++ uuidHead tenantId ++ ":" ++ phone =
      (Owner.sender ⟨tenantId, .phone phone⟩).key := by
  show _ = unauthSessionKey phone none tenantId
  unfold unauthSessionKey
  rw [if_pos h]

theorem of_blockKeys {phone : String} (h : phone ≠ "")
    (hkey : key ∈ ["unreg:" ++ uuidHead tenantId ++ ":" ++ phone, adminKey phone]) :
    ∃ owner ∈ (Event.block tenantId phone).owners, owner.key = key := by
  rw [block_key h] at hkey
  obtain rfl | hkey := List.mem_cons.mp hkey
  · exact ⟨_, List.mem_cons_self, rfl⟩
  · rw [List.mem_singleton.mp hkey]
    exact ⟨.admin phone, List.mem_cons_of_mem _ List.mem_cons_self, rfl⟩

theorem owners_message (h : r.fromMe = false) :
    (Event.request ctx r turn).owners = [.sender (senderContact ctx r)] := by
  show (if r.fromMe then _ else _) = _
  rw [h, if_neg Bool.false_ne_true]

theorem owners_trigger (h : r.fromMe = true) :
    (Event.request ctx r turn).owners = targets ctx r := by
  show (if r.fromMe then _ else _) = _
  rw [h, if_pos rfl]

theorem of_progress {status : JobStatus} (h : act w (.progress owner id status) = some w') :
    w.creator id = some owner ∧ ∃ job, w.jobs.get id = some job ∧
      status ∈ validTransitions job.status ∧
        w' = { w with jobs := w.jobs.setStatus id status } := by
  unfold act at h
  dsimp only at h
  split at h
  · next howner =>
    obtain ⟨job, hjob, h⟩ := Option.bind_eq_some_iff.mp h
    split at h
    · next hstatus => exact ⟨howner, job, hjob, hstatus, (Option.some.inj h).symm⟩
    · cases h
  · cases h

theorem of_delete (h : act w (.delete owner id) = some w') :
    w.creator id = some owner ∧ w' = { w with jobs := w.jobs.remove (·.id = id) } := by
  unfold act at h
  dsimp only at h
  split at h
  · next howner => exact ⟨howner, (Option.some.inj h).symm⟩
  · cases h

theorem get_setStatus_of_ne {status : JobStatus} {id' : Nat} (h : id' ≠ id) :
    (jobs.setStatus id status).get id' = jobs.get id' := Table.get_modify_of_ne h

theorem get_setStatus_none {status : JobStatus} {id' : Nat} (h : jobs.get id' = none) :
    (jobs.setStatus id status).get id' = none := by
  by_cases heq : id' = id
  · subst heq
    unfold Jobs.setStatus
    rw [Table.get_modify_self, h]
    rfl
  · rw [get_setStatus_of_ne heq, h]

theorem get_remove_of_ne {id' : Nat} (h : id' ≠ id) :
    Table.get (jobs.remove (·.id = id)) id' = jobs.get id' := by
  rw [Table.get_remove]
  cases hget : jobs.get id' with
  | none => rfl
  | some job =>
    have hkey := Table.key_of_get hget
    rw [Option.filter_some, if_pos (by simpa [hkey] using h)]

theorem tidy_act (hw : Tidy c w) (hapart : Apart c event) (h : act w event = some w') :
    Tidy c w' := by
  cases event with
  | request ctx r turn =>
    change deliver w ctx r turn (route w ctx r) = some w' at h
    obtain ⟨hfrom, hdeliver⟩ | ⟨-, keys, -, hdeliver⟩ | ⟨-, hdeliver⟩ :=
      deliver_cases turn (rfl : route w ctx r = route w ctx r) <;> rw [hdeliver] at h
    · obtain ⟨⟨response, v'⟩, hdialog, rfl⟩ := Option.map_eq_some_iff.mp h
      have howner := iff_of_apart hapart (by rw [owners_message hfrom]; exact List.mem_cons_self)
      exact tidy_hear (tidy_dialog hw howner hdialog)
    · rw [← Option.some.inj h]
      exact tidy_cancels hw
    · rw [← Option.some.inj h]
      exact tidy_hear hw
  | console tenantId phone turn fromMenu text =>
    obtain ⟨⟨response, v'⟩, hdialog, rfl⟩ := Option.map_eq_some_iff.mp h
    exact tidy_dialog hw (iff_of_apart hapart List.mem_cons_self) hdialog
  | block tenantId phone =>
    unfold act at h
    dsimp only at h
    split at h
    · cases h
    · rw [← Option.some.inj h]
      exact tidy_cancels hw
  | expire owner =>
    rw [← Option.some.inj h]
    exact tidy_of_moves owner hw (fun h => by cases h) moves_clear
  | progress owner id status =>
    obtain ⟨-, job, -, -, rfl⟩ := of_progress h
    exact tidy_jobs hw fun id' hid => get_setStatus_none hid
  | delete owner id =>
    obtain ⟨-, rfl⟩ := of_delete h
    refine tidy_jobs hw fun id' hid => ?_
    rw [Table.get_remove, hid]
    rfl

theorem same_act (hw : Tidy c w) (hapart : Apart c event) (hhidden : observes c event = false)
    (h : act w event = some w') : Same c w' w := by
  cases event with
  | request ctx r turn =>
    change deliver w ctx r turn (route w ctx r) = some w' at h
    obtain ⟨hfrom, hdeliver⟩ | ⟨hfrom, keys, hkeys, hdeliver⟩ | ⟨hfrom, hdeliver⟩ :=
      deliver_cases turn (rfl : route w ctx r = route w ctx r) <;> rw [hdeliver] at h
    · obtain ⟨⟨response, v'⟩, hdialog, rfl⟩ := Option.map_eq_some_iff.mp h
      obtain ⟨howner, hkey⟩ := ne_of_hidden hapart hhidden
        (by rw [owners_message hfrom]; exact List.mem_cons_self)
      exact (same_hear fun heq => howner (by rw [heq])).trans (same_dialog hw howner hkey hdialog)
    · rw [← Option.some.inj h]
      refine same_cancels hw fun key hkey => ?_
      obtain ⟨owner, hmem, rfl⟩ := hkeys key hkey
      exact (ne_of_hidden hapart hhidden (by rwa [owners_trigger hfrom])).2
    · rw [← Option.some.inj h]
      obtain ⟨howner, -⟩ := ne_of_hidden hapart hhidden
        (by rw [owners_message hfrom]; exact List.mem_cons_self)
      exact same_hear fun heq => howner (by rw [heq])
  | console tenantId phone turn fromMenu text =>
    obtain ⟨⟨response, v'⟩, hdialog, rfl⟩ := Option.map_eq_some_iff.mp h
    obtain ⟨howner, hkey⟩ := ne_of_hidden hapart hhidden List.mem_cons_self
    exact same_dialog hw howner hkey hdialog
  | block tenantId phone =>
    unfold act at h
    dsimp only at h
    split at h
    · cases h
    · next hphone =>
      rw [← Option.some.inj h]
      refine same_cancels hw fun key hkey => ?_
      obtain ⟨owner, hmem, rfl⟩ := of_blockKeys hphone hkey
      exact (ne_of_hidden hapart hhidden hmem).2
  | expire owner =>
    rw [← Option.some.inj h]
    obtain ⟨-, hkey⟩ := ne_of_hidden hapart hhidden List.mem_cons_self
    exact same_of_moves owner hw hkey (fun h => by cases h) moves_clear
  | progress owner id status =>
    obtain ⟨howner, job, -, -, rfl⟩ := of_progress h
    obtain ⟨hne, -⟩ := ne_of_hidden hapart hhidden List.mem_cons_self
    refine same_jobs fun id' hid => get_setStatus_of_ne ?_
    rintro rfl
    exact hne (Option.some.inj (howner.symm.trans hid))
  | delete owner id =>
    obtain ⟨howner, rfl⟩ := of_delete h
    obtain ⟨hne, -⟩ := ne_of_hidden hapart hhidden List.mem_cons_self
    refine same_jobs fun id' hid => get_remove_of_ne ?_
    rintro rfl
    exact hne (Option.some.inj (howner.symm.trans hid))

theorem same_act_both (hsame : Same c w v) (hw : Tidy c w) (hv : Tidy c v)
    (hseen : observes c event = true) (h : act w event = some w') :
    ∃ v', act v event = some v' ∧ Same c w' v' := by
  have hmem : .sender c ∈ event.owners := of_decide_eq_true hseen
  cases event with
  | request ctx r turn =>
    change deliver w ctx r turn (route w ctx r) = some w' at h
    show ∃ v', deliver v ctx r turn (route v ctx r) = some v' ∧ Same c w' v'
    have hroute : route v ctx r = route w ctx r := by
      cases hfrom : r.fromMe with
      | true => exact routeTenant_trigger hfrom
      | false =>
        rw [owners_message hfrom, List.mem_singleton] at hmem
        obtain rfl := Owner.sender.inj hmem
        exact routeTenant_congr (by rw [hsame.session])
    rw [hroute]
    obtain ⟨hfrom, hdeliver⟩ | ⟨hfrom, keys, hkeys, hdeliver⟩ | ⟨hfrom, hdeliver⟩ :=
      deliver_cases turn (rfl : route w ctx r = route w ctx r) <;> rw [hdeliver] at h ⊢
    · rw [owners_message hfrom, List.mem_singleton] at hmem
      obtain rfl := Owner.sender.inj hmem
      obtain ⟨⟨response, w₁⟩, hdialog, rfl⟩ := Option.map_eq_some_iff.mp h
      obtain ⟨v₁, hv₁, hsame₁⟩ := same_dialog_both hsame hw hv hdialog
      rw [hv₁]
      exact ⟨_, rfl, same_hear_both hsame₁⟩
    · rw [← Option.some.inj h]
      exact ⟨_, rfl, same_cancels_both hsame hw hv⟩
    · rw [← Option.some.inj h]
      exact ⟨_, rfl, same_hear_both hsame⟩
  | console tenantId phone turn fromMenu text => cases List.mem_singleton.mp hmem
  | block tenantId phone =>
    unfold act at h ⊢
    dsimp only at h ⊢
    split at h
    · cases h
    · next hphone =>
      rw [if_neg hphone, ← Option.some.inj h]
      exact ⟨_, rfl, same_cancels_both hsame hw hv⟩
  | expire owner =>
    obtain rfl : .sender c = owner := List.mem_singleton.mp hmem
    rw [← Option.some.inj h]
    refine ⟨_, rfl, ?_, hsame.heard, hsame.creator, hsame.drawn, hsame.jobs⟩
    show Function.update w.sessions c.key _ c.key = Function.update v.sessions c.key _ c.key
    rw [Function.update_self, Function.update_self]
    rfl
  | progress owner id status =>
    obtain rfl : .sender c = owner := List.mem_singleton.mp hmem
    obtain ⟨howner, job, hjob, hstatus, rfl⟩ := of_progress h
    have hvjob : v.jobs.get id = some job := (hsame.jobs id howner).symm.trans hjob
    refine ⟨{ v with jobs := v.jobs.setStatus id status }, ?_,
      same_jobs_both hsame fun id' hid => ?_⟩
    · unfold act
      dsimp only
      rw [if_pos ((hsame.creator id).mp howner), hvjob, Option.bind_some, if_pos hstatus]
    · unfold Jobs.setStatus
      by_cases heq : id' = id
      · rw [heq, Table.get_modify_self, Table.get_modify_self, hjob, hvjob]
      · rw [Table.get_modify_of_ne heq, Table.get_modify_of_ne heq, hsame.jobs id' hid]
  | delete owner id =>
    obtain rfl : .sender c = owner := List.mem_singleton.mp hmem
    obtain ⟨howner, rfl⟩ := of_delete h
    refine ⟨{ v with jobs := v.jobs.remove (·.id = id) }, ?_,
      same_jobs_both hsame fun id' hid => ?_⟩
    · unfold act
      dsimp only
      rw [if_pos ((hsame.creator id).mp howner)]
    · rw [Table.get_remove, Table.get_remove, hsame.jobs id' hid]

theorem unwinds : Unwinds act (observes c) (Apart c)
    fun w v => Same c w v ∧ Tidy c w ∧ Tidy c v where
  hidden := by
    rintro w w' v event hapart hhidden ⟨hsame, hw, hv⟩ h
    exact ⟨(same_act hw hapart hhidden h).trans hsame, tidy_act hw hapart h, hv⟩
  seen := by
    rintro w w' v event hapart hseen ⟨hsame, hw, hv⟩ h
    obtain ⟨v', hv', hsame'⟩ := same_act_both hsame hw hv hseen h
    exact ⟨v', hv', hsame', tidy_act hw hapart h, tidy_act hv hapart hv'⟩

theorem tidy_initial : Tidy c .initial :=
  ⟨fun _ => shaped_none, fun _ _ h => (by cases h), fun _ _ => rfl⟩

theorem adminKey_ne {phone : String} : adminKey phone ≠ c.key := by
  have hadmin : (adminKey phone).toList.head? = some 'a' := by
    unfold adminKey
    rw [String.toList_append]
    rfl
  have hsender : ∀ p l, (unauthSessionKey p l c.tenantId).toList.head? = some 'u' := by
    intro p l
    unfold unauthSessionKey
    dsimp only
    split_ifs
    · simp only [String.toList_append]
      rfl
    · cases truthy l <;> simp only [String.toList_append] <;> rfl
  intro h
  have hkey : c.key.toList.head? = some 'u' := by
    unfold Contact.key
    cases c.identity <;> exact hsender ..
  rw [← h, hadmin] at hkey
  cases hkey

theorem apart_of_between (hkey : c.key ≠ c'.key) (h : Between c c' event) : Apart c event := by
  intro owner hmem
  obtain rfl | rfl | ⟨phone, rfl⟩ := h owner hmem
  · exact Or.inl rfl
  · exact Or.inr (Ne.symm hkey)
  · exact Or.inr adminKey_ne

theorem isolated_of_ne (hkey : c.key ≠ c'.key) : Isolated c c' := by
  have h : Noninterferes act (observes c) (Apart c) (view c) .initial :=
    unwinds.noninterferes ⟨.refl, tidy_initial, tidy_initial⟩
      fun w v hsim => Prod.ext hsim.1.heard hsim.1.session
  exact fun events w hbetween => h events w fun event hmem =>
    apart_of_between hkey (hbetween event hmem)

/-- A tenant with nothing but its id. -/
def bare (tenantId : Nat) : Context where
  inContext _ := false
  dir := ⟨Table.empty, Table.empty⟩
  db := ⟨Table.empty, Table.empty, Table.empty, Table.empty⟩
  tenant := ⟨tenantId, 0, none, none, none, .pro, true, false⟩

/-- The first message of a sender. -/
def greeting (identity : Identity) : Request where
  phone := match identity with
    | .phone digits => digits
    | _ => ""
  message := "codigo"
  instanceName := none
  senderLid := match identity with
    | .lid text => some text
    | _ => none
  fromMe := false
  adminPhone := none
  adminJid := none
  targetJid := none
  targetPhone := none
  targetLid := none

def oneService : Turn := ⟨true, ["netflix"], some, 0, true⟩

theorem normalizePhone_empty : normalizePhone (some "") = none := by decide +kernel

theorem digits_of_empty (h : r.phone = "") : senderDigits r = "" := by
  unfold senderDigits
  dsimp only
  rw [h, normalizePhone_empty, Option.getD_none, normalizePhone_empty, Option.getD_none]

theorem digits_of_normal (h : normalizePhone (some r.phone) = some r.phone) :
    senderDigits r = r.phone := by
  unfold senderDigits
  dsimp only
  rw [h, Option.getD_some, h, Option.getD_some]

theorem senderContact_greeting (hknown : c.identity.Known) :
    senderContact (bare c.tenantId) (greeting c.identity) = c := by
  obtain ⟨tenantId, identity⟩ := c
  unfold senderContact Contact.of
  cases identity with
  | phone digits =>
    have hnormal : normalizePhone (some digits) = some digits := hknown
    have hdigits : senderDigits (greeting (.phone digits)) = digits := digits_of_normal hnormal
    have hne : digits ≠ "" := by
      intro hempty
      rw [hempty, normalizePhone_empty] at hnormal
      cases hnormal
    rw [hdigits, if_pos hne]
    rfl
  | lid text =>
    have hdigits : senderDigits (greeting (.lid text)) = "" := digits_of_empty rfl
    have htruthy : truthy (some text) = some text :=
      Option.filter_eq_some_iff.mpr ⟨rfl, decide_eq_true hknown⟩
    rw [hdigits, if_neg (not_not.mpr rfl)]
    show Contact.mk tenantId ((truthy (some text)).elim .unknown .lid) = _
    rw [htruthy]
    rfl
  | unknown =>
    have hdigits : senderDigits (greeting .unknown) = "" := digits_of_empty rfl
    rw [hdigits, if_neg (not_not.mpr rfl)]
    rfl

theorem senderClient_bare :
    senderClient (bare tenantId).db tenantId phoneDigits senderLid = .found none := by
  have hphone : (if phoneDigits ≠ "" then (bare tenantId).db.activeClient tenantId phoneDigits
      else .ok none) = .ok none := by
    split <;> rfl
  unfold senderClient
  rw [hphone]
  dsimp only
  cases truthy senderLid <;> rfl

theorem isTenantAdmin_bare :
    isTenantAdmin (bare tenantId).tenant phoneDigits senderLid = false := by
  unfold isTenantAdmin
  cases senderLid with
  | none => rfl
  | some lid =>
    have hlid : ((bare tenantId).tenant.whatsappLid = some lid) = False :=
      eq_false fun h => by cases h
    simp only [hlid, decide_false, Bool.and_false, Bool.or_false]
    rfl

theorem route_greeting {identity : Identity} :
    route w (bare tenantId) (greeting identity) = .codigo (senderDigits (greeting identity))
      (greeting identity).senderLid := by
  have hblocked : ((bare tenantId).db.findActive tenantId
      (some (senderDigits (greeting identity))) (greeting identity).senderLid).isSome = false := by
    unfold Database.findActive
    cases Database.identityClause (some (senderDigits (greeting identity)))
      (greeting identity).senderLid <;> rfl
  have hsender : routeSender (fun key => (w.sessions key).isSome) (bare tenantId).dir
      (bare tenantId).db (bare tenantId).tenant (senderDigits (greeting identity))
      (greeting identity).senderLid "codigo" =
        .codigo (senderDigits (greeting identity)) (greeting identity).senderLid := by
    have hkeyword : clean "codigo" ∈ codigoKeywords := by decide +kernel
    have hmenu : decide (clean "codigo" = "/menu") = false := by decide +kernel
    unfold routeSender
    dsimp only
    rw [show (bare tenantId).tenant.id = tenantId from rfl, senderClient_bare, isTenantAdmin_bare]
    dsimp only
    have hsilence : shouldSilenceExternalAdminMenu (bare tenantId).dir (bare tenantId).tenant
        (senderDigits (greeting identity)) (greeting identity).senderLid "codigo" = false := by
      unfold shouldSilenceExternalAdminMenu
      rw [hmenu, Bool.false_and, Bool.false_and]
    rw [hsilence, if_neg Bool.false_ne_true, if_pos (by simp [hkeyword])]
  have htimeout : ¬clean (greeting identity).message = inactivityTimeoutMessage := by
    show ¬clean "codigo" = _
    decide +kernel
  unfold route routeTenant
  rw [if_neg (by exact Bool.false_ne_true), if_neg (by exact Bool.false_ne_true), if_neg htimeout,
    if_neg (by exact Bool.false_ne_true)]
  unfold routeInbound
  refine (if_neg ?_).trans hsender
  exact fun h => Bool.false_ne_true (hblocked.symm.trans h)

/-- The world in which a sender has begun a dialog. -/
def began (c : Contact) : World :=
  (World.initial.put c.key ⟨Table.empty, some (begun ["netflix"] false)⟩).hear c
    (.dialog (say (.servicePrompt ["netflix"] 0)))

theorem handle_greeting (tenantId : Nat) :
    handleUnauthenticatedCodigo oneService tenantId ⟨Table.empty, none⟩ "codigo" =
      (say (.servicePrompt ["netflix"] 0), ⟨Table.empty, some (begun ["netflix"] false)⟩) := by
  unfold handleUnauthenticatedCodigo startUnauthCodigo
  dsimp only
  rw [if_neg (by decide +kernel), if_neg (by decide), if_neg (by decide)]
  rfl

theorem act_greeting (hknown : c.identity.Known) :
    act .initial (.request (bare c.tenantId) (greeting c.identity) oneService) =
      some (began c) := by
  have hcontact := senderContact_greeting hknown
  have hkey : unauthSessionKey (senderDigits (greeting c.identity)) (greeting c.identity).senderLid
      c.tenantId = c.key := by
    rw [← key_of]
    exact congrArg Contact.key hcontact
  have hdialog : dialog .initial .unauthenticated (.sender c) c.key c.tenantId oneService false
      "codigo" = some (say (.servicePrompt ["netflix"] 0),
        World.initial.put c.key ⟨Table.empty, some (begun ["netflix"] false)⟩) := by
    unfold dialog
    rw [if_neg (by exact Bool.false_ne_true)]
    have hhandle : Side.unauthenticated.handle oneService c.tenantId (World.initial.slot c.key)
        false "codigo" = (say (.servicePrompt ["netflix"] 0),
          ⟨Table.empty, some (begun ["netflix"] false)⟩) := handle_greeting c.tenantId
    rw [hhandle]
    rfl
  unfold act
  dsimp only
  rw [route_greeting]
  unfold deliver
  dsimp only
  rw [hcontact, show (bare c.tenantId).tenant.id = c.tenantId from rfl, hkey,
    show (greeting c.identity).message = "codigo" from rfl, hdialog]
  rfl

theorem not_isolated_of_eq (hknown : c'.identity.Known) (hne : c ≠ c') (hkey : c.key = c'.key) :
    ¬Isolated c c' := by
  have howners : (Event.request (bare c'.tenantId) (greeting c'.identity) oneService).owners =
      [.sender c'] := by
    rw [owners_message rfl, senderContact_greeting hknown]
  refine interferes_of_step ?_ ?_ (act_greeting hknown) fun hview => ?_
  · intro owner hmem
    rw [howners, List.mem_singleton] at hmem
    exact Or.inr (Or.inl hmem)
  · unfold observes
    rw [howners]
    refine decide_eq_false fun hmem => hne ?_
    exact Owner.sender.inj (List.mem_singleton.mp hmem)
  · have hsession : (began c').sessions c.key = none := congrArg Prod.snd hview
    change Function.update World.initial.sessions c'.key (some (begun ["netflix"] false)) c.key =
      none at hsession
    rw [hkey, Function.update_self] at hsession
    cases hsession

end IsolationLemmas

open IsolationLemmas NavigationLemmas

/-- Two conversations leave each other alone if and only if their keys differ; and the dialog of a
message is that of the sender's key. -/
theorem conversations_isolated_iff (c c' : Conversation) (hne : c ≠ c') :
    (Isolated c.toContact c'.toContact ↔ c.key ≠ c'.key) ∧
      ∀ w ctx r p l, route w ctx r = .codigo p l → senderContact ctx r = c.toContact →
        unauthSessionKey p l ctx.tenant.id = c.key := by
  refine ⟨⟨fun h hkey => ?_, isolated_of_ne⟩, fun w ctx r p l hroute hsender => ?_⟩
  · refine not_isolated_of_eq c'.known (fun heq => hne ?_) hkey h
    obtain ⟨contact, hknown⟩ := c
    obtain ⟨contact', hknown'⟩ := c'
    obtain rfl : contact = contact' := heq
    rfl
  · obtain ⟨-, hphone, hlid⟩ := of_routeTenant_codigo hroute
    rw [hphone, hlid, ← key_senderContact, hsender]

def exFirst : Conversation where
  tenantId := 1
  identity := .phone "584120000001"
  known := normalizePhone_of_isDecimal (List.all_eq_true.mp (by decide)) (by decide)

def exSecond : Conversation where
  tenantId := 2
  identity := .phone "584120000001"
  known := normalizePhone_of_isDecimal (List.all_eq_true.mp (by decide)) (by decide)

def exOther : Conversation where
  tenantId := 1
  identity := .phone "584120000002"
  known := normalizePhone_of_isDecimal (List.all_eq_true.mp (by decide)) (by decide)

/-- Two senders of one tenant. -/
theorem senders_isolated_iff :
    (Isolated exFirst.toContact exOther.toContact ↔ exFirst.key ≠ exOther.key) ∧
      ∀ w ctx r p l, route w ctx r = .codigo p l → senderContact ctx r = exFirst.toContact →
        unauthSessionKey p l ctx.tenant.id = exFirst.key :=
  conversations_isolated_iff exFirst exOther fun h => by
    have hidentity : exFirst.identity = exOther.identity := by rw [h]
    revert hidentity
    decide

/-- The ids of two tenants begin with the same eight digits, and the second has the session of the
first. -/
theorem tenants_share_session : exFirst.tenantId ≠ exSecond.tenantId ∧
    exFirst.key = exSecond.key ∧ ¬Isolated exFirst.toContact exSecond.toContact := by
  have hkey : exFirst.key = exSecond.key := by decide +kernel
  refine ⟨by decide, hkey, not_isolated_of_eq exSecond.known (fun h => ?_) hkey⟩
  have htenant : exFirst.tenantId = exSecond.tenantId := congrArg Contact.tenantId h
  revert htenant
  decide

end Trackpal.Console.Codigo
