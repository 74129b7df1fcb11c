import Trackpal.Lifecycle.Rows

/-!
# Creating and changing a subscription

`mutations.py`, `updater.py` and `validation.py`, with the schemas of their payloads. A naive
date-time is one in UTC. An instant outside the years that `datetime` has is left out.

Results:
1. `triple_validateIds`: ids that pass the validation belong to the tenant, and the plan to the
   service.
2. `triple_finish`: a request that ends has committed its event with its row.
-/

namespace Trackpal.Lifecycle

open Trackpal.Protocol Trackpal.Foundation Trackpal.Subscriptions

/-! ## Payloads -/

/-- `if value`, for a text that may be missing. -/
def truthy (value : Option String) : Bool := value.any (· ≠ "")

def validDurations : List String :=
  ["1_month", "3_months", "6_months", "9_months", "1_year", "custom"]

structure SubscriptionCreate where
  clientId : UUID
  serviceId : UUID
  planId : UUID
  streamingEmail : String
  streamingPassword : Option String
  profileName : Option String
  profilePin : Option String
  durationType : String
  startsAt : DateTime
  expiresAt : Option DateTime

def SubscriptionCreate.validate (payload : SubscriptionCreate) : Except Failure Unit := do
  if payload.durationType ∉ validDurations then
    throw (.valueError "duration_type must be one of")
  if truthy payload.profilePin && !truthy payload.profileName then
    throw (.valueError "profile_pin requires profile_name")
  if payload.durationType = "custom" && payload.expiresAt.isNone then
    throw (.valueError "custom duration requires expires_at")

/-- A field that is not set is `none`, and one that is set to `null` is `some none`. -/
structure SubscriptionUpdate where
  clientId : Option (Option UUID)
  serviceId : Option (Option UUID)
  planId : Option (Option UUID)
  streamingEmail : Option (Option String)
  streamingPassword : Option (Option String)
  profileName : Option (Option String)
  profilePin : Option (Option String)
  durationType : Option (Option String)
  startsAt : Option (Option DateTime)
  expiresAt : Option (Option DateTime)

def SubscriptionUpdate.validate (payload : SubscriptionUpdate) : Except Failure Unit := do
  if payload.durationType.join.any (· ∉ validDurations) then
    throw (.valueError "duration_type must be one of")
  if truthy payload.profilePin.join && payload.profileName.join = some "" then
    throw (.valueError "profile_pin requires profile_name")
  if payload.durationType.join = some "custom" && payload.expiresAt.join.isNone then
    throw (.valueError "custom duration requires expires_at")

/-! ## What a request finds around it -/

/-- `Fernet`, whose first argument is what a token draws: it never gives the empty text, and
decrypts what it has encrypted. -/
structure Fernet where
  encrypt : Nat → String → String
  decrypt : String → Option String
  encrypt_ne : ∀ draw value, encrypt draw value ≠ ""
  decrypt_encrypt : ∀ draw value, decrypt (encrypt draw value) = some value

def encryptValue (fernet : Fernet) (draw : Nat) (value : Option String) : Option String :=
  value.map (fernet.encrypt draw)

/-- The statements that the database may refuse. -/
inductive Point where
  | rowFlush
  | eventFlush
  | commit
deriving DecidableEq

structure Request where
  tenantId : UUID
  now : Int
  uuid4 : UUID
  passwordDraw : Nat
  pinDraw : Nat
  refuses : Point → Option Failure

variable (dir : Directory) (fernet : Fernet) (req : Request)

def Request.flush (point : Point) : Program Db Failure Unit :=
  match req.refuses point with
  | some failure => .raise failure
  | none => pure ()

def commitChange (errCode : String) : Program Db Failure Unit :=
  match req.refuses .commit with
  | none => .commit
  | some (.integrityError _) => do
    Program.rollback
    .raise (.userFacing errCode)
  | some failure => .raise failure

def Db.log (db : Db) (event : SubscriptionEvent) : Db := { db with events := db.events ++ [event] }

def createEvent (subscriptionId : UUID) (eventType : EventType) (notes : String) :
    Program Db Failure Unit := do
  Program.change (·.log ⟨req.tenantId, subscriptionId, eventType, some notes⟩)
  req.flush .eventFlush

/-! ## Validation -/

/-- `validate_ids`; an id may be `null` in an update, which no row has. -/
def validateIds (clientId serviceId planId : Option UUID) : Program Db Failure Unit := do
  Program.raiseIf (!dir.clients.any fun c => c.tenantId = req.tenantId && some c.id = clientId)
    (.userFacing "subscription_client_not_found")
  Program.raiseIf (!dir.services.any fun s => s.tenantId = req.tenantId && some s.id = serviceId)
    (.userFacing "subscription_service_not_found")
  Program.raiseIf (!dir.plans.any fun p => p.tenantId = req.tenantId &&
    some p.serviceId = serviceId && some p.id = planId) (.userFacing "subscription_plan_not_found")

def durationMap (durationType : String) : Option Int :=
  if durationType = "1_month" then some 30
  else if durationType = "3_months" then some 90
  else if durationType = "6_months" then some 180
  else if durationType = "9_months" then some 270
  else if durationType = "1_year" then some 365
  else none

/-- `calculate_expiration`; an update may set its arguments to `null`. -/
def calculateExpiration (startsAt : Option Int) (durationType : Option String)
    (expiresAt : Option Int) : Except Failure Int :=
  if durationType = some "custom" then
    match expiresAt with
    | none => .error (.valueError "custom duration requires expires_at")
    | some expiresAt => .ok expiresAt
  else
    match durationType.bind durationMap with
    | none => .error (.valueError ("Invalid duration_type: " ++ durationType.getD "None"))
    | some days =>
      match startsAt with
      | none => .error .typeError
      | some startsAt => .ok (startsAt + days * dayLength)

def liftExcept {α : Type} : Except Failure α → Program Db Failure α
  | .ok a => pure a
  | .error failure => .raise failure

/-! ## The requests -/

def getSubscription (subscriptionId : UUID) : Program Db Failure (Option Subscription) := do
  let db ← Program.read
  return (db.subscriptions.get subscriptionId).filter (·.tenantId = req.tenantId)

theorem id_put (sub row : Subscription) : (if row.id = sub.id then sub else row).id = row.id := by
  split
  · next h => exact h.symm
  · rfl

/-- The object takes the place of its row. -/
def Db.put (db : Db) (sub : Subscription) : Db :=
  { db with
    subscriptions := db.subscriptions.modify sub.id
      (fun row => if row.id = sub.id then sub else row) (id_put sub) }

def putRow (sub : Subscription) : Program Db Failure Unit := Program.change (·.put sub)

/-- What a request ends with: the event, the commit, and the row. -/
def finish (sub : Subscription) (eventType : EventType) (notes errCode : String) :
    Program Db Failure (Option Subscription) := do
  createEvent req sub.id eventType notes
  commitChange req errCode
  return some sub

def createSubscription (payload : SubscriptionCreate) : Program Db Failure (Option Subscription) := do
  validateIds dir req (some payload.clientId) (some payload.serviceId) (some payload.planId)
  Program.raiseIf (truthy payload.profilePin && !truthy payload.profileName)
    (.userFacing "subscription_pin_requires_profile")
  let startsAt := payload.startsAt.instant
  let calculated ← liftExcept (calculateExpiration (some startsAt) (some payload.durationType)
    (payload.expiresAt.map (·.instant)))
  let sub : Subscription :=
    { id := req.uuid4
      tenantId := req.tenantId
      clientId := payload.clientId
      serviceId := payload.serviceId
      planId := payload.planId
      streamingEmail := payload.streamingEmail
      streamingPasswordEncrypted := encryptValue fernet req.passwordDraw payload.streamingPassword
      profileName := payload.profileName
      profilePinEncrypted := encryptValue fernet req.pinDraw payload.profilePin
      durationType := payload.durationType
      startsAt := startsAt
      expiresAt := calculated
      cancelledAt := none
      status := .active }
  let db ← Program.read
  Program.raiseIf (db.subscriptions.get sub.id).isSome (.integrityError "subscriptions_pkey")
  Program.change fun db => { db with subscriptions := db.subscriptions.insert sub }
  req.flush .rowFlush
  finish req sub .created "Subscription created" "subscription_create_failed"

def cancelSubscription (subscriptionId : UUID) (notes : Option String) :
    Program Db Failure (Option Subscription) := do
  match ← getSubscription req subscriptionId with
  | none => return none
  | some sub =>
    let sub := { sub with status := .cancelled, cancelledAt := some req.now }
    putRow sub
    finish req sub .cancelled (orElse notes "Subscription cancelled") "subscription_cancel_failed"

def reactivateSubscription (subscriptionId : UUID) (durationType : String)
    (startsAt expiresAt : Option DateTime) (notes : Option String) :
    Program Db Failure (Option Subscription) := do
  match ← getSubscription req subscriptionId with
  | none => return none
  | some sub =>
    let startsAtVal := (startsAt.map (·.instant)).getD req.now
    let calculated ← liftExcept (calculateExpiration (some startsAtVal) (some durationType)
      (expiresAt.map (·.instant)))
    let sub := { sub with
      status := .active
      cancelledAt := none
      startsAt := startsAtVal
      durationType := durationType
      expiresAt := calculated }
    putRow sub
    finish req sub .reactivated
      (orElse notes ("Subscription reactivated with duration: " ++ durationType))
      "subscription_reactivate_failed"

def renewSubscription (subscriptionId : UUID) (durationType : String) (expiresAt : Option DateTime)
    (notes : Option String) : Program Db Failure (Option Subscription) := do
  match ← getSubscription req subscriptionId with
  | none => return none
  | some sub =>
    let newExpires ← liftExcept (calculateExpiration (some sub.expiresAt) (some durationType)
      (expiresAt.map (·.instant)))
    let sub := { sub with
      status := .active
      cancelledAt := none
      durationType := durationType
      expiresAt := newExpires }
    putRow sub
    finish req sub .renewed (orElse notes ("Subscription renewed with duration: " ++ durationType))
      "subscription_renew_failed"

/-- The times of an update, any of which may be `null`: `starts_at`, `duration_type` and
`expires_at`. -/
def updatedTimes (sub : Subscription) (payload : SubscriptionUpdate) :
    Except Failure (Option Int × Option String × Option Int) := do
  if payload.startsAt.isSome || payload.durationType.isSome || payload.expiresAt.isSome then
    let startsAtVal := (payload.startsAt.map (·.map (·.instant))).getD (some sub.startsAt)
    let durationVal := payload.durationType.getD (some sub.durationType)
    let expiresAtVal := (payload.expiresAt.map (·.map (·.instant))).getD (some sub.expiresAt)
    if payload.durationType.isSome || payload.startsAt.isSome then
      let calculated ← calculateExpiration startsAtVal durationVal
        (if payload.expiresAt.isSome then expiresAtVal else none)
      return (startsAtVal, durationVal, some calculated)
    else return (startsAtVal, durationVal, expiresAtVal)
  else return (some sub.startsAt, some sub.durationType, some sub.expiresAt)

def updatedSecret (draw : Nat) (old : Option String) : Option (Option String) → Option String
  | none => old
  | some value => encryptValue fernet draw (value.filter (· ≠ ""))

def updateSubscription (subscriptionId : UUID) (payload : SubscriptionUpdate) :
    Program Db Failure (Option Subscription) := do
  match ← getSubscription req subscriptionId with
  | none => return none
  | some sub =>
    let newClientId := payload.clientId.getD (some sub.clientId)
    let newServiceId := payload.serviceId.getD (some sub.serviceId)
    let newPlanId := payload.planId.getD (some sub.planId)
    Program.raiseIf (payload.serviceId.isSome && payload.planId.isNone && !dir.plans.any fun p =>
      p.tenantId = req.tenantId && some p.serviceId = newServiceId && p.id = sub.planId)
      (.userFacing "subscription_plan_service_mismatch")
    validateIds dir req newClientId newServiceId newPlanId
    let sub := { sub with
      -- none of the ids is `null` after the validation
      clientId := newClientId.getD sub.clientId
      serviceId := newServiceId.getD sub.serviceId
      planId := newPlanId.getD sub.planId
      streamingEmail := (payload.streamingEmail.getD (some sub.streamingEmail)).getD ""
      profileName := payload.profileName.getD sub.profileName
      streamingPasswordEncrypted := updatedSecret fernet req.passwordDraw
        sub.streamingPasswordEncrypted payload.streamingPassword
      profilePinEncrypted := updatedSecret fernet req.pinDraw sub.profilePinEncrypted
        payload.profilePin }
    putRow sub
    Program.raiseIf (truthy sub.profilePinEncrypted && !truthy sub.profileName)
      (.userFacing "subscription_pin_requires_profile")
    match ← liftExcept (updatedTimes sub payload) with
    | (some startsAt, some durationType, some expiresAt) =>
      let sub := { sub with startsAt, durationType, expiresAt }
      putRow sub
      -- the column is not null
      Program.raiseIf (payload.streamingEmail = some none) (.integrityError "streaming_email")
      finish req sub .updated "Subscription updated" "subscription_update_failed"
    | _ => Program.raise (.integrityError "starts_at, duration_type, expires_at")

/-! ## What the parts of a request do -/

/-- The committed state, and what the statements have made of it. -/
def Wrote (db w : Db) (s : Session Db) : Prop := s.persisted = db ∧ s.working = w

/-- Nothing was committed. -/
def Kept (db : Db) (_ : Failure) (s : Session Db) : Prop := s.persisted = db

/-- The ids of a row pass the validation. -/
structure Consistent (dir : Directory) (tenantId clientId serviceId planId : UUID) : Prop where
  client : ∃ c ∈ dir.clients, c.tenantId = tenantId ∧ c.id = clientId
  service : ∃ v ∈ dir.services, v.tenantId = tenantId ∧ v.id = serviceId
  plan : ∃ p ∈ dir.plans, p.tenantId = tenantId ∧ p.serviceId = serviceId ∧ p.id = planId

variable {dir fernet req} {db w : Db} {sub : Subscription} {id : UUID}

@[simp] theorem events_put : (db.put sub).events = db.events := rfl

@[simp] theorem reminderLogs_put : (db.put sub).reminderLogs = db.reminderLogs := rfl

theorem get_put_self (h : (db.subscriptions.get sub.id).isSome = true) :
    (db.put sub).subscriptions.get sub.id = some sub := by
  obtain ⟨old, hold⟩ := Option.isSome_iff_exists.mp h
  unfold Db.put
  rw [Table.get_modify_self, hold, Option.map_some, if_pos (Table.key_of_get hold)]

theorem get_put_of_ne (h : id ≠ sub.id) :
    (db.put sub).subscriptions.get id = db.subscriptions.get id := by
  unfold Db.put
  rw [Table.get_modify_of_ne h]

theorem isSome_get_put :
    ((db.put sub).subscriptions.get id).isSome = (db.subscriptions.get id).isSome := by
  by_cases h : id = sub.id
  · unfold Db.put
    rw [h, Table.get_modify_self, Option.isSome_map]
  · rw [get_put_of_ne h]

namespace MutationLemmas

theorem triple_raiseIf {c : Bool} {failure : Failure} :
    Triple (Wrote db w) (Program.raiseIf c failure) (fun _ s => Wrote db w s ∧ c = false)
      (Kept db) :=
  Triple.raiseIf fun _ h => h.1

theorem triple_flush {point : Point} :
    Triple (Wrote db w) (req.flush point) (fun _ => Wrote db w) (Kept db) := by
  unfold Request.flush
  cases req.refuses point with
  | none => exact Triple.pure fun _ h => h
  | some failure => exact Triple.raise fun _ h => h.1

theorem triple_change {f : Db → Db} :
    Triple (Wrote db w) (Program.change f) (fun _ => Wrote db (f w)) (Kept db) :=
  Triple.change fun _ h => ⟨h.1, congrArg f h.2⟩

theorem triple_read : Triple (Wrote db w) Program.read (fun a s => Wrote db w s ∧ a = w) (Kept db) :=
  Triple.read fun _ h => ⟨h, h.2⟩

theorem triple_get : Triple (Wrote db w) (getSubscription req id)
    (fun r s => Wrote db w s ∧ r = (w.subscriptions.get id).filter (·.tenantId = req.tenantId))
    (Kept db) := by
  unfold getSubscription
  refine Triple.bind _ triple_read fun _ => Triple.pull fun h => ?_
  rw [h]
  exact Triple.pure fun _ hwrote => ⟨hwrote, rfl⟩

theorem triple_liftExcept {α : Type} {result : Except Failure α} :
    Triple (Wrote db w) (liftExcept result) (fun a s => Wrote db w s ∧ result = .ok a) (Kept db) := by
  cases result with
  | ok a => exact Triple.pure fun _ h => ⟨h, rfl⟩
  | error failure => exact Triple.raise fun _ h => h.1

theorem triple_commitChange {errCode : String} :
    Triple (Wrote db w) (commitChange req errCode) (fun _ s => s.persisted = w) (Kept db) := by
  unfold commitChange
  split
  · exact Triple.commit fun _ h => h.2
  · exact Triple.bind (fun _ s => s.persisted = db) (Triple.rollback fun _ h => h.1)
      fun _ => Triple.raise fun _ h => h
  · exact Triple.raise fun _ h => h.1

end MutationLemmas

open MutationLemmas

theorem triple_validateIds {clientId serviceId planId : Option UUID} :
    Triple (Wrote db w) (validateIds dir req clientId serviceId planId)
      (fun _ s => Wrote db w s ∧ ∃ c v p, clientId = some c ∧ serviceId = some v ∧ planId = some p ∧
        Consistent dir req.tenantId c v p) (Kept db) := by
  unfold validateIds
  refine Triple.bind _ triple_raiseIf fun _ => Triple.pull fun hclient => ?_
  refine Triple.bind _ triple_raiseIf fun _ => Triple.pull fun hservice => ?_
  refine Triple.consequence triple_raiseIf (fun _ h => h) ?_ fun _ _ h => h
  rintro _ s ⟨hwrote, hplan⟩
  simp only [Bool.not_eq_false', List.any_eq_true, Bool.and_eq_true, decide_eq_true_eq]
    at hclient hservice hplan
  obtain ⟨c, hc, hctenant, rfl⟩ := hclient
  obtain ⟨v, hv, hvtenant, rfl⟩ := hservice
  obtain ⟨p, hp, ⟨hptenant, hpservice⟩, rfl⟩ := hplan
  exact ⟨hwrote, c.id, v.id, p.id, rfl, rfl, rfl, ⟨c, hc, hctenant, rfl⟩, ⟨v, hv, hvtenant, rfl⟩,
    ⟨p, hp, hptenant, Option.some.inj hpservice, rfl⟩⟩

theorem triple_finish {eventType : EventType} {notes errCode : String} :
    Triple (Wrote db w) (finish req sub eventType notes errCode)
      (fun r s => r = some sub ∧
        s.persisted = w.log ⟨req.tenantId, sub.id, eventType, some notes⟩) (Kept db) := by
  unfold finish createEvent
  refine Triple.bind _ (Triple.bind _ triple_change fun _ => triple_flush) fun _ => ?_
  refine Triple.bind _ triple_commitChange fun _ => ?_
  exact Triple.pure fun s h => ⟨rfl, h⟩

end Trackpal.Lifecycle
