import Trackpal.Foundation.OffsetPages
import Trackpal.Console.Navigation
import Trackpal.Lifecycle.ConsoleDates

/-!
# Creating a subscription twice

The console looks for an active subscription of the same client, service and streaming email before
it creates one. What it should do then is named by attributes of the service object, which has
them from a class of constants and from a list of handlers.

Results:
1. `confirm_run`: the confirmation creates whether it finds a duplicate or not.
2. `guards_iff`.
-/

namespace Trackpal.Lifecycle.Duplicates

open Trackpal.Protocol Trackpal.Foundation Trackpal.Subscriptions Trackpal.Console

/-! ## The service object -/

inductive Raised where
  | attributeError (name : String)
  | keyError (key : String)
  | failure (failure : Failure)
deriving DecidableEq

/-- `_ConstMixin`: the steps of the flow, and the keys of its texts that are read here. -/
def constMixin : List (String × String) :=
  [ ("SUBSCRIPTIONS_STEP_MENU", "menu"),
    ("SUBSCRIPTIONS_STEP_FILTER", "filter"),
    ("SUBSCRIPTIONS_STEP_LIST", "list"),
    ("SUBSCRIPTIONS_STEP_SELECT", "select"),
    ("SUBSCRIPTIONS_STEP_DETAIL", "detail"),
    ("SUBSCRIPTIONS_STEP_ACTION", "action"),
    ("SUBSCRIPTIONS_STEP_CREATE_CLIENT", "create_client"),
    ("SUBSCRIPTIONS_STEP_CREATE_SERVICE", "create_service"),
    ("SUBSCRIPTIONS_STEP_CREATE_PLAN", "create_plan"),
    ("SUBSCRIPTIONS_STEP_CREATE_EMAIL", "create_email"),
    ("SUBSCRIPTIONS_STEP_CREATE_PASSWORD", "create_password"),
    ("SUBSCRIPTIONS_STEP_CREATE_PASSWORD_CONFIRM", "create_password_confirm"),
    ("SUBSCRIPTIONS_STEP_CREATE_PROFILE_OPTION", "create_profile_option"),
    ("SUBSCRIPTIONS_STEP_CREATE_PROFILE_NAME", "create_profile_name"),
    ("SUBSCRIPTIONS_STEP_CREATE_PIN", "create_pin"),
    ("SUBSCRIPTIONS_STEP_CREATE_PIN_CONFIRM", "create_pin_confirm"),
    ("SUBSCRIPTIONS_STEP_CREATE_DURATION", "create_duration"),
    ("SUBSCRIPTIONS_STEP_CREATE_CUSTOM_DATE", "create_custom_date"),
    ("SUBSCRIPTIONS_STEP_CREATE_CONFIRM", "create_confirm"),
    ("SUBSCRIPTIONS_STEP_EDIT_FIELD", "edit_field"),
    ("SUBSCRIPTIONS_STEP_EDIT_VALUE", "edit_value"),
    ("SUBSCRIPTIONS_STEP_EDIT_PASSWORD_CONFIRM", "edit_password_confirm"),
    ("SUBSCRIPTIONS_STEP_EDIT_PIN_CONFIRM", "edit_pin_confirm"),
    ("SUBSCRIPTIONS_STEP_CANCEL_CONFIRM", "cancel_confirm"),
    ("SUBSCRIPTIONS_STEP_REACTIVATE_DURATION", "reactivate_duration"),
    ("SUBSCRIPTIONS_STEP_REACTIVATE_CUSTOM_DATE", "reactivate_custom_date"),
    ("SUBSCRIPTIONS_STEP_REACTIVATE_CONFIRM", "reactivate_confirm"),
    ("SUBSCRIPTIONS_STEP_RENEW_DURATION", "renew_duration"),
    ("SUBSCRIPTIONS_STEP_RENEW_CUSTOM_DATE", "renew_custom_date"),
    ("SUBSCRIPTIONS_STEP_RENEW_CONFIRM", "renew_confirm"),
    ("KEY_FALLBACK_ACTIVE_FLOW", "wa.tenant.fallback.active_flow"),
    ("KEY_HELP_TEXT", "wa.tenant.help"),
    ("KEY_SUBSCRIPTIONS_CREATE_SERVICE_PROMPT",
      "wa.tenant.subscriptions.create.service_prompt"),
    ("KEY_SUBSCRIPTIONS_CREATE_SUCCESS", "wa.tenant.subscriptions.create.success"),
    ("KEY_SUBSCRIPTIONS_RENEW_DURATION_PROMPT",
      "wa.tenant.subscriptions.renew.duration_prompt"),
    ("KEY_SUBSCRIPTIONS_INVALID_SELECTION", "wa.tenant.subscriptions.invalid_selection"),
    ("KEY_SUBSCRIPTIONS_CONFIRM_REPROMPT", "wa.tenant.subscriptions.confirm_reprompt") ]

/-- The handlers of the flow that the class is given. -/
def assignments : List String :=
  [ "_handle_subscriptions_menu", "_handle_subscriptions_filter", "_handle_subscriptions_list",
    "_handle_subscriptions_select", "_handle_subscriptions_action",
    "_handle_subscriptions_create_client", "_handle_subscriptions_create_service",
    "_handle_subscriptions_create_plan", "_handle_subscriptions_create_email",
    "_handle_subscriptions_create_password", "_handle_subscriptions_create_password_confirm",
    "_handle_subscriptions_create_profile_option", "_handle_subscriptions_create_profile_name",
    "_handle_subscriptions_create_pin", "_handle_subscriptions_create_pin_confirm",
    "_handle_subscriptions_create_duration", "_handle_subscriptions_create_custom_date",
    "_handle_subscriptions_create_confirm", "_handle_subscriptions_edit_field",
    "_handle_subscriptions_edit_value", "_handle_subscriptions_edit_password_confirm",
    "_handle_subscriptions_edit_pin_confirm", "_handle_subscriptions_cancel_confirm",
    "_handle_subscriptions_reactivate_duration", "_handle_subscriptions_reactivate_custom_date",
    "_handle_subscriptions_reactivate_confirm", "_handle_subscriptions_renew_duration",
    "_handle_subscriptions_renew_custom_date", "_handle_subscriptions_renew_confirm" ]

def selfAttr (name : String) : Except Raised String :=
  match constMixin.lookup name with
  | some value => .ok value
  | none => .error (.attributeError name)

def selfMethod (name : String) : Except Raised String :=
  if name ∈ assignments then .ok name else .error (.attributeError name)

/-! ## The routers -/

/-- `if step == self.…: return await self.…(…) elif …`. -/
def chain : List (String × String) → String → Except Raised (Option String)
  | [], _ => .ok none
  | (constant, method) :: rest, step => do
    if step = (← selfAttr constant) then return some (← selfMethod method)
    chain rest step

def createSteps : List String :=
  [ "SUBSCRIPTIONS_STEP_CREATE_CLIENT", "SUBSCRIPTIONS_STEP_CREATE_SERVICE",
    "SUBSCRIPTIONS_STEP_CREATE_PLAN", "SUBSCRIPTIONS_STEP_CREATE_EMAIL",
    "SUBSCRIPTIONS_STEP_CREATE_PASSWORD", "SUBSCRIPTIONS_STEP_CREATE_PASSWORD_CONFIRM",
    "SUBSCRIPTIONS_STEP_CREATE_PROFILE_OPTION", "SUBSCRIPTIONS_STEP_CREATE_PROFILE_NAME",
    "SUBSCRIPTIONS_STEP_CREATE_PIN", "SUBSCRIPTIONS_STEP_CREATE_PIN_CONFIRM",
    "SUBSCRIPTIONS_STEP_CREATE_DURATION", "SUBSCRIPTIONS_STEP_CREATE_CUSTOM_DATE",
    "SUBSCRIPTIONS_STEP_CREATE_CONFIRM" ]

def editSteps : List String :=
  [ "SUBSCRIPTIONS_STEP_EDIT_FIELD", "SUBSCRIPTIONS_STEP_EDIT_VALUE",
    "SUBSCRIPTIONS_STEP_EDIT_PASSWORD_CONFIRM", "SUBSCRIPTIONS_STEP_EDIT_PIN_CONFIRM" ]

def lifecycleSteps : List String :=
  [ "SUBSCRIPTIONS_STEP_CANCEL_CONFIRM", "SUBSCRIPTIONS_STEP_REACTIVATE_DURATION",
    "SUBSCRIPTIONS_STEP_REACTIVATE_CUSTOM_DATE", "SUBSCRIPTIONS_STEP_REACTIVATE_CONFIRM",
    "SUBSCRIPTIONS_STEP_RENEW_DURATION", "SUBSCRIPTIONS_STEP_RENEW_CUSTOM_DATE",
    "SUBSCRIPTIONS_STEP_RENEW_CONFIRM" ]

def flowTable : List (String × String) :=
  [ ("SUBSCRIPTIONS_STEP_MENU", "_handle_subscriptions_menu"),
    ("SUBSCRIPTIONS_STEP_FILTER", "_handle_subscriptions_filter"),
    ("SUBSCRIPTIONS_STEP_LIST", "_handle_subscriptions_list"),
    ("SUBSCRIPTIONS_STEP_SELECT", "_handle_subscriptions_select"),
    ("SUBSCRIPTIONS_STEP_ACTION", "_handle_subscriptions_action") ]

def createTable : List (String × String) :=
  [ ("SUBSCRIPTIONS_STEP_CREATE_CLIENT", "_handle_subscriptions_create_client"),
    ("SUBSCRIPTIONS_STEP_CREATE_SERVICE", "_handle_subscriptions_create_service"),
    ("SUBSCRIPTIONS_STEP_CREATE_PLAN", "_handle_subscriptions_create_plan"),
    ("SUBSCRIPTIONS_STEP_CREATE_EMAIL", "_handle_subscriptions_create_email"),
    ("SUBSCRIPTIONS_STEP_CREATE_PASSWORD", "_handle_subscriptions_create_password"),
    ("SUBSCRIPTIONS_STEP_CREATE_PASSWORD_CONFIRM",
      "_handle_subscriptions_create_password_confirm"),
    ("SUBSCRIPTIONS_STEP_CREATE_PROFILE_OPTION", "_handle_subscriptions_create_profile_option"),
    ("SUBSCRIPTIONS_STEP_CREATE_PROFILE_NAME", "_handle_subscriptions_create_profile_name"),
    ("SUBSCRIPTIONS_STEP_CREATE_PIN", "_handle_subscriptions_create_pin"),
    ("SUBSCRIPTIONS_STEP_CREATE_PIN_CONFIRM", "_handle_subscriptions_create_pin_confirm"),
    ("SUBSCRIPTIONS_STEP_CREATE_DURATION", "_handle_subscriptions_create_duration"),
    ("SUBSCRIPTIONS_STEP_CREATE_CUSTOM_DATE", "_handle_subscriptions_create_custom_date"),
    ("SUBSCRIPTIONS_STEP_CREATE_CONFIRM", "_handle_subscriptions_create_confirm"),
    ("SUBSCRIPTIONS_STEP_CREATE_DUPLICATE", "_handle_subscriptions_create_duplicate") ]

def editTable : List (String × String) :=
  [ ("SUBSCRIPTIONS_STEP_EDIT_FIELD", "_handle_subscriptions_edit_field"),
    ("SUBSCRIPTIONS_STEP_EDIT_VALUE", "_handle_subscriptions_edit_value"),
    ("SUBSCRIPTIONS_STEP_EDIT_PASSWORD_CONFIRM", "_handle_subscriptions_edit_password_confirm"),
    ("SUBSCRIPTIONS_STEP_EDIT_PIN_CONFIRM", "_handle_subscriptions_edit_pin_confirm") ]

def lifecycleTable : List (String × String) :=
  [ ("SUBSCRIPTIONS_STEP_CANCEL_CONFIRM", "_handle_subscriptions_cancel_confirm"),
    ("SUBSCRIPTIONS_STEP_REACTIVATE_DURATION", "_handle_subscriptions_reactivate_duration"),
    ("SUBSCRIPTIONS_STEP_REACTIVATE_CUSTOM_DATE", "_handle_subscriptions_reactivate_custom_date"),
    ("SUBSCRIPTIONS_STEP_REACTIVATE_CONFIRM", "_handle_subscriptions_reactivate_confirm"),
    ("SUBSCRIPTIONS_STEP_RENEW_DURATION", "_handle_subscriptions_renew_duration"),
    ("SUBSCRIPTIONS_STEP_RENEW_CUSTOM_DATE", "_handle_subscriptions_renew_custom_date"),
    ("SUBSCRIPTIONS_STEP_RENEW_CONFIRM", "_handle_subscriptions_renew_confirm") ]

/-- `_route_subscriptions_flow`: the handler of a step. -/
def routeSubscriptionsFlow (step : String) : Except Raised (Option String) := do
  let createSteps ← createSteps.mapM selfAttr
  let editSteps ← editSteps.mapM selfAttr
  let lifecycleSteps ← lifecycleSteps.mapM selfAttr
  match ← chain flowTable step with
  | some method => return some method
  | none =>
    if step ∈ createSteps then chain createTable step
    else if step ∈ editSteps then chain editTable step
    else if step ∈ lifecycleSteps then chain lifecycleTable step
    else return none

/-! ## Sessions -/

structure TempData where
  clientId : Option UUID
  clientName : Option String
  serviceId : Option UUID
  serviceName : Option String
  servicePage : Option Nat
  planId : Option UUID
  planName : Option String
  streamingEmail : Option String
  streamingPassword : Option String
  profileName : Option String
  profilePin : Option String
  durationType : Option String
  startsAt : Option (List Char)
  expiresAt : Option (List Char)
  fromCtx : Bool
  existingSubId : Option UUID
  duplicateClientName : Option String
  duplicateServiceName : Option String
deriving DecidableEq

def TempData.empty : TempData :=
  { clientId := none, clientName := none, serviceId := none, serviceName := none,
    servicePage := none, planId := none, planName := none, streamingEmail := none,
    streamingPassword := none, profileName := none, profilePin := none, durationType := none,
    startsAt := none, expiresAt := none, fromCtx := false, existingSubId := none,
    duplicateClientName := none, duplicateServiceName := none }

structure WhatsAppSession where
  step : String
  tempData : TempData
  selectedTenantId : Option UUID
  selectionMap : List (String × UUID)
deriving DecidableEq

/-- A message under way: the session object, the stored session of the flow, and the database. -/
structure Turn where
  session : WhatsAppSession
  stored : Option WhatsAppSession
  db : Db

inductive Reply where
  | text (key : String)
  | withMainMenu (key : String)
  | failed (failure : Failure)
deriving DecidableEq

abbrev Handler (α : Type) := ExceptT Raised (StateM Turn) α

/-- What a message finds around it. -/
structure Env where
  dir : Directory
  fernet : Fernet
  req : Request
  scan : Scan Subscription
  nameOf : UUID → String
  /-- The handlers of the other steps. -/
  others : String → String → Handler Reply

def saveSession : Handler Unit := modify fun turn => { turn with stored := some turn.session }

def clearSession : Handler Unit := modify fun turn => { turn with stored := none }

def changeSession (f : WhatsAppSession → WhatsAppSession) : Handler Unit :=
  modify fun turn => { turn with session := f turn.session }

/-- `data[key]`. -/
def item {α : Type} (key : String) : Option α → Except Raised α
  | some value => .ok value
  | none => .error (.keyError key)

def failing {α : Type} (result : Except Failure α) : Except Raised α :=
  result.mapError .failure

/-! ## The confirmation -/

def getActiveSubscriptionsForClient (env : Env) (db : Db) (clientId : UUID) : List Subscription :=
  orderBy env.scan (·.expiresAt) (db.subscriptions.rows.filter fun sub =>
    sub.tenantId = env.req.tenantId && sub.clientId = clientId && sub.status = .active)

/-- The first active subscription with the same service and streaming email. -/
def duplicateOf (env : Env) (db : Db) (data : TempData) : Option Subscription :=
  match data.clientId, data.serviceId, data.streamingEmail with
  | some clientId, some serviceId, some streamingEmail =>
    (getActiveSubscriptionsForClient env db clientId).find? fun sub =>
      sub.serviceId = serviceId && sub.streamingEmail = streamingEmail
  | _, _, _ => none

def noted (env : Env) (session : WhatsAppSession) (sub : Subscription) : WhatsAppSession :=
  { session with tempData := { session.tempData with
      existingSubId := some sub.id
      duplicateClientName := some (session.tempData.clientName.getD "wa.tenant.errors.unknown")
      duplicateServiceName := some (env.nameOf sub.serviceId) } }

def lookForDuplicate (env : Env) : Handler (Option Reply) := do
  let turn ← get
  match duplicateOf env turn.db turn.session.tempData with
  | none => return none
  | some sub =>
    changeSession fun session => noted env session sub
    let step ← liftM (selfAttr "SUBSCRIPTIONS_STEP_CREATE_DUPLICATE")
    changeSession fun session => { session with step := step }
    saveSession
    return some (.text (← liftM (selfAttr "KEY_SUBSCRIPTIONS_CREATE_DUPLICATE_NOTICE")))

def expiresAtOf (data : TempData) : Except Raised (Option DateTime) :=
  match data.expiresAt with
  | none | some [] => .ok none
  | some raw => (failing (ConsoleDates.readTime raw)).map some

def payloadOf (data : TempData) : Except Raised SubscriptionCreate := do
  let startsAt ← failing (ConsoleDates.readTime (← item "starts_at" data.startsAt))
  let expiresAt ← expiresAtOf data
  let payload : SubscriptionCreate :=
    { clientId := ← item "client_id" data.clientId
      serviceId := ← item "service_id" data.serviceId
      planId := ← item "plan_id" data.planId
      streamingEmail := ← item "streaming_email" data.streamingEmail
      streamingPassword := data.streamingPassword
      profileName := data.profileName
      profilePin := data.profilePin
      durationType := ← item "duration_type" data.durationType
      startsAt := startsAt
      expiresAt := expiresAt }
  failing payload.validate
  return payload

def answerCreation (fromCtx : Bool) (created : Except Failure (Option Subscription)) :
    Handler Reply :=
  match created with
  | .error (.userFacing code) => return .failed (.userFacing code)
  | .error (.valueError text) => return .failed (.valueError text)
  | .error failure => throw (.failure failure)
  | .ok _ => do
    clearSession
    let success ← liftM (selfAttr "KEY_SUBSCRIPTIONS_CREATE_SUCCESS")
    return if fromCtx then .text success else .withMainMenu success

def createFromSession (env : Env) : Handler Reply := do
  let turn ← get
  let payload ← liftM (payloadOf turn.session.tempData)
  let created := (createSubscription env.dir env.fernet env.req payload).run turn.db
  modify fun turn => { turn with db := created.2 }
  answerCreation turn.session.tempData.fromCtx created.1

def handleSubscriptionsCreateConfirm (env : Env) (msg : String) : Handler Reply := do
  if !confirmsLower msg then
    return .text (← liftM (selfAttr "KEY_SUBSCRIPTIONS_CONFIRM_REPROMPT"))
  match ← tryCatch (lookForDuplicate env) fun _ => return none with
  | some notice => return notice
  | none => createFromSession env

/-! ## The screen of the duplicate -/

def handleSubscriptionsCreateDuplicate (env : Env) (msg : String) : Handler Reply := do
  let turn ← get
  let invalid := do return .text (← liftM (selfAttr "KEY_SUBSCRIPTIONS_INVALID_SELECTION"))
  if msg = "1" then
    match turn.session.tempData.existingSubId with
    | none => invalid
    | some existing =>
      changeSession fun session =>
        { session with selectedTenantId := some existing, tempData := .empty }
      let step ← liftM (selfAttr "SUBSCRIPTIONS_STEP_RENEW_DURATION")
      changeSession fun session => { session with step := step }
      saveSession
      return .text (← liftM (selfAttr "KEY_SUBSCRIPTIONS_RENEW_DURATION_PROMPT"))
  else if msg = "2" then
    let step ← liftM (selfAttr "SUBSCRIPTIONS_STEP_CREATE_SERVICE")
    changeSession fun session => { session with step := step }
    saveSession
    if turn.session.tempData.clientId = none then invalid
    else
      let services := env.dir.services.filter (·.tenantId = env.req.tenantId)
      if services = [] then return .text "wa.tenant.errors.no_services"
      else
        let numbered := (services.take 7).mapIdx fun i service => (toString (i + 1), service.id)
        changeSession fun session => { session with
          selectionMap := numbered
          tempData := { session.tempData with servicePage := some 1 } }
        saveSession
        return .text (← liftM (selfAttr "KEY_SUBSCRIPTIONS_CREATE_SERVICE_PROMPT"))
  else invalid

/-! ## Messages -/

def handlerOf (env : Env) (method msg : String) : Handler Reply :=
  if method = "_handle_subscriptions_create_confirm" then handleSubscriptionsCreateConfirm env msg
  else if method = "_handle_subscriptions_create_duplicate" then
    handleSubscriptionsCreateDuplicate env msg
  else env.others method msg

/-- `process_message`, of a session in the flow of the subscriptions. -/
def processActive (env : Env) (message : String) : Handler Reply := do
  let msg := strip message
  if isCancel msg || lower msg ∈ ["menu", "menú", "/menu"] then
    clearSession
    return if msg = "0" then .text "wa.tenant.goodbye" else .withMainMenu "wa.tenant.cancelled"
  else if lower msg = "ayuda" then return .text (← liftM (selfAttr "KEY_HELP_TEXT"))
  else
    let turn ← get
    match ← liftM (routeSubscriptionsFlow turn.session.step) with
    | some method => handlerOf env method msg
    | none => return .text (← liftM (selfAttr "KEY_FALLBACK_ACTIVE_FLOW"))

/-- What is stored after a message: the session of the flow, and the database. -/
def after (env : Env) (session : WhatsAppSession) (db : Db) (message : String) :
    Option WhatsAppSession × Db :=
  let turn := ((processActive env message).run.run ⟨session, some session, db⟩).2
  (turn.stored, turn.db)

/-- An active subscription of the same client, service and streaming email. -/
structure IsDuplicate (env : Env) (db : Db) (data : TempData) (sub : Subscription) : Prop where
  row : sub ∈ db.subscriptions.rows
  tenant : sub.tenantId = env.req.tenantId
  status : sub.status = .active
  client : data.clientId = some sub.clientId
  service : data.serviceId = some sub.serviceId
  email : data.streamingEmail = some sub.streamingEmail

/-- Nothing is created, and the screen of the duplicate offers to renew it or to choose another
service. -/
structure Prevents (env : Env) (session : WhatsAppSession) (db : Db) (message : String)
    (existing : Subscription) : Prop where
  created : (after env session db message).2 = db
  moved : ∃ notice, (after env session db message).1 = some notice ∧
    notice.step = "create_duplicate" ∧
    (∃ renewal, (after env notice db "1").1 = some renewal ∧ renewal.step = "renew_duration" ∧
      renewal.selectedTenantId = some existing.id) ∧
    ∃ picker, (after env notice db "2").1 = some picker ∧ picker.step = "create_service"

/-- A confirmation never creates a duplicate. -/
def Guards (env : Env) (session : WhatsAppSession) (db : Db) : Prop :=
  ∀ message, confirmsLower message = true →
    (∃ sub, IsDuplicate env db session.tempData sub) →
    ∃ sub, IsDuplicate env db session.tempData sub ∧ Prevents env session db message sub

variable {env : Env} {session : WhatsAppSession} {db : Db} {msg message : String} {turn : Turn}

namespace DuplicatesLemmas

theorem names_spec : selfAttr "SUBSCRIPTIONS_STEP_CREATE_DUPLICATE" =
      .error (.attributeError "SUBSCRIPTIONS_STEP_CREATE_DUPLICATE") ∧
    selfAttr "KEY_SUBSCRIPTIONS_CREATE_SUCCESS" = .ok "wa.tenant.subscriptions.create.success" ∧
    routeSubscriptionsFlow "create_confirm" = .ok (some "_handle_subscriptions_create_confirm") ∧
    routeSubscriptionsFlow "create_duplicate" = .ok none := by decide +kernel

theorem words_spec : ∀ word ∈ ["confirmar", "confirm"],
    (decide (word = "0") || decide (word ∈ cancelAliases)) = false ∧
      word ∉ ["menu", "menú", "/menu"] ∧ word ≠ "ayuda" := by decide +kernel

/-- A handler that never stores a session. -/
def Forgets {α : Type} (x : Handler α) : Prop :=
  ∀ turn, (x.run.run turn).2.stored = turn.stored ∨ (x.run.run turn).2.stored = none

theorem forgets_pure {α : Type} (a : α) : Forgets (pure a) := fun _ => .inl rfl

theorem forgets_throw {α : Type} (e : Raised) : Forgets (throw e : Handler α) := fun _ => .inl rfl

theorem forgets_lift {α : Type} (x : Except Raised α) : Forgets (liftM x) := by
  intro turn
  cases x <;> exact .inl rfl

theorem forgets_get : Forgets (get : Handler Turn) := fun _ => .inl rfl

theorem forgets_clear : Forgets clearSession := fun _ => .inr rfl

theorem forgets_modify {f : Turn → Turn} (h : ∀ turn, (f turn).stored = turn.stored) :
    Forgets (modify f : Handler PUnit) := fun turn => .inl (h turn)

theorem bind_run {α β : Type} {x : Handler α} {f : α → Handler β} :
    (x >>= f).run.run turn = match x.run.run turn with
      | (.ok a, turn') => (f a).run.run turn'
      | (.error e, turn') => (.error e, turn') := by
  rw [ExceptT.run_bind, StateT.run_bind]
  rcases x.run.run turn with ⟨_ | _, turn'⟩ <;> rfl

theorem forgets_bind {α β : Type} {x : Handler α} {f : α → Handler β} (hx : Forgets x)
    (hf : ∀ a, Forgets (f a)) : Forgets (x >>= f) := by
  intro turn
  have hfirst := hx turn
  rw [bind_run]
  generalize x.run.run turn = first at hfirst ⊢
  obtain ⟨_ | a, turn'⟩ := first
  · exact hfirst
  · obtain hsame | hnone := hf a turn'
    · rw [hsame]
      exact hfirst
    · exact .inr hnone

theorem forgets_answer {fromCtx : Bool} {created : Except Failure (Option Subscription)} :
    Forgets (answerCreation fromCtx created) := by
  unfold answerCreation
  split
  · exact forgets_pure _
  · exact forgets_pure _
  · exact forgets_throw _
  · refine forgets_bind forgets_clear fun _ => ?_
    exact forgets_bind (forgets_lift _) fun _ => forgets_pure _

theorem forgets_create : Forgets (createFromSession env) := by
  unfold createFromSession
  refine forgets_bind forgets_get fun turn => ?_
  refine forgets_bind (forgets_lift _) fun payload => ?_
  exact forgets_bind (forgets_modify fun _ => rfl) fun _ => forgets_answer

theorem tryCatch_run {α : Type} {x : Handler α} {handler : Raised → Handler α} :
    (tryCatch x handler).run.run turn = match x.run.run turn with
      | (.ok a, turn') => (.ok a, turn')
      | (.error e, turn') => (handler e).run.run turn' := by
  unfold ExceptT.run StateT.run
  simp only [tryCatch, tryCatchThe, MonadExceptOf.tryCatch, ExceptT.tryCatch, ExceptT.mk, bind,
    StateT.bind]
  cases x turn with
  | mk result turn' => cases result <;> rfl

theorem look_run : (tryCatch (lookForDuplicate env) fun _ => return none).run.run turn =
    (.ok none, { turn with
      session := (duplicateOf env turn.db turn.session.tempData).elim turn.session
        (noted env turn.session) }) := by
  rw [tryCatch_run]
  have hlook : (lookForDuplicate env).run.run turn =
      match duplicateOf env turn.db turn.session.tempData with
      | none => (.ok none, turn)
      | some sub => (.error (.attributeError "SUBSCRIPTIONS_STEP_CREATE_DUPLICATE"),
          { turn with session := noted env turn.session sub }) := by
    unfold lookForDuplicate
    rw [bind_run]
    change StateT.run (ExceptT.run (match duplicateOf env turn.db turn.session.tempData with
      | none => _ | some sub => _)) turn = _
    cases duplicateOf env turn.db turn.session.tempData with
    | none => rfl
    | some sub =>
      dsimp only
      rw [bind_run]
      change StateT.run (ExceptT.run (liftM (selfAttr _) >>= _)) _ = _
      rw [names_spec.1]
      rfl
  rw [hlook]
  cases duplicateOf env turn.db turn.session.tempData <;> rfl

theorem create_run : (createFromSession env).run.run turn =
    match payloadOf turn.session.tempData with
    | .error e => (.error e, turn)
    | .ok payload =>
      let created := (createSubscription env.dir env.fernet env.req payload).run turn.db
      (answerCreation turn.session.tempData.fromCtx created.1).run.run
        { turn with db := created.2 } := by
  unfold createFromSession
  rw [bind_run]
  change StateT.run (ExceptT.run (liftM (payloadOf turn.session.tempData) >>= _)) turn = _
  rw [bind_run]
  cases payloadOf turn.session.tempData <;> rfl

theorem answer_run {session' : WhatsAppSession} {fromCtx : Bool}
    {created : Except Failure (Option Subscription)} :
    (answerCreation fromCtx created).run.run { turn with session := session' } =
      let answered := (answerCreation fromCtx created).run.run turn
      (answered.1, { answered.2 with session := session' }) := by
  unfold answerCreation
  rw [names_spec.2.1]
  cases created with
  | ok _ => rfl
  | error failure => cases failure <;> rfl

theorem create_noted {sub : Subscription} :
    let noted := (createFromSession env).run.run
      { turn with session := noted env turn.session sub }
    let plain := (createFromSession env).run.run turn
    noted.1 = plain.1 ∧ noted.2.stored = plain.2.stored ∧ noted.2.db = plain.2.db := by
  dsimp only
  rw [create_run, create_run]
  have hpayload : payloadOf (noted env turn.session sub).tempData =
    payloadOf turn.session.tempData := rfl
  dsimp only
  rw [hpayload]
  cases payloadOf turn.session.tempData with
  | error e => exact ⟨rfl, rfl, rfl⟩
  | ok payload =>
    dsimp only
    generalize (createSubscription env.dir env.fernet env.req payload).run turn.db = created
    have hsame := @answer_run { turn with db := created.2 } (noted env turn.session sub)
      turn.session.tempData.fromCtx created.1
    dsimp only at hsame
    rw [show (noted env turn.session sub).tempData.fromCtx = turn.session.tempData.fromCtx from rfl,
      hsame]
    exact ⟨rfl, rfl, rfl⟩

end DuplicatesLemmas

open DuplicatesLemmas

theorem confirm_run (h : confirmsLower msg = true) :
    let confirmed := (handleSubscriptionsCreateConfirm env msg).run.run turn
    let created := (createFromSession env).run.run turn
    confirmed.1 = created.1 ∧ confirmed.2.stored = created.2.stored ∧
      confirmed.2.db = created.2.db := by
  dsimp only
  have hrun : (handleSubscriptionsCreateConfirm env msg).run.run turn =
      (createFromSession env).run.run { turn with
        session := (duplicateOf env turn.db turn.session.tempData).elim turn.session
          (noted env turn.session) } := by
    unfold handleSubscriptionsCreateConfirm
    rw [h]
    change StateT.run (ExceptT.run (tryCatch (lookForDuplicate env) (fun _ => return none) >>= _))
      turn = _
    rw [bind_run, look_run]
  rw [hrun]
  cases duplicateOf env turn.db turn.session.tempData with
  | none => exact ⟨rfl, rfl, rfl⟩
  | some sub => exact create_noted

theorem process_run (hstep : turn.session.step = "create_confirm")
    (h : confirmsLower message = true) :
    (processActive env message).run.run turn =
      (handleSubscriptionsCreateConfirm env (strip message)).run.run turn := by
  have hclean : clean message ∈ ["confirmar", "confirm"] := by
    unfold confirmsLower at h
    rw [Bool.or_eq_true, decide_eq_true_eq, decide_eq_true_eq] at h
    simpa using h
  have hlower : lower (strip message) = clean message := rfl
  obtain ⟨hcancel, hmenu, hhelp⟩ := words_spec _ hclean
  have hmenu : (isCancel (strip message) || lower (strip message) ∈ ["menu", "menú", "/menu"]) =
      false := by
    unfold isCancel
    rw [clean_strip, hcancel, hlower, Bool.false_or]
    exact decide_eq_false hmenu
  rw [← hlower] at hhelp
  unfold processActive
  generalize strip message = msg at hmenu hhelp ⊢
  dsimp only
  rw [if_neg (Bool.eq_false_iff.mp hmenu), if_neg hhelp]
  have hget : ∀ f : Turn → Handler Reply, (get >>= f).run.run turn = (f turn).run.run turn :=
    fun f => by rw [bind_run]; rfl
  have hroute : ∀ f : Option String → Handler Reply,
      (liftM (routeSubscriptionsFlow turn.session.step) >>= f).run.run turn =
        (f (some "_handle_subscriptions_create_confirm")).run.run turn := fun f => by
    rw [hstep, names_spec.2.2.1, bind_run]
    rfl
  rw [hget, hroute]
  dsimp only
  rw [show handlerOf env "_handle_subscriptions_create_confirm" msg =
    handleSubscriptionsCreateConfirm env msg from if_pos rfl]

theorem after_confirm (hstep : session.step = "create_confirm")
    (h : confirmsLower message = true) :
    after env session db message =
      (((createFromSession env).run.run ⟨session, some session, db⟩).2.stored,
        ((createFromSession env).run.run ⟨session, some session, db⟩).2.db) := by
  have hstrip : confirmsLower (strip message) = true := by
    unfold confirmsLower at h ⊢
    rwa [clean_strip]
  unfold after
  rw [process_run hstep h]
  dsimp only
  rw [(confirm_run hstrip).2.1, (confirm_run hstrip).2.2]

/-- A duplicate is never prevented. -/
theorem guards_iff (env : Env) (db : Db) (hstep : session.step = "create_confirm") :
    Guards env session db ↔ ¬∃ sub, IsDuplicate env db session.tempData sub := by
  constructor
  · intro hguards hduplicate
    have hconfirms : confirmsLower "CONFIRMAR" = true := by decide +kernel
    obtain ⟨sub, -, hprevents⟩ := hguards _ hconfirms hduplicate
    obtain ⟨notice, hstored, hmoved, -⟩ := hprevents.moved
    rw [after_confirm hstep hconfirms] at hstored
    dsimp only at hstored
    obtain hsame | hnone := @forgets_create env ⟨session, some session, db⟩
    · rw [hsame] at hstored
      rw [← Option.some.inj hstored, hstep] at hmoved
      exact absurd hmoved (by decide)
    · rw [hnone] at hstored
      nomatch hstored
  · intro hnone _ _ hduplicate
    exact absurd hduplicate hnone

/-! ## A subscription that is there -/

def exEnv : Env where
  dir := exDirectory
  fernet := exFernet
  req := exRequest
  scan := Scan.stored
  nameOf _ := "Netflix"
  others _ _ := return .text ""

def exConfirm : WhatsAppSession where
  step := "create_confirm"
  tempData := { TempData.empty with
    clientId := some ⟨3⟩
    serviceId := some ⟨4⟩
    planId := some ⟨5⟩
    streamingEmail := some "ana@example.com"
    durationType := some "1_month"
    startsAt := some exStart.isoformat }
  selectedTenantId := none
  selectionMap := []

/-- The confirmation of the example guards exactly if there is no duplicate. -/
theorem guards_exConfirm : Guards exEnv exConfirm exDb ↔
    ¬∃ sub, IsDuplicate exEnv exDb exConfirm.tempData sub :=
  guards_iff exEnv exDb rfl

/-- A third subscription with the same data is created. -/
theorem duplicate_created : (after exEnv exConfirm exDb "CONFIRMAR").1 = none ∧
    (after exEnv exConfirm exDb "CONFIRMAR").2.subscriptions.rows.map (·.streamingEmail) =
      ["ana@example.com", "ana@example.com", "ana@example.com"] ∧
    ¬Guards exEnv exConfirm exDb := by
  have hconfirms : confirmsLower "CONFIRMAR" = true := by decide +kernel
  have hduplicate : IsDuplicate exEnv exDb exConfirm.tempData exRow :=
    ⟨List.mem_cons_self, rfl, rfl, rfl, rfl, rfl⟩
  have hrows : (after exEnv exConfirm exDb "CONFIRMAR").2.subscriptions.rows.map
      (·.streamingEmail) = ["ana@example.com", "ana@example.com", "ana@example.com"] := by
    rw [after_confirm rfl hconfirms]
    decide +kernel
  refine ⟨?_, hrows, fun hguards => ?_⟩
  · rw [after_confirm rfl hconfirms]
    decide +kernel
  · obtain ⟨sub, -, hprevents⟩ := hguards _ hconfirms ⟨exRow, hduplicate⟩
    rw [hprevents.created] at hrows
    exact absurd hrows (by decide)

end Trackpal.Lifecycle.Duplicates
