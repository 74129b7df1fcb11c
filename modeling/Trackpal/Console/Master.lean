import Trackpal.Accounts.Lockout
import Trackpal.Console.Navigation
import Trackpal.Foundation.Menus

/-!
# The console of the master

`WhatsAppMasterConsoleFacade` and `WhatsAppConsoleService`: a phone logs in with user and password,
and then works on the tenants in flows of several messages. The login, the conversation, the
counter of failures and the lock are records that expire on their own.

Results:
1. `console_spec`: what the console does to the session, flow by flow, and which calls it makes.
2. `runLoginFlow_spec`, `process_spec`: the same for the login and for the facade.
-/

namespace Trackpal.Console.Master

open Foundation Accounts

/-! ## Data -/

structure User where
  id : String
  username : String
  role : String
deriving DecidableEq, Repr

structure Tenant where
  id : String
  fullName : String
  username : String
  phone : Option String
  evolutionInstanceName : Option String
  isActive : Bool
  createdAt : Option String
deriving DecidableEq, Repr

inductive EditField where
  | fullName
  | phone
  | evolutionInstanceName
deriving DecidableEq, Repr

inductive PasswordMode where
  | auto
  | manual
deriving DecidableEq, Repr

structure Payload where
  fullName : String
  phone : Option String
  username : String
  evolutionInstanceName : String
  password : Option String
deriving DecidableEq, Repr

inductive Call where
  | create (payload : Payload)
  | update (id : String) (field : EditField) (value : Option String)
  | activate (id : String)
  | deactivate (id : String)
  | delete (id : String)
deriving DecidableEq, Repr

inductive Result where
  | success (tenant : Option Tenant) (autoPassword : Option String)
  | failure (error : String)
deriving DecidableEq, Repr

/-- What a message finds outside the console: the clock, the users, and the tenant service. -/
structure World where
  now : Int
  usedBackup : Bool
  hasDb : Bool
  authenticate : String → String → Option User
  getByUsername : String → Option User
  tenants : List Tenant
  getTenant : String → Option Tenant
  getTenantByUsername : String → Option Tenant
  result : Call → Result

/-- `input_validation`: an error comes with its text. -/
structure Validators where
  fullName : String → Except String String
  phone : String → Except String (Option String)
  username : String → Except String String

/-- `WhatsAppAuthSession`. -/
structure AuthSession where
  userId : String
  username : String
  role : String
  authenticatedAt : Int
deriving DecidableEq, Repr

inductive Flow where
  | none
  | auth
  | list
  | detail
  | create
  | edit
  | deactivate
  | delete
deriving DecidableEq, Repr

inductive Step where
  | none
  | username
  | password
  | select
  | actions
  | fullName
  | phone
  | evolutionInstance
  | passwordMode
  | manualPassword
  | confirm
  | selectField
  | newValue
  | confirmDeactivate
  | confirmDelete
deriving DecidableEq, Repr

structure TempData where
  username : Option String
  fullName : Option String
  phone : Option String
  evolutionInstanceName : Option String
  passwordMode : Option PasswordMode
  password : Option String
  editField : Option EditField
deriving DecidableEq, Repr

def TempData.empty : TempData := ⟨none, none, none, none, none, none, none⟩

/-- `ConversationSession`. -/
structure Session where
  flow : Flow
  step : Step
  selectedTenantId : Option String
  tempData : TempData
  selectionMap : List (String × String)
deriving DecidableEq, Repr

def Session.fresh : Session := ⟨.none, .none, none, .empty, []⟩

/-- The replies, with what their templates are filled with. -/
inductive Reply where
  | locked (minutes : Int)
  | loggedOut
  | usernamePrompt
  | passwordPrompt (username : String)
  | loginHelp
  | unknownUsername (username : String)
  | wrongPassword (username : String)
  | roleNotAllowed
  | temporaryUnavailable
  | mainMenu
  | cancelled
  | helpText
  | fallbackNoFlow
  | fallbackActiveFlow
  | sessionReset
  | noTenants
  | tenantList (tenants : List Tenant)
  | invalidSelection
  | detail (tenant : Tenant)
  | detailFallback
  | editFields
  | invalidField
  | editPrompt (field : EditField) (error : Option String)
  | updateFailed
  | updated (name : String)
  | deactivatePrompt (id name : String) (error : Option String)
  | deletePrompt (id name : String)
  | confirmReprompt
  | deactivated (name : String)
  | reactivated (name : String)
  | deleted (name : String)
  | failed (error : String)
  | cantDeleteActive
  | createPrompt (step : Step) (error : Option String)
  | usernameTaken (username : String)
  | instanceEmpty
  | invalidPasswordMode
  | passwordEmpty
  | shortPassword
  | createSummary (data : TempData) (before : Option String)
  | created (tenant : Option Tenant) (autoPassword : Option String)
deriving DecidableEq, Repr

/-- A value that a message gives to the tenant that is created. -/
inductive Item where
  | fullName (value : String)
  | phone (value : Option String)
  | username (value : String)
  | evolutionInstanceName (value : String)
  | passwordMode (mode : PasswordMode)
  | password (value : String)
deriving DecidableEq, Repr

/-- What a message does beside its reply. -/
inductive Effect where
  | called (call : Call)
  | loggedIn (session : AuthSession)
  | loggedOut
  | lockedOut
  | begun (flow : Flow)
  | took (item : Item)
deriving DecidableEq, Repr

def resetCommands : List String := ["0", "menu", "menú", "/menu", "cancelar"]

def menuCommands : List String := ["menu", "menú", "/menu"]

def helpCommands : List String := ["5", "ayuda"]

def skipWords : List String := ["—", "skip", "ninguno", "none", "-"]

/-! ## The console -/

/-- The reply of the console, the stored session, and the effects. -/
structure Outcome where
  reply : Reply
  session : Option Session
  effects : List Effect
deriving DecidableEq, Repr

/-- A reply without any change. -/
def Session.stay (s : Session) (reply : Reply) : Outcome := ⟨reply, some s, []⟩

/-- The session is deleted after a call. -/
def finish (reply : Reply) (call : Call) : Outcome := ⟨reply, none, [.called call]⟩

variable (v : Validators) (w : World)

def handleListTenants (session : Option Session) : Outcome :=
  if w.tenants = [] then ⟨.noTenants, session, []⟩
  else
    let s := session.getD .fresh
    ⟨.tenantList w.tenants, some { s with
      flow := .list, step := .select,
      selectionMap := (numbered w.tenants).map fun entry => (entry.1, entry.2.id) },
      [.begun .list]⟩

def handleListSelection (s : Session) (msg : String) : Outcome :=
  match s.selectionMap.lookup msg with
  | none => s.stay .invalidSelection
  | some id =>
    match w.getTenant id with
    | none => s.stay .invalidSelection
    | some tenant =>
      ⟨.detail tenant, some { s with
        flow := .detail, step := .actions, selectedTenantId := some id, selectionMap := [] }, []⟩

def startCreateFlow (session : Option Session) : Outcome :=
  let s := session.getD .fresh
  ⟨.createPrompt .fullName none,
    some { s with flow := .create, step := .fullName, tempData := .empty }, [.begun .create]⟩

/-- A value is stored, and the next step begins. -/
def Session.take (s : Session) (item : Item) (data : TempData) (step : Step) (reply : Reply) :
    Outcome :=
  ⟨reply, some { s with tempData := data, step }, [.took item]⟩

def handleCreateFullName (s : Session) (msg : String) : Outcome :=
  match v.fullName msg with
  | .error e => s.stay (.createPrompt .fullName (some e))
  | .ok name =>
    s.take (.fullName name) { s.tempData with fullName := some name } .phone
      (.createPrompt .phone none)

def handleCreatePhone (s : Session) (msg : String) : Outcome :=
  if strip msg = "" ∨ lower (strip msg) ∈ skipWords then
    s.take (.phone none) { s.tempData with phone := none } .username (.createPrompt .username none)
  else
    match v.phone (strip msg) with
    | .error e => s.stay (.createPrompt .phone (some e))
    | .ok phone =>
      s.take (.phone phone) { s.tempData with phone } .username (.createPrompt .username none)

def handleCreateUsername (s : Session) (msg : String) : Outcome :=
  match v.username msg with
  | .error e => s.stay (.createPrompt .username (some e))
  | .ok username =>
    if (w.getTenantByUsername username).isSome then s.stay (.usernameTaken username)
    else
      s.take (.username username) { s.tempData with username := some username }
        .evolutionInstance (.createPrompt .evolutionInstance none)

def handleCreateEvolutionInstance (s : Session) (msg : String) : Outcome :=
  if strip msg = "" then s.stay .instanceEmpty
  else
    s.take (.evolutionInstanceName (strip msg))
      { s.tempData with evolutionInstanceName := some (strip msg) } .passwordMode
      (.createPrompt .passwordMode none)

def handleCreatePasswordMode (s : Session) (msg : String) : Outcome :=
  if strip msg = "1" then
    let data := { s.tempData with passwordMode := some .auto }
    s.take (.passwordMode .auto) data .confirm (.createSummary data none)
  else if strip msg = "2" then
    s.take (.passwordMode .manual) { s.tempData with passwordMode := some .manual }
      .manualPassword (.createPrompt .manualPassword none)
  else s.stay .invalidPasswordMode

def handleCreateManualPassword (s : Session) (msg : String) : Outcome :=
  if strip msg = "" then s.stay .passwordEmpty
  else if (strip msg).length < 6 then s.stay .shortPassword
  else
    let data := { s.tempData with password := some (strip msg) }
    s.take (.password (strip msg)) data .confirm (.createSummary data none)

def TempData.payload (data : TempData) : Payload where
  fullName := data.fullName.getD ""
  phone := data.phone
  username := data.username.getD ""
  evolutionInstanceName := data.evolutionInstanceName.getD ""
  password := if data.passwordMode = some .manual then data.password else none

/-- `str.lower`, as far as the result can be a letter of the words that are looked for. -/
def lowerError (text : String) : String :=
  .ofList (text.toList.map fun c => if c = 'É' then 'é' else lowerChar c)

def confirmHint : String := "❌ Para confirmar, escribe *CONFIRMAR* (en mayúsculas o minúsculas)."

def handleCreateConfirm (s : Session) (msg : String) : Outcome :=
  if upper (strip msg) ≠ "CONFIRMAR" then s.stay (.createSummary s.tempData (some confirmHint))
  else
    let call := Call.create s.tempData.payload
    match w.result call with
    | .success tenant autoPassword => finish (.created tenant autoPassword) call
    | .failure error =>
      if occursIn "phone" (lowerError error) ∨ occursIn "teléfono" (lowerError error) then
        ⟨.createPrompt .phone (some error), some { s with step := .phone }, [.called call]⟩
      else if occursIn "username" (lowerError error) ∨ occursIn "usuario" (lowerError error) then
        ⟨.createPrompt .username (some error), some { s with step := .username }, [.called call]⟩
      else ⟨.createSummary s.tempData (some error), some s, [.called call]⟩

def handleCreateStep (s : Session) (msg : String) : Outcome :=
  match s.step with
  | .fullName => handleCreateFullName v s msg
  | .phone => handleCreatePhone v s msg
  | .username => handleCreateUsername v w s msg
  | .evolutionInstance => handleCreateEvolutionInstance s msg
  | .passwordMode => handleCreatePasswordMode s msg
  | .manualPassword => handleCreateManualPassword s msg
  | .confirm => handleCreateConfirm w s msg
  | _ => s.stay .fallbackActiveFlow

def startEditFlow (s : Session) : Outcome :=
  ⟨.editFields, some { s with flow := .edit, step := .selectField, tempData := .empty }, []⟩

def editFieldMap : List (String × EditField) :=
  [("1", .fullName), ("2", .phone), ("3", .evolutionInstanceName)]

def handleEditSelectField (s : Session) (msg : String) : Outcome :=
  match editFieldMap.lookup msg with
  | none => s.stay .invalidField
  | some field =>
    ⟨.editPrompt field none, some { s with
      step := .newValue, tempData := { s.tempData with editField := some field } }, []⟩

def newValue (field : EditField) (msg : String) : Except String (Option String) :=
  match field with
  | .fullName => (v.fullName msg).map some
  | .phone => if strip msg = "" then .ok none else v.phone (strip msg)
  | .evolutionInstanceName =>
    if strip msg = "" then .error "El nombre de instancia Evolution no puede estar vacío."
    else .ok (some (strip msg))

def updatedName (id : String) (tenant : Option Tenant) : String :=
  match tenant with
  | some tenant => if tenant.fullName = "" then id else tenant.fullName
  | none => id

def handleEditNewValue (s : Session) (msg : String) : Outcome :=
  match s.tempData.editField with
  | none => s.stay .updateFailed
  | some field =>
    match newValue v field msg with
    | .error e => s.stay (.editPrompt field (some e))
    | .ok value =>
      match truthy s.selectedTenantId with
      | none => s.stay .updateFailed
      | some id =>
        let call := Call.update id field value
        match w.result call with
        | .success tenant _ => finish (.updated (updatedName id tenant)) call
        | .failure error => ⟨.editPrompt field (some error), some s, [.called call]⟩

def handleEditStep (s : Session) (msg : String) : Outcome :=
  match s.step with
  | .selectField => handleEditSelectField s msg
  | .newValue => handleEditNewValue v w s msg
  | _ => s.stay .fallbackActiveFlow

def handleDetailDeactivateReactivate (s : Session) (id : String) : Outcome :=
  match w.getTenant id with
  | none => s.stay .invalidSelection
  | some tenant =>
    if tenant.isActive then
      ⟨.deactivatePrompt id tenant.fullName none,
        some { s with flow := .deactivate, step := .confirmDeactivate }, []⟩
    else
      let call := Call.activate id
      match w.result call with
      | .success _ _ => finish (.reactivated tenant.fullName) call
      | .failure error => ⟨.failed error, some s, [.called call]⟩

def handleDetailDelete (s : Session) (id : String) : Outcome :=
  match w.getTenant id with
  | none => s.stay .invalidSelection
  | some tenant =>
    if tenant.isActive then s.stay .cantDeleteActive
    else
      ⟨.deletePrompt id tenant.fullName, some { s with flow := .delete, step := .confirmDelete },
        []⟩

def handleDetailAction (s : Session) (msg : String) : Outcome :=
  match truthy s.selectedTenantId with
  | none => s.stay .detailFallback
  | some id =>
    if msg = "1" then startEditFlow s
    else if msg = "2" then handleDetailDeactivateReactivate w s id
    else if msg = "3" then handleDetailDelete w s id
    else s.stay .detailFallback

def tenantName (id : String) : String := ((w.getTenant id).map (·.fullName)).getD id

def handleDeactivateConfirm (s : Session) (msg : String) : Outcome :=
  if upper (strip msg) ≠ "CONFIRMAR" then s.stay .confirmReprompt
  else
    match truthy s.selectedTenantId with
    | none => s.stay .detailFallback
    | some id =>
      let call := Call.deactivate id
      match w.result call with
      | .success _ _ => finish (.deactivated (tenantName w id)) call
      | .failure error =>
        ⟨.deactivatePrompt id (tenantName w id) (some error), some s, [.called call]⟩

def handleDeleteConfirm (s : Session) (msg : String) : Outcome :=
  if upper (strip msg) ≠ "CONFIRMAR" then s.stay .confirmReprompt
  else
    match truthy s.selectedTenantId with
    | none => s.stay .detailFallback
    | some id =>
      let call := Call.delete id
      match w.result call with
      | .success _ _ => finish (.deleted (tenantName w id)) call
      | .failure error => ⟨.failed error, some s, [.called call]⟩

def activeFlow (s : Session) (msg : String) : Outcome :=
  if isCancel msg ∨ lower msg ∈ menuCommands then ⟨.cancelled, none, []⟩
  else if lower msg ∈ helpCommands then s.stay .helpText
  else
    match s.flow with
    | .list => if s.step = .select then handleListSelection w s msg else s.stay .fallbackActiveFlow
    | .create => handleCreateStep v w s msg
    | .detail =>
      if s.step = .actions then handleDetailAction w s msg else s.stay .fallbackActiveFlow
    | .edit => handleEditStep v w s msg
    | .deactivate =>
      if s.step = .confirmDeactivate then handleDeactivateConfirm w s msg
      else s.stay .fallbackActiveFlow
    | .delete =>
      if s.step = .confirmDelete then handleDeleteConfirm w s msg else s.stay .fallbackActiveFlow
    | .none | .auth => s.stay .fallbackActiveFlow

def noFlow (session : Option Session) (msg : String) : Outcome :=
  if lower msg ∈ resetCommands then ⟨.mainMenu, none, []⟩
  else if session = none ∧ w.usedBackup = true then ⟨.sessionReset, some .fresh, []⟩
  else if lower msg ∈ helpCommands then ⟨.helpText, session, []⟩
  else if msg = "" then ⟨.mainMenu, session, []⟩
  else if msg = "1" ∨ msg = "3" ∨ msg = "4" then handleListTenants w session
  else if msg = "2" then startCreateFlow session
  else ⟨.fallbackNoFlow, session, []⟩

/-- `WhatsAppConsoleService.process_message` for a master. -/
def console (session : Option Session) (message : String) : Outcome :=
  match session with
  | none => noFlow w none (strip message)
  | some s =>
    if s.flow = .none then noFlow w (some s) (strip message) else activeFlow v w s (strip message)

/-! ## The facade -/

/-- The records of a phone. -/
structure State where
  auth : Option AuthSession
  session : Option Session
  fails : Option Lockout.FailState
  lock : Option Lockout.LockState
deriving DecidableEq, Repr

/-- The reply to a message, what it leaves, and its effects. -/
structure Turn where
  reply : Reply
  state : State
  effects : List Effect
deriving DecidableEq, Repr

variable (settings : Lockout.Settings)

/-- `_compute_remaining_minutes`. -/
def remainingMinutes (lock : Lockout.LockState) : Int :=
  max 1 ((lock.lockedUntil - w.now) / (60 * Lockout.second) + 1)

def loginResetCommands : List String := resetCommands ++ ["salir", "cerrar"]

def Session.login : Session := { Session.fresh with flow := .auth, step := .username }

/-- `_record_failure_and_check_lockout`, and the reply if the phone is not locked out. -/
def recordFailure (s : State) (otherwise : Reply) : Turn :=
  match Lockout.recordFailedAttempt settings w.now s.fails with
  | .lock _ lock =>
    ⟨.locked (remainingMinutes w lock),
      { s with fails := none, lock := some lock, session := none }, [.lockedOut]⟩
  | .count fails _ => ⟨otherwise, { s with fails := some fails }, []⟩

/-- The records after a reset: no login, and no conversation. -/
def State.cleared (s : State) : State := { s with auth := none, session := none }

def handleUsernameStep (s : State) (session : Session) (msg : String) : Turn :=
  let username := lower msg
  if msg = "" then ⟨.usernamePrompt, s, []⟩
  else if username ∈ loginResetCommands then ⟨.usernamePrompt, s.cleared, []⟩
  else if username ∈ helpCommands then ⟨.loginHelp, s, []⟩
  else if w.hasDb = true ∧ w.getByUsername username = none then
    recordFailure w settings s (.unknownUsername username)
  else
    ⟨.passwordPrompt username, { s with session := some { session with
      tempData := { session.tempData with username := some username }, step := .password } }, []⟩

/-- The login of a user. -/
def authSession (user : User) : AuthSession where
  userId := user.id
  username := user.username
  role := user.role
  authenticatedAt := w.now

def handlePasswordStep (s : State) (session : Session) (msg : String) : Turn :=
  let username := session.tempData.username.getD ""
  if msg = "" then ⟨.passwordPrompt username, s, []⟩
  else if lower msg ∈ loginResetCommands then ⟨.usernamePrompt, s.cleared, []⟩
  else if lower msg ∈ helpCommands then ⟨.loginHelp, s, []⟩
  else if w.hasDb = false then ⟨.temporaryUnavailable, s, []⟩
  else
    match w.authenticate username msg with
    | none =>
      if w.getByUsername username = none then
        recordFailure w settings s (.unknownUsername username)
      else recordFailure w settings s (.wrongPassword username)
    | some user =>
      if user.role ≠ "master" then
        let turn := recordFailure w settings s .roleNotAllowed
        { turn with state := { turn.state with session := none } }
      else
        ⟨.mainMenu, { s with auth := some (authSession w user), session := none, fails := none },
          [.loggedIn (authSession w user)]⟩

def runLoginFlow (s : State) (message : String) : Turn :=
  let msg := strip message
  if lower msg ∈ loginResetCommands then
    ⟨.usernamePrompt, { s.cleared with session := some .login }, []⟩
  else if lower msg ∈ helpCommands then ⟨.loginHelp, s, []⟩
  else
    match s.session with
    | none => ⟨.usernamePrompt, { s with session := some .login }, []⟩
    | some session =>
      if session.flow ≠ .auth then ⟨.usernamePrompt, { s with session := some .login }, []⟩
      else
        match session.step with
        | .username => handleUsernameStep w settings s session msg
        | .password => handlePasswordStep w settings s session msg
        | _ => ⟨.usernamePrompt, { s with session := none }, []⟩

def State.master (s : State) : Option AuthSession := s.auth.filter (·.role = "master")

def State.inForce (s : State) : Option Lockout.LockState := s.lock.filter (·.isLocked w.now)

/-- `process_message` of the facade. -/
def process (s : State) (message : String) : Turn :=
  match s.inForce w with
  | some lock => ⟨.locked (remainingMinutes w lock), s, []⟩
  | none =>
    match s.master with
    | some _ =>
      if isCancel (strip message) then ⟨.loggedOut, s.cleared, [.loggedOut]⟩
      else
        let out := console v w s.session message
        ⟨out.reply, { s with session := out.session }, out.effects⟩
    | none => runLoginFlow w settings s message

/-! ## What a message can do -/

def Reply.asks : Reply → Option Call
  | .deactivatePrompt id _ _ => some (.deactivate id)
  | .deletePrompt id _ => some (.delete id)
  | _ => none

def Reply.NamesTenant : Reply → Prop
  | .deactivatePrompt id name _ | .deletePrompt id name => name = tenantName w id
  | _ => True

/-- The value that a message gives. -/
def Item.ReadFrom (text : String) : Item → Prop
  | .fullName value => v.fullName (strip text) = .ok value
  | .phone value =>
    value = none ∧ (strip text = "" ∨ lower (strip text) ∈ skipWords) ∨
      v.phone (strip text) = .ok value
  | .username value => v.username (strip text) = .ok value
  | .evolutionInstanceName value => value = strip text ∧ value ≠ ""
  | .passwordMode mode => strip text = match mode with | .auto => "1" | .manual => "2"
  | .password value => value = strip text ∧ 6 ≤ value.length

def TempData.store (data : TempData) : Item → TempData
  | .fullName value => { data with fullName := some value }
  | .phone value => { data with phone := value }
  | .username value => { data with username := some value }
  | .evolutionInstanceName value => { data with evolutionInstanceName := some value }
  | .passwordMode mode => { data with passwordMode := some mode }
  | .password value => { data with password := some value }

def TempData.HasPassword (data : TempData) : Prop :=
  data.passwordMode = some .auto ∨ data.passwordMode = some .manual ∧ data.password.isSome

/-- What the steps before have collected. -/
def TempData.Ready (data : TempData) : Step → Prop
  | .fullName => True
  | .phone | .username => data.fullName.isSome
  | .evolutionInstance => data.fullName.isSome ∧ data.username.isSome
  | .passwordMode => data.fullName.isSome ∧ data.username.isSome ∧ data.evolutionInstanceName.isSome
  | .manualPassword =>
    data.fullName.isSome ∧ data.username.isSome ∧ data.evolutionInstanceName.isSome ∧
      data.passwordMode = some .manual
  | .confirm =>
    data.fullName.isSome ∧ data.username.isSome ∧ data.evolutionInstanceName.isSome ∧
      data.HasPassword
  | _ => False

def Confirmar (text : String) : Prop := upper (strip text) = "CONFIRMAR"

def Call.flow : Call → Flow
  | .deactivate _ => .deactivate
  | .delete _ => .delete
  | _ => .none

/-- What the console can do with a message. -/
inductive Does (text : String) : Option Session → Outcome → Prop
  | cleared {session reply} : reply.asks = none → Does text session ⟨reply, none, []⟩
  | kept {session reply} : reply.asks = none → Does text session ⟨reply, session, []⟩
  | reset : Does text none ⟨.sessionReset, some .fresh, []⟩
  | listed {session reply} {s : Session} :
      reply.asks = none → s.flow = .list → Does text session ⟨reply, some s, [.begun .list]⟩
  | creates {session reply} {s : Session} :
      reply.asks = none → s.flow = .create → s.step = .fullName → s.tempData = .empty →
      Does text session ⟨reply, some s, [.begun .create]⟩
  | moved {s s' : Session} {reply} :
      reply.asks = none → s.flow ∈ [.list, .detail, .edit] → s'.flow ∈ [.detail, .edit] →
      Does text (some s) ⟨reply, some s', []⟩
  | asked {s s' : Session} {reply} {call : Call} :
      s.flow = .detail → reply.asks = some call → reply.NamesTenant w → s'.flow = call.flow →
      call ∈ [.deactivate (s'.selectedTenantId.getD ""), .delete (s'.selectedTenantId.getD "")] →
      Does text (some s) ⟨reply, some s', []⟩
  | took {s s' : Session} {reply} {item : Item} :
      reply.asks = none → s.flow = .create → s'.flow = .create → item.ReadFrom v text →
      s'.tempData = s.tempData.store item →
      (s.tempData.Ready s.step → s'.tempData.Ready s'.step) →
      Does text (some s) ⟨reply, some s', [.took item]⟩
  | called {s : Session} {reply session} {call : Call} :
      reply.asks = none → session = none ∨ session = some s → s.flow ∈ [.detail, .edit] →
      (∀ payload, call ≠ .create payload) → call.flow = .none →
      Does text (some s) ⟨reply, session, [.called call]⟩
  | confirmed {s : Session} {reply session} {call : Call} :
      reply.asks = none → Confirmar text → s.flow = call.flow →
      call ∈ [.deactivate (s.selectedTenantId.getD ""), .delete (s.selectedTenantId.getD "")] →
      session = none ∨ session = some s →
      Does text (some s) ⟨reply, session, [.called call]⟩
  | askedAgain {s : Session} {reply} {call : Call} :
      reply.asks = some call → reply.NamesTenant w → Confirmar text → s.flow = call.flow →
      call ∈ [.deactivate (s.selectedTenantId.getD ""), .delete (s.selectedTenantId.getD "")] →
      Does text (some s) ⟨reply, some s, [.called call]⟩
  | created {s : Session} {reply session} :
      reply.asks = none → Confirmar text → s.flow = .create → s.step = .confirm →
      (∀ s', session = some s' → s'.flow = .create ∧ s'.tempData = s.tempData ∧
        (s.tempData.Ready .confirm → s'.tempData.Ready s'.step)) →
      Does text (some s) ⟨reply, session, [.called (.create s.tempData.payload)]⟩

def IsLogin (text : String) (auth : AuthSession) : Prop :=
  ∃ username user, w.authenticate username (strip text) = some user ∧ user.role = "master" ∧
    auth = authSession w user

inductive LoginDoes (text : String) (s : State) : Turn → Prop
  | quiet {reply : Reply} {state : State} :
      reply.asks = none → state.auth = none ∨ state.auth = s.auth →
      (∀ session, state.session = some session → state.session = s.session ∨ session.flow = .auth) →
      LoginDoes text s ⟨reply, state, []⟩
  | lockedOut {reply : Reply} {state : State} :
      reply.asks = none → state.auth = s.auth → state.session = none →
      LoginDoes text s ⟨reply, state, [.lockedOut]⟩
  | loggedIn {reply : Reply} {state : State} {auth : AuthSession} :
      reply.asks = none → IsLogin w text auth → state.auth = some auth → state.session = none →
      LoginDoes text s ⟨reply, state, [.loggedIn auth]⟩

/-- What the facade can do with a message. -/
inductive Handles (text : String) (s : State) : Turn → Prop
  | locked {reply : Reply} : reply.asks = none → Handles text s ⟨reply, s, []⟩
  | loggedOut {auth : AuthSession} :
      s.inForce w = none → s.master = some auth →
      Handles text s ⟨.loggedOut, s.cleared, [.loggedOut]⟩
  | console {auth : AuthSession} {out : Outcome} :
      s.inForce w = none → s.master = some auth → Does v w text s.session out →
      Handles text s ⟨out.reply, { s with session := out.session }, out.effects⟩
  | login {turn : Turn} :
      s.inForce w = none → s.master = none → LoginDoes w text s turn → Handles text s turn

variable {v w settings} {s : Session} {session : Option Session} {text msg : String}

namespace MasterLemmas

theorem getD_of_truthy {value : Option String} {id : String} (h : truthy value = some id) :
    value.getD "" = id := by
  unfold truthy at h
  rw [(Option.filter_eq_some_iff.mp h).1, Option.getD_some]

theorem does_stay {reply : Reply} (h : reply.asks = none) :
    Does v w text (some s) (s.stay reply) := .kept h

theorem does_take {item : Item} {data : TempData} {next : Step} {reply : Reply}
    (hasks : reply.asks = none) (hflow : s.flow = .create) (hread : item.ReadFrom v text)
    (hdata : data = s.tempData.store item) (hready : s.tempData.Ready s.step → data.Ready next) :
    Does v w text (some s) (s.take item data next reply) :=
  .took hasks hflow hflow hread hdata hready

theorem handleListTenants_spec : Does v w text session (handleListTenants w session) := by
  unfold handleListTenants
  split
  · exact .kept rfl
  · exact .listed rfl rfl

theorem handleListSelection_spec (hflow : s.flow = .list) :
    Does v w text (some s) (handleListSelection w s msg) := by
  have hmem : s.flow ∈ [.list, .detail, .edit] := by simp [hflow]
  unfold handleListSelection
  split
  · exact does_stay rfl
  · split
    · exact does_stay rfl
    · exact .moved rfl hmem (by simp)

theorem startCreateFlow_spec : Does v w text session (startCreateFlow session) :=
  .creates rfl rfl rfl rfl

theorem handleCreateFullName_spec (hflow : s.flow = .create) :
    Does v w text (some s) (handleCreateFullName v s (strip text)) := by
  unfold handleCreateFullName
  split
  · exact does_stay rfl
  · next name hname => exact does_take rfl hflow hname rfl fun _ => rfl

theorem handleCreatePhone_spec (hflow : s.flow = .create) (hstep : s.step = .phone) :
    Does v w text (some s) (handleCreatePhone v s (strip text)) := by
  have hready : s.tempData.Ready s.step → s.tempData.fullName.isSome := by
    rw [hstep]
    exact id
  unfold handleCreatePhone
  rw [strip_strip]
  split
  · next hskip => exact does_take rfl hflow (.inl ⟨rfl, hskip⟩) rfl hready
  · split
    · exact does_stay rfl
    · next phone hphone => exact does_take rfl hflow (.inr hphone) rfl hready

theorem handleCreateUsername_spec (hflow : s.flow = .create) (hstep : s.step = .username) :
    Does v w text (some s) (handleCreateUsername v w s (strip text)) := by
  unfold handleCreateUsername
  split
  · exact does_stay rfl
  · next username husername =>
    split
    · exact does_stay rfl
    · refine does_take rfl hflow husername rfl fun hready => ?_
      rw [hstep] at hready
      exact ⟨hready, rfl⟩

theorem handleCreateEvolutionInstance_spec (hflow : s.flow = .create)
    (hstep : s.step = .evolutionInstance) :
    Does v w text (some s) (handleCreateEvolutionInstance s (strip text)) := by
  unfold handleCreateEvolutionInstance
  rw [strip_strip]
  split
  · exact does_stay rfl
  · next hne =>
    refine does_take rfl hflow ⟨rfl, hne⟩ rfl fun hready => ?_
    rw [hstep] at hready
    exact ⟨hready.1, hready.2, rfl⟩

theorem handleCreatePasswordMode_spec (hflow : s.flow = .create)
    (hstep : s.step = .passwordMode) :
    Does v w text (some s) (handleCreatePasswordMode s (strip text)) := by
  unfold handleCreatePasswordMode
  rw [strip_strip]
  split
  · next hone =>
    refine does_take rfl hflow hone rfl fun hready => ?_
    rw [hstep] at hready
    exact ⟨hready.1, hready.2.1, hready.2.2, .inl rfl⟩
  · split
    · next htwo =>
      refine does_take rfl hflow htwo rfl fun hready => ?_
      rw [hstep] at hready
      exact ⟨hready.1, hready.2.1, hready.2.2, rfl⟩
    · exact does_stay rfl

theorem handleCreateManualPassword_spec (hflow : s.flow = .create)
    (hstep : s.step = .manualPassword) :
    Does v w text (some s) (handleCreateManualPassword s (strip text)) := by
  unfold handleCreateManualPassword
  rw [strip_strip]
  split
  · exact does_stay rfl
  · split
    · exact does_stay rfl
    · next hlong =>
      refine does_take rfl hflow ⟨rfl, Nat.not_lt.mp hlong⟩ rfl fun hready => ?_
      rw [hstep] at hready
      exact ⟨hready.1, hready.2.1, hready.2.2.1, .inr ⟨hready.2.2.2, rfl⟩⟩

theorem handleCreateConfirm_spec (hflow : s.flow = .create) (hstep : s.step = .confirm) :
    Does v w text (some s) (handleCreateConfirm w s (strip text)) := by
  unfold handleCreateConfirm
  rw [strip_strip]
  split
  · exact does_stay rfl
  · next hconfirm =>
    have hcreated {session : Option Session} {reply : Reply} (hasks : reply.asks = none)
        (hsession : ∀ s', session = some s' → s'.flow = .create ∧ s'.tempData = s.tempData ∧
          (s.tempData.Ready .confirm → s'.tempData.Ready s'.step)) :=
      Does.created (v := v) (w := w) hasks (not_not.mp hconfirm) hflow hstep hsession
    dsimp only
    split
    · refine hcreated rfl ?_
      rintro s' ⟨⟩
    · split
      · refine hcreated rfl ?_
        rintro s' ⟨⟩
        exact ⟨hflow, rfl, fun hready => hready.1⟩
      · split
        · refine hcreated rfl ?_
          rintro s' ⟨⟩
          exact ⟨hflow, rfl, fun hready => hready.1⟩
        · refine hcreated rfl ?_
          rintro s' ⟨⟩
          exact ⟨hflow, rfl, fun hready => hstep ▸ hready⟩

theorem handleCreateStep_spec (hflow : s.flow = .create) :
    Does v w text (some s) (handleCreateStep v w s (strip text)) := by
  unfold handleCreateStep
  cases hstep : s.step with
  | fullName => exact handleCreateFullName_spec hflow
  | phone => exact handleCreatePhone_spec hflow hstep
  | username => exact handleCreateUsername_spec hflow hstep
  | evolutionInstance => exact handleCreateEvolutionInstance_spec hflow hstep
  | passwordMode => exact handleCreatePasswordMode_spec hflow hstep
  | manualPassword => exact handleCreateManualPassword_spec hflow hstep
  | confirm => exact handleCreateConfirm_spec hflow hstep
  | none | password | select | actions | selectField | newValue | confirmDeactivate
  | confirmDelete => exact does_stay rfl

theorem handleEditSelectField_spec (hflow : s.flow = .edit) :
    Does v w text (some s) (handleEditSelectField s msg) := by
  unfold handleEditSelectField
  split
  · exact does_stay rfl
  · exact .moved rfl (by simp [hflow]) (by simp [hflow])

theorem handleEditNewValue_spec (hflow : s.flow = .edit) :
    Does v w text (some s) (handleEditNewValue v w s msg) := by
  have hmem : s.flow ∈ [.detail, .edit] := by simp [hflow]
  unfold handleEditNewValue
  split
  · exact does_stay rfl
  · split
    · exact does_stay rfl
    · split
      · exact does_stay rfl
      · dsimp only
        split
        · exact .called rfl (.inl rfl) hmem nofun rfl
        · exact .called rfl (.inr rfl) hmem nofun rfl

theorem handleEditStep_spec (hflow : s.flow = .edit) :
    Does v w text (some s) (handleEditStep v w s msg) := by
  unfold handleEditStep
  split
  · exact handleEditSelectField_spec hflow
  · exact handleEditNewValue_spec hflow
  · exact does_stay rfl

theorem tenantName_of {id : String} {tenant : Tenant} (h : w.getTenant id = some tenant) :
    tenant.fullName = tenantName w id := by
  unfold tenantName
  rw [h, Option.map_some, Option.getD_some]

theorem handleDetailDeactivateReactivate_spec {id : String} (hflow : s.flow = .detail)
    (hid : s.selectedTenantId.getD "" = id) :
    Does v w text (some s) (handleDetailDeactivateReactivate w s id) := by
  have hmem : s.flow ∈ [.detail, .edit] := by simp [hflow]
  unfold handleDetailDeactivateReactivate
  split
  · exact does_stay rfl
  · next tenant htenant =>
    split
    · exact .asked hflow rfl (tenantName_of htenant) rfl (by simp [hid])
    · dsimp only
      split
      · exact .called rfl (.inl rfl) hmem nofun rfl
      · exact .called rfl (.inr rfl) hmem nofun rfl

theorem handleDetailDelete_spec {id : String} (hflow : s.flow = .detail)
    (hid : s.selectedTenantId.getD "" = id) :
    Does v w text (some s) (handleDetailDelete w s id) := by
  unfold handleDetailDelete
  split
  · exact does_stay rfl
  · next tenant htenant =>
    split
    · exact does_stay rfl
    · exact .asked hflow rfl (tenantName_of htenant) rfl (by simp [hid])

theorem handleDetailAction_spec (hflow : s.flow = .detail) :
    Does v w text (some s) (handleDetailAction w s msg) := by
  unfold handleDetailAction
  split
  · exact does_stay rfl
  · next id hid =>
    have hget := getD_of_truthy hid
    split
    · exact .moved rfl (by simp [hflow]) (by simp)
    · split
      · exact handleDetailDeactivateReactivate_spec hflow hget
      · split
        · exact handleDetailDelete_spec hflow hget
        · exact does_stay rfl

theorem handleDeactivateConfirm_spec (hflow : s.flow = .deactivate) :
    Does v w text (some s) (handleDeactivateConfirm w s (strip text)) := by
  unfold handleDeactivateConfirm
  rw [strip_strip]
  split
  · exact does_stay rfl
  · next hconfirm =>
    split
    · exact does_stay rfl
    · next id hid =>
      have hget := getD_of_truthy hid
      dsimp only
      split
      · exact .confirmed rfl (not_not.mp hconfirm) hflow (by simp [hget]) (.inl rfl)
      · exact .askedAgain rfl rfl (not_not.mp hconfirm) hflow (by simp [hget])

theorem handleDeleteConfirm_spec (hflow : s.flow = .delete) :
    Does v w text (some s) (handleDeleteConfirm w s (strip text)) := by
  unfold handleDeleteConfirm
  rw [strip_strip]
  split
  · exact does_stay rfl
  · next hconfirm =>
    split
    · exact does_stay rfl
    · next id hid =>
      have hget := getD_of_truthy hid
      dsimp only
      split
      · exact .confirmed rfl (not_not.mp hconfirm) hflow (by simp [hget]) (.inl rfl)
      · exact .confirmed rfl (not_not.mp hconfirm) hflow (by simp [hget]) (.inr rfl)

theorem activeFlow_spec : Does v w text (some s) (activeFlow v w s (strip text)) := by
  unfold activeFlow
  split
  · exact .cleared rfl
  · split
    · exact does_stay rfl
    · cases hflow : s.flow with
      | list =>
        dsimp only
        split
        · exact handleListSelection_spec hflow
        · exact does_stay rfl
      | create => exact handleCreateStep_spec hflow
      | detail =>
        dsimp only
        split
        · exact handleDetailAction_spec hflow
        · exact does_stay rfl
      | edit => exact handleEditStep_spec hflow
      | deactivate =>
        dsimp only
        split
        · exact handleDeactivateConfirm_spec hflow
        · exact does_stay rfl
      | delete =>
        dsimp only
        split
        · exact handleDeleteConfirm_spec hflow
        · exact does_stay rfl
      | none | auth => exact does_stay rfl

theorem noFlow_spec : Does v w text session (noFlow w session msg) := by
  unfold noFlow
  split
  · exact .cleared rfl
  · split
    · next hnone =>
      rw [hnone.1]
      exact .reset
    · split
      · exact .kept rfl
      · split
        · exact .kept rfl
        · split
          · exact handleListTenants_spec
          · split
            · exact startCreateFlow_spec
            · exact .kept rfl

end MasterLemmas

open MasterLemmas

theorem console_spec : Does v w text session (console v w session text) := by
  unfold console
  split
  · exact noFlow_spec
  · split
    · exact noFlow_spec
    · exact activeFlow_spec

variable {state : State}

namespace MasterLemmas

theorem quiet_none {reply : Reply} {state' : State} (hasks : reply.asks = none)
    (hauth : state'.auth = none ∨ state'.auth = state.auth) (hsession : state'.session = none) :
    LoginDoes w text state ⟨reply, state', []⟩ := by
  refine .quiet hasks hauth fun session h => ?_
  rw [hsession] at h
  cases h

theorem recordFailure_spec {otherwise : Reply} (hasks : otherwise.asks = none) :
    LoginDoes w text state (recordFailure w settings state otherwise) := by
  unfold recordFailure
  split
  · exact .lockedOut rfl rfl rfl
  · exact .quiet hasks (.inr rfl) fun _ _ => .inl rfl

theorem handleUsernameStep_spec (hflow : s.flow = .auth) :
    LoginDoes w text state (handleUsernameStep w settings state s msg) := by
  unfold handleUsernameStep
  dsimp only
  split
  · exact .quiet rfl (.inr rfl) fun _ _ => .inl rfl
  · split
    · exact quiet_none rfl (.inl rfl) rfl
    · split
      · exact .quiet rfl (.inr rfl) fun _ _ => .inl rfl
      · split
        · exact recordFailure_spec rfl
        · refine .quiet rfl (.inr rfl) ?_
          rintro session ⟨⟩
          exact .inr hflow

theorem handlePasswordStep_spec :
    LoginDoes w text state (handlePasswordStep w settings state s (strip text)) := by
  unfold handlePasswordStep
  dsimp only
  split
  · exact .quiet rfl (.inr rfl) fun _ _ => .inl rfl
  · split
    · exact quiet_none rfl (.inl rfl) rfl
    · split
      · exact .quiet rfl (.inr rfl) fun _ _ => .inl rfl
      · split
        · exact .quiet rfl (.inr rfl) fun _ _ => .inl rfl
        · split
          · split
            · exact recordFailure_spec rfl
            · exact recordFailure_spec rfl
          · next user huser =>
            split
            · -- A user of another role counts as a failure, and the login ends.
              unfold recordFailure
              split
              · exact .lockedOut rfl rfl rfl
              · exact quiet_none rfl (.inr rfl) rfl
            · next hrole =>
              exact .loggedIn rfl ⟨_, user, huser, not_not.mp hrole, rfl⟩ rfl rfl

end MasterLemmas

theorem runLoginFlow_spec : LoginDoes w text state (runLoginFlow w settings state text) := by
  have hbegins {state' : State} (hauth : state'.auth = none ∨ state'.auth = state.auth)
      (hsession : state'.session = some .login) :
      LoginDoes w text state ⟨.usernamePrompt, state', []⟩ := by
    refine .quiet rfl hauth fun session h => .inr ?_
    rw [← Option.some.inj (hsession.symm.trans h)]
    rfl
  unfold runLoginFlow
  dsimp only
  split
  · exact hbegins (.inl rfl) rfl
  · split
    · exact .quiet rfl (.inr rfl) fun _ _ => .inl rfl
    · split
      · exact hbegins (.inr rfl) rfl
      · next session hsession =>
        split
        · exact hbegins (.inr rfl) rfl
        · next hflow =>
          split
          · exact handleUsernameStep_spec (not_not.mp hflow)
          · exact handlePasswordStep_spec
          · exact quiet_none rfl (.inr rfl) rfl

theorem process_spec : Handles v w text state (process v w settings state text) := by
  unfold process
  split
  · exact .locked rfl
  · next hlock =>
    split
    · next auth hauth =>
      split
      · exact .loggedOut hlock hauth
      · exact .console hlock hauth console_spec
    · next hauth => exact .login hlock hauth runLoginFlow_spec

end Trackpal.Console.Master
