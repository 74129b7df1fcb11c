import Trackpal.Console.Rows

/-!
# The Client Context Shortcut

A dialog of the admin of a tenant about one contact. The record of the dialog has a step, under
which the next message is interpreted, and the data that the dialog has collected. Each handler
replies with a screen and stores the step that it expects the answer to have.
-/

namespace Trackpal.Console.Shortcut

open Trackpal.Foundation

/-! ## Records -/

inductive Step where
  | menu
  | creating
  | creatingPhone
  | creatingName
  | creatingUsername
  | creatingPasswordChoice
  | creatingPasswordManual
  | creatingConfirm
  | postCreateMenu
  | activeMenu
  | activeDetail
  | activeEditField
  | activeEditValue
  | activeDeactivateConfirm
  | activeViewSubscriptions
  | activeSubscriptionDetail
  | activeExtendSubs
  | activeExtendSubsConfirm
  | activeDeactivateSubConfirm
  | subscriptionActive
  | inactiveMenu
  | inactiveDetail
  | inactiveEditField
  | inactiveEditValue
  | inactiveDeleteConfirm
deriving DecidableEq, Repr

inductive DurationType where
  | oneMonth
  | threeMonths
  | sixMonths
  | oneYear
deriving DecidableEq, Repr

/-- What the dialog has collected. -/
structure TempData where
  targetPhone : Option String
  targetLid : Option String
  targetJid : Option String
  adminJid : String
  clientId : Option Nat
  phone : Option String
  fullName : Option String
  localUsername : Option String
  password : Option String
  editField : Option Database.EditField
  selectedSubId : Option Nat
  extendSubId : Option Nat
  extendDurationType : Option DurationType
deriving DecidableEq, Repr

/-- The record of the dialog. -/
structure Context where
  step : Step
  temp : TempData
deriving DecidableEq, Repr

inductive Flow where
  | clients
  | catalog
  | profile
  | subscriptions
  | codigo
  | accessControl
deriving DecidableEq, Repr

structure AdminSession where
  flow : Option Flow
  step : String
  clientId : Option Nat
deriving DecidableEq, Repr

/-- What a message can read and change: the tables, the record of the dialog under
`wa:client_ctx:`, the session of the admin, and the seconds that the key of the record is still
kept. -/
structure Store where
  db : Database
  context : Option Context
  session : Option AdminSession
  ttl : Nat

/-- `ex=300`. -/
def contextTtl : Nat := 300

/-- `_save_ctx`. -/
def Store.save (store : Store) (data : Context) : Store :=
  { store with context := some data, ttl := contextTtl }

/-- `_save_ctx(refresh_ttl=False)`. -/
def Store.keep (store : Store) (data : Context) : Store := { store with context := some data }

def Store.clear (store : Store) : Store := { store with context := none }

/-! ## Replies -/

inductive Text where
  | menuUnregisteredWithPhone
  | menuUnregisteredLidOnly
  | menuBlockedWithPhone
  | menuBlockedLidOnly
  | menuActive
  | menuInactive
  | invalidOption
  | closed
  | activeDeleteBlocked
  | blockAccessSuccess
  | blockAccessClientNotice
  | unblockAccessSuccess
  | unblockAccessClientNotice
  | createPhonePrefilled
  | createPhonePrompt
  | createPhoneInvalid
  | createPhoneRegistered
  | createNameEmpty
  | createNameInvalid
  | createNameRegistered
  | createUsernameEmpty
  | createUsernameInvalid
  | createPasswordChoice
  | createPasswordChoiceInvalid
  | createPasswordManualPrompt
  | createPasswordTooShort
  | createSummary
  | createConfirmInvalid
  | createError
  | createSuccess
  | postCreateInvalidOption
  | detailBody
  | detailOptions
  | inactiveDetailOptions
  | editFieldPrompt
  | editFieldInvalid
  | editNamePrompt
  | editUsernamePrompt
  | editUpdateError
  | editUpdatedSuccess
  | deactivateConfirm
  | deactivatePromptAgain
  | deactivateError
  | deactivateSuccess
  | inactiveReactivateError
  | inactiveReactivateSuccess
  | inactiveDeleteConfirm
  | inactiveDeletePromptAgain
  | inactiveDeleteError
  | inactiveDeleteSuccess
  | subscriptionsList
  | subscriptionsEmpty
  | subscriptionsItemWithExpiry
  | subscriptionsListNavCreate
  | subscriptionsDetail
  | subscriptionsDetailNav
  | subscriptionsDeactivateConfirm
  | subscriptionsDeactivateSuccess
  | subscriptionsDuplicateExtendSuccess
  | subscriptionCreating
  | subscriptionServicePrompt
  | subscriptionNoServices
  | errorClientNotFound
  | errorServiceUnavailable
  /-- `_render_extend_duration_text`. -/
  | extendDuration
  /-- `_render_extend_confirm_text`. -/
  | extendConfirm
  /-- `translate_error`. -/
  | translatedError
deriving DecidableEq, Repr

/-- `WhatsAppConsoleResponse`; the one status is `closed`. -/
structure Response where
  reply : List Text
  closed : Bool
  replyTo : String
  closeJid : Option String
  closeJids : List String
  outboundMessages : List (String × Text)
deriving DecidableEq, Repr

/-- How a message ends: with a response, with none, or with an error that is not caught. -/
inductive Outcome where
  | response (response : Response)
  | fallThrough
  | raised
deriving DecidableEq, Repr

/-- A reply to the admin. -/
def say (adminJid : String) (reply : List Text) : Response :=
  ⟨reply, false, adminJid, none, [], []⟩

def closing (temp : TempData) (reply : List Text) (outboundMessages : List (String × Text)) :
    Response where
  reply := reply
  closed := true
  replyTo := temp.adminJid
  closeJid := some temp.adminJid
  closeJids := clientContextCloseJids temp.targetPhone temp.targetJid (some temp.adminJid)
  outboundMessages := outboundMessages

def notice (temp : TempData) (text : Text) : List (String × Text) :=
  let target := clientContextNotificationTarget temp.targetPhone temp.targetJid temp.targetLid
  (truthy target).toList.map fun target => (target, text)

/-! ## What the dialog calls -/

/-- The validators, which give `none` where they raise, and `calculate_expiration`. -/
structure Library where
  validatePhone : String → Option (Option String)
  validateFullName : String → Option String
  validateLocalUsername : String → Option String
  validatePasswordPolicy : String → Option String
  calculateExpiration : DurationType → Int → Int

/-- What else decides on a message: what a service raises, whether the tenant is still there, the id
of a new row, a generated password, and whether the blocks of a new client can be cleared. -/
structure Turn where
  refusal : Option Refusal
  tenantExists : Bool
  newId : Nat
  password : String
  clears : Bool
deriving DecidableEq, Repr

variable (lib : Library) (tenantId : Nat) (turn : Turn) (store : Store) (data : Context)

/-! ## Menus -/

def activeMenuText : List Text := [.menuActive]

def inactiveMenuText : List Text := [.menuInactive]

def activeDetailText : List Text := [.detailBody, .detailOptions]

def inactiveDetailText : List Text := [.detailBody, .inactiveDetailOptions]

/-- `render_initial_context_menu`; it raises if several clients have the phone. -/
def renderInitialContextMenu (db : Database) (targetPhone : Option String) :
    Except Multiple (List Text × Option Nat) := do
  let client ← match truthy targetPhone with
    | some phone => db.anyClient tenantId phone
    | none => pure none
  match client with
  | some client =>
    pure (if client.isActive then activeMenuText else inactiveMenuText, some client.id)
  | none =>
    let withPhone := (truthy targetPhone).isSome
    match db.findActive tenantId targetPhone none with
    | some _ =>
      pure ([if withPhone then .menuBlockedWithPhone else .menuBlockedLidOnly], none)
    | none =>
      pure ([if withPhone then .menuUnregisteredWithPhone else .menuUnregisteredLidOnly], none)

/-! ## The creation of a client -/

def handleCtxCreatingFirst : Response × Context :=
  match truthy data.temp.targetPhone with
  | some phone =>
    (say data.temp.adminJid [.createPhonePrefilled],
      { data with step := .creatingName, temp := { data.temp with phone := some phone } })
  | none => (say data.temp.adminJid [.createPhonePrompt], { data with step := .creatingPhone })

def handleCtxCreatingPhone (message : String) : Response × Context :=
  match lib.validatePhone (strip message) with
  | none => (say data.temp.adminJid [.createPhoneInvalid], data)
  | some phone =>
    (say data.temp.adminJid [.createPhoneRegistered],
      { data with step := .creatingName, temp := { data.temp with phone := phone } })

def handleCtxCreatingName (message : String) : Response × Context :=
  if strip message = "" then (say data.temp.adminJid [.createNameEmpty], data)
  else
    match lib.validateFullName (strip message) with
    | none => (say data.temp.adminJid [.createNameInvalid], data)
    | some name =>
      (say data.temp.adminJid [.createNameRegistered],
        { data with step := .creatingUsername, temp := { data.temp with fullName := some name } })

def handleCtxCreatingUsername (message : String) : Response × Context :=
  if strip message = "" then (say data.temp.adminJid [.createUsernameEmpty], data)
  else
    match lib.validateLocalUsername (strip message) with
    | none => (say data.temp.adminJid [.createUsernameInvalid], data)
    | some name =>
      (say data.temp.adminJid [.createPasswordChoice],
        { data with
          step := .creatingPasswordChoice
          temp := { data.temp with localUsername := some name } })

def handleCtxCreatingPasswordChoice (msgLower : String) : Response × Context :=
  if msgLower = "1" then
    (say data.temp.adminJid [.createSummary],
      { data with
        step := .creatingConfirm
        temp := { data.temp with password := some turn.password } })
  else if msgLower = "2" then
    (say data.temp.adminJid [.createPasswordManualPrompt],
      { data with step := .creatingPasswordManual })
  else (say data.temp.adminJid [.createPasswordChoiceInvalid], data)

def handleCtxCreatingPasswordManual (message : String) : Response × Context :=
  if (strip message).length < 8 then (say data.temp.adminJid [.createPasswordTooShort], data)
  else
    (say data.temp.adminJid [.createSummary],
      { data with
        step := .creatingConfirm
        temp := { data.temp with password := some (strip message) } })

/-- `ClientCreate` for what the dialog has collected: `none` if a validator raises. -/
def creationPayload (temp : TempData) : Option Database.ClientCreate := do
  let fullName ← lib.validateFullName (temp.fullName.getD "")
  let localUsername ← lib.validateLocalUsername (temp.localUsername.getD "")
  let phone ← match temp.phone with
    | some phone => lib.validatePhone phone
    | none => some none
  let password ← lib.validatePasswordPolicy (temp.password.getD "")
  pure ⟨fullName, localUsername, phone, password⟩

/-- `handle_ctx_creating_confirm`, with the save that follows it. -/
def handleCtxCreatingConfirm (message : String) : Outcome × Store :=
  let adminJid := data.temp.adminJid
  if !confirms message then
    (.response (say adminJid [.createConfirmInvalid, .createSummary]), store.save data)
  else
    match creationPayload lib data.temp with
    | none => (.raised, store)
    | some payload =>
      match store.db.createClient tenantId turn.refusal turn.tenantExists turn.newId payload with
      | .error .userFacing => (.response (say adminJid [.translatedError]), store.clear)
      | .error .other | .ok (none, _) => (.response (say adminJid [.createError]), store.clear)
      | .ok (some client, db) =>
        let db := if turn.clears then
            db.clearIdentity tenantId (normalizePhone data.temp.targetPhone) none
          else db
        let data := { data with
          step := .postCreateMenu
          temp := { data.temp with clientId := some client.id } }
        (.response (say adminJid [.createSuccess]), { store with db := db }.save data)

/-- The part of the dispatcher for `post_create_menu`. -/
def handlePostCreateMenu (msgLower : String) : Outcome × Store :=
  let adminJid := data.temp.adminJid
  let invalid : Outcome × Store :=
    if isCancel msgLower then (.response (closing data.temp [.closed] []), store.clear)
    else (.response (say adminJid [.postCreateInvalidOption]), store.keep data)
  if msgLower = "1" then
    match (normalizePhone data.temp.phone).elim (.ok none) (store.db.activeClient tenantId) with
    | .error _ => (.raised, store)
    | .ok none => invalid
    | .ok (some _) =>
      match renderInitialContextMenu tenantId store.db data.temp.phone with
      | .error _ => (.raised, store)
      | .ok (menu, clientId) =>
        let data := { data with
          step := .activeMenu
          temp := { data.temp with clientId := clientId <|> data.temp.clientId } }
        (.response (say adminJid menu), store.save data)
  else invalid

/-! ## A contact that is not registered -/

def handleCtxUnblockedMenu (msgLower : String) : Outcome × Store :=
  if msgLower = "1" then
    let (response, data) := handleCtxCreatingFirst { data with step := .creating }
    (.response response, store.save data)
  else if msgLower = "2" then
    match store.db.createBlock tenantId turn.newId (normalizePhone data.temp.targetPhone)
        data.temp.targetLid with
    | none => (.raised, store)
    | some db =>
      (.response (closing data.temp [.blockAccessSuccess]
        (notice data.temp .blockAccessClientNotice)), { store with db := db }.clear)
  else if isCancel msgLower then (.response (closing data.temp [.closed] []), store.clear)
  else (.response (say data.temp.adminJid [.invalidOption]), store.keep data)

def handleCtxBlockedMenu (msgLower : String) : Outcome × Store :=
  if msgLower = "1" then
    let db := match store.db.findActive tenantId (normalizePhone data.temp.targetPhone)
        data.temp.targetLid with
      | some block => store.db.unblock tenantId block.id
      | none => store.db
    (.response (closing data.temp [.unblockAccessSuccess]
      (notice data.temp .unblockAccessClientNotice)), { store with db := db }.clear)
  else if isCancel msgLower then (.response (closing data.temp [.closed] []), store.clear)
  else (.response (say data.temp.adminJid [.invalidOption]), store.keep data)

/-! ## The subscriptions of an active client -/

/-- `_render_subscriptions_list_text`. -/
def subscriptionsListText (subscriptions : List Subscription) : List Text :=
  .subscriptionsList ::
    (if subscriptions = [] then [Text.subscriptionsEmpty]
      else subscriptions.map fun _ => Text.subscriptionsItemWithExpiry) ++
    [Text.subscriptionsListNavCreate]

/-- `_render_subscription_detail_text`. -/
def subscriptionDetailText : List Text := [.subscriptionsDetail, .subscriptionsDetailNav]

def startContextSubscription (client : Client) : Outcome × Store :=
  let adminJid := data.temp.adminJid
  if store.db.listServices tenantId = [] then
    (.response (say adminJid [.subscriptionNoServices]), { store with session := none }.clear)
  else
    let session : AdminSession := ⟨some .subscriptions, "create_service", some client.id⟩
    let data := { data with
      step := .subscriptionActive
      temp := { data.temp with clientId := some client.id } }
    (.response (say adminJid [.subscriptionCreating, .subscriptionServicePrompt]),
      { store with session := some session }.save data)

def handleCtxActiveViewSubscriptions (client : Client) (msgLower : String) : Outcome × Store :=
  let adminJid := data.temp.adminJid
  let subscriptions := store.db.activeSubscriptions tenantId client.id
  let invalid : Outcome × Store :=
    (.response (say adminJid (.invalidOption :: subscriptionsListText subscriptions)),
      store.keep data)
  if msgLower = "3" && data.step = .activeViewSubscriptions then
    (.response (say adminJid (subscriptionsListText subscriptions)), store.save data)
  else if isBack msgLower then
    (.response (say adminJid activeMenuText), store.save { data with step := .activeMenu })
  else if isDigits msgLower then
    match parseInt msgLower with
    | none => (.raised, store)
    | some index =>
      match if 1 ≤ index then subscriptions[(index - 1).toNat]? else none with
      | some sub =>
        (.response (say adminJid subscriptionDetailText), store.save { data with
          step := .activeSubscriptionDetail
          temp := { data.temp with selectedSubId := some sub.id } })
      | none =>
        if index = subscriptions.length + 1 then
          startContextSubscription tenantId store data client
        else invalid
  else invalid

def handleCtxViewSubscriptionDetail (client : Client) (msgLower : String) : Outcome × Store :=
  let adminJid := data.temp.adminJid
  let sub := data.temp.selectedSubId.bind (store.db.getSubscription tenantId)
  if isBack msgLower then
    (.response (say adminJid
      (subscriptionsListText (store.db.activeSubscriptions tenantId client.id))),
      store.save { data with step := .activeViewSubscriptions })
  else if msgLower = "1" && sub.isSome then
    (.response (say adminJid [.extendDuration]), store.save { data with
      step := .activeExtendSubs
      temp := { data.temp with extendSubId := data.temp.selectedSubId } })
  else if msgLower = "2" then
    (.response (say adminJid [.subscriptionsDeactivateConfirm]),
      store.save { data with step := .activeDeactivateSubConfirm })
  else
    (.response (say adminJid (.invalidOption ::
      if sub.isSome then subscriptionDetailText else [.subscriptionsList])), store.keep data)

/-- `SUBSCRIPTIONS_DURATION_MAP`. -/
def durationOf (msgLower : String) : Option DurationType :=
  if msgLower = "1" then some .oneMonth
  else if msgLower = "2" then some .threeMonths
  else if msgLower = "3" then some .sixMonths
  else if msgLower = "4" then some .oneYear
  else none

def subscriptionOrList (db : Database) (client : Client) (subId : Option Nat) : List Text :=
  if (subId.bind (db.getSubscription tenantId)).isSome then subscriptionDetailText
  else subscriptionsListText (db.activeSubscriptions tenantId client.id)

def handleCtxActiveExtendSubscription (client : Client) (msgLower : String) : Outcome × Store :=
  let adminJid := data.temp.adminJid
  let unavailable : Outcome × Store := (.response (say adminJid [.errorServiceUnavailable]), store)
  if isBack msgLower then
    (.response (say adminJid
      (subscriptionOrList tenantId store.db client data.temp.extendSubId)),
      store.save { data with step := .activeSubscriptionDetail })
  else
    match durationOf msgLower with
    | some duration =>
      if (data.temp.extendSubId.bind (store.db.getSubscription tenantId)).isSome then
        (.response (say adminJid [.extendConfirm]), store.save { data with
          step := .activeExtendSubsConfirm
          temp := { data.temp with extendDurationType := some duration } })
      else unavailable
    | none =>
      if confirmsLower msgLower then
        match data.temp.extendDurationType, data.temp.extendSubId with
        | some duration, some subId =>
          match store.db.renewSubscription tenantId turn.refusal subId
              (lib.calculateExpiration duration) with
          | none => unavailable
          | some db =>
            (.response (say adminJid (.subscriptionsDuplicateExtendSuccess ::
              subscriptionsListText (db.activeSubscriptions tenantId client.id))),
              { store with db := db }.save { data with
                step := .activeViewSubscriptions
                temp := { data.temp with extendSubId := none, extendDurationType := none } })
        | _, _ => unavailable
      else
        (.response (say adminJid [.invalidOption, .extendDuration]), store.keep data)

def handleCtxActiveDeactivateSubscription (client : Client) (msgLower : String) :
    Outcome × Store :=
  let adminJid := data.temp.adminJid
  let unavailable : Outcome × Store := (.response (say adminJid [.errorServiceUnavailable]), store)
  if isBack msgLower then
    (.response (say adminJid
      (subscriptionOrList tenantId store.db client data.temp.selectedSubId)),
      store.save { data with step := .activeSubscriptionDetail })
  else if confirmsLower msgLower then
    match data.temp.selectedSubId with
    | none => unavailable
    | some subId =>
      match store.db.cancelSubscription tenantId turn.refusal subId with
      | none => unavailable
      | some db =>
        (.response (say adminJid (.subscriptionsDeactivateSuccess ::
          subscriptionsListText (db.activeSubscriptions tenantId client.id))),
          { store with db := db }.save { data with
            step := .activeViewSubscriptions
            temp := { data.temp with selectedSubId := none } })
  else
    (.response (say adminJid [.invalidOption, .subscriptionsDeactivateConfirm]), store.keep data)

/-! ## An active client -/

def handleCtxActiveClientMenu (client : Client) (msgLower : String) : Outcome × Store :=
  let adminJid := data.temp.adminJid
  let withClient : TempData := { data.temp with clientId := some client.id }
  if msgLower = "1" then
    (.response (say adminJid activeDetailText),
      store.save { data with step := .activeDetail, temp := withClient })
  else if msgLower = "2" then
    (.response (say adminJid [.editFieldPrompt]),
      store.save { data with step := .activeEditField, temp := withClient })
  else if msgLower = "3" then
    let data := { data with step := .activeViewSubscriptions }
    handleCtxActiveViewSubscriptions tenantId (store.save data) data client msgLower
  else if msgLower = "4" then
    (.response (say adminJid [.deactivateConfirm]),
      store.save { data with step := .activeDeactivateConfirm })
  else if msgLower = "5" then
    (.response (say adminJid (.activeDeleteBlocked :: activeMenuText)), store.save data)
  else (.response (say adminJid (.invalidOption :: activeMenuText)), store.save data)

def handleCtxActiveDetail (msgLower : String) : Outcome × Store :=
  let adminJid := data.temp.adminJid
  if isBack msgLower then
    (.response (say adminJid activeMenuText), store.save { data with step := .activeMenu })
  else if msgLower = "1" then
    (.response (say adminJid [.editFieldPrompt]), store.save { data with step := .activeEditField })
  else if msgLower = "2" then
    (.response (say adminJid [.deactivateConfirm]),
      store.save { data with step := .activeDeactivateConfirm })
  else (.response (say adminJid (.invalidOption :: activeDetailText)), store.keep data)

structure EditSteps where
  detail : Step
  field : Step
  value : Step
  detailText : List Text

def editPrompt : Option Database.EditField → Text
  | some .fullName => .editNamePrompt
  | _ => .editUsernamePrompt

def editField (steps : EditSteps) (msgLower : String) : Outcome × Store :=
  let adminJid := data.temp.adminJid
  let choose (field : Database.EditField) : Outcome × Store :=
    (.response (say adminJid [editPrompt (some field)]), store.save { data with
      step := steps.value
      temp := { data.temp with editField := some field } })
  if isBack msgLower then
    (.response (say adminJid steps.detailText), store.save { data with step := steps.detail })
  else if msgLower = "1" then choose .fullName
  else if msgLower = "2" then choose .localUsername
  else (.response (say adminJid [.editFieldInvalid]), store.save data)

/-- `ClientUpdate` for the field that was chosen: `none` if its validator raises. -/
def updatePayload (field : Option Database.EditField) (value : String) :
    Option (Option (Database.EditField × String)) :=
  match field with
  | some .fullName => (lib.validateFullName value).map fun value => some (.fullName, value)
  | some .localUsername =>
    (lib.validateLocalUsername value).map fun value => some (.localUsername, value)
  | none => some none

def editValue (steps : EditSteps) (message msgLower : String) : Outcome × Store :=
  let adminJid := data.temp.adminJid
  if isBack msgLower then
    (.response (say adminJid [.editFieldPrompt]), store.save { data with step := steps.field })
  else
    match data.temp.clientId, updatePayload lib data.temp.editField (strip message) with
    | some clientId, some payload =>
      match store.db.updateClient tenantId turn.refusal clientId payload with
      | .error .userFacing =>
        (.response (say adminJid [.translatedError, editPrompt data.temp.editField]),
          store.save data)
      | .error .other => (.response (say adminJid [.editUpdateError]), store.clear)
      | .ok (none, _) => (.response (say adminJid [.errorClientNotFound]), store.clear)
      | .ok (some _, db) =>
        (.response (say adminJid (.editUpdatedSuccess :: steps.detailText)),
          { store with db := db }.save { data with
            step := steps.detail
            temp := { data.temp with editField := none } })
    | _, _ => (.raised, store)

def activeEdit : EditSteps :=
  ⟨.activeDetail, .activeEditField, .activeEditValue, activeDetailText⟩

def inactiveEdit : EditSteps :=
  ⟨.inactiveDetail, .inactiveEditField, .inactiveEditValue, inactiveDetailText⟩

def handleCtxActiveEditField (msgLower : String) : Outcome × Store :=
  editField store data activeEdit msgLower

def handleCtxActiveEditValue (message msgLower : String) : Outcome × Store :=
  editValue lib tenantId turn store data activeEdit message msgLower

def handleCtxInactiveEditField (msgLower : String) : Outcome × Store :=
  editField store data inactiveEdit msgLower

def handleCtxInactiveEditValue (message msgLower : String) : Outcome × Store :=
  editValue lib tenantId turn store data inactiveEdit message msgLower

def backToMenu (step : Step) (menu : List Text) : Outcome × Store :=
  let adminJid := data.temp.adminJid
  let data := { data with step := step }
  match data.temp.clientId with
  | none => (.raised, store.save data)
  | some clientId =>
    if turn.refusal.isSome || (store.db.getClient tenantId clientId).isNone then
      (.response (say adminJid [.errorClientNotFound]), store.clear)
    else (.response (say adminJid menu), store.save data)

def handleCtxActiveDeactivateConfirm (message msgLower : String) : Outcome × Store :=
  let adminJid := data.temp.adminJid
  if isBack msgLower then backToMenu tenantId turn store data .activeMenu activeMenuText
  else if !confirms message then (.response (say adminJid [.deactivatePromptAgain]), store)
  else
    match data.temp.clientId with
    | none => (.raised, store)
    | some clientId =>
      match store.db.deactivateClient tenantId turn.refusal clientId with
      | .error _ => (.response (say adminJid [.deactivateError]), store.clear)
      | .ok (none, _) => (.response (say adminJid [.errorClientNotFound]), store.clear)
      | .ok (some _, db) =>
        (.response (say adminJid (.deactivateSuccess :: inactiveMenuText)),
          { store with db := db }.save { data with step := .inactiveMenu })

/-! ## An inactive client -/

def reactivateContextClient (client : Client) : Outcome × Store :=
  let adminJid := data.temp.adminJid
  match store.db.activateClient tenantId turn.refusal client.id with
  | .error .userFacing => (.response (say adminJid [.translatedError]), store.clear)
  | .error .other => (.response (say adminJid [.inactiveReactivateError]), store.clear)
  | .ok (none, _) => (.response (say adminJid [.errorClientNotFound]), store.clear)
  | .ok (some updated, db) =>
    (.response (say adminJid (.inactiveReactivateSuccess :: activeMenuText)),
      { store with db := db }.save { data with
        step := .activeMenu
        temp := { data.temp with clientId := some updated.id } })

def handleCtxInactiveClientMenu (client : Client) (msgLower : String) : Outcome × Store :=
  let adminJid := data.temp.adminJid
  let withClient : TempData := { data.temp with clientId := some client.id }
  if msgLower = "1" then
    (.response (say adminJid inactiveDetailText),
      store.save { data with step := .inactiveDetail, temp := withClient })
  else if msgLower = "2" then
    (.response (say adminJid [.editFieldPrompt]),
      store.save { data with step := .inactiveEditField, temp := withClient })
  else if msgLower = "3" then reactivateContextClient tenantId turn store data client
  else if msgLower = "4" then
    (.response (say adminJid [.inactiveDeleteConfirm]),
      store.save { data with step := .inactiveDeleteConfirm, temp := withClient })
  else (.response (say adminJid (.invalidOption :: inactiveMenuText)), store.save data)

def handleCtxInactiveDetail (client : Client) (msgLower : String) : Outcome × Store :=
  let adminJid := data.temp.adminJid
  if isBack msgLower then
    (.response (say adminJid inactiveMenuText), store.save { data with step := .inactiveMenu })
  else if msgLower = "1" then
    (.response (say adminJid [.editFieldPrompt]),
      store.save { data with step := .inactiveEditField })
  else if msgLower = "2" then reactivateContextClient tenantId turn store data client
  else if msgLower = "3" then
    (.response (say adminJid [.inactiveDeleteConfirm]),
      store.save { data with step := .inactiveDeleteConfirm })
  else (.response (say adminJid (.invalidOption :: inactiveDetailText)), store.keep data)

def handleCtxInactiveDeleteConfirm (message msgLower : String) : Outcome × Store :=
  let adminJid := data.temp.adminJid
  if isBack msgLower then backToMenu tenantId turn store data .inactiveMenu inactiveMenuText
  else if !confirms message then (.response (say adminJid [.inactiveDeletePromptAgain]), store)
  else
    match data.temp.clientId with
    | none => (.raised, store)
    | some clientId =>
      match store.db.deleteClient tenantId turn.refusal clientId with
      | .error .userFacing => (.response (say adminJid [.translatedError]), store.clear)
      | .error .other | .ok (false, _) =>
        (.response (say adminJid [.inactiveDeleteError]), store.clear)
      | .ok (true, db) =>
        match renderInitialContextMenu tenantId db data.temp.targetPhone with
        | .error _ => (.raised, { store with db := db })
        | .ok (menu, found) =>
          (.response (say adminJid (.inactiveDeleteSuccess :: menu)),
            { store with db := db }.save { data with
              step := .menu
              temp := { data.temp with clientId := found <|> data.temp.clientId } })

/-! ## The dispatcher -/

inductive Handler where
  | unblockedMenu
  | blockedMenu
  | creatingFirst
  | creatingPhone
  | creatingName
  | creatingUsername
  | creatingPasswordChoice
  | creatingPasswordManual
  | creatingConfirm
  | postCreateMenu
  | activeClientMenu
  | activeDetail
  | activeEditField
  | activeEditValue
  | activeDeactivateConfirm
  | activeViewSubscriptions
  | viewSubscriptionDetail
  | activeExtendSubscription
  | activeDeactivateSubscription
  | inactiveClientMenu
  | inactiveDetail
  | inactiveEditField
  | inactiveEditValue
  | inactiveDeleteConfirm
deriving DecidableEq, Repr

/-- Where the dispatcher sends a message. -/
inductive Route where
  | handler (handler : Handler)
  /-- To a menu, with the step set back to it. -/
  | reset (step : Step) (handler : Handler)
  /-- To the console of the tenant, which has an active subscription flow. -/
  | console
  /-- To the menu of the client, after the subscription flow. -/
  | finished
  | close
  | clear
  | raise
deriving DecidableEq, Repr

def activeSteps : List Step :=
  [.activeMenu, .activeDetail, .activeEditField, .activeEditValue, .activeDeactivateConfirm,
    .activeViewSubscriptions, .activeSubscriptionDetail, .activeExtendSubs,
    .activeExtendSubsConfirm]

def inactiveSteps : List Step :=
  [.inactiveMenu, .inactiveDetail, .inactiveEditField, .inactiveEditValue, .inactiveDeleteConfirm]

def routeByStep (step : Step) (kind : Kind) (blocked : Bool) : Route :=
  let active (handler : Handler) : Route := if kind = .active then .handler handler else .clear
  let inactive (handler : Handler) : Route := if kind = .inactive then .handler handler else .clear
  match step with
  | .menu => .handler (if blocked then .blockedMenu else .unblockedMenu)
  | .creating => .handler .creatingFirst
  | .creatingPhone => .handler .creatingPhone
  | .creatingName => .handler .creatingName
  | .creatingUsername => .handler .creatingUsername
  | .creatingPasswordChoice => .handler .creatingPasswordChoice
  | .creatingPasswordManual => .handler .creatingPasswordManual
  | .creatingConfirm => .handler .creatingConfirm
  | .postCreateMenu => .handler .postCreateMenu
  | .activeMenu => active .activeClientMenu
  | .activeDetail => active .activeDetail
  | .activeEditField => active .activeEditField
  | .activeEditValue => active .activeEditValue
  | .activeDeactivateConfirm => active .activeDeactivateConfirm
  | .activeViewSubscriptions => active .activeViewSubscriptions
  | .activeSubscriptionDetail => active .viewSubscriptionDetail
  | .activeExtendSubs | .activeExtendSubsConfirm => active .activeExtendSubscription
  | .activeDeactivateSubConfirm => active .activeDeactivateSubscription
  | .subscriptionActive => .clear
  | .inactiveMenu => inactive .inactiveClientMenu
  | .inactiveDetail => inactive .inactiveDetail
  | .inactiveEditField => inactive .inactiveEditField
  | .inactiveEditValue => inactive .inactiveEditValue
  | .inactiveDeleteConfirm => inactive .inactiveDeleteConfirm

/-- Where a message goes: by the step, by what the target is, and by whether the message is a
cancel, the target is blocked and the admin has an active subscription flow. -/
def route (step : Step) (kind : Kind) (cancel blocked subscribing : Bool) : Route :=
  if step = .subscriptionActive then if subscribing then .console else .finished
  else if kind = .ambiguous then .raise
  else if kind = .active ∧ step ∉ activeSteps then .reset .activeMenu .activeClientMenu
  else if kind = .inactive ∧ step ∉ inactiveSteps then .reset .inactiveMenu .inactiveClientMenu
  else if cancel then .close
  else routeByStep step kind blocked

def clientOf : Registration → Option Client
  | .active client | .inactive client => some client
  | _ => none

/-- A handler whose response is followed by a save. -/
def saved (result : Response × Context) : Outcome × Store :=
  (.response result.1, store.save result.2)

def forClient (client : Option Client) (handle : Client → Outcome × Store) : Outcome × Store :=
  match client with
  | some client => handle client
  | none => (.fallThrough, store)

def runHandler (client : Option Client) (message : String) : Handler → Outcome × Store
  | .unblockedMenu => handleCtxUnblockedMenu tenantId turn store data (clean message)
  | .blockedMenu => handleCtxBlockedMenu tenantId store data (clean message)
  | .creatingFirst => saved store (handleCtxCreatingFirst data)
  | .creatingPhone => saved store (handleCtxCreatingPhone lib data message)
  | .creatingName => saved store (handleCtxCreatingName lib data message)
  | .creatingUsername => saved store (handleCtxCreatingUsername lib data message)
  | .creatingPasswordChoice =>
    saved store (handleCtxCreatingPasswordChoice turn data (clean message))
  | .creatingPasswordManual => saved store (handleCtxCreatingPasswordManual data message)
  | .creatingConfirm => handleCtxCreatingConfirm lib tenantId turn store data message
  | .postCreateMenu => handlePostCreateMenu tenantId store data (clean message)
  | .activeDetail => handleCtxActiveDetail store data (clean message)
  | .activeEditField => handleCtxActiveEditField store data (clean message)
  | .activeEditValue =>
    handleCtxActiveEditValue lib tenantId turn store data message (clean message)
  | .activeDeactivateConfirm =>
    handleCtxActiveDeactivateConfirm tenantId turn store data message (clean message)
  | .inactiveEditField => handleCtxInactiveEditField store data (clean message)
  | .inactiveEditValue =>
    handleCtxInactiveEditValue lib tenantId turn store data message (clean message)
  | .inactiveDeleteConfirm =>
    handleCtxInactiveDeleteConfirm tenantId turn store data message (clean message)
  | .activeClientMenu =>
    forClient store client fun client =>
      handleCtxActiveClientMenu tenantId store data client (clean message)
  | .activeViewSubscriptions =>
    forClient store client fun client =>
      handleCtxActiveViewSubscriptions tenantId store data client (clean message)
  | .viewSubscriptionDetail =>
    forClient store client fun client =>
      handleCtxViewSubscriptionDetail tenantId store data client (clean message)
  | .activeExtendSubscription =>
    forClient store client fun client =>
      handleCtxActiveExtendSubscription lib tenantId turn store data client (clean message)
  | .activeDeactivateSubscription =>
    forClient store client fun client =>
      handleCtxActiveDeactivateSubscription tenantId turn store data client (clean message)
  | .inactiveClientMenu =>
    forClient store client fun client =>
      handleCtxInactiveClientMenu tenantId turn store data client (clean message)
  | .inactiveDetail =>
    forClient store client fun client =>
      handleCtxInactiveDetail tenantId turn store data client (clean message)

/-- The admin is in the flow that the shortcut started. -/
def subscribing : Bool := store.session.any fun session => session.flow = some .subscriptions

def targetBlocked (db : Database) : Bool :=
  (db.findActive tenantId (normalizePhone data.temp.targetPhone) none).isSome

/-- Where a message on the record goes. -/
def routeOf (message : String) : Route :=
  route data.step (kindOf store.db tenantId (normalizePhone data.temp.targetPhone))
    (isCancel (clean message)) (targetBlocked tenantId data store.db) (subscribing store)

def withClientId (client : Option Client) : Context :=
  match client with
  | some client => { data with temp := { data.temp with clientId := some client.id } }
  | none => data

def handleActiveClientContext (message : String) : Outcome × Store :=
  match store.context with
  | none => (.fallThrough, store)
  | some data =>
    let client := clientOf (registration store.db tenantId (normalizePhone data.temp.targetPhone))
    match routeOf tenantId store data message with
    | .handler handler =>
      runHandler lib tenantId turn store (withClientId data client) client message handler
    | .reset step handler =>
      let data := { withClientId data client with step := step }
      runHandler lib tenantId turn (store.save data) data client message handler
    | .console => (.fallThrough, store)
    | .finished =>
      let data := { data with step := .activeMenu }
      let store := store.save data
      match (normalizePhone data.temp.targetPhone).elim (.ok none)
          (store.db.activeClient tenantId) with
      | .error _ => (.raised, store)
      | .ok none => (.fallThrough, store)
      | .ok (some client) =>
        handleCtxActiveClientMenu tenantId store (withClientId data (some client)) client
          (clean message)
    | .close => (.response (closing data.temp [.closed] []), store.clear)
    | .clear => (.fallThrough, store.clear)
    | .raise => (.raised, store)

end Trackpal.Console.Shortcut
