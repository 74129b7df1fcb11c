import Trackpal.Browser.Workspace

/-!
# The operations on a demo workspace

The operations of the settings, the catalog, the clients and the subscriptions of a demo tenant, each
with what it checks and what it writes. An optional field of a payload is absent, present without a
value, `null` or has a value of its type.

Results:
1. `stores_perform`: an operation on an accepted envelope stores the state that it makes of it, or
   nothing.
-/

namespace Trackpal.Browser.Workspace

open Trackpal.Foundation

/-! ## Payloads -/

inductive Field (α : Type) where
  | absent
  | undefined
  | null
  | value (a : α)
deriving DecidableEq, Repr

/-- `payload.field`: `null` is `some none`. -/
def Field.read {α : Type} : Field α → Option (Option α)
  | .absent | .undefined => none
  | .null => some none
  | .value a => some (some a)

def Field.json (field : Field String) : Option Json :=
  field.read.map fun text => (text.map Json.str).getD .null

/-- `payload.field ?? existing.field`. -/
def Field.orExisting (field : Field String) (existing : Option Json) : Option Json :=
  match field with
  | .value text => some (.str text)
  | _ => existing

/-- What `...payload` copies. A field without a value is stored as none. -/
def Field.entry {α : Type} (key : String) (json : α → Json) : Field α → List (String × Option Json)
  | .absent => []
  | .undefined => [(key, none)]
  | .null => [(key, some .null)]
  | .value a => [(key, some (json a))]

structure ProfileUpdate where
  fullName : Field String
  phone : Field String

structure ReminderSettingsUpdate where
  warningDays : Field (List Rat)
  reminderTime : Field String
  recipientMode : Field String
  remindersEnabled : Field Bool
  customMessageTenant : Field String
  customMessageClient : Field String

structure TenantSettingsUpdate where
  locale : Field String
  timezone : Field String
  country : Field String
  currency : Field String

structure ServiceCreate where
  name : String
  icon : Field String

structure ServiceUpdate where
  name : Field String
  icon : Field String

structure PlanCreate where
  name : String
  price : Field String

structure PlanUpdate where
  name : Field String
  price : Field String

structure ClientCreate where
  fullName : String
  localUsername : String
  phone : Field String
  password : String

structure ClientUpdate where
  fullName : Field String
  localUsername : Field String
  phone : Field String

structure SubscriptionCreate where
  clientId : String
  serviceId : String
  planId : String
  streamingEmail : String
  streamingPassword : Field String
  profileName : Field String
  profilePin : Field String
  durationType : String
  startsAt : String
  expiresAt : Field String

structure SubscriptionUpdate where
  clientId : Field String
  serviceId : Field String
  planId : Field String
  streamingEmail : Field String
  streamingPassword : Field String
  profileName : Field String
  profilePin : Field String
  durationType : Field String
  startsAt : Field String
  expiresAt : Field String

/-! ## Items -/

def hasId (id : String) (item : Json) : Bool := item.textAt "id" = some id

/-- `items.map((item) => item.id === id ? updated : item)`. -/
def replaceItem (id : String) (updated : Json) (items : List Json) : List Json :=
  items.map fun item => if hasId id item then updated else item

/-- `{ ...state, [key]: items }`. -/
def putItems (state : Json) (key : String) (items : List Json) : Json :=
  state.put key (some (.arr items))

/-- `{ ...state, [key]: [...state[key], item] }`. -/
def appendItem (key : String) (item state : Json) : Json :=
  putItems state key (state.itemsAt key ++ [item])

/-- `{ ...state, [key]: … }`, with the item of the id changed. -/
def setItem (key id : String) (item state : Json) : Json :=
  putItems state key (replaceItem id item (state.itemsAt key))

def findItem (items : List Json) (p : Json → Bool) (missing : String) : Except String Json :=
  match items.find? p with
  | some item => .ok item
  | none => .error missing

def throwIf (c : Bool) (e : String) : Except String Unit := if c then .error e else .ok ()

section Operations

variable (rt : Runtime) (metadata : Metadata) (call : Call)

def starter : Reader := ⟨readStarterDemoState, "invalid_demo_workspace"⟩

def pro : Reader := ⟨readProDemoState, "invalid_demo_workspace"⟩

def clientReader : Reader := ⟨readProDemoState, "client_update_failed"⟩

/-- The operations that only read the state. -/
def load (reader : Reader) (stored : Option Json) : Outcome Json :=
  requireState rt metadata call reader stored

/-- A field that is set to a text, in an item that is changed now. -/
def touched (item : Json) : Json := item.put "updated_at" (some (.str (timestamp rt call)))

/-! ## Settings -/

/-- `field?.trim()`. -/
def Field.trimmed : Field String → Option Json
  | .value text => some (.str (trim text))
  | _ => none

def changedProfile (payload : ProfileUpdate) (profile : Json) : Json :=
  (profile.put "business_name"
    (Json.orElse payload.fullName.trimmed (profile.get "business_name"))).put "phone"
    (Json.orElse (Json.orElse payload.phone.trimmed (profile.get "phone")) (some .null))

def withProfile (payload : ProfileUpdate) (existing : Json) : Json :=
  existing.put "profile" (some (changedProfile payload ((existing.get "profile").getD .null)))

def updateProfile (payload : ProfileUpdate) (stored : Option Json) : Outcome Json :=
  updateState rt metadata call starter (withProfile payload) stored

/-- `/^\d{2}:\d{2}$/`, with the hours and the minutes. -/
def readTime (text : String) : Option (Nat × Nat) :=
  match text.toList with
  | [a, b, ':', c, d] =>
    if [a, b, c, d].all Char.isDigit then
      some ((a.toNat - 48) * 10 + (b.toNat - 48), (c.toNat - 48) * 10 + (d.toNat - 48))
    else none
  | _ => none

def validateReminderSettings (payload : ReminderSettingsUpdate) : Except String Unit := do
  throwIf (match payload.reminderTime.read with
    | none => false
    | some none => true
    | some (some text) => match readTime text with
      | none => true
      | some (hours, minutes) => 23 < hours || 59 < minutes) "frontend.subscriptions.error_invalid_time"
  throwIf (match payload.recipientMode.read with
    | none => false
    | some none => true
    | some (some mode) =>
      mode ∉ ["tenant_only", "client_only", "tenant_client", "tenant_and_client", "both"])
    "frontend.subscriptions.error_invalid_recipient_mode"

def ReminderSettingsUpdate.entries (payload : ReminderSettingsUpdate) :
    List (String × Option Json) :=
  payload.warningDays.entry "warning_days" (fun days => .arr (days.map .num)) ++
  payload.reminderTime.entry "reminder_time" .str ++
  payload.recipientMode.entry "recipient_mode" .str ++
  payload.remindersEnabled.entry "reminders_enabled" .bool ++
  payload.customMessageTenant.entry "custom_message_tenant" .str ++
  payload.customMessageClient.entry "custom_message_client" .str

/-- `{ ...current, ...payload, updated_at: now(metadata) }`. -/
def changedSettings (current : Json) (entries : List (String × Option Json)) : Json :=
  (current.merge entries).put "updated_at" (some (.str metadata.serverTime))

/-- The settings of the reminders that are stored, or the default ones, with those of the payload. -/
def newReminderSettings (payload : ReminderSettingsUpdate) (state : Json) : Except String Json :=
  .ok (changedSettings metadata
    ((Json.present (state.get "reminder_settings")).getD (defaultReminderSettings metadata))
    payload.entries)

def withReminderSettings (settings existing : Json) : Json :=
  existing.put "reminder_settings" (some settings)

def updateReminderSettings (payload : ReminderSettingsUpdate) (stored : Option Json) :
    Outcome Json :=
  operate rt metadata call starter (validateReminderSettings payload)
    (fun _ => newReminderSettings metadata payload) (updateState rt metadata call starter)
    withReminderSettings stored

def validateSetting (normalize : String → String) (valid : String → Bool) (e : String) :
    Field String → Except String (Field String)
  | .value text => if valid (normalize text) then .ok (.value (normalize text)) else .error e
  | field => .ok field

def validateTenantSettings (payload : TenantSettingsUpdate) : Except String TenantSettingsUpdate := do
  let locale ← validateSetting (fun text => rt.toLowerCase (trim text))
    (fun locale => locale = "en" || locale = "es") "frontend.profile.error_invalid_locale"
    payload.locale
  let timezone ← validateSetting id rt.isValidTimezone
    "frontend.subscriptions.error_invalid_timezone" payload.timezone
  let country ← validateSetting (fun text => rt.toUpperCase (trim text)) rt.isCountry
    "frontend.profile.error_invalid_country" payload.country
  let currency ← validateSetting (fun text => rt.toUpperCase (trim text)) rt.isCurrency
    "frontend.profile.error_invalid_currency" payload.currency
  return ⟨locale, timezone, country, currency⟩

def TenantSettingsUpdate.entries (payload : TenantSettingsUpdate) : List (String × Option Json) :=
  payload.locale.entry "locale" .str ++ payload.timezone.entry "timezone" .str ++
  payload.country.entry "country" .str ++ payload.currency.entry "currency" .str

def currentSettings (state : Json) : Json :=
  (Json.present (state.get "tenant_settings")).getD (tenantSettings metadata .null .null)

def newTenantSettings (normalized : TenantSettingsUpdate) (state : Json) : Except String Json :=
  .ok (changedSettings metadata (currentSettings metadata state) normalized.entries)

def withTenantSettings (settings existing : Json) : Json :=
  (existing.put "profile" (some (((existing.get "profile").getD .null).put "locale"
    (settings.get "locale")))).put "tenant_settings" (some settings)

def updateTenantSettings (payload : TenantSettingsUpdate) (stored : Option Json) : Outcome Json :=
  operate rt metadata call starter (validateTenantSettings rt payload) (newTenantSettings metadata)
    (updateState rt metadata call starter) withTenantSettings stored

def withCodeServices (serviceKeys : List String) (existing : Json) : Json :=
  putItems existing "code_services" ((existing.itemsAt "code_services").map fun service =>
    service.put "enabled" (some (.bool ((service.textAt "id").any (· ∈ serviceKeys)))))

def updateCodeServices (serviceKeys : List String) (stored : Option Json) : Outcome Json :=
  updateState rt metadata call starter (withCodeServices serviceKeys) stored

def validatePhone (phone : String) : Except String String :=
  if trim phone = "" then .error "phone_required" else .ok (trim phone)

def newAccessBlock (normalized : String) (state : Json) : Except String Json := do
  throwIf ((state.itemsAt "blocked_identities").any fun block =>
    block.textAt "phone" = some normalized) "access_block_duplicate"
  return blockedIdentity ("blocked-" ++ metadata.tenantId ++ "-" ++ toString call.now.val) normalized

def createAccessBlock (phone : String) (stored : Option Json) : Outcome Json :=
  operate rt metadata call starter (validatePhone phone) (newAccessBlock metadata call)
    (updateState rt metadata call starter) (appendItem "blocked_identities") stored

def withoutBlock (id : String) (existing : Json) : Json :=
  putItems existing "blocked_identities"
    ((existing.itemsAt "blocked_identities").filter fun block => !hasId id block)

def deleteAccessBlock (id : String) (stored : Option Json) : Outcome Json :=
  updateState rt metadata call starter (withoutBlock id) stored

/-! ## Catalog -/

def cleanName (value : String) : Except String String :=
  if trim value = "" then .error "catalog_name_required"
  else if 200 < length (trim value) then .error "catalog_name_too_long"
  else .ok (trim value)

def validateIcon : Field String → Except String Json
  | .value value =>
    if trim value = "" then .ok .null
    else if parseIconReference (trim value) then .ok (.str (trim value))
    else .error "catalog_icon_invalid"
  | _ => .ok .null

/-- The digits behind the only point of a price. -/
def decimals (price : String) : Nat :=
  match price.toList.splitOn '.' with
  | [_, fraction] => fraction.length
  | _ => 0

def validatePrice : Field String → Except String Json
  | .value value =>
    if trim value = "" then .ok .null
    else if !(rt.number (trim value)).any (0 ≤ ·) || 2 < decimals (trim value) then
      .error "plan_price_invalid"
    else .ok (.str (trim value))
  | _ => .ok .null

def foldedName (item : Json) : Option String := (item.textAt "name").map rt.toLocaleLowerCase

def serviceNamed (name : String) (service : Json) : Bool :=
  foldedName rt service = some (rt.toLocaleLowerCase name)

def planNamed (serviceId name : String) (plan : Json) : Bool :=
  plan.textAt "service_id" = some serviceId && foldedName rt plan = some (rt.toLocaleLowerCase name)

def serviceId : String := "service-" ++ metadata.tenantId ++ "-" ++ toString call.now.val

def newService (payload : String × Json) (current : Json) : Except String Json := do
  throwIf ((current.itemsAt "services").any (serviceNamed rt payload.1)) "service_name_already_exists"
  return .obj [("id", .str (serviceId metadata call)), ("tenant_id", .str metadata.tenantId),
    ("name", .str payload.1), ("icon", payload.2), ("created_at", .str (timestamp rt call)),
    ("updated_at", .str (timestamp rt call))]

def ServiceCreate.check (payload : ServiceCreate) : Except String (String × Json) := do
  let name ← cleanName payload.name
  let icon ← validateIcon payload.icon
  return (name, icon)

def createService (payload : ServiceCreate) (stored : Option Json) : Outcome Json :=
  operate rt metadata call pro payload.check (newService rt metadata call)
    (updateState rt metadata call pro)
    (appendItem "services") stored

/-- `payload.name !== undefined ? cleanName(payload.name) : existing.name`. -/
def changedName (existing : Json) (name : Field String) : Except String String :=
  match name.read with
  | none => .ok ((existing.textAt "name").getD "")
  | some none => .error "TypeError"
  | some (some name) => cleanName name

/-- `"icon" in payload ? validateIcon(payload.icon) : existing.icon`. -/
def changedIcon (existing : Json) : Field String → Except String (Option Json)
  | .absent => .ok (existing.get "icon")
  | icon => (validateIcon icon).map some

def changedService (id : String) (payload : ServiceUpdate) (current : Json) : Except String Json := do
  let existing ← findItem (current.itemsAt "services") (hasId id) "service_not_found"
  let name ← changedName existing payload.name
  throwIf ((current.itemsAt "services").any fun service =>
    !hasId id service && serviceNamed rt name service) "service_name_already_exists"
  let icon ← changedIcon existing payload.icon
  return touched rt call ((existing.put "name" (some (.str name))).put "icon" icon)

def updateService (id : String) (payload : ServiceUpdate) (stored : Option Json) : Outcome Json :=
  operate rt metadata call pro (.ok ()) (fun _ => changedService rt call id payload)
    (updateState rt metadata call pro)
    (setItem "services" id) stored

def serviceToDelete (id : String) (state : Json) : Except String (List (Option String)) := do
  throwIf (!(state.itemsAt "services").any (hasId id)) "service_not_found"
  return ((state.itemsAt "plans").filter fun plan => plan.textAt "service_id" = some id).map
    (·.textAt "id")

def withoutService (id : String) (planIds : List (Option String)) (current : Json) : Json :=
  putItems (putItems (putItems current "services"
    ((current.itemsAt "services").filter fun service => !hasId id service)) "plans"
    ((current.itemsAt "plans").filter fun plan => plan.textAt "service_id" ≠ some id)) "subscriptions"
    ((current.itemsAt "subscriptions").filter fun subscription =>
      subscription.textAt "service_id" ≠ some id && subscription.textAt "plan_id" ∉ planIds)

def deleteService (id : String) (stored : Option Json) : Outcome (List (Option String)) :=
  operate rt metadata call pro (.ok ()) (fun _ => serviceToDelete id)
    (updateState rt metadata call pro) (withoutService id) stored

def planId : String := "plan-" ++ metadata.tenantId ++ "-" ++ toString call.now.val

def newPlan (serviceId : String) (payload : String × Json) (current : Json) :
    Except String Json := do
  throwIf (!(current.itemsAt "services").any (hasId serviceId)) "service_not_found"
  throwIf ((current.itemsAt "plans").any (planNamed rt serviceId payload.1))
    "plan_name_already_exists"
  return .obj [("id", .str (planId metadata call)), ("tenant_id", .str metadata.tenantId),
    ("service_id", .str serviceId), ("name", .str payload.1), ("price", payload.2),
    ("created_at", .str (timestamp rt call)), ("updated_at", .str (timestamp rt call))]

def PlanCreate.check (payload : PlanCreate) : Except String (String × Json) := do
  let name ← cleanName payload.name
  let price ← validatePrice rt payload.price
  return (name, price)

def createPlan (serviceId : String) (payload : PlanCreate) (stored : Option Json) : Outcome Json :=
  operate rt metadata call pro (payload.check rt) (newPlan rt metadata call serviceId)
    (updateState rt metadata call pro)
    (appendItem "plans") stored

def isPlanOf (serviceId planId : String) (plan : Json) : Bool :=
  hasId planId plan && plan.textAt "service_id" = some serviceId

/-- `"price" in payload ? validatePrice(payload.price) : existing.price`. -/
def changedPrice (existing : Json) : Field String → Except String (Option Json)
  | .absent => .ok (existing.get "price")
  | price => (validatePrice rt price).map some

def changedPlan (serviceId planId : String) (payload : PlanUpdate) (current : Json) :
    Except String Json := do
  let existing ← findItem (current.itemsAt "plans") (isPlanOf serviceId planId) "plan_not_found"
  let name ← cleanName (((payload.name.orExisting (existing.get "name")).bind Json.text).getD "")
  throwIf ((current.itemsAt "plans").any fun plan =>
    !hasId planId plan && planNamed rt serviceId name plan) "plan_name_already_exists"
  let price ← changedPrice rt existing payload.price
  return touched rt call ((existing.put "name" (some (.str name))).put "price" price)

def updatePlan (serviceId planId : String) (payload : PlanUpdate) (stored : Option Json) :
    Outcome Json :=
  operate rt metadata call pro (.ok ()) (fun _ => changedPlan rt call serviceId planId payload)
    (updateState rt metadata call pro)
    (setItem "plans" planId) stored

def planToDelete (serviceId planId : String) (state : Json) : Except String Unit :=
  throwIf (!(state.itemsAt "plans").any (isPlanOf serviceId planId)) "plan_not_found"

def withoutPlan (planId : String) (current : Json) : Json :=
  putItems (putItems current "plans"
    ((current.itemsAt "plans").filter fun plan => !hasId planId plan)) "subscriptions"
    ((current.itemsAt "subscriptions").filter fun subscription =>
      subscription.textAt "plan_id" ≠ some planId)

def deletePlan (serviceId planId : String) (stored : Option Json) : Outcome Unit :=
  operate rt metadata call pro (.ok ()) (fun _ => planToDelete serviceId planId)
    (updateState rt metadata call pro) (fun _ => withoutPlan planId) stored

/-! ## Clients -/

/-- `/ {2,}/g` becomes one blank. -/
def collapseBlanks : List Char → List Char
  | ' ' :: ' ' :: rest => collapseBlanks (' ' :: rest)
  | c :: rest => c :: collapseBlanks rest
  | [] => []

def validateFullName (value : String) : Except String String :=
  if value = "" || trim value ≠ value then .error "client_validation_failed"
  else if !value.toList.all fun c => rt.isWordChar c || c = ' ' then .error "client_validation_failed"
  else .ok (String.ofList (collapseBlanks value.toList))

def isUsername : List Char → Bool
  | [] => false
  | c :: rest => c.isLower && rest.all fun c => c.isLower || c.isDigit || c = '_'

def validateLocalUsername (value : String) : Except String String :=
  if !isUsername value.toList then .error "client_validation_failed"
  else if 94 < length value then .error "client_validation_failed"
  else .ok value

def normalizePhone (phone : Field String) : Except String Json :=
  match phone.read with
  | none => .ok .null
  | some none => .error "TypeError"
  | some (some value) =>
    if trim value = "" then .ok .null
    else
      let raw := (trim value).toList
      let digits := raw.filter Char.isDigit
      if !raw.all fun c => c.isDigit || isBlank c || c ∈ ['+', '(', ')', '.', '-'] then
        .error "client_validation_failed"
      else if digits.length < 7 || 15 < digits.length then .error "client_validation_failed"
      else .ok (.str (String.ofList digits))

def demoPrefix : List Char := ['d', 'e', 'm', 'o', '_']

/-- `localUsername`, which needs a string. -/
def localUsername (client : Json) : Except String String :=
  match client.textAt "username" with
  | none => .error "TypeError"
  | some username =>
    if demoPrefix.isPrefixOf username.toList then .ok (String.ofList (username.toList.drop 5))
    else .ok username

def canonicalUsername (username : String) : String := String.ofList (demoPrefix ++ username.toList)

/-- The clients with another id than `exceptId`. -/
def isOther (exceptId : Option String) (item : Json) : Bool := item.textAt "id" ≠ exceptId

def usernameTaken (clients : List Json) (username : String) (exceptId : Option String) :
    Except String Bool :=
  clients.anyM fun client =>
    if isOther exceptId client then (localUsername client).map (· = username) else .ok false

def phoneTaken (clients : List Json) (phone : Option Json) (exceptId : Option String) : Bool :=
  phone.any fun phone => phone.truthy && clients.any fun client =>
    isOther exceptId client && (client.get "phone").any phone.same

def assertUnique (clients : List Json) (username : String) (phone : Option Json)
    (exceptId : Option String) : Except String Unit := do
  let taken ← usernameTaken clients username exceptId
  throwIf taken "client_local_username_exists"
  throwIf (phoneTaken clients phone exceptId) "phone_already_registered"

/-- `updateState` of the clients, which ensures the workspace again. -/
def updateClients (updater : Json → Json) (stored : Option Json) : Outcome Json :=
  match requireState rt metadata call clientReader stored with
  | (.error e, stored) => (.error e, stored)
  | (.ok _, stored) => updateState rt metadata call clientReader updater stored

def newClientId (clients : List Json) : String :=
  clientId metadata (toString (clients.length + 1) ++ "-" ++ toString call.now.val)

def newClient (payload : String × String × Json) (current : Json) : Except String Json := do
  assertUnique (current.itemsAt "clients") payload.2.1 (some payload.2.2) none
  return .obj [("id", .str (newClientId metadata call (current.itemsAt "clients"))),
    ("tenant_id", .str metadata.tenantId),
    ("owner_user_id", .str ("local-owner-" ++ metadata.tenantId ++ "-" ++
      toString ((current.itemsAt "clients").length + 1))),
    ("full_name", .str payload.1), ("username", .str (canonicalUsername payload.2.1)),
    ("phone", payload.2.2), ("is_active", .bool true), ("created_at", .str (timestamp rt call)),
    ("updated_at", .str (timestamp rt call))]

def ClientCreate.check (payload : ClientCreate) : Except String (String × String × Json) := do
  let fullName ← validateFullName rt payload.fullName
  let username ← validateLocalUsername payload.localUsername
  let phone ← normalizePhone payload.phone
  throwIf (length payload.password < 6) "client_validation_failed"
  return (fullName, username, phone)

def createClient (payload : ClientCreate) (stored : Option Json) : Outcome Json :=
  operate rt metadata call clientReader (payload.check rt) (newClient rt metadata call)
    (updateClients rt metadata call)
    (appendItem "clients") stored

def changedFullName (existing : Json) (name : Field String) : Except String (Option Json) :=
  match name.read with
  | none => .ok (existing.get "full_name")
  | some none => .error "client_validation_failed"
  | some (some name) => (validateFullName rt name).map fun name => some (.str name)

def changedUsername (existing : Json) (username : Field String) : Except String String :=
  match username.read with
  | none => localUsername existing
  | some none => .error "client_validation_failed"
  | some (some username) => validateLocalUsername username

def changedPhone (existing : Json) (phone : Field String) : Except String (Option Json) :=
  if phone.read.isNone then .ok (existing.get "phone") else (normalizePhone phone).map some

def changedClient (id : String) (payload : ClientUpdate) (current : Json) : Except String Json := do
  let existing ← findItem (current.itemsAt "clients") (hasId id) "client_not_found"
  let fullName ← changedFullName rt existing payload.fullName
  let username ← changedUsername existing payload.localUsername
  let phone ← changedPhone existing payload.phone
  assertUnique (current.itemsAt "clients") username phone (some id)
  return touched rt call (((existing.put "full_name" fullName).put "username"
    (some (.str (canonicalUsername username)))).put "phone" phone)

def updateClient (id : String) (payload : ClientUpdate) (stored : Option Json) : Outcome Json :=
  operate rt metadata call clientReader (.ok ()) (fun _ => changedClient rt call id payload)
    (updateClients rt metadata call)
    (setItem "clients" id) stored

def switchedClient (id : String) (isActive : Bool) (current : Json) : Except String Json := do
  let existing ← findItem (current.itemsAt "clients") (hasId id) "client_not_found"
  return touched rt call (existing.put "is_active" (some (.bool isActive)))

/-- `activate` and `deactivate`. -/
def setActive (id : String) (isActive : Bool) (stored : Option Json) : Outcome Json :=
  operate rt metadata call clientReader (.ok ()) (fun _ => switchedClient rt call id isActive)
    (updateClients rt metadata call) (setItem "clients" id) stored

def clientToDelete (id : String) (current : Json) : Except String Unit := do
  let client ← findItem (current.itemsAt "clients") (hasId id) "client_not_found"
  throwIf ((client.get "is_active").any Json.truthy) "client_delete_active"

def withoutClient (id : String) (state : Json) : Json :=
  putItems (putItems state "clients"
    ((state.itemsAt "clients").filter fun item => !hasId id item)) "subscriptions"
    ((state.itemsAt "subscriptions").filter fun subscription =>
      subscription.textAt "client_id" ≠ some id)

def deleteClient (id : String) (stored : Option Json) : Outcome Unit :=
  operate rt metadata call clientReader (.ok ()) (fun _ => clientToDelete id)
    (updateClients rt metadata call) (fun _ => withoutClient id) stored

/-! ## Subscriptions -/

def durationDays : List (String × Int) :=
  [("1_month", 30), ("3_months", 90), ("6_months", 180), ("9_months", 270), ("1_year", 365)]

/-- The names that a lookup in `DURATION_DAYS` finds in its prototype; what they name is no number. -/
def inheritedNames : List String :=
  ["constructor", "__defineGetter__", "__defineSetter__", "hasOwnProperty", "__lookupGetter__",
    "__lookupSetter__", "isPrototypeOf", "propertyIsEnumerable", "toString", "valueOf", "__proto__",
    "toLocaleString"]

/-- `new Date(value).getTime()`. -/
def newDate : Option Json → Option Int
  | some (.str text) => rt.parse text
  | some value => rt.coerced value
  | none => none

def parseDate (value : Option Json) : Except String Int :=
  match newDate rt value with
  | some t => .ok t
  | none => .error "subscription_invalid_dates"

def isoDate (value : Option Json) : Except String String := do
  let t ← parseDate rt value
  isoString rt (some t)

def propertyName : Option Json → String
  | some (.str text) => text
  | some value => rt.spelled value
  | none => "undefined"

def isCustom (durationType : Option Json) : Bool := durationType.bind Json.text = some "custom"

def validateDuration (durationType : Option Json) : Except String Unit :=
  throwIf (!(isCustom durationType || (durationDays.lookup (propertyName rt durationType)).isSome ||
    propertyName rt durationType ∈ inheritedNames)) "subscription_invalid_duration"

def calculateExpiration (startsAt durationType customExpiresAt : Option Json) :
    Except String String :=
  if isCustom durationType then
    if customExpiresAt.any Json.truthy then isoDate rt customExpiresAt
    else .error "subscription_validation_failed"
  else
    match durationDays.lookup (propertyName rt durationType) with
    | some days => do
      let t ← parseDate rt startsAt
      isoString rt (some (t + days * 86400000))
    | none =>
      if propertyName rt durationType ∈ inheritedNames then do
        let _ ← parseDate rt startsAt
        isoString rt none
      else .error "subscription_invalid_duration"

def validateDateRange (startsAt expiresAt : Option Json) : Except String Unit := do
  let expires ← parseDate rt expiresAt
  let starts ← parseDate rt startsAt
  throwIf (expires ≤ starts) "subscription_invalid_dates"

/-- `/^[^\s@]+@[^\s@]+\.[^\s@]+$/`: the domain has a point inside. -/
def isEmail (text : List Char) : Bool :=
  text.all (fun c => !isBlank c) &&
    match text.splitOn '@' with
    | [user, domain] => user ≠ [] && '.' ∈ (domain.drop 1).dropLast
    | _ => false

def validateEmail (value : String) : Except String String :=
  if isEmail (trim value).toList then .ok (trim value) else .error "subscription_validation_failed"

def validateRelationships (state : Json) (clientId serviceId planId : Option String) :
    Except String Unit := do
  throwIf (!(state.itemsAt "clients").any fun client => client.textAt "id" = clientId)
    "subscription_invalid_relationship"
  throwIf (!(state.itemsAt "services").any fun service => service.textAt "id" = serviceId)
    "subscription_invalid_relationship"
  throwIf (!((state.itemsAt "plans").find? fun plan => plan.textAt "id" = planId).any fun plan =>
    plan.textAt "service_id" = serviceId) "subscription_invalid_relationship"

def isActive (subscription : Json) : Bool := subscription.textAt "status" = some "active"

/-- An active subscription of the client and the service. -/
def rivals (clientId serviceId exceptId : Option String) (subscription : Json) : Bool :=
  isOther exceptId subscription && isActive subscription &&
    subscription.textAt "client_id" = clientId && subscription.textAt "service_id" = serviceId

def foldedEmail (email : Option Json) : Except String String :=
  match email.bind Json.text with
  | some text => .ok (rt.toLocaleLowerCase text)
  | none => .error "TypeError"

def validateDuplicate (state : Json) (clientId serviceId : Option String) (email : Option Json)
    (exceptId : Option String) : Except String Unit := do
  let duplicate ← (state.itemsAt "subscriptions").anyM fun subscription =>
    if rivals clientId serviceId exceptId subscription then do
      let other ← foldedEmail rt (subscription.get "streaming_email")
      let own ← foldedEmail rt email
      return other = own
    else .ok false
  throwIf duplicate "subscription_duplicate"

/-- `value || null`, of a text. -/
def textOrNull : Field String → Json
  | .value text => if text = "" then .null else .str text
  | _ => .null

/-- `value?.trim() || null`. -/
def trimmedOrNull : Field String → Json
  | .value text => if trim text = "" then .null else .str (trim text)
  | _ => .null

def subscriptionId : String := "subscription-" ++ metadata.tenantId ++ "-" ++ toString call.now.val

def newSubscription (payload : SubscriptionCreate) (state : Json) : Except String Json := do
  validateRelationships state (some payload.clientId) (some payload.serviceId) (some payload.planId)
  validateDuration rt (some (.str payload.durationType))
  let email ← validateEmail payload.streamingEmail
  validateDuplicate rt state (some payload.clientId) (some payload.serviceId) (some (.str email)) none
  let startsAt ← isoDate rt (some (.str payload.startsAt))
  let expiresAt ← calculateExpiration rt (some (.str startsAt)) (some (.str payload.durationType))
    payload.expiresAt.json
  validateDateRange rt (some (.str startsAt)) (some (.str expiresAt))
  throwIf ((textOrNull payload.profilePin).truthy && !(trimmedOrNull payload.profileName).truthy)
    "subscription_pin_requires_profile"
  return .obj [("id", .str (subscriptionId metadata call)), ("tenant_id", .str metadata.tenantId),
    ("client_id", .str payload.clientId), ("service_id", .str payload.serviceId),
    ("plan_id", .str payload.planId), ("streaming_email", .str email),
    ("streaming_secret", textOrNull payload.streamingPassword),
    ("profile_name", trimmedOrNull payload.profileName),
    ("pin_secret", textOrNull payload.profilePin), ("duration_type", .str payload.durationType),
    ("starts_at", .str startsAt), ("expires_at", .str expiresAt), ("cancelled_at", .null),
    ("status", .str "active"), ("created_at", .str (timestamp rt call)),
    ("updated_at", .str (timestamp rt call))]

def createSubscription (payload : SubscriptionCreate) (stored : Option Json) : Outcome Json :=
  operate rt metadata call pro (.ok ()) (fun _ => newSubscription rt metadata call payload)
    (updateState rt metadata call pro)
    (appendItem "subscriptions") stored

/-- `payload.field ? … : …`, where the field has a text. -/
def Field.nonempty : Field String → Option String
  | .value text => if text = "" then none else some text
  | _ => none

/-- `payload.field ? isoDate(payload.field) : …`. -/
def changedDate (field : Field String) (other : Except String (Option Json)) :
    Except String (Option Json) :=
  match field.nonempty with
  | some text => (isoDate rt (some (.str text))).map fun text => some (.str text)
  | none => other

def changedProfileName (existing : Json) (name : Field String) : Except String (Option Json) :=
  match name.read with
  | none => .ok (existing.get "profile_name")
  | some none => .error "TypeError"
  | some (some _) => .ok (some (trimmedOrNull name))

/-- `payload.field === undefined ? existing.field : payload.field || null`. -/
def changedSecret (existing : Json) (key : String) (secret : Field String) : Option Json :=
  if secret.read.isNone then existing.get key else some (textOrNull secret)

def changedEmail (existing : Json) (email : Field String) : Except String (Option Json) :=
  match email.read with
  | none => .ok (existing.get "streaming_email")
  | some none => .error "TypeError"
  | some (some email) => (validateEmail email).map fun email => some (.str email)

def changedSubscription (id : String) (payload : SubscriptionUpdate) (state : Json) :
    Except String Json := do
  let existing ← findItem (state.itemsAt "subscriptions") (hasId id) "subscription_not_found"
  let clientId := payload.clientId.orExisting (existing.get "client_id")
  let serviceId := payload.serviceId.orExisting (existing.get "service_id")
  let planId := payload.planId.orExisting (existing.get "plan_id")
  validateRelationships state (clientId.bind Json.text) (serviceId.bind Json.text)
    (planId.bind Json.text)
  let durationType := payload.durationType.orExisting (existing.get "duration_type")
  validateDuration rt durationType
  let startsAt ← changedDate rt payload.startsAt (.ok (existing.get "starts_at"))
  let expiresAt ← changedDate rt payload.expiresAt
    (if payload.durationType.nonempty.isSome || payload.startsAt.nonempty.isSome then
      (calculateExpiration rt startsAt durationType none).map fun text => some (.str text)
    else .ok (existing.get "expires_at"))
  validateDateRange rt startsAt expiresAt
  let profileName ← changedProfileName existing payload.profileName
  let profilePin := changedSecret existing "pin_secret" payload.profilePin
  throwIf (profilePin.any Json.truthy && !profileName.any Json.truthy)
    "subscription_pin_requires_profile"
  let email ← changedEmail existing payload.streamingEmail
  validateDuplicate rt state (clientId.bind Json.text) (serviceId.bind Json.text) email (some id)
  let secret := changedSecret existing "streaming_secret" payload.streamingPassword
  return touched rt call ((((((((((existing.put "client_id" clientId).put "service_id" serviceId).put
    "plan_id" planId).put "streaming_email" email).put "streaming_secret" secret).put "profile_name"
    profileName).put "pin_secret" profilePin).put "duration_type" durationType).put "starts_at"
    startsAt).put "expires_at" expiresAt)

def changeSubscription (id : String) (make : Json → Except String Json) (stored : Option Json) :
    Outcome Json :=
  operate rt metadata call pro (.ok ()) (fun _ => make) (updateState rt metadata call pro)
    (setItem "subscriptions" id) stored

def updateSubscription (id : String) (payload : SubscriptionUpdate) (stored : Option Json) :
    Outcome Json :=
  changeSubscription rt metadata call id (changedSubscription rt call id payload) stored

def cancelled (id : String) (state : Json) : Except String Json := do
  let existing ← findItem (state.itemsAt "subscriptions") (hasId id) "subscription_not_found"
  return touched rt call ((existing.put "status" (some (.str "cancelled"))).put "cancelled_at"
    (some (.str (timestamp rt call))))

def cancelSubscription (id : String) (stored : Option Json) : Outcome Json :=
  changeSubscription rt metadata call id (cancelled rt call id) stored

def activated (existing : Json) (durationType : Option Json) (expiresAt : String) : Json :=
  touched rt call ((((existing.put "duration_type" durationType).put "expires_at"
    (some (.str expiresAt))).put "cancelled_at" (some .null)).put "status" (some (.str "active")))

def renewed (id durationType : String) (expiresAt : Field String) (state : Json) :
    Except String Json := do
  let existing ← findItem (state.itemsAt "subscriptions") (hasId id) "subscription_not_found"
  validateDuration rt (some (.str durationType))
  let next ← calculateExpiration rt (existing.get "expires_at") (some (.str durationType))
    expiresAt.json
  validateDateRange rt (existing.get "starts_at") (some (.str next))
  return activated rt call existing (some (.str durationType)) next

def renewSubscription (id durationType : String) (expiresAt : Field String)
    (stored : Option Json) : Outcome Json :=
  changeSubscription rt metadata call id (renewed rt call id durationType expiresAt) stored

def Field.orDefault (field : Field String) (value : String) : Option Json :=
  field.json.or (some (.str value))

def reactivated (id : String) (durationType startsAt expiresAt : Field String) (state : Json) :
    Except String Json := do
  let existing ← findItem (state.itemsAt "subscriptions") (hasId id) "subscription_not_found"
  let duration := durationType.orDefault "1_month"
  validateDuration rt duration
  let nextStartsAt ← isoDate rt (startsAt.orDefault (timestamp rt call))
  let next ← calculateExpiration rt (some (.str nextStartsAt)) duration expiresAt.json
  validateDateRange rt (some (.str nextStartsAt)) (some (.str next))
  return activated rt call (existing.put "starts_at" (some (.str nextStartsAt))) duration next

def reactivateSubscription (id : String) (durationType startsAt expiresAt : Field String)
    (stored : Option Json) : Outcome Json :=
  changeSubscription rt metadata call id (reactivated rt call id durationType startsAt expiresAt)
    stored

end Operations

/-! ## Runs -/

inductive Op where
  | load (reader : Reader)
  | updateProfile (payload : ProfileUpdate)
  | updateReminderSettings (payload : ReminderSettingsUpdate)
  | updateTenantSettings (payload : TenantSettingsUpdate)
  | updateCodeServices (serviceKeys : List String)
  | createAccessBlock (phone : String)
  | deleteAccessBlock (id : String)
  | createService (payload : ServiceCreate)
  | updateService (id : String) (payload : ServiceUpdate)
  | deleteService (id : String)
  | createPlan (serviceId : String) (payload : PlanCreate)
  | updatePlan (serviceId planId : String) (payload : PlanUpdate)
  | deletePlan (serviceId planId : String)
  | createClient (payload : ClientCreate)
  | updateClient (id : String) (payload : ClientUpdate)
  | setActive (id : String) (isActive : Bool)
  | deleteClient (id : String)
  | createSubscription (payload : SubscriptionCreate)
  | updateSubscription (id : String) (payload : SubscriptionUpdate)
  | cancelSubscription (id : String)
  | renewSubscription (id durationType : String) (expiresAt : Field String)
  | reactivateSubscription (id : String) (durationType startsAt expiresAt : Field String)

/-- An operation of the modules. -/
def perform (rt : Runtime) (metadata : Metadata) (call : Call) (op : Op) (stored : Option Json) :
    Outcome Unit :=
  match op with
  | .load reader => done (load rt metadata call reader stored)
  | .updateProfile payload => done (updateProfile rt metadata call payload stored)
  | .updateReminderSettings payload => done (updateReminderSettings rt metadata call payload stored)
  | .updateTenantSettings payload => done (updateTenantSettings rt metadata call payload stored)
  | .updateCodeServices keys => done (updateCodeServices rt metadata call keys stored)
  | .createAccessBlock phone => done (createAccessBlock rt metadata call phone stored)
  | .deleteAccessBlock id => done (deleteAccessBlock rt metadata call id stored)
  | .createService payload => done (createService rt metadata call payload stored)
  | .updateService id payload => done (updateService rt metadata call id payload stored)
  | .deleteService id => done (deleteService rt metadata call id stored)
  | .createPlan serviceId payload => done (createPlan rt metadata call serviceId payload stored)
  | .updatePlan serviceId planId payload =>
    done (updatePlan rt metadata call serviceId planId payload stored)
  | .deletePlan serviceId planId => done (deletePlan rt metadata call serviceId planId stored)
  | .createClient payload => done (createClient rt metadata call payload stored)
  | .updateClient id payload => done (updateClient rt metadata call id payload stored)
  | .setActive id isActive => done (setActive rt metadata call id isActive stored)
  | .deleteClient id => done (deleteClient rt metadata call id stored)
  | .createSubscription payload => done (createSubscription rt metadata call payload stored)
  | .updateSubscription id payload => done (updateSubscription rt metadata call id payload stored)
  | .cancelSubscription id => done (cancelSubscription rt metadata call id stored)
  | .renewSubscription id durationType expiresAt =>
    done (renewSubscription rt metadata call id durationType expiresAt stored)
  | .reactivateSubscription id durationType startsAt expiresAt =>
    done (reactivateSubscription rt metadata call id durationType startsAt expiresAt stored)

/-- How an operation reads the state. -/
def Op.reader : Op → Reader
  | .load reader => reader
  | .updateProfile _ | .updateReminderSettings _ | .updateTenantSettings _ | .updateCodeServices _
  | .createAccessBlock _ | .deleteAccessBlock _ => starter
  | .createClient _ | .updateClient .. | .setActive .. | .deleteClient _ => clientReader
  | _ => pro

/-- The state that an operation makes of the one that is stored. -/
def Op.make (rt : Runtime) (metadata : Metadata) (call : Call) : Op → Json → Except String Json
  | .load reader => fun _ => .error reader.invalid
  | .updateProfile payload => fun state => .ok (withProfile payload state)
  | .updateReminderSettings payload => making (validateReminderSettings payload)
      (fun _ => newReminderSettings metadata payload) withReminderSettings
  | .updateTenantSettings payload => making (validateTenantSettings rt payload)
      (newTenantSettings metadata) withTenantSettings
  | .updateCodeServices keys => fun state => .ok (withCodeServices keys state)
  | .createAccessBlock phone => making (validatePhone phone) (newAccessBlock metadata call)
      (appendItem "blocked_identities")
  | .deleteAccessBlock id => fun state => .ok (withoutBlock id state)
  | .createService payload => making payload.check (newService rt metadata call)
      (appendItem "services")
  | .updateService id payload => making (.ok ()) (fun _ => changedService rt call id payload)
      (setItem "services" id)
  | .deleteService id => making (.ok ()) (fun _ => serviceToDelete id) (withoutService id)
  | .createPlan serviceId payload => making (payload.check rt) (newPlan rt metadata call serviceId)
      (appendItem "plans")
  | .updatePlan serviceId planId payload => making (.ok ())
      (fun _ => changedPlan rt call serviceId planId payload) (setItem "plans" planId)
  | .deletePlan serviceId planId => making (.ok ()) (fun _ => planToDelete serviceId planId)
      (fun _ => withoutPlan planId)
  | .createClient payload => making (payload.check rt) (newClient rt metadata call)
      (appendItem "clients")
  | .updateClient id payload => making (.ok ()) (fun _ => changedClient rt call id payload)
      (setItem "clients" id)
  | .setActive id isActive => making (.ok ()) (fun _ => switchedClient rt call id isActive)
      (setItem "clients" id)
  | .deleteClient id => making (.ok ()) (fun _ => clientToDelete id) (fun _ => withoutClient id)
  | .createSubscription payload => making (.ok ())
      (fun _ => newSubscription rt metadata call payload) (appendItem "subscriptions")
  | .updateSubscription id payload => making (.ok ())
      (fun _ => changedSubscription rt call id payload) (setItem "subscriptions" id)
  | .cancelSubscription id => making (.ok ()) (fun _ => cancelled rt call id)
      (setItem "subscriptions" id)
  | .renewSubscription id durationType expiresAt => making (.ok ())
      (fun _ => renewed rt call id durationType expiresAt) (setItem "subscriptions" id)
  | .reactivateSubscription id durationType startsAt expiresAt => making (.ok ())
      (fun _ => reactivated rt call id durationType startsAt expiresAt) (setItem "subscriptions" id)

/-- The clock and what is stored. -/
structure State where
  clock : Instant
  stored : Option Json

/-- A call of an operation, in a session. -/
structure Action where
  metadata : Metadata
  call : Call
  op : Op

/-- An operation is called behind the ones before, in a session of the owner that has not ended. -/
def step (rt : Runtime) (owner : Owner) (s : State) (a : Action) : Option State :=
  if s.clock ≤ a.call.now ∧ isLive rt owner a.metadata s.stored = true then
    some ⟨a.call.now, (perform rt a.metadata a.call a.op s.stored).2⟩
  else none

/-! ## What an operation stores -/

section Storing

variable {rt : Runtime} {owner : Owner} {metadata : Metadata} {call : Call} {envelope : Json}

theorem findItem_eq_ok {items : List Json} {p : Json → Bool} {e : String} {item : Json}
    (h : findItem items p e = .ok item) : item ∈ items ∧ p item = true := by
  unfold findItem at h
  cases hfind : items.find? p with
  | none =>
    rw [hfind] at h
    cases h
  | some found =>
    rw [hfind] at h
    rw [← Except.ok.inj h]
    exact ⟨List.mem_of_find?_eq_some hfind, List.find?_some hfind⟩

theorem throwIf_eq_ok {c : Bool} {e : String} {u : Unit} : throwIf c e = .ok u ↔ c = false := by
  cases c with
  | false => exact iff_of_true rfl rfl
  | true => exact iff_of_false (fun h => nomatch h) (fun h => nomatch h)

theorem updateClients_accepted (h : Accepted rt owner envelope)
    (hlive : isLive rt owner metadata (some envelope) = true) (updater : Json → Json) :
    updateClients rt metadata call updater (some envelope) =
      updateState rt metadata call clientReader updater (some envelope) := by
  have htenant : metadata.tenantId = owner.tenantId :=
    congrArg Owner.tenantId (isLive_iff.mp hlive).1
  unfold updateClients
  rw [requireState_accepted h hlive]
  cases hread : clientReader.read (planSpecific envelope) with
  | none =>
    rw [updateState_accepted h htenant, hread]
  | some state => rfl

theorem stores_perform (call : Call) (h : Accepted rt owner envelope)
    (hlive : isLive rt owner metadata (some envelope) = true) (op : Op) :
    Stores rt call op.reader envelope
      (storing rt call op.reader (op.make rt metadata call) (planSpecific envelope))
      (perform rt metadata call op (some envelope)) := by
  have htenant : metadata.tenantId = owner.tenantId :=
    congrArg Owner.tenantId (isLive_iff.mp hlive).1
  have hsame : ∀ updater : Json → Json,
      updateState rt metadata call op.reader updater (some envelope) =
        updateState rt metadata call op.reader updater (some envelope) := fun _ => rfl
  have hclients : ∀ updater : Json → Json, updateClients rt metadata call updater (some envelope) =
      updateState rt metadata call clientReader updater (some envelope) :=
    updateClients_accepted h hlive
  cases op with
  | load reader =>
    show Stores rt call reader envelope (storing rt call reader (fun _ => .error reader.invalid) _)
      (done (requireState rt metadata call reader (some envelope)))
    rw [requireState_accepted h hlive]
    unfold storing
    cases reader.read (planSpecific envelope) <;> rfl
  | updateProfile payload => exact stores_updateState h htenant
  | updateCodeServices keys => exact stores_updateState h htenant
  | deleteAccessBlock id => exact stores_updateState h htenant
  | createClient payload => exact stores_operate h hlive hclients
  | updateClient id payload => exact stores_operate h hlive hclients
  | setActive id isActive => exact stores_operate h hlive hclients
  | deleteClient id => exact stores_operate h hlive hclients
  | _ => exact stores_operate h hlive hsame

end Storing

end Trackpal.Browser.Workspace
