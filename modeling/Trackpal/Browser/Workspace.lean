import Mathlib.Algebra.Ring.Nat
import Trackpal.Foundation.Json
import Trackpal.Foundation.Text

/-!
# The stored demo workspace

What the browser stores of a demo tenant under one key of its local storage, how it is read and
written, and the baseline that is stored where there is nothing to read. The parts of the browser
that are not in the repository (`Date`, the letter cases, `Intl`) and the catalog of currencies are
given.

Results:
1. `ensure_accepted`: an accepted envelope of the same tenant, plan and name, which has not ended,
   is returned as it is stored.
2. `stores_updateState`, `stores_operate`: what an operation on it stores.
-/

namespace Trackpal.Browser.Workspace

open Trackpal.Foundation Json

/-! ## The browser -/

/-- The last millisecond that a `Date` has. -/
def maxTime : Nat := 8640000000000000

/-- `Date.now()`. -/
abbrev Instant := Fin (maxTime + 1)

/-- What the code takes from the browser. -/
structure Runtime where
  /-- `Date.parse`. -/
  parse : String → Option Int
  toISOString : Int → String
  parse_toISOString : ∀ t : Int, t.natAbs ≤ maxTime → parse (toISOString t) = some t
  /-- `new Date` of a value that is no string. -/
  coerced : Json → Option Int
  /-- A value that is no string as the name of a property. -/
  spelled : Json → String
  toLowerCase : String → String
  toLowerCase_plain : ∀ s : String, (∀ c ∈ s.toList, c.isLower ∨ c.isDigit ∨ c = '_') →
    toLowerCase s = s
  toUpperCase : String → String
  toLocaleLowerCase : String → String
  /-- The first letters of two texts without a difference but in case are one letter. -/
  first_letter : ∀ (c d : Char) (rest rest' : String), c.toNat < 128 → d.toNat < 128 →
    toLocaleLowerCase (c.toString ++ rest) = toLocaleLowerCase (d.toString ++ rest') →
      c.toLower = d.toLower
  /-- `Number`, where it is finite. -/
  number : String → Option Rat
  /-- A letter or a number of Unicode. -/
  isWordChar : Char → Bool
  isValidTimezone : String → Bool
  isCountry : String → Bool
  isCurrency : String → Bool

/-- `length`, in units of sixteen bits. -/
def length (text : String) : Nat :=
  (text.toList.map fun c => if 0x10000 ≤ c.toNat then 2 else 1).sum

/-! ## Metadata -/

inductive Plan where
  | starter
  | pro
deriving DecidableEq, Repr

def Plan.text : Plan → String
  | .starter => "starter"
  | .pro => "pro"

inductive DemoStatus where
  | pending
  | active
  | expired
deriving DecidableEq, Repr

inductive Locale where
  | en
  | es
deriving DecidableEq, Repr

def Locale.text : Locale → String
  | .en => "en"
  | .es => "es"

/-- `DemoAuthMetadata`. -/
structure Metadata where
  tenantId : String
  name : String
  plan : Plan
  status : DemoStatus
  activatedAt : Option String
  expiresAt : Option String
  locale : Option Locale
  serverTime : String
deriving DecidableEq, Repr

/-- `metadata.locale ?? "en"`. -/
def Metadata.localeText (metadata : Metadata) : String := (metadata.locale.getD .en).text

/-- Whose workspace it is. -/
structure Owner where
  tenantId : String
  name : String
  plan : Plan
deriving DecidableEq, Repr

def Metadata.owner (metadata : Metadata) : Owner := ⟨metadata.tenantId, metadata.name, metadata.plan⟩

structure Call where
  now : Instant
  full : Bool

/-- What an operation returns or throws, and what is then stored. -/
abbrev Outcome (α : Type) := Except String α × Option Json

/-! ## Checks of what was stored -/

section Checks

variable (rt : Runtime)

/-- `Number.isFinite(Date.parse(value))`, with the time. -/
def isTimestamp (value : Option Json) : Option Int := (value.bind Json.text).bind rt.parse

def isLifecyclePair : Option Json → Option Json → Bool
  | some .null, some .null => true
  | activatedAt, expiresAt =>
    match isTimestamp rt activatedAt, isTimestamp rt expiresAt with
    | some activated, some expires => activated < expires
    | _, _ => false

def isForbiddenKey (key : String) : Bool :=
  ["password", "access_token", "refresh_token", "session", "chat", "credential"].any
    fun part => occursIn part (rt.toLowerCase key)

def hasForbiddenKey (value : Json) : Bool := value.anyKey (isForbiddenKey rt)

def isRecordArray (value : Option Json) (requiredKeys : List String) : Bool :=
  match value with
  | some (.arr items) =>
    items.all fun item => item.isRecord && requiredKeys.all fun key => (item.textAt key).isSome
  | _ => false

/-- One side of an icon reference: words of lower-case letters and digits with hyphens between. -/
def isIconPart (part : List Char) : Bool :=
  (part.splitOn '-').all fun word => word ≠ [] && word.all fun c => c.isLower || c.isDigit

/-- `parseIconReference`, where it is not `null`. -/
def parseIconReference (value : String) : Bool :=
  value ≠ "" && length value ≤ 255 &&
    match value.toList.splitOn ':' with
    | [pre, name] => isIconPart pre && isIconPart name
    | _ => false

def isValidIcon : Option Json → Bool
  | some .null => true
  | some (.str value) => parseIconReference value
  | _ => false

def isServiceIconValid (service : Json) : Bool := service.isRecord && isValidIcon (service.get "icon")

/-- An integration of the demo. -/
def isConnected (integration : Option Json) : Bool :=
  integration.any fun integration => integration.isRecord &&
    (integration.textAt "status" = some "connected" &&
      match integration.get "simulated" with
      | some (.bool true) => true
      | _ => false)

/-- The checks of `isPlanSpecificState` where there is a profile. -/
def isProfiled (value : Json) : Bool :=
  (value.get "profile").any (fun profile => profile.isRecord &&
    ((profile.textAt "business_name").isSome &&
      (profile.textAt "locale" = some "en" || profile.textAt "locale" = some "es"))) &&
  (value.get "integrations").any (fun integrations => integrations.isRecord &&
    (isConnected (integrations.get "mailbox") && isConnected (integrations.get "whatsapp"))) &&
  isRecordArray (value.get "code_services") ["id", "name"] &&
  isRecordArray (value.get "blocked_identities") ["id", "phone"]

def proKeys : List String := ["clients", "services", "plans", "subscriptions"]

/-- The checks of `isPlanSpecificState` of the collections. -/
def isRelational (value : Json) : Bool :=
  isRecordArray (value.get "clients") ["id", "tenant_id", "full_name"] &&
  isRecordArray (value.get "services") ["id", "tenant_id", "name"] &&
  (value.itemsAt "services").all isServiceIconValid &&
  isRecordArray (value.get "plans") ["id", "tenant_id", "service_id", "name"] &&
  isRecordArray (value.get "subscriptions") ["id", "tenant_id", "client_id", "service_id", "plan_id"]

def isPlanSpecificState (value : Json) (plan : Plan) : Bool :=
  value.isRecord && !hasForbiddenKey rt value &&
  ((value.get "profile").isNone || isProfiled value) &&
  (if proKeys.any fun key => (value.get key).isSome then plan = .pro && isRelational value else true)

def planOf (value : Json) : Option Plan :=
  match value.textAt "plan" with
  | some "starter" => some .starter
  | some "pro" => some .pro
  | _ => none

def schemaVersion : Json := .num 3

def isBaselineVersion : Option Json → Bool
  | some (.num version) => version.den = 1 && 1 ≤ version
  | _ => false

def isWorkspaceEnvelope (value : Json) (tenantId : String) : Bool :=
  value.isRecord &&
  (value.get "schema_version").any (Json.same schemaVersion) &&
  value.textAt "tenant_id" = some tenantId &&
  (value.textAt "source_name").any (· ≠ "") &&
  isLifecyclePair rt (value.get "activated_at") (value.get "expires_at") &&
  isBaselineVersion (value.get "baseline_version") &&
  (planOf value).any (fun plan =>
    (value.get "plan_specific").any fun planSpecific => isPlanSpecificState rt planSpecific plan) &&
  (value.get "tour_state").any Json.isRecord &&
  (isTimestamp rt (value.get "saved_at")).isSome

def migrateServiceIcons (planSpecific : Option Json) : Option Json :=
  match planSpecific with
  | some (.obj fields) =>
    match (Json.obj fields).get "services" with
    | some (.arr services) =>
      some ((Json.obj fields).put "services" (some (.arr (services.map fun service =>
        if service.isRecord && (service.get "icon").isNone then service.put "icon" (some .null)
        else service))))
    | _ => some (.obj fields)
  | value => value

def migrateKnownEnvelope (value : Json) (tenantId : String) : Option (Json × Bool) :=
  if !(value.isRecord && value.textAt "tenant_id" = some tenantId) then none
  else if (value.get "schema_version").any (Json.same schemaVersion) then
    if isWorkspaceEnvelope rt value tenantId then some (value, false) else none
  else if (value.get "schema_version").any fun version =>
      version.same (.num 1) || version.same (.num 2) then
    let migrated := ((value.put "plan_specific" (migrateServiceIcons (value.get "plan_specific"))).put
      "schema_version" (some schemaVersion)).put "baseline_version"
      (if isBaselineVersion (value.get "baseline_version") then value.get "baseline_version"
        else some (.num 1))
    if isWorkspaceEnvelope rt migrated tenantId then some (migrated, true) else none
  else none

/-! ## The state of a plan -/

def readStarterDemoState (planSpecific : Json) : Option Json :=
  if (planSpecific.get "profile").any (fun profile => profile.truthy &&
      ((profile.textAt "business_name").isSome &&
        (profile.textAt "locale" = some "en" || profile.textAt "locale" = some "es"))) &&
    (planSpecific.get "integrations").any Json.truthy &&
    (planSpecific.get "code_services").any Json.isArray &&
    (planSpecific.get "blocked_identities").any Json.isArray
  then some planSpecific else none

def readProDemoState (planSpecific : Json) : Option Json :=
  (readStarterDemoState planSpecific).bind fun state =>
    if proKeys.all fun key => (state.get key).any Json.isArray then some state else none

end Checks

/-! ## The baseline -/

section Baseline

variable (rt : Runtime) (metadata : Metadata)

/-- `toISOString` of a time that a `Date` may not have. -/
def isoString (time : Option Int) : Except String String :=
  match time with
  | some t => if t.natAbs ≤ maxTime then .ok (rt.toISOString t) else .error "RangeError"
  | none => .error "RangeError"

/-- A day of the baseline, from `activatedAt ?? serverTime`. -/
def dateAtOffset (days : Int) : Except String String :=
  isoString rt ((rt.parse (metadata.activatedAt.getD metadata.serverTime)).map
    (· + days * 86400000))

def connected : Json := .obj [("status", .str "connected"), ("simulated", .bool true)]

def codeService (id name : String) : Json :=
  .obj [("id", .str id), ("name", .str name), ("enabled", .bool true)]

def blockedIdentity (id phone : String) : Json := .obj [("id", .str id), ("phone", .str phone)]

def defaultReminderSettings : Json :=
  .obj [("id", .str ("reminders-" ++ metadata.tenantId)), ("tenant_id", .str metadata.tenantId),
    ("warning_days", .arr [.num 7, .num 3, .num 1]), ("reminder_time", .str "09:00"),
    ("recipient_mode", .str "tenant_only"), ("reminders_enabled", .bool false),
    ("custom_message_tenant", .null), ("custom_message_client", .null),
    ("created_at", .str metadata.serverTime), ("updated_at", .str metadata.serverTime)]

def tenantSettings (country currency : Json) : Json :=
  .obj [("tenant_id", .str metadata.tenantId), ("locale", .str metadata.localeText),
    ("timezone", .str "UTC"), ("country", country), ("currency", currency),
    ("created_at", .str metadata.serverTime), ("updated_at", .str metadata.serverTime)]

def createStarterState : List (String × Json) :=
  [("profile", .obj [("business_name", .str metadata.name), ("locale", .str metadata.localeText),
      ("phone", .null)]),
    ("integrations", .obj [("mailbox", connected), ("whatsapp", connected)]),
    ("code_services", .arr [codeService "disney" "Disney+", codeService "hbo_max" "HBO Max",
      codeService "netflix" "Netflix", codeService "prime_video" "Prime Video",
      codeService "spotify" "Spotify", codeService "universal_plus" "Universal+"]),
    ("blocked_identities", .arr [blockedIdentity "blocked-1" "12025550101",
      blockedIdentity "blocked-2" "12025550102"]),
    ("reminder_settings", defaultReminderSettings metadata)]

def serviceDefinitions : List (String × String × String) :=
  [("service-disney", "Disney+", "tabler:brand-disney"),
    ("service-hbo_max", "HBO Max", "simple-icons:max"),
    ("service-netflix", "Netflix", "simple-icons:netflix"),
    ("service-prime_video", "Prime Video", "simple-icons:primevideo"),
    ("service-spotify", "Spotify", "simple-icons:spotify"),
    ("service-universal_plus", "Universal+", "mdi:television-play")]

def planDefinitions : List (String × String × String × Option String) :=
  [("service-disney", "disney-basic", "Básico", none),
    ("service-disney", "disney-premium", "Premium", some "25.00"),
    ("service-hbo_max", "hbo-basic", "Básico", none),
    ("service-hbo_max", "hbo-premium", "Premium", some "22.00"),
    ("service-netflix", "netflix-basic", "Básico", some "8.50"),
    ("service-netflix", "netflix-premium", "Premium HD", some "18.00"),
    ("service-prime_video", "prime-basic", "Básico", none),
    ("service-prime_video", "prime-premium", "Premium", some "15.00"),
    ("service-spotify", "spotify-individual", "Individual", some "9.99"),
    ("service-spotify", "spotify-family", "Familiar", some "16.99"),
    ("service-universal_plus", "universal-basic", "Básico", none),
    ("service-universal_plus", "universal-premium", "Premium", some "12.00")]

/-- The clients of the baseline: number, name, username, phone, whether active, and day. -/
def clientDefinitions : List (String × String × String × String × Bool × Int) :=
  [("1", "Avery Stone", "avery_stone", "14155552671", true, -10),
    ("2", "Mina Duarte", "mina_duarte", "14155552672", true, -7),
    ("3", "Leo Chen", "leo_chen", "14155552673", true, -4),
    ("4", "Priya Nair", "priya_nair", "14155552674", false, -2),
    ("5", "Jon Bell", "jon_bell", "14155552675", false, -1)]

/-- A subscription of the baseline. Its plan is looked up in the source by its name and service. -/
structure Draft where
  id : String
  client : String
  service : String
  plan : String
  email : String
  startsAt : Int
  expiresAt : Int
  durationType : String
  status : String
  password : String
  profileName : Option String
  profilePin : Option String
  cancelledAt : Option Int

def subscriptionDefinitions : List Draft :=
  [⟨"subscription-active", "1", "service-netflix", "netflix-basic", "demo.active@example.test",
      -14, 16, "1_month", "active", "demo-active-secret", none, none, none⟩,
    ⟨"subscription-expiring-7", "2", "service-disney", "disney-premium",
      "demo.expiring.7@example.test", -23, 7, "1_month", "active", "demo-expiring-7-secret",
      some "Perfil Demo 7", some "7007", none⟩,
    ⟨"subscription-expiring-3", "3", "service-hbo_max", "hbo-basic", "demo.expiring.3@example.test",
      -27, 3, "1_month", "active", "demo-expiring-3-secret", none, none, none⟩,
    ⟨"subscription-expiring-1", "4", "service-prime_video", "prime-premium",
      "demo.expiring.1@example.test", -29, 1, "1_month", "active", "demo-expiring-1-secret",
      some "Perfil Demo 1", some "1001", none⟩,
    ⟨"subscription-renewed", "1", "service-spotify", "spotify-individual",
      "demo.renewed@example.test", -5, 25, "3_months", "active", "demo-renewed-secret",
      none, none, none⟩,
    ⟨"subscription-expired", "1", "service-universal_plus", "universal-basic",
      "demo.expired@example.test", -45, -15, "1_month", "expired", "demo-expired-secret",
      none, none, none⟩,
    ⟨"subscription-cancelled", "2", "service-netflix", "netflix-basic",
      "demo.cancelled@example.test", -20, 10, "1_month", "cancelled", "demo-cancelled-secret",
      none, none, some (-10)⟩,
    ⟨"subscription-reactivated", "3", "service-disney", "disney-basic",
      "demo.reactivated@example.test", -8, 22, "1_month", "cancelled", "demo-reactivated-secret",
      some "Perfil Reactivado", some "2222", some (-2)⟩]

/-- `value ?? null`. -/
def orNull (value : Option String) : Json := (value.map Json.str).getD .null

def baselineService (d : String × String × String) : Json :=
  .obj [("id", .str (metadata.tenantId ++ "-" ++ d.1)), ("tenant_id", .str metadata.tenantId),
    ("name", .str d.2.1), ("icon", .str d.2.2),
    ("created_at", .str metadata.serverTime), ("updated_at", .str metadata.serverTime)]

def baselinePlan (d : String × String × String × Option String) : Json :=
  .obj [("id", .str (metadata.tenantId ++ "-" ++ d.2.1)), ("tenant_id", .str metadata.tenantId),
    ("service_id", .str (metadata.tenantId ++ "-" ++ d.1)), ("name", .str d.2.2.1),
    ("price", orNull d.2.2.2),
    ("created_at", .str metadata.serverTime), ("updated_at", .str metadata.serverTime)]

def clientId (number : String) : String := "client-" ++ metadata.tenantId ++ "-" ++ number

def baselineClient (d : String × String × String × String × Bool × Int) :
    Except String Json := do
  let timestamp ← dateAtOffset rt metadata d.2.2.2.2.2
  return .obj [("id", .str (clientId metadata d.1)), ("tenant_id", .str metadata.tenantId),
    ("owner_user_id", .str ("local-owner-" ++ metadata.tenantId ++ "-" ++ d.1)),
    ("full_name", .str d.2.1), ("username", .str ("demo_" ++ d.2.2.1)), ("phone", .str d.2.2.2.1),
    ("is_active", .bool d.2.2.2.2.1), ("created_at", .str timestamp), ("updated_at", .str timestamp)]

def baselineSubscription (d : Draft) : Except String Json := do
  let now ← dateAtOffset rt metadata 0
  let startsAt ← dateAtOffset rt metadata d.startsAt
  let expiresAt ← dateAtOffset rt metadata d.expiresAt
  let cancelledAt ← d.cancelledAt.mapM (dateAtOffset rt metadata)
  return .obj [("id", .str (metadata.tenantId ++ "-" ++ d.id)), ("tenant_id", .str metadata.tenantId),
    ("client_id", .str (clientId metadata d.client)),
    ("service_id", .str (metadata.tenantId ++ "-" ++ d.service)),
    ("plan_id", .str (metadata.tenantId ++ "-" ++ d.plan)), ("streaming_email", .str d.email),
    ("streaming_secret", .str d.password), ("profile_name", orNull d.profileName),
    ("pin_secret", orNull d.profilePin), ("duration_type", .str d.durationType),
    ("starts_at", .str startsAt), ("expires_at", .str expiresAt),
    ("cancelled_at", orNull cancelledAt), ("status", .str d.status), ("created_at", .str now),
    ("updated_at", .str now)]

def createProClients : Except String (List Json) :=
  clientDefinitions.mapM (baselineClient rt metadata)

def createProSubscriptions : Except String (List Json) :=
  subscriptionDefinitions.mapM (baselineSubscription rt metadata)

/-- `createDemoBaseline`, the state of the plan. -/
def createDemoBaseline : Except String Json :=
  match metadata.plan with
  | .starter =>
    .ok (.obj (createStarterState metadata ++
      [("tenant_settings", tenantSettings metadata (.str "US") .null)]))
  | .pro => do
    let clients ← createProClients rt metadata
    let subscriptions ← createProSubscriptions rt metadata
    return .obj (createStarterState metadata ++
      [("tenant_settings", tenantSettings metadata (.str "US") (.str "USD")),
        ("clients", .arr clients),
        ("services", .arr (serviceDefinitions.map (baselineService metadata))),
        ("plans", .arr (planDefinitions.map (baselinePlan metadata))),
        ("subscriptions", .arr subscriptions)])

end Baseline

/-! ## The repository -/

section Repository

variable (rt : Runtime) (metadata : Metadata) (call : Call)

/-- `new Date().toISOString()`. -/
def timestamp : String := rt.toISOString call.now

def timestampOrNull (value : Option String) : Json :=
  orNull (value.filter fun value => (rt.parse value).isSome)

def createEnvelope (planSpecific : Json) : Json :=
  .obj [("schema_version", schemaVersion), ("tenant_id", .str metadata.tenantId),
    ("source_name", .str metadata.name), ("plan", .str metadata.plan.text),
    ("activated_at", timestampOrNull rt metadata.activatedAt),
    ("expires_at", timestampOrNull rt metadata.expiresAt), ("baseline_version", .num 4),
    ("plan_specific", planSpecific), ("tour_state", .obj []), ("saved_at", .str (timestamp rt call))]

def write (envelope : Json) (stored : Option Json) : Outcome Json :=
  if call.full then (.error "demo_workspace_quota_exceeded", stored)
  else (.ok envelope, some envelope)

def save (tenantId : String) (stored : Option Json) : Outcome Json :=
  match createDemoBaseline rt metadata with
  | .error e => (.error e, stored)
  | .ok planSpecific =>
    let envelope := createEnvelope rt metadata call planSpecific
    if isWorkspaceEnvelope rt envelope tenantId then write call envelope stored
    else (.error "invalid_demo_workspace_baseline", stored)

/-- `envelope.expires_at` is behind the time of the server. -/
def isExpiredOrphan (envelope : Json) : Bool :=
  match rt.parse metadata.serverTime, isTimestamp rt (envelope.get "expires_at") with
  | some reference, some expires => expires ≤ reference
  | _, _ => false

/-- `cleanupExpiredOrphans`, of the key of the tenant. -/
def cleanupExpiredOrphans (stored : Option Json) : Option Json :=
  stored.filter fun parsed => !(parsed.isRecord && isExpiredOrphan rt metadata parsed)

/-- `readInternal`, which stores what it has migrated. -/
def readInternal (tenantId : String) (stored : Option Json) : Outcome (Option Json) :=
  match stored.bind fun raw => migrateKnownEnvelope rt raw tenantId with
  | none => (.ok none, stored)
  | some (envelope, migrated) =>
    if migrated && call.full then (.error "demo_workspace_quota_exceeded", stored)
    else (.ok (some envelope), some envelope)

def ensure (tenantId : String) (stored : Option Json) : Outcome Json :=
  if metadata.tenantId ≠ tenantId then (.error "demo_workspace_identity_mismatch", stored)
  else if metadata.status = .expired then (.error "demo_workspace_ended", none)
  else
    let stored := cleanupExpiredOrphans rt metadata stored
    match stored.bind fun raw => migrateKnownEnvelope rt raw tenantId with
    | none => save rt metadata call tenantId stored
    | some (envelope, migrated) =>
      if isExpiredOrphan rt metadata envelope then save rt metadata call tenantId none
      else if planOf envelope = some metadata.plan &&
          envelope.textAt "source_name" = some metadata.name then
        if migrated && call.full then (.error "demo_workspace_quota_exceeded", stored)
        else (.ok envelope, some envelope)
      else save rt metadata call tenantId stored

/-- The envelope with a new state. -/
def updated (envelope planSpecific : Json) : Json :=
  (envelope.put "plan_specific" (some planSpecific)).put "saved_at" (some (.str (timestamp rt call)))

def updatePlanSpecific (tenantId : String) (updater : Json → Except String Json)
    (stored : Option Json) : Outcome (Option Json) :=
  match readInternal rt call tenantId stored with
  | (.error e, stored) => (.error e, stored)
  | (.ok none, stored) => (.ok none, stored)
  | (.ok (some envelope), stored) =>
    match updater ((envelope.get "plan_specific").getD .null) with
    | .error e => (.error e, stored)
    | .ok planSpecific =>
      if !planSpecific.isRecord || hasForbiddenKey rt planSpecific then
        (.error "invalid_demo_workspace_state", stored)
      else
        match write call (updated rt call envelope planSpecific) stored with
        | (.error e, stored) => (.error e, stored)
        | (.ok envelope, stored) => (.ok (some envelope), stored)

/-- How a module of operations reads the state, and what it throws where it cannot. -/
structure Reader where
  read : Json → Option Json
  invalid : String

variable (reader : Reader)

def requireState (stored : Option Json) : Outcome Json :=
  match ensure rt metadata call metadata.tenantId stored with
  | (.error e, stored) => (.error e, stored)
  | (.ok envelope, stored) =>
    match reader.read ((envelope.get "plan_specific").getD .null) with
    | none => (.error reader.invalid, stored)
    | some state => (.ok state, stored)

def updateState (updater : Json → Json) (stored : Option Json) : Outcome Json :=
  match updatePlanSpecific rt call metadata.tenantId (fun planSpecific =>
      match reader.read planSpecific with
      | none => .error reader.invalid
      | some state => .ok (updater state)) stored with
  | (.error e, stored) => (.error e, stored)
  | (.ok none, stored) => (.error reader.invalid, stored)
  | (.ok (some envelope), stored) =>
    match reader.read ((envelope.get "plan_specific").getD .null) with
    | none => (.error reader.invalid, stored)
    | some state => (.ok state, stored)

/-- An operation that checks its payload, reads the state, checks what it has made of both, and
updates the state with `save`. It returns what it has made. -/
def operate {α β : Type} (payload : Except String α) (make : α → Json → Except String β)
    (save : (Json → Json) → Option Json → Outcome Json) (update : β → Json → Json)
    (stored : Option Json) : Outcome β :=
  match payload with
  | .error e => (.error e, stored)
  | .ok a =>
    match requireState rt metadata call reader stored with
    | (.error e, stored) => (.error e, stored)
    | (.ok state, stored) =>
      match make a state with
      | .error e => (.error e, stored)
      | .ok b =>
        match save (update b) stored with
        | (.error e, stored) => (.error e, stored)
        | (.ok _, stored) => (.ok b, stored)

end Repository

/-- A session of the owner whose evaluation has not ended. -/
def isLive (rt : Runtime) (owner : Owner) (metadata : Metadata) (stored : Option Json) : Bool :=
  metadata.owner = owner && metadata.status ≠ .expired && !stored.any (isExpiredOrphan rt metadata)

/-! ## An accepted envelope -/

/-- A valid envelope of the owner. -/
structure Accepted (rt : Runtime) (owner : Owner) (envelope : Json) : Prop where
  valid : isWorkspaceEnvelope rt envelope owner.tenantId = true
  plan : planOf envelope = some owner.plan
  name : envelope.textAt "source_name" = some owner.name

def planSpecific (envelope : Json) : Json := (envelope.get "plan_specific").getD .null

section Accepted

variable {rt : Runtime} {owner : Owner} {metadata : Metadata} {call : Call} {envelope state : Json}
  {reader : Reader} {updater : Json → Json}

theorem isWorkspaceEnvelope_iff {tenantId : String} :
    isWorkspaceEnvelope rt envelope tenantId = true ↔
      envelope.isRecord = true ∧ (envelope.get "schema_version").any (Json.same schemaVersion) ∧
      envelope.textAt "tenant_id" = some tenantId ∧
      (envelope.textAt "source_name").any (· ≠ "") ∧
      isLifecyclePair rt (envelope.get "activated_at") (envelope.get "expires_at") = true ∧
      isBaselineVersion (envelope.get "baseline_version") = true ∧
      (∃ plan, planOf envelope = some plan ∧ ∃ state, envelope.get "plan_specific" = some state ∧
        isPlanSpecificState rt state plan = true) ∧
      (envelope.get "tour_state").any Json.isRecord ∧
      (isTimestamp rt (envelope.get "saved_at")).isSome = true := by
  unfold isWorkspaceEnvelope
  simp only [Bool.and_eq_true, decide_eq_true_eq, and_assoc, Option.any_eq_true]

theorem Accepted.plan_specific (h : Accepted rt owner envelope) :
    envelope.get "plan_specific" = some (planSpecific envelope) ∧
      isPlanSpecificState rt (planSpecific envelope) owner.plan = true := by
  obtain ⟨-, -, -, -, -, -, ⟨plan, hplan, state, hstate, hfine⟩, -⟩ :=
    isWorkspaceEnvelope_iff.mp h.valid
  rw [Option.some.inj (h.plan.symm.trans hplan)]
  unfold planSpecific
  rw [hstate]
  exact ⟨rfl, hfine⟩

theorem Accepted.migrate (h : Accepted rt owner envelope) :
    migrateKnownEnvelope rt envelope owner.tenantId = some (envelope, false) := by
  obtain ⟨hrecord, hversion, htenant, -⟩ := isWorkspaceEnvelope_iff.mp h.valid
  unfold migrateKnownEnvelope
  rw [if_neg (by simp [hrecord, htenant]), if_pos hversion, if_pos h.valid]

theorem isLive_iff {stored : Option Json} : isLive rt owner metadata stored = true ↔
    metadata.owner = owner ∧ metadata.status ≠ .expired ∧
      stored.any (isExpiredOrphan rt metadata) = false := by
  unfold isLive
  simp only [Bool.and_eq_true, decide_eq_true_eq, Bool.not_eq_true', and_assoc]

theorem ensure_accepted (h : Accepted rt owner envelope)
    (hlive : isLive rt owner metadata (some envelope) = true) :
    ensure rt metadata call owner.tenantId (some envelope) = (.ok envelope, some envelope) := by
  obtain ⟨howner, hstatus, horphan⟩ := isLive_iff.mp hlive
  have htenant : metadata.tenantId = owner.tenantId := congrArg Owner.tenantId howner
  have horphan : isExpiredOrphan rt metadata envelope = false := horphan
  have hkept : cleanupExpiredOrphans rt metadata (some envelope) = some envelope := by
    unfold cleanupExpiredOrphans
    rw [Option.filter_some, if_pos (by rw [horphan, Bool.and_false]; rfl)]
  unfold ensure
  rw [if_neg (not_not.mpr htenant), if_neg hstatus, hkept]
  dsimp only [Option.bind_some]
  rw [h.migrate]
  dsimp only
  have hsame : (planOf envelope = some metadata.plan &&
      envelope.textAt "source_name" = some metadata.name) = true := by
    rw [h.plan, h.name, ← howner]
    simp [Metadata.owner]
  rw [if_neg (by rw [horphan]; exact Bool.false_ne_true), if_pos hsame, Bool.false_and,
    if_neg Bool.false_ne_true]

theorem requireState_accepted (h : Accepted rt owner envelope)
    (hlive : isLive rt owner metadata (some envelope) = true) :
    requireState rt metadata call reader (some envelope) =
      match reader.read (planSpecific envelope) with
      | none => (.error reader.invalid, some envelope)
      | some state => (.ok state, some envelope) := by
  have htenant : metadata.tenantId = owner.tenantId :=
    congrArg Owner.tenantId (isLive_iff.mp hlive).1
  unfold requireState
  rw [htenant, ensure_accepted h hlive]
  rfl

/-- What an update may store. -/
def isWritable (rt : Runtime) (call : Call) (state : Json) : Bool :=
  state.isRecord && !hasForbiddenKey rt state && !call.full

/-- What an update throws that may not store its state. -/
def refusal (rt : Runtime) (state : Json) : String :=
  if state.isRecord && !hasForbiddenKey rt state then "demo_workspace_quota_exceeded"
  else "invalid_demo_workspace_state"

theorem updateState_accepted (h : Accepted rt owner envelope)
    (htenant : metadata.tenantId = owner.tenantId) :
    updateState rt metadata call reader updater (some envelope) =
      match reader.read (planSpecific envelope) with
      | none => (.error reader.invalid, some envelope)
      | some state =>
        if isWritable rt call (updater state) then
          (match reader.read (updater state) with
            | none => .error reader.invalid
            | some state => .ok state, some (updated rt call envelope (updater state)))
        else (.error (refusal rt (updater state)), some envelope) := by
  unfold updateState updatePlanSpecific readInternal
  rw [htenant]
  dsimp only [Option.bind_some]
  rw [h.migrate]
  dsimp only
  rw [Bool.false_and, if_neg Bool.false_ne_true]
  dsimp only
  rw [show (envelope.get "plan_specific").getD .null = planSpecific envelope from rfl]
  cases reader.read (planSpecific envelope) with
  | none => rfl
  | some state =>
    dsimp only
    unfold isWritable refusal write
    cases hrecord : (updater state).isRecord
    · rfl
    cases hforbidden : hasForbiddenKey rt (updater state)
    · cases hfull : call.full
      · have hget : ((updated rt call envelope (updater state)).get "plan_specific").getD .null =
            updater state := by
          unfold updated
          rw [get_put_of_ne (by decide), get_put_self]
          rfl
        rw [Bool.not_true, Bool.or_false, Bool.not_false, Bool.and_true, Bool.and_true,
          if_neg Bool.false_ne_true, if_neg Bool.false_ne_true, if_pos rfl]
        dsimp only
        rw [hget]
        cases reader.read (updater state) <;> rfl
      · rfl
    · rfl

theorem bind_eq_ok {ε α β : Type} {x : Except ε α} {f : α → Except ε β} {b : β} :
    (x >>= f) = .ok b ↔ ∃ a, x = .ok a ∧ f a = .ok b := by
  cases x with
  | error e =>
    refine iff_of_false (fun h => nomatch h) ?_
    rintro ⟨a, ⟨⟩, -⟩
  | ok a =>
    constructor
    · exact fun h => ⟨a, rfl, h⟩
    · rintro ⟨_, ⟨⟩, h⟩
      exact h

def making {α β : Type} (payload : Except String α) (make : α → Json → Except String β)
    (update : β → Json → Json) (state : Json) : Except String Json := do
  let a ← payload
  let b ← make a state
  return update b state

theorem making_eq_ok {α β : Type} {payload : Except String α} {make : α → Json → Except String β}
    {update : β → Json → Json} {next : Json} : making payload make update state = .ok next ↔
      ∃ a b, payload = .ok a ∧ make a state = .ok b ∧ next = update b state := by
  unfold making
  rw [bind_eq_ok]
  constructor
  · rintro ⟨a, ha, h⟩
    obtain ⟨b, hb, h⟩ := bind_eq_ok.mp h
    exact ⟨a, b, ha, hb, (Except.ok.inj h).symm⟩
  · rintro ⟨a, b, ha, hb, rfl⟩
    exact ⟨a, ha, bind_eq_ok.mpr ⟨b, hb, rfl⟩⟩

def storing (rt : Runtime) (call : Call) (reader : Reader) (make : Json → Except String Json)
    (state : Json) : Option Json :=
  ((reader.read state).bind fun state => (make state).toOption).filter (isWritable rt call)

def Stores (rt : Runtime) (call : Call) (reader : Reader) (envelope : Json) (next : Option Json)
    (outcome : Outcome Unit) : Prop :=
  match next with
  | none => outcome.2 = some envelope
  | some state => outcome = (if (reader.read state).isSome then .ok () else .error reader.invalid,
      some (updated rt call envelope state))

/-- Whether an operation returned, and what is stored behind it. -/
def done {α : Type} (outcome : Outcome α) : Outcome Unit := (outcome.1.map fun _ => (), outcome.2)

theorem storing_eq_some {make : Json → Except String Json} {next : Json} :
    storing rt call reader make state = some next ↔ ∃ read, reader.read state = some read ∧
      make read = .ok next ∧ isWritable rt call next = true := by
  unfold storing
  rw [Option.filter_eq_some_iff, Option.bind_eq_some_iff]
  constructor
  · rintro ⟨⟨read, hread, hmake⟩, hwritable⟩
    refine ⟨read, hread, ?_, hwritable⟩
    cases hresult : make read with
    | error e =>
      rw [hresult] at hmake
      cases hmake
    | ok b =>
      rw [hresult] at hmake
      rw [Option.some.inj hmake]
  · rintro ⟨read, hread, hmake, hwritable⟩
    exact ⟨⟨read, hread, by rw [hmake]; rfl⟩, hwritable⟩

theorem stores_updateState (h : Accepted rt owner envelope)
    (htenant : metadata.tenantId = owner.tenantId) :
    Stores rt call reader envelope
      (storing rt call reader (fun state => .ok (updater state)) (planSpecific envelope))
      (done (updateState rt metadata call reader updater (some envelope))) := by
  rw [updateState_accepted h htenant]
  unfold storing
  cases reader.read (planSpecific envelope) with
  | none => rfl
  | some state =>
    dsimp only [Option.bind_some, Except.toOption]
    cases hwritable : isWritable rt call (updater state) with
    | false =>
      rw [Option.filter_some, hwritable, if_neg Bool.false_ne_true, if_neg Bool.false_ne_true]
      rfl
    | true =>
      rw [Option.filter_some, hwritable, if_pos rfl, if_pos rfl]
      unfold Stores done
      dsimp only
      cases reader.read (updater state) <;> rfl

theorem stores_operate {α β : Type} {payload : Except String α} {make : α → Json → Except String β}
    {save : (Json → Json) → Option Json → Outcome Json} {update : β → Json → Json}
    (h : Accepted rt owner envelope) (hlive : isLive rt owner metadata (some envelope) = true)
    (hsave : ∀ updater, save updater (some envelope) =
      updateState rt metadata call reader updater (some envelope)) :
    Stores rt call reader envelope
      (storing rt call reader (making payload make update) (planSpecific envelope))
      (done (operate rt metadata call reader payload make save update (some envelope))) := by
  have htenant : metadata.tenantId = owner.tenantId :=
    congrArg Owner.tenantId (isLive_iff.mp hlive).1
  unfold operate
  cases payload with
  | error e =>
    have hnone : storing rt call reader (making (.error e) make update) (planSpecific envelope) =
        none := by
      unfold storing
      cases reader.read (planSpecific envelope) <;> rfl
    rw [hnone]
    rfl
  | ok a =>
    dsimp only
    rw [requireState_accepted h hlive]
    unfold storing
    cases hread : reader.read (planSpecific envelope) with
    | none => rfl
    | some state =>
      dsimp only [Option.bind_some]
      cases hmake : make a state with
      | error e =>
        have hmaking : making (.ok a) make update state = .error e := by
          unfold making
          show (do let b ← make a state; return update b state) = _
          rw [hmake]
          rfl
        rw [hmaking]
        rfl
      | ok b =>
        have hmaking : making (.ok a) make update state = .ok (update b state) := by
          unfold making
          show (do let b ← make a state; return update b state) = _
          rw [hmake]
          rfl
        have hdone : ∀ outcome : Outcome Json, done (match outcome with
            | (.error e, stored) => (.error e, stored)
            | (.ok _, stored) => (.ok b, stored) : Outcome β) = done outcome := by
          rintro ⟨_ | _, stored⟩ <;> rfl
        have hstores : Stores rt call reader envelope
            (storing rt call reader (fun state => .ok (update b state)) (planSpecific envelope))
            (done (updateState rt metadata call reader (update b) (some envelope))) :=
          stores_updateState h htenant
        unfold storing at hstores
        rw [hread, ← hsave] at hstores
        rw [hmaking]
        dsimp only
        rw [hdone]
        exact hstores

end Accepted

/-! ## A browser -/

def exLower (text : String) : String := String.ofList (text.toList.map Char.toLower)

def exDigits : Nat → Nat → List Char
  | 0, _ => []
  | count + 1, n => Char.ofNat (n % 32768) :: exDigits count (n / 32768)

def exValue : List Char → Nat
  | [] => 0
  | c :: rest => c.toNat + 32768 * exValue rest

theorem exValue_exDigits (count n : Nat) (h : n < 32768 ^ count) :
    exValue (exDigits count n) = n := by
  induction count generalizing n with
  | zero => exact (Nat.lt_one_iff.mp h).symm
  | succ count ih =>
    have hdigit : (n % 32768).isValidChar := Or.inl (by omega)
    have hchar : (Char.ofNat (n % 32768)).toNat = n % 32768 := by
      unfold Char.ofNat
      rw [dif_pos hdigit]
      rfl
    unfold exDigits exValue
    rw [ih (n / 32768) (Nat.div_lt_of_lt_mul (by rw [← Nat.pow_succ']; exact h)), hchar]
    exact Nat.mod_add_div n 32768

def exFormat (t : Int) : String :=
  if t = 1784894400000 then "2026-07-24T12:00:00.000Z"
  else String.ofList ((if t < 0 then '-' else '+') :: exDigits 4 t.natAbs)

def exParse (text : String) : Option Int :=
  if text = "2026-07-24T12:00:00.000Z" then some 1784894400000
  else match text.toList with
    | '-' :: digits => some (-(exValue digits))
    | '+' :: digits => some (exValue digits)
    | _ => none

theorem exParse_exFormat (t : Int) (h : t.natAbs ≤ maxTime) : exParse (exFormat t) = some t := by
  have hvalue : exValue (exDigits 4 t.natAbs) = t.natAbs :=
    exValue_exDigits _ _ (Nat.lt_of_le_of_lt h (by decide))
  unfold exFormat
  split
  · next heq => rw [heq]; rfl
  unfold exParse
  rw [if_neg, String.toList_ofList]
  · by_cases hneg : t < 0
    · rw [if_pos hneg]
      show some (-((exValue (exDigits 4 t.natAbs) : Nat) : Int)) = some t
      rw [hvalue]
      congr 1
      omega
    · rw [if_neg hneg]
      show some (((exValue (exDigits 4 t.natAbs) : Nat) : Int)) = some t
      rw [hvalue]
      congr 1
      omega
  · intro heq
    have hchars := congrArg String.toList heq
    rw [String.toList_ofList] at hchars
    split at hchars <;> cases hchars

theorem exLower_plain (text : String)
    (h : ∀ c ∈ text.toList, c.isLower ∨ c.isDigit ∨ c = '_') : exLower text = text := by
  have hsame : ∀ c ∈ text.toList, c.toLower = id c := fun c hc => by
    unfold Char.toLower
    rw [dif_neg]
    · rfl
    · intro hupper
      simp only [ge_iff_le, UInt32.le_iff_toNat_le] at hupper
      rcases h c hc with hc | hc | rfl
      · delta Char.isLower at hc
        simp only [ge_iff_le, Bool.and_eq_true, decide_eq_true_eq,
          UInt32.le_iff_toNat_le] at hc
        exact absurd (Nat.le_trans hc.1 hupper.2) (by decide)
      · simp only [Char.isDigit, ge_iff_le, Bool.and_eq_true, decide_eq_true_eq,
          UInt32.le_iff_toNat_le] at hc
        exact absurd (Nat.le_trans hupper.1 hc.2) (by decide)
      · exact absurd hupper (by decide)
  unfold exLower
  rw [List.map_congr_left hsame, List.map_id, String.ofList_toList]

def exRuntime : Runtime where
  parse := exParse
  toISOString := exFormat
  parse_toISOString := exParse_exFormat
  coerced _ := none
  spelled _ := "[object Object]"
  toLowerCase := exLower
  toLowerCase_plain := exLower_plain
  toUpperCase text := String.ofList (text.toList.map Char.toUpper)
  toLocaleLowerCase := exLower
  first_letter c d rest rest' _ _ h := by
    have hchars := congrArg String.toList h
    unfold exLower at hchars
    rw [String.toList_ofList, String.toList_ofList, String.toList_append, String.toList_append,
      Char.toString_eq_singleton, Char.toString_eq_singleton, String.toList_singleton,
      String.toList_singleton] at hchars
    exact (List.cons.inj hchars).1
  number _ := some 0
  isWordChar c := c.isAlphanum
  isValidTimezone zone := zone = "UTC"
  isCountry code := code = "US"
  isCurrency code := code = "USD"

end Trackpal.Browser.Workspace
