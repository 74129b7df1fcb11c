import Trackpal.Foundation.Csv
import Trackpal.Foundation.Text
import Trackpal.Protocol.Wire
import Mathlib.Data.Char
import Mathlib.Data.List.Lex

/-!
# The bundle of an export

`_build_zip` of `export_worker.py`: the five CSV builders and the JSON builder, over the rows
that the worker has read. A text is its code points; an instant is in microseconds. A cell
keeps the value that its builder has beside the text that is written. The JSON file is the
data that `json.dumps` gets; the README, which is a constant, is left out.

Results:
1. `formula_formatTimestamp`, `formula_digitsOnly`, `formula_formatPrice`: of the texts that the
   builders make themselves, only a negative price begins like a formula.
-/

namespace Trackpal.Export.Bundle

open Trackpal.Protocol Trackpal.Foundation Trackpal.Foundation.Csv

/-! ## Rows -/

/-- The fields of a `datetime` with its offset from UTC in seconds. -/
structure LocalDateTime where
  year : Fin 10000
  month : Fin 13
  day : Fin 32
  hour : Fin 24
  minute : Fin 60
  second : Fin 60
  microsecond : Fin 1000000
  offset : Int

/-- A time zone of `zoneinfo`: its name, and what its clocks show at an instant. -/
structure Zone where
  name : Text
  localTime : Int → LocalDateTime

structure Tenant where
  name : Option Text
  whatsappPhone : Option Text
  /-- The login name of the owner, if there is one. -/
  owner : Option Text
  plan : Option Text

structure Client where
  fullName : Option Text
  username : Option Text
  phone : Option Text
  isActive : Bool
  createdAt : Option Int
  updatedAt : Option Int

structure BlockedClient where
  phone : Option Text
  createdAt : Option Int

structure Service where
  id : UUID
  name : Text
  icon : Option Text
  createdAt : Option Int
  updatedAt : Option Int

/-- The price is in hundredths, as `NUMERIC(12, 2)` has it. -/
structure Plan where
  name : Text
  price : Option Int
  createdAt : Option Int
  updatedAt : Option Int

structure Subscription where
  streamingEmail : Option Text
  profileName : Option Text
  durationType : Option Text
  startsAt : Option Int
  expiresAt : Option Int
  cancelledAt : Option Int
  status : Option Text
  createdAt : Option Int
  updatedAt : Option Int

structure SubscriptionRow where
  subscription : Subscription
  client : Client
  service : Service
  plan : Plan

/-- The arguments of `_build_zip`. -/
structure Arguments where
  tenant : Tenant
  locale : Text
  tz : Zone
  clients : List Client
  blockedPhones : List BlockedClient
  services : List Service
  plansByService : UUID → List Plan
  subscriptionRows : List SubscriptionRow
  currency : Option Text

/-! ## Values -/

/-- `value or ""`. -/
def orEmpty (value : Option Text) : Text := value.getD []

/-- `text or None`. -/
def orNone (text : Text) : Option Text := if text = [] then none else some text

def digitsOnly (value : Option Text) : Text := (orEmpty value).filter isDecimal

def digit (n : Nat) : Char := Nat.digitChar (n % 10)

/-- A number with a fixed count of digits. -/
def padded : Nat → Nat → Text
  | 0, _ => []
  | width + 1, n => padded width (n / 10) ++ [digit n]

/-- The offset of `isoformat`. -/
def formatOffset (offset : Int) : Text :=
  let seconds := offset.natAbs
  (if offset < 0 then '-' else '+') :: padded 2 (seconds / 3600) ++
    ':' :: padded 2 (seconds / 60 % 60) ++
    if seconds % 60 = 0 then [] else ':' :: padded 2 (seconds % 60)

def isoformat (t : LocalDateTime) : Text :=
  padded 4 t.year ++ '-' :: padded 2 t.month ++ '-' :: padded 2 t.day ++
    'T' :: padded 2 t.hour ++ ':' :: padded 2 t.minute ++ ':' :: padded 2 t.second ++
    (if t.microsecond = 0 then [] else '.' :: padded 6 t.microsecond) ++ formatOffset t.offset

def formatTimestamp (dt : Option Int) (tz : Zone) : Text :=
  match dt with
  | none => []
  | some instant => isoformat (tz.localTime instant)

/-- `f"{price:.2f}"`. -/
def formatPrice (price : Int) : Text :=
  (if price < 0 then ['-'] else []) ++ Nat.toDigits 10 (price.natAbs / 100) ++
    '.' :: padded 2 (price.natAbs % 100)

def accountStatus (isActive : Bool) : Text :=
  if isActive then "active".toList else "inactive".toList

/-! ## Cells -/

def formulaPrefixes : List Char := ['=', '+', '-', '@', '\t', '\r', '\n', '|', '%']

/-- The value begins with one of these characters. -/
def formula (value : Text) : Bool := value.head?.any (· ∈ formulaPrefixes)

def neutralizeCsvValue (value : Text) : Text := if formula value then '\t' :: value else value

/-- The value that a builder has, and the text that it writes. -/
structure Cell where
  value : Text
  written : Text

/-- A value that is written as it is. -/
def plain (value : Text) : Cell := ⟨value, value⟩

def neutralized (value : Text) : Cell := ⟨value, neutralizeCsvValue value⟩

/-! ## The CSV builders -/

/-- The data rows of `_build_account_profile_csv`. -/
def accountProfileCells (tenant : Tenant) (locale : Text) (tz : Zone) (currency : Option Text) :
    List Cell :=
  [plain (orEmpty tenant.name),
    plain (orEmpty tenant.whatsappPhone),
    plain (orEmpty tenant.owner),
    plain (orEmpty tenant.plan),
    plain locale,
    plain tz.name,
    plain (orEmpty currency)]

/-- `sorted(clients, key=lambda c: c.username or "")`. -/
def sortedClients (clients : List Client) : List Client :=
  clients.mergeSort fun a b => decide (orEmpty a.username ≤ orEmpty b.username)

/-- A row of `_build_client_data_csv`. -/
def clientCells (c : Client) (tz : Zone) : List Cell :=
  [neutralized (orEmpty c.fullName),
    plain (orEmpty c.username),
    plain (digitsOnly c.phone),
    plain (accountStatus c.isActive),
    plain (formatTimestamp c.createdAt tz),
    plain (formatTimestamp c.updatedAt tz)]

/-- The service in a row of `_build_service_catalog_csv`. -/
def serviceCells (svc : Service) (tz : Zone) : List Cell :=
  [neutralized svc.name,
    plain (orEmpty svc.icon),
    plain (formatTimestamp svc.createdAt tz),
    plain (formatTimestamp svc.updatedAt tz)]

/-- The plan in a row of `_build_service_catalog_csv`. -/
def planCells (p : Plan) (tz : Zone) : List Cell :=
  [neutralized p.name,
    plain ((p.price.map formatPrice).getD []),
    plain (formatTimestamp p.createdAt tz),
    plain (formatTimestamp p.updatedAt tz)]

def noPlanCells : List Cell := [plain [], plain [], plain [], plain []]

/-- The data rows of `_build_service_catalog_csv`. -/
def serviceCatalogRows (services : List Service) (plansByService : UUID → List Plan) (tz : Zone) :
    List (List Cell) :=
  services.flatMap fun svc =>
    match plansByService svc.id with
    | [] => [serviceCells svc tz ++ noPlanCells]
    | plans => plans.map fun p => serviceCells svc tz ++ planCells p tz

/-- A row of `_build_subscription_snapshot_csv`. -/
def subscriptionCells (row : SubscriptionRow) (tz : Zone) : List Cell :=
  [neutralized (orEmpty row.client.fullName),
    plain (orEmpty row.client.username),
    neutralized row.service.name,
    neutralized row.plan.name,
    plain (orEmpty row.subscription.streamingEmail),
    plain (orEmpty row.subscription.profileName),
    plain (orEmpty row.subscription.durationType),
    plain (formatTimestamp row.subscription.startsAt tz),
    plain (formatTimestamp row.subscription.expiresAt tz),
    plain (formatTimestamp row.subscription.cancelledAt tz),
    plain (orEmpty row.subscription.status),
    plain (formatTimestamp row.subscription.createdAt tz),
    plain (formatTimestamp row.subscription.updatedAt tz)]

def phoneBlocks (blocks : List BlockedClient) : List BlockedClient :=
  (blocks.filter fun b => orEmpty b.phone ≠ []).mergeSort
    fun a b => decide (orEmpty a.phone ≤ orEmpty b.phone)

/-- A row of `_build_blocked_phones_csv`. -/
def blockedPhoneCells (b : BlockedClient) (tz : Zone) : List Cell :=
  [plain (digitsOnly b.phone), plain (formatTimestamp b.createdAt tz)]

def csvFile (columns : List String) (rows : List (List Cell)) : Text :=
  '\ufeff' :: write (columns.map String.toList :: rows.map fun row => row.map Cell.written)

def accountProfileColumns : List String :=
  ["account_name", "whatsapp_phone", "login_username", "current_plan", "preferred_language",
    "time_zone", "currency"]

def clientDataColumns : List String :=
  ["client_name", "login_username", "whatsapp_phone", "account_status", "registered_on",
    "last_updated_on"]

def serviceCatalogColumns : List String :=
  ["service_name", "service_icon", "service_created_on", "service_updated_on", "plan_name",
    "plan_price", "plan_created_on", "plan_updated_on"]

def subscriptionSnapshotColumns : List String :=
  ["client_name", "client_login_username", "service_name", "plan_name", "service_account_email",
    "service_profile_name", "subscription_duration", "started_on", "expires_on", "cancelled_on",
    "subscription_status", "recorded_on", "last_updated_on"]

def blockedPhonesColumns : List String := ["phone", "blocked_at"]

/-! ## The JSON builder -/

/-- An object whose values are texts or `null`. -/
abbrev Record := List (String × Option Text)

structure CatalogRecord where
  service : Record
  plans : List Record
deriving DecidableEq

structure RecordCounts where
  accountProfile : Nat
  clientAccounts : Nat
  serviceCatalog : Nat
  catalogPlans : Nat
  subscriptionSnapshot : Nat
  blockedPhoneList : Nat
deriving DecidableEq, Repr

/-- The data of `trackpal-data.json`. -/
structure Data where
  exportFormatVersion : String
  generatedAt : Text
  recordCounts : RecordCounts
  accountProfile : Record
  clientAccounts : List Record
  serviceCatalog : List CatalogRecord
  subscriptionSnapshot : List Record
  blockedPhoneList : List Record

def clientRecord (c : Client) (tz : Zone) : Record :=
  [("client_name", some (orEmpty c.fullName)),
    ("login_username", some (orEmpty c.username)),
    ("whatsapp_phone", orNone (digitsOnly c.phone)),
    ("account_status", some (accountStatus c.isActive)),
    ("registered_on", orNone (formatTimestamp c.createdAt tz)),
    ("last_updated_on", orNone (formatTimestamp c.updatedAt tz))]

def phoneBlockRecord (b : BlockedClient) (tz : Zone) : Record :=
  [("phone", some (digitsOnly b.phone)),
    ("blocked_at", orNone (formatTimestamp b.createdAt tz))]

def planRecord (p : Plan) (tz : Zone) : Record :=
  [("plan_name", some p.name),
    ("plan_price", p.price.map formatPrice),
    ("plan_created_on", orNone (formatTimestamp p.createdAt tz)),
    ("plan_updated_on", orNone (formatTimestamp p.updatedAt tz))]

def serviceRecord (svc : Service) (tz : Zone) : Record :=
  [("service_name", some svc.name),
    ("service_icon", svc.icon),
    ("service_created_on", orNone (formatTimestamp svc.createdAt tz)),
    ("service_updated_on", orNone (formatTimestamp svc.updatedAt tz))]

def catalogRecord (svc : Service) (plans : List Plan) (tz : Zone) : CatalogRecord where
  service := serviceRecord svc tz
  plans := plans.map fun p => planRecord p tz

def subscriptionRecord (row : SubscriptionRow) (tz : Zone) : Record :=
  [("client_name", some (orEmpty row.client.fullName)),
    ("client_login_username", some (orEmpty row.client.username)),
    ("service_name", some row.service.name),
    ("plan_name", some row.plan.name),
    ("service_account_email", row.subscription.streamingEmail),
    ("service_profile_name", row.subscription.profileName),
    ("subscription_duration", row.subscription.durationType),
    ("started_on", orNone (formatTimestamp row.subscription.startsAt tz)),
    ("expires_on", orNone (formatTimestamp row.subscription.expiresAt tz)),
    ("cancelled_on", orNone (formatTimestamp row.subscription.cancelledAt tz)),
    ("subscription_status", row.subscription.status),
    ("recorded_on", orNone (formatTimestamp row.subscription.createdAt tz)),
    ("last_updated_on", orNone (formatTimestamp row.subscription.updatedAt tz))]

def accountProfileRecord (tenant : Tenant) (locale : Text) (tz : Zone) (currency : Option Text) :
    Record :=
  [("account_name", some (orEmpty tenant.name)),
    ("whatsapp_phone", some (orEmpty tenant.whatsappPhone)),
    ("login_username", some (orEmpty tenant.owner)),
    ("current_plan", some (orEmpty tenant.plan)),
    ("preferred_language", some locale),
    ("time_zone", some tz.name),
    ("currency", currency)]

/-- `_build_json`, with the text of the time at which it is called. -/
def buildJson (args : Arguments) (generatedAt : Text) : Data :=
  let clientRecords := (sortedClients args.clients).map fun c => clientRecord c args.tz
  let phoneBlockRecords := (phoneBlocks args.blockedPhones).map fun b => phoneBlockRecord b args.tz
  let catalogRecords := args.services.map fun svc =>
    catalogRecord svc (args.plansByService svc.id) args.tz
  let subscriptionRecords := args.subscriptionRows.map fun row => subscriptionRecord row args.tz
  { exportFormatVersion := "2"
    generatedAt := generatedAt
    recordCounts :=
      { accountProfile := 1
        clientAccounts := clientRecords.length
        serviceCatalog := catalogRecords.length
        catalogPlans := (args.services.map fun svc => (args.plansByService svc.id).length).sum
        subscriptionSnapshot := subscriptionRecords.length
        blockedPhoneList := phoneBlockRecords.length }
    accountProfile := accountProfileRecord args.tenant args.locale args.tz args.currency
    clientAccounts := clientRecords
    serviceCatalog := catalogRecords
    subscriptionSnapshot := subscriptionRecords
    blockedPhoneList := phoneBlockRecords }

/-! ## The archive -/

structure DataRows where
  accountProfile : List (List Cell)
  clientData : List (List Cell)
  serviceCatalog : List (List Cell)
  subscriptionSnapshot : List (List Cell)
  blockedPhones : List (List Cell)

def dataRows (args : Arguments) : DataRows where
  accountProfile := [accountProfileCells args.tenant args.locale args.tz args.currency]
  clientData := (sortedClients args.clients).map fun c => clientCells c args.tz
  serviceCatalog := serviceCatalogRows args.services args.plansByService args.tz
  subscriptionSnapshot := args.subscriptionRows.map fun row => subscriptionCells row args.tz
  blockedPhones := (phoneBlocks args.blockedPhones).map fun b => blockedPhoneCells b args.tz

structure Archive where
  accountProfile : Text
  clientData : Text
  serviceCatalog : Text
  subscriptionSnapshot : Text
  blockedPhones : Text
  data : Data

def buildZip (args : Arguments) (generatedAt : Text) : Archive where
  accountProfile := csvFile accountProfileColumns (dataRows args).accountProfile
  clientData := csvFile clientDataColumns (dataRows args).clientData
  serviceCatalog := csvFile serviceCatalogColumns (dataRows args).serviceCatalog
  subscriptionSnapshot := csvFile subscriptionSnapshotColumns (dataRows args).subscriptionSnapshot
  blockedPhones := csvFile blockedPhonesColumns (dataRows args).blockedPhones
  data := buildJson args generatedAt

/-! ## The texts that the builders make -/

variable {value : Text} {c : Char}

namespace BundleLemmas

theorem formula_eq_false (h : ∀ c, value.head? = some c → c ∉ formulaPrefixes) :
    formula value = false := by
  cases value with
  | nil => rfl
  | cons c value => exact decide_eq_false (h c rfl)

theorem not_prefix_of_isDigit (h : c.isDigit = true) : c ∉ formulaPrefixes := by
  intro hmem
  simp only [formulaPrefixes, List.mem_cons, List.not_mem_nil, or_false] at hmem
  rcases hmem with rfl | rfl | rfl | rfl | rfl | rfl | rfl | rfl | rfl
  all_goals cases h

theorem isDigit_digit (n : Nat) : (digit n).isDigit = true := by
  rw [digit, Nat.isDigit_digitChar]
  exact decide_eq_true (Nat.mod_lt n (by decide))

end BundleLemmas

open BundleLemmas

theorem formula_formatTimestamp (dt : Option Int) (tz : Zone) :
    formula (formatTimestamp dt tz) = false := by
  refine formula_eq_false fun c hc => ?_
  cases dt with
  | none => cases hc
  | some instant =>
    cases hc
    exact not_prefix_of_isDigit (isDigit_digit _)

theorem formula_digitsOnly (phone : Option Text) : formula (digitsOnly phone) = false := by
  refine formula_eq_false fun c hc => ?_
  have hdecimal : isDecimal c = true := (List.mem_filter.mp (List.mem_of_mem_head? hc)).2
  intro hmem
  simp only [formulaPrefixes, List.mem_cons, List.not_mem_nil, or_false] at hmem
  rcases hmem with rfl | rfl | rfl | rfl | rfl | rfl | rfl | rfl | rfl
  all_goals cases hdecimal

theorem formula_accountStatus (isActive : Bool) : formula (accountStatus isActive) = false := by
  cases isActive <;> decide

theorem head_formatPrice (price : Int) : ∃ c rest, formatPrice price = c :: rest ∧
    if price < 0 then c = '-' else c.isDigit = true := by
  unfold formatPrice
  split
  · exact ⟨'-', _, rfl, rfl⟩
  · obtain ⟨c, rest, hdigits⟩ :=
      List.exists_cons_of_ne_nil (Nat.toDigits_ne_nil (n := price.natAbs / 100) (b := 10))
    refine ⟨c, rest ++ '.' :: padded 2 (price.natAbs % 100), ?_, ?_⟩
    · rw [hdigits]
      rfl
    · have hmem : c ∈ Nat.toDigits 10 (price.natAbs / 100) := by
        rw [hdigits]
        exact List.mem_cons_self
      exact Nat.isDigit_of_mem_toDigits (by decide) (by decide) hmem

theorem formula_formatPrice (price : Int) : formula (formatPrice price) = decide (price < 0) := by
  obtain ⟨c, rest, hprice, hc⟩ := head_formatPrice price
  rw [hprice]
  split at hc
  · next hneg =>
    rw [hc, decide_eq_true hneg]
    rfl
  · next hneg =>
    rw [decide_eq_false hneg]
    exact decide_eq_false (not_prefix_of_isDigit hc)

/-! ## An account without records -/

def exZone : Zone := ⟨['U', 'T', 'C'], fun _ => ⟨2026, 1, 1, 0, 0, 0, 0, 0⟩⟩

def exArguments (tenant : Tenant) : Arguments where
  tenant := tenant
  locale := ['e', 'n']
  tz := exZone
  clients := []
  blockedPhones := []
  services := []
  plansByService := fun _ => []
  subscriptionRows := []
  currency := none

example : formatTimestamp (some 0) exZone = "2026-01-01T00:00:00+00:00".toList := by decide

end Trackpal.Export.Bundle
