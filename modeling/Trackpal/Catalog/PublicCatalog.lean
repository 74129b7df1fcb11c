import Trackpal.Foundation.Grouping
import Trackpal.Foundation.OffsetPages
import Trackpal.Catalog.Tables
import Trackpal.Catalog.Currencies
import Mathlib.Data.Prod.Lex

/-!
# The public catalog

A site asks for the services of a tenant with the tenant's API key, and from an origin that the
tenant allows.

Results:
1. `build_spec`: which requests are answered, and with what.
2. `tenantCatalog_iff`.
-/

namespace Trackpal.Catalog

open Foundation

structure Tenant where
  id : Nat
  plan : String
  isActive : Bool
  isDemo : Bool
deriving DecidableEq

structure TenantApiKey where
  tenantId : Nat
  apiKey : String
  allowedOrigins : List String
deriving DecidableEq

structure TenantSettings where
  tenantId : Nat
  currency : Option String
deriving DecidableEq

structure PublicTables where
  tenants : List Tenant
  apiKeys : List TenantApiKey
  settings : List TenantSettings
  services : List Service
  plans : List Plan

structure PublicTables.Sound (t : PublicTables) : Prop where
  tenantIds : (t.tenants.map (·.id)).Nodup
  apiKeys : (t.apiKeys.map (·.apiKey)).Nodup
  settingsTenants : (t.settings.map (·.tenantId)).Nodup
  serviceIds : (t.services.map (·.id)).Nodup
  planService : ∀ plan ∈ t.plans, ∃ service ∈ t.services,
    service.id = plan.serviceId ∧ service.tenantId = plan.tenantId

structure PublicDatabase extends PublicTables where
  sound : toPublicTables.Sound

/-! ## Queries -/

def PublicTables.getByApiKey (t : PublicTables) (apiKey : String) : Option TenantApiKey :=
  t.apiKeys.find? (·.apiKey == apiKey)

def PublicTables.getActive (t : PublicTables) (tenantId : Nat) : Option Tenant :=
  t.tenants.find? fun tenant => tenant.id == tenantId && tenant.isActive

def PublicTables.settingsOf (t : PublicTables) (tenantId : Nat) : Option TenantSettings :=
  t.settings.find? (·.tenantId == tenantId)

/-- How the database orders: `lower(name)` by its collation, and rows of one name and moment as it
finds them. -/
structure Ordering (κ : Type) where
  lowerName : String → κ
  services : Scan Service
  plans : Nat → Scan Plan

variable {κ : Type} [LinearOrder κ]

def PublicTables.listServices (t : PublicTables) (order : Ordering κ) (tenantId : Nat) :
    List Service :=
  orderBy order.services (fun service => toLex (order.lowerName service.name, service.createdAt))
    (t.services.filter (·.tenantId == tenantId))

def PublicTables.listPlans (t : PublicTables) (order : Ordering κ) (tenantId serviceId : Nat) :
    List Plan :=
  orderBy (order.plans serviceId)
    (fun plan => toLex (order.lowerName plan.name, plan.createdAt))
    (t.plans.filter fun plan => plan.tenantId == tenantId && plan.serviceId == serviceId)

/-! ## The response -/

structure PublicCatalogPlan where
  id : Nat
  name : String
  price : Option Int
deriving DecidableEq

structure PublicCatalogService where
  id : Nat
  name : String
  icon : Option String
  plans : List PublicCatalogPlan
deriving DecidableEq

structure CurrencyMeta where
  code : String
  symbol : String
  minorUnits : Nat
deriving DecidableEq

structure PublicCatalogResponse where
  services : List PublicCatalogService
  currency : Option CurrencyMeta
deriving DecidableEq

structure DemoGuardrailError where
  operation : String
  tenantId : Nat
deriving DecidableEq

def tenantPlanPro : String := "pro"

def assertDemoOperationAllowed (tenant : Tenant) (operation : String) :
    Except DemoGuardrailError Unit :=
  if !tenant.isDemo then .ok () else .error { operation, tenantId := tenant.id }

/-- `or`, of a number that may be missing. -/
def orNumber (value : Option Nat) (other : Nat) : Nat :=
  match value with
  | some 0 | none => other
  | some n => n

/-- `or`, of a text that may be missing. -/
def orText (value : Option String) (other : String) : String :=
  match value with
  | some text => if text = "" then other else text
  | none => other

def currencyMetaOf (settings : Option TenantSettings) : Option CurrencyMeta :=
  match settings.bind (·.currency) with
  | none => none
  | some currency =>
    if currency = "" then none
    else
      some {
        code := currency
        symbol := orText (symbolOf currency) ""
        minorUnits := orNumber (minorUnitsOf currency) 2 }

def publicPlan (plan : Plan) : PublicCatalogPlan :=
  { id := plan.id, name := plan.name, price := plan.price }

def PublicTables.publicService (t : PublicTables) (order : Ordering κ) (tenantId : Nat)
    (service : Service) : PublicCatalogService where
  id := service.id
  name := service.name
  icon := service.icon
  plans := (t.listPlans order tenantId service.id).map publicPlan

def PublicTables.buildPublicCatalog (t : PublicTables) (order : Ordering κ)
    (apiKey origin : Option String) :
    Except DemoGuardrailError (Option (PublicCatalogResponse × String)) := do
  let some apiKey := apiKey | return none
  let some origin := origin | return none
  if apiKey = "" ∨ origin = "" then return none
  let some key := t.getByApiKey apiKey | return none
  if origin ∉ key.allowedOrigins then return none
  let some tenant := t.getActive key.tenantId | return none
  if tenant.plan ≠ tenantPlanPro then return none
  assertDemoOperationAllowed tenant "public_catalog"
  let currency := currencyMetaOf (t.settingsOf key.tenantId)
  let services := (t.listServices order key.tenantId).map (t.publicService order key.tenantId)
  return some ({ services, currency }, origin)

/-! ## The tenant's catalog -/

/-- A request with the key of an active pro tenant that is no demo, from an origin of its list. -/
structure Admitted (t : PublicTables) (apiKey origin : Option String) (tenantId : Nat) : Prop where
  key : ∃ key ∈ t.apiKeys, some key.apiKey = apiKey ∧ key.tenantId = tenantId ∧
    ∃ allowed ∈ key.allowedOrigins, some allowed = origin
  given : apiKey ≠ some "" ∧ origin ≠ some ""
  tenant : ∃ tenant ∈ t.tenants, tenant.id = tenantId ∧ tenant.isActive = true ∧
    tenant.plan = "pro" ∧ tenant.isDemo = false

/-- The services of a tenant and their plans, with the tenant's currency. -/
structure IsCatalogOf (t : PublicTables) (tenantId : Nat) (response : PublicCatalogResponse) :
    Prop where
  services : (response.services.map fun service => (service.id, service.name, service.icon)).Perm
    ((t.services.filter (·.tenantId == tenantId)).map fun service =>
      (service.id, service.name, service.icon))
  plans : (response.services.flatMap fun service => service.plans.map (service.id, ·)).Perm
    ((t.plans.filter (·.tenantId == tenantId)).map fun plan => (plan.serviceId, publicPlan plan))
  currency : ∀ settings ∈ t.settings, settings.tenantId = tenantId →
    ∀ code data, settings.currency = some code → currencyData code = some data →
    response.currency = some { code, symbol := data.symbol, minorUnits := data.minorUnits }

def AnswersTenantCatalog (t : PublicTables) (order : Ordering κ) (apiKey origin : Option String) :
    Prop :=
  ∀ response allowed, t.buildPublicCatalog order apiKey origin = .ok (some (response, allowed)) →
    some allowed = origin ∧ ∃ tenantId, Admitted t apiKey origin tenantId ∧
      IsCatalogOf t tenantId response

variable {t : PublicTables} {order : Ordering κ} {apiKey origin : Option String} {tenantId : Nat}
  {response : PublicCatalogResponse} {allowed : String}

/-- What a tenant's catalog is answered with. -/
def PublicTables.responseOf (t : PublicTables) (order : Ordering κ) (tenantId : Nat) :
    PublicCatalogResponse where
  services := (t.listServices order tenantId).map (t.publicService order tenantId)
  currency := currencyMetaOf (t.settingsOf tenantId)

namespace PublicCatalogLemmas

theorem find?_iff {ρ : Type*} {rows : List ρ} {p : ρ → Bool} {a : ρ}
    (hunique : ∀ b ∈ rows, ∀ c ∈ rows, p b = true → p c = true → b = c) :
    rows.find? p = some a ↔ a ∈ rows ∧ p a = true := by
  constructor
  · intro hfound
    exact ⟨List.mem_of_find?_eq_some hfound, @List.find?_some _ p _ _ hfound⟩
  · rintro ⟨hmem, hp⟩
    obtain ⟨found, hfound⟩ := Option.isSome_iff_exists.mp (List.find?_isSome.mpr ⟨a, hmem, hp⟩)
    rw [hfound, hunique found (List.mem_of_find?_eq_some hfound) a hmem
      (@List.find?_some _ p _ _ hfound) hp]

theorem getByApiKey_iff (h : t.Sound) {key : String} {row : TenantApiKey} :
    t.getByApiKey key = some row ↔ row ∈ t.apiKeys ∧ row.apiKey = key := by
  unfold PublicTables.getByApiKey
  rw [find?_iff, beq_iff_eq]
  intro b hb c hc hpb hpc
  exact List.inj_on_of_nodup_map h.apiKeys hb hc
    ((beq_iff_eq.mp hpb).trans (beq_iff_eq.mp hpc).symm)

theorem settingsOf_iff (h : t.Sound) {row : TenantSettings} :
    t.settingsOf tenantId = some row ↔ row ∈ t.settings ∧ row.tenantId = tenantId := by
  unfold PublicTables.settingsOf
  rw [find?_iff, beq_iff_eq]
  intro b hb c hc hpb hpc
  exact List.inj_on_of_nodup_map h.settingsTenants hb hc
    ((beq_iff_eq.mp hpb).trans (beq_iff_eq.mp hpc).symm)

theorem getActive_iff (h : t.Sound) {row : Tenant} :
    t.getActive tenantId = some row ↔
      row ∈ t.tenants ∧ row.id = tenantId ∧ row.isActive = true := by
  unfold PublicTables.getActive
  rw [find?_iff, Bool.and_eq_true, beq_iff_eq]
  intro b hb c hc hpb hpc
  rw [Bool.and_eq_true, beq_iff_eq] at hpb hpc
  exact List.inj_on_of_nodup_map h.tenantIds hb hc (hpb.1.trans hpc.1.symm)

theorem currencyData_empty : currencyData "" = none := by decide +kernel

theorem orText_eq {text : String} : orText (some text) "" = text := by
  unfold orText
  dsimp only
  split
  · next h => exact h.symm
  · rfl

theorem currencyMetaOf_iff {settings : TenantSettings} {code : String} {data : CurrencyData}
    (hcode : settings.currency = some code) (hdata : currencyData code = some data) :
    currencyMetaOf (some settings) =
        some { code, symbol := data.symbol, minorUnits := data.minorUnits } ↔
      data.minorUnits ≠ 0 := by
  have hne : code ≠ "" := by
    rintro rfl
    rw [currencyData_empty] at hdata
    nomatch hdata
  have hmeta : currencyMetaOf (some settings) = some
      { code, symbol := data.symbol, minorUnits := orNumber (some data.minorUnits) 2 } := by
    unfold currencyMetaOf symbolOf minorUnitsOf
    rw [Option.bind_some, hcode]
    dsimp only
    rw [if_neg hne, hdata, Option.map_some, Option.map_some, orText_eq]
  rw [hmeta]
  cases data.minorUnits with
  | zero => exact ⟨fun heq => (nomatch heq), fun hzero => absurd rfl hzero⟩
  | succ n => exact ⟨fun _ => Nat.succ_ne_zero n, fun _ => rfl⟩

theorem services_perm : ((t.responseOf order tenantId).services.map fun service =>
      (service.id, service.name, service.icon)).Perm
    ((t.services.filter (·.tenantId == tenantId)).map fun service =>
      (service.id, service.name, service.icon)) := by
  unfold PublicTables.responseOf
  dsimp only
  rw [List.map_map]
  exact orderBy_perm.map _

theorem plans_perm (h : t.Sound) : ((t.responseOf order tenantId).services.flatMap fun service =>
      service.plans.map (service.id, ·)).Perm
    ((t.plans.filter (·.tenantId == tenantId)).map fun plan =>
      (plan.serviceId, publicPlan plan)) := by
  unfold PublicTables.responseOf
  dsimp only
  rw [List.flatMap_map]
  have hshown : ∀ service, ((t.publicService order tenantId service).plans.map
      ((t.publicService order tenantId service).id, ·)).Perm
      (((t.plans.filter (·.tenantId == tenantId)).filter (·.serviceId == service.id)).map
        fun plan => (plan.serviceId, publicPlan plan)) := by
    intro service
    have hown : (t.publicService order tenantId service).plans.map
        ((t.publicService order tenantId service).id, ·) =
        (t.listPlans order tenantId service.id).map
          fun plan => (service.id, publicPlan plan) := by
      unfold PublicTables.publicService
      dsimp only
      rw [List.map_map]
      rfl
    rw [hown]
    refine (orderBy_perm.map _).trans (List.Perm.of_eq ?_)
    rw [List.filter_filter, List.filter_congr fun plan _ =>
      Bool.and_comm (plan.tenantId == tenantId) (plan.serviceId == service.id)]
    refine List.map_congr_left fun plan hplan => ?_
    have hboth := (List.mem_filter.mp hplan).2
    rw [Bool.and_eq_true, beq_iff_eq, beq_iff_eq] at hboth
    rw [hboth.1]
  have hall : ∀ plan ∈ t.plans.filter (·.tenantId == tenantId),
      plan.serviceId ∈ (t.services.filter (·.tenantId == tenantId)).map (·.id) := by
    intro plan hplan
    obtain ⟨hmem, htenant⟩ := List.mem_filter.mp hplan
    obtain ⟨service, hservice, hid, hsame⟩ := h.planService plan hmem
    refine List.mem_map.mpr ⟨service, List.mem_filter.mpr ⟨hservice, ?_⟩, hid⟩
    rw [hsame]
    exact htenant
  have hgrouped := @flatMap_filter_perm _ _ _ Plan.serviceId _ _
    (h.serviceIds.sublist (List.filter_sublist.map _)) hall
  rw [List.flatMap_map] at hgrouped
  -- the services in any order, and below each its plans in any order
  refine (List.Perm.flatMap_right _ orderBy_perm).trans
    ((List.Perm.flatMap_left _ fun service _ => hshown service).trans ?_)
  rw [← List.map_flatMap]
  exact hgrouped.map _

theorem admitted_unique {tenantId' : Nat} (h : t.Sound)
    (hadmitted : Admitted t apiKey origin tenantId)
    (hadmitted' : Admitted t apiKey origin tenantId') : tenantId' = tenantId := by
  obtain ⟨key, hkey, hapiKey, rfl, -⟩ := hadmitted.key
  obtain ⟨key', hkey', hapiKey', rfl, -⟩ := hadmitted'.key
  rw [List.inj_on_of_nodup_map h.apiKeys hkey' hkey
    (Option.some.inj (hapiKey'.trans hapiKey.symm))]

end PublicCatalogLemmas

open PublicCatalogLemmas

theorem build_spec (h : t.Sound) :
    t.buildPublicCatalog order apiKey origin = .ok (some (response, allowed)) ↔
      ∃ tenantId, Admitted t apiKey origin tenantId ∧ some allowed = origin ∧
        response = t.responseOf order tenantId := by
  constructor
  · intro hbuild
    unfold PublicTables.buildPublicCatalog at hbuild
    cases apiKey with
    | none => nomatch hbuild
    | some apiKey =>
    cases origin with
    | none => nomatch hbuild
    | some origin =>
    dsimp only at hbuild
    split at hbuild
    · nomatch hbuild
    next hgiven =>
    split at hbuild
    next key hkey =>
      split at hbuild
      · nomatch hbuild
      next horigin =>
      split at hbuild
      next tenant htenant =>
        split at hbuild
        · nomatch hbuild
        next hplan =>
        unfold assertDemoOperationAllowed at hbuild
        split at hbuild
        next hdemo =>
          obtain ⟨hkeyMem, hkeyEq⟩ := (getByApiKey_iff h).mp hkey
          obtain ⟨htenantMem, hid, hactive⟩ := (getActive_iff h).mp htenant
          cases hbuild
          rw [not_or] at hgiven
          refine ⟨key.tenantId, ⟨⟨key, hkeyMem, congrArg some hkeyEq, rfl, _,
            not_not.mp horigin, rfl⟩, ⟨fun heq => hgiven.1 (Option.some.inj heq),
            fun heq => hgiven.2 (Option.some.inj heq)⟩, tenant, htenantMem, hid, hactive,
            not_not.mp hplan, (Bool.not_eq_true' _).mp hdemo⟩, rfl, rfl⟩
        · nomatch hbuild
      · nomatch hbuild
    · nomatch hbuild
  · rintro ⟨tenantId, hadmitted, rfl, rfl⟩
    obtain ⟨key, hkey, rfl, rfl, listed, hallowed, horigin⟩ := hadmitted.key
    obtain ⟨tenant, htenant, hid, hactive, hplan, hdemo⟩ := hadmitted.tenant
    obtain rfl := Option.some.inj horigin
    have hgiven : ¬(key.apiKey = "" ∨ listed = "") := fun hor => hor.elim
      (fun heq => hadmitted.given.1 (congrArg some heq))
      fun heq => hadmitted.given.2 (congrArg some heq)
    unfold PublicTables.buildPublicCatalog
    dsimp only
    rw [if_neg hgiven, (getByApiKey_iff h).mpr ⟨hkey, rfl⟩]
    dsimp only
    rw [if_neg (not_not.mpr hallowed), (getActive_iff h).mpr ⟨htenant, hid, hactive⟩]
    dsimp only
    rw [show tenantPlanPro = "pro" from rfl, if_neg (not_not.mpr hplan)]
    unfold assertDemoOperationAllowed
    rw [hdemo]
    rfl

/-- The answer is the tenant's catalog exactly if no request with a currency without minor units is
admitted. -/
theorem tenantCatalog_iff (db : PublicDatabase) (order : Ordering κ)
    (apiKey origin : Option String) :
    AnswersTenantCatalog db.toPublicTables order apiKey origin ↔
      ∀ tenantId, Admitted db.toPublicTables apiKey origin tenantId →
        ∀ settings ∈ db.settings, settings.tenantId = tenantId →
        ∀ code data, settings.currency = some code → currencyData code = some data →
        data.minorUnits ≠ 0 := by
  have h := db.sound
  constructor
  · intro hanswers tenantId hadmitted settings hsettings htenant code data hcode hdata
    obtain ⟨_, _, _, _, allowed, _, horigin⟩ := hadmitted.key
    obtain ⟨-, tenantId', hadmitted', hcatalog⟩ := hanswers _ allowed
      ((@build_spec _ _ _ order _ _ _ _ h).mpr ⟨tenantId, hadmitted, horigin, rfl⟩)
    obtain rfl := admitted_unique h hadmitted hadmitted'
    have hcurrency := hcatalog.currency settings hsettings htenant code data hcode hdata
    change currencyMetaOf (db.settingsOf tenantId') = _ at hcurrency
    rw [(settingsOf_iff h).mpr ⟨hsettings, htenant⟩] at hcurrency
    exact (currencyMetaOf_iff hcode hdata).mp hcurrency
  · intro hunits response allowed hbuild
    obtain ⟨tenantId, hadmitted, horigin, rfl⟩ := (build_spec h).mp hbuild
    refine ⟨horigin, tenantId, hadmitted, services_perm, plans_perm h, ?_⟩
    intro settings hsettings htenant code data hcode hdata
    have hfound := (settingsOf_iff h).mpr ⟨hsettings, htenant⟩
    change currencyMetaOf (db.settingsOf tenantId) = _
    rw [hfound]
    exact (currencyMetaOf_iff hcode hdata).mpr
      (hunits tenantId hadmitted settings hsettings htenant code data hcode hdata)

/-! ## A tenant that sells in yen -/

def exYenTables : PublicTables where
  tenants := [{ id := 1, plan := "pro", isActive := true, isDemo := false }]
  apiKeys := [{ tenantId := 1, apiKey := "tpk_1", allowedOrigins := ["https://example.com"] }]
  settings := [{ tenantId := 1, currency := some "JPY" }]
  services := []
  plans := []

def exOrdering : Ordering Nat where
  lowerName := String.length
  services := Scan.stored
  plans _ := Scan.stored

theorem exYenTables_sound : exYenTables.Sound where
  tenantIds := by decide
  apiKeys := by decide
  settingsTenants := by decide
  serviceIds := by decide
  planService := by decide

/-- The yen has no minor units, the answer says two. -/
theorem yen_has_cents : ¬AnswersTenantCatalog exYenTables exOrdering (some "tpk_1")
    (some "https://example.com") := by
  intro hanswers
  have hyen : currencyData "JPY" = some ⟨"¥", 0⟩ := by decide +kernel
  have hadmitted : Admitted exYenTables (some "tpk_1") (some "https://example.com") 1 :=
    ⟨⟨_, List.mem_singleton_self _, rfl, rfl, _, List.mem_singleton_self _, rfl⟩,
      by decide, _, List.mem_singleton_self _, rfl, rfl, rfl, rfl⟩
  have hbuild := (@build_spec _ _ _ exOrdering _ _ _ _ exYenTables_sound).mpr
    ⟨1, hadmitted, rfl, rfl⟩
  obtain ⟨-, tenantId, hadmitted', hcatalog⟩ := hanswers _ _ hbuild
  obtain rfl := admitted_unique exYenTables_sound hadmitted hadmitted'
  exact (@currencyMetaOf_iff { tenantId := 1, currency := some "JPY" } _ _ rfl hyen).mp
    (hcatalog.currency _ (List.mem_singleton_self _) rfl "JPY" _ rfl hyen) rfl

end Trackpal.Catalog
