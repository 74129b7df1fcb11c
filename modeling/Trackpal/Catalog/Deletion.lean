import Trackpal.Foundation.OffsetPages
import Trackpal.Catalog.Tables
import Mathlib.Data.Prod.Lex

/-!
# Deleting from the catalog

A preview counts what a delete of a service or a plan takes with it and lists the active
subscriptions in pages. The delete counts again, deletes the subscriptions, the plans and the
service, and commits.
-/

namespace Trackpal.Catalog

open Foundation

/-! ## Queries -/

def Tables.getService (t : Tables) (tenantId serviceId : Nat) : Option Service :=
  t.services.find? fun service => service.tenantId == tenantId && service.id == serviceId

def Tables.getPlan (t : Tables) (tenantId serviceId planId : Nat) : Option Plan :=
  t.plans.find? fun plan =>
    plan.tenantId == tenantId && plan.serviceId == serviceId && plan.id == planId

def ofService (tenantId serviceId : Nat) (sub : Subscription) : Bool :=
  sub.tenantId == tenantId && sub.serviceId == serviceId

def ofPlan (tenantId serviceId planId : Nat) (sub : Subscription) : Bool :=
  sub.tenantId == tenantId && sub.serviceId == serviceId && sub.planId == planId

def planOfService (tenantId serviceId : Nat) (plan : Plan) : Bool :=
  plan.tenantId == tenantId && plan.serviceId == serviceId

def Tables.countPlansForService (t : Tables) (tenantId serviceId : Nat) : Nat :=
  t.plans.countP (planOfService tenantId serviceId)

def Tables.countSubscriptions (t : Tables) (wanted : Subscription → Bool) : Nat × Nat :=
  let found := t.subscriptions.filter wanted
  let active := found.countP (·.status == "active")
  (active, found.length - active)

def Tables.countSubscriptionsForService (t : Tables) (tenantId serviceId : Nat) : Nat × Nat :=
  t.countSubscriptions (ofService tenantId serviceId)

def Tables.countSubscriptionsForPlan (t : Tables) (tenantId serviceId planId : Nat) : Nat × Nat :=
  t.countSubscriptions (ofPlan tenantId serviceId planId)

/-- A subscription with the rows that it refers to. -/
structure Joined where
  sub : Subscription
  client : Client
  service : Service
  plan : Plan

def Tables.join (t : Tables) (sub : Subscription) : Option Joined := do
  let client ← t.clients.find? (·.id == sub.clientId)
  let service ← t.services.find? (·.id == sub.serviceId)
  let plan ← t.plans.find? (·.id == sub.planId)
  return ⟨sub, client, service, plan⟩

/-- What the rows are ordered by. `expires_at` is never NULL. -/
def Subscription.times (sub : Subscription) : Lex (Int × Int) :=
  toLex (sub.expiresAt, sub.createdAt)

def Tables.activeRows (t : Tables) (wanted : Subscription → Bool) : List Joined :=
  (t.subscriptions.filter fun sub => wanted sub && sub.status == "active").filterMap t.join

def Tables.listActiveSubscriptionRows (t : Tables) (scan : Scan Joined)
    (wanted : Subscription → Bool) (offset limit : Nat) : List Joined :=
  ((orderBy scan (·.sub.times) (t.activeRows wanted)).drop offset).take limit

def Tables.listActiveSubscriptionRowsForService (t : Tables) (scan : Scan Joined)
    (tenantId serviceId offset limit : Nat) : List Joined :=
  t.listActiveSubscriptionRows scan (ofService tenantId serviceId) offset limit

def Tables.listActiveSubscriptionRowsForPlan (t : Tables) (scan : Scan Joined)
    (tenantId serviceId planId offset limit : Nat) : List Joined :=
  t.listActiveSubscriptionRows scan (ofPlan tenantId serviceId planId) offset limit

/-! ## Previews -/

structure CatalogDeleteSubscriptionRow where
  id : Nat
  streamingEmail : String
  clientName : Option String
  clientPhone : Option String
  serviceName : String
  planName : String
  expiresAt : Option Int
deriving DecidableEq

structure CatalogDeletePagination where
  page : Nat
  pageSize : Nat
  totalItems : Nat
  totalPages : Nat
  hasNext : Bool
deriving DecidableEq

structure CatalogDeletePreview where
  targetType : String
  targetId : Nat
  targetName : String
  affectedPlanCount : Nat
  activeSubscriptionCount : Nat
  historicalSubscriptionCount : Nat
  totalSubscriptionCount : Nat
  activeSubscriptions : List CatalogDeleteSubscriptionRow
  pagination : CatalogDeletePagination
  note : String
deriving DecidableEq

def pageBounds (page pageSize : Int) : Nat × Nat :=
  let safePage := max 1 (if page = 0 then 1 else page)
  let safePageSize := max 1 (min 100 (if pageSize = 0 then 10 else pageSize))
  (safePage.toNat, safePageSize.toNat)

def pagination (page pageSize totalItems : Nat) : CatalogDeletePagination :=
  let totalPages := max 1 ((totalItems + pageSize - 1) / pageSize)
  { page, pageSize, totalItems, totalPages, hasNext := decide (page < totalPages) }

def Joined.row (row : Joined) : CatalogDeleteSubscriptionRow where
  id := row.sub.id
  streamingEmail := row.sub.streamingEmail
  clientName := some row.client.fullName
  clientPhone := row.client.phone
  serviceName := row.service.name
  planName := row.plan.name
  expiresAt := some row.sub.expiresAt

def Tables.getServiceDeletePreview (t : Tables) (scan : Scan Joined) (tenantId serviceId : Nat)
    (page pageSize : Int) : Option CatalogDeletePreview := do
  let service ← t.getService tenantId serviceId
  let (page, pageSize) := pageBounds page pageSize
  let offset := (page - 1) * pageSize
  let planCount := t.countPlansForService tenantId serviceId
  let (activeCount, historicalCount) := t.countSubscriptionsForService tenantId serviceId
  let rows := t.listActiveSubscriptionRowsForService scan tenantId serviceId offset pageSize
  return {
    targetType := "service"
    targetId := service.id
    targetName := service.name
    affectedPlanCount := planCount
    activeSubscriptionCount := activeCount
    historicalSubscriptionCount := historicalCount
    totalSubscriptionCount := activeCount + historicalCount
    activeSubscriptions := rows.map Joined.row
    pagination := pagination page pageSize activeCount
    note := "frontend.catalog.delete_preview_note" }

def Tables.getPlanDeletePreview (t : Tables) (scan : Scan Joined)
    (tenantId serviceId planId : Nat) (page pageSize : Int) : Option CatalogDeletePreview := do
  let plan ← t.getPlan tenantId serviceId planId
  let (page, pageSize) := pageBounds page pageSize
  let offset := (page - 1) * pageSize
  let (activeCount, historicalCount) := t.countSubscriptionsForPlan tenantId serviceId planId
  let rows := t.listActiveSubscriptionRowsForPlan scan tenantId serviceId planId offset pageSize
  return {
    targetType := "plan"
    targetId := plan.id
    targetName := plan.name
    affectedPlanCount := 0
    activeSubscriptionCount := activeCount
    historicalSubscriptionCount := historicalCount
    totalSubscriptionCount := activeCount + historicalCount
    activeSubscriptions := rows.map Joined.row
    pagination := pagination page pageSize activeCount
    note := "frontend.catalog.delete_preview_note" }

/-! ## Deletes -/

inductive Statement where
  | preview
  | target
  | subscriptions
  | plans
  | row
deriving DecidableEq

inductive Commit where
  | done
  | integrityError
  | failed
deriving DecidableEq

/-- How the database answers a delete. -/
structure Trial where
  raises : Statement → Bool
  commit : Commit

inductive Answer where
  | deleted (preview : CatalogDeletePreview)
  | missing
  | userFacingError (code : String)
  | raised

def commitCatalogChange (trial : Trial) (errCode : String) (before work : Tables)
    (preview : CatalogDeletePreview) : Answer × Tables :=
  match trial.commit with
  | .done => (.deleted preview, work)
  | .integrityError => (.userFacingError errCode, before)
  | .failed => (.raised, before)

def Tables.deleteService (t : Tables) (scan : Scan Joined) (trial : Trial)
    (tenantId serviceId : Nat) (confirm : Bool) : Answer × Tables :=
  if !confirm then (.userFacingError "catalog_delete_confirmation_required", t)
  else if trial.raises .preview then (.raised, t)
  else match t.getServiceDeletePreview scan tenantId serviceId 1 10 with
    | none => (.missing, t)
    | some preview =>
      if trial.raises .target then (.raised, t)
      else match t.getService tenantId serviceId with
        | none => (.missing, t)
        | some service =>
          if trial.raises .subscriptions || trial.raises .plans || trial.raises .row then
            (.raised, t)
          else
            let work := ((t.dropSubscriptions (ofService tenantId serviceId)).dropPlans
              (planOfService tenantId serviceId)).dropServices (·.id == service.id)
            commitCatalogChange trial "service_delete_failed" t work preview

def Tables.deletePlan (t : Tables) (scan : Scan Joined) (trial : Trial)
    (tenantId serviceId planId : Nat) (confirm : Bool) : Answer × Tables :=
  if !confirm then (.userFacingError "catalog_delete_confirmation_required", t)
  else if trial.raises .preview then (.raised, t)
  else match t.getPlanDeletePreview scan tenantId serviceId planId 1 10 with
    | none => (.missing, t)
    | some preview =>
      if trial.raises .target then (.raised, t)
      else match t.getPlan tenantId serviceId planId with
        | none => (.missing, t)
        | some plan =>
          if trial.raises .subscriptions || trial.raises .row then (.raised, t)
          else
            let work := (t.dropSubscriptions (ofPlan tenantId serviceId planId)).dropPlans
              (·.id == plan.id)
            commitCatalogChange trial "plan_delete_failed" t work preview

/-! ## What a preview promises -/

/-- What is deleted, of a tenant. -/
inductive Target where
  | service (serviceId : Nat)
  | plan (serviceId planId : Nat)

def Target.isService (tenantId : Nat) : Target → Service → Bool
  | .service serviceId, row => row.tenantId == tenantId && row.id == serviceId
  | .plan _ _, _ => false

def Target.takesPlan (tenantId : Nat) : Target → Plan → Bool
  | .service serviceId, row => planOfService tenantId serviceId row
  | .plan serviceId planId, row => planOfService tenantId serviceId row && row.id == planId

def Target.takes (tenantId : Nat) : Target → Subscription → Bool
  | .service serviceId => ofService tenantId serviceId
  | .plan serviceId planId => ofPlan tenantId serviceId planId

def Tables.preview (t : Tables) (scan : Scan Joined) (tenantId : Nat) (target : Target)
    (page pageSize : Int) : Option CatalogDeletePreview :=
  match target with
  | .service serviceId => t.getServiceDeletePreview scan tenantId serviceId page pageSize
  | .plan serviceId planId => t.getPlanDeletePreview scan tenantId serviceId planId page pageSize

def Tables.delete (t : Tables) (scan : Scan Joined) (trial : Trial) (tenantId : Nat)
    (target : Target) (confirm : Bool) : Answer × Tables :=
  match target with
  | .service serviceId => t.deleteService scan trial tenantId serviceId confirm
  | .plan serviceId planId => t.deletePlan scan trial tenantId serviceId planId confirm

def Tables.activeOf (t : Tables) (tenantId : Nat) (target : Target) : List Subscription :=
  t.subscriptions.filter fun sub => target.takes tenantId sub && sub.status == "active"

/-- The target and what belongs to it are gone, and nothing else. -/
structure Removed (before after : Tables) (tenantId : Nat) (target : Target) : Prop where
  services : after.services = before.services.filter fun service =>
    !target.isService tenantId service
  plans : after.plans = before.plans.filter fun plan => !target.takesPlan tenantId plan
  clients : after.clients = before.clients
  subscriptions : after.subscriptions = before.subscriptions.filter fun sub =>
    !target.takes tenantId sub
  events : after.events = before.events.filter fun event =>
    !before.orphaned (target.takes tenantId) event.subscriptionId
  reminderLogs : after.reminderLogs = before.reminderLogs.filter fun log =>
    !before.orphaned (target.takes tenantId) log.subscriptionId

/-- As many rows are gone as the preview says, and the target itself. -/
structure Announced (before after : Tables) (preview : CatalogDeletePreview) : Prop where
  plans : after.services.length + after.plans.length + preview.affectedPlanCount + 1 =
    before.services.length + before.plans.length
  subscriptions : after.subscriptions.length + preview.totalSubscriptionCount =
    before.subscriptions.length

/-- The rows on the pages of a preview. -/
def Tables.listed (t : Tables) (scans : Nat → Scan Joined) (tenantId : Nat) (target : Target)
    (pageSize : Int) (totalPages : Nat) : List CatalogDeleteSubscriptionRow :=
  (List.range totalPages).flatMap fun n =>
    (t.preview (scans n) tenantId target (n + 1) pageSize).elim [] (·.activeSubscriptions)

/-- The previews of a target keep their promises. -/
structure Honest (t : Tables) (tenantId : Nat) (target : Target) (pageSize : Int) : Prop where
  deleted : ∀ scan scan' page trial confirm announced shown after,
    t.preview scan' tenantId target page pageSize = some announced →
    t.delete scan trial tenantId target confirm = (.deleted shown, after) →
    Removed t after tenantId target ∧ Announced t after announced
  kept : ∀ scan trial confirm answer after,
    t.delete scan trial tenantId target confirm = (answer, after) →
    (∀ shown, answer ≠ .deleted shown) → after = t
  deletes : ∀ scan scan' page trial announced,
    t.preview scan' tenantId target page pageSize = some announced →
    (∀ statement, trial.raises statement = false) → trial.commit = .done →
    ∃ shown after, t.delete scan trial tenantId target true = (.deleted shown, after)
  pages : ∀ scan page announced,
    t.preview scan tenantId target page pageSize = some announced →
    ∀ scans, ((t.listed scans tenantId target pageSize announced.pagination.totalPages).map
      (·.id)).Perm ((t.activeOf tenantId target).map (·.id))

def Tables.timesOf (t : Tables) (tenantId : Nat) (target : Target) : List (Lex (Int × Int)) :=
  ((t.activeOf tenantId target).map (·.times)).mergeSort

variable {t : Tables} {tenantId serviceId planId : Nat} {target : Target} {scan : Scan Joined}
  {page pageSize : Int} {preview : CatalogDeletePreview}

namespace DeletionLemmas

theorem getService_eq {service : Service} (h : t.getService tenantId serviceId = some service) :
    service ∈ t.services ∧ service.tenantId = tenantId ∧ service.id = serviceId := by
  have hmem := List.mem_of_find?_eq_some h
  have hfound := List.find?_some h
  rw [Bool.and_eq_true, beq_iff_eq, beq_iff_eq] at hfound
  exact ⟨hmem, hfound⟩

theorem getPlan_eq {plan : Plan} (h : t.getPlan tenantId serviceId planId = some plan) :
    plan ∈ t.plans ∧ plan.tenantId = tenantId ∧ plan.serviceId = serviceId ∧ plan.id = planId := by
  have hmem := List.mem_of_find?_eq_some h
  have hfound := List.find?_some h
  rw [Bool.and_eq_true, Bool.and_eq_true, beq_iff_eq, beq_iff_eq, beq_iff_eq] at hfound
  exact ⟨hmem, hfound.1.1, hfound.1.2, hfound.2⟩

theorem ofService_iff {sub : Subscription} :
    ofService tenantId serviceId sub = true ↔
      sub.tenantId = tenantId ∧ sub.serviceId = serviceId := by
  unfold ofService
  rw [Bool.and_eq_true, beq_iff_eq, beq_iff_eq]

theorem ofPlan_iff {sub : Subscription} :
    ofPlan tenantId serviceId planId sub = true ↔
      sub.tenantId = tenantId ∧ sub.serviceId = serviceId ∧ sub.planId = planId := by
  unfold ofPlan
  rw [Bool.and_eq_true, Bool.and_eq_true, beq_iff_eq, beq_iff_eq, beq_iff_eq, and_assoc]

theorem planOfService_iff {plan : Plan} :
    planOfService tenantId serviceId plan = true ↔
      plan.tenantId = tenantId ∧ plan.serviceId = serviceId := by
  unfold planOfService
  rw [Bool.and_eq_true, beq_iff_eq, beq_iff_eq]

theorem countP_eq_one {ρ : Type*} {id : ρ → Nat} {rows : List ρ} {p : ρ → Bool} {a : ρ}
    (hnodup : (rows.map id).Nodup) (ha : a ∈ rows) (hp : ∀ b ∈ rows, p b = true ↔ id b = id a) :
    rows.countP p = 1 := by
  have hcongr : rows.countP p = rows.countP fun b => id b == id a :=
    List.countP_congr fun b hb => by rw [hp b hb, beq_iff_eq]
  rw [hcongr, show (fun b => id b == id a) = (· == id a) ∘ id from rfl, ← List.countP_map]
  exact List.count_eq_one_of_mem hnodup (List.mem_map_of_mem ha)

theorem length_filter_not {ρ : Type*} (p : ρ → Bool) (rows : List ρ) :
    (rows.filter fun a => !p a).length + rows.countP p = rows.length := by
  rw [← List.countP_eq_length_filter, Nat.add_comm]
  simpa using (List.length_eq_countP_add_countP p (l := rows)).symm

theorem removed_service {service : Service} (h : t.Sound)
    (hfound : t.getService tenantId serviceId = some service) :
    Removed t (((t.dropSubscriptions (ofService tenantId serviceId)).dropPlans
      (planOfService tenantId serviceId)).dropServices (·.id == service.id)) tenantId
      (.service serviceId) := by
  obtain ⟨hmem, htenant, hid⟩ := getService_eq hfound
  -- the subscriptions that are left have a plan of another service
  rw [dropPlans_eq, dropServices_eq]
  · refine ⟨List.filter_congr fun row hrow => ?_, rfl, rfl, rfl, rfl, rfl⟩
    have hsame : row.id = service.id ↔ row.tenantId = tenantId ∧ row.id = serviceId :=
      ⟨fun heq => List.inj_on_of_nodup_map h.serviceIds hrow hmem heq ▸ ⟨htenant, hid⟩,
        fun heq => heq.2.trans hid.symm⟩
    refine congrArg not (Bool.eq_iff_iff.mpr ?_)
    rw [beq_iff_eq, hsame, Target.isService, Bool.and_eq_true, beq_iff_eq, beq_iff_eq]
  · intro row hrow hgone plan hplan hsame heq
    have hrow' := List.inj_on_of_nodup_map h.serviceIds hrow hmem (beq_iff_eq.mp hgone)
    have hkept := (List.mem_filter.mp hplan).2
    rw [Bool.not_eq_true', ← Bool.not_eq_true, planOfService_iff] at hkept
    exact hkept ⟨by rw [← hsame, hrow', htenant], by rw [← heq, hrow', hid]⟩
  · intro row hrow hgone sub hsub hsame heq
    have hrow' := List.inj_on_of_nodup_map h.serviceIds hrow hmem (beq_iff_eq.mp hgone)
    have hkept := (List.mem_filter.mp hsub).2
    rw [Bool.not_eq_true', ← Bool.not_eq_true, ofService_iff] at hkept
    exact hkept ⟨by rw [← hsame, hrow', htenant], by rw [← heq, hrow', hid]⟩
  · intro sub hsub plan hplan hgone heq
    obtain ⟨hsub, hkept⟩ := List.mem_filter.mp hsub
    rw [Bool.not_eq_true', ← Bool.not_eq_true, ofService_iff] at hkept
    obtain ⟨own, hown, hownId, hownService, hownTenant⟩ := h.subscriptionPlan sub hsub
    obtain rfl := List.inj_on_of_nodup_map h.planIds hplan hown (heq.trans hownId.symm)
    obtain ⟨hplanTenant, hplanService⟩ := planOfService_iff.mp hgone
    exact hkept ⟨hownTenant ▸ hplanTenant, hownService ▸ hplanService⟩

theorem removed_plan {plan : Plan} (h : t.Sound)
    (hfound : t.getPlan tenantId serviceId planId = some plan) :
    Removed t ((t.dropSubscriptions (ofPlan tenantId serviceId planId)).dropPlans
      (·.id == plan.id)) tenantId (.plan serviceId planId) := by
  obtain ⟨hmem, htenant, hservice, hid⟩ := getPlan_eq hfound
  rw [dropPlans_eq]
  · refine ⟨(List.filter_eq_self.mpr fun _ _ => rfl).symm, List.filter_congr fun row hrow => ?_,
      rfl, rfl, rfl, rfl⟩
    have hsame : row.id = plan.id ↔
        (row.tenantId = tenantId ∧ row.serviceId = serviceId) ∧ row.id = planId :=
      ⟨fun heq => List.inj_on_of_nodup_map h.planIds hrow hmem heq ▸
        ⟨⟨htenant, hservice⟩, hid⟩, fun heq => heq.2.trans hid.symm⟩
    refine congrArg not (Bool.eq_iff_iff.mpr ?_)
    rw [beq_iff_eq, hsame, Target.takesPlan, Bool.and_eq_true, planOfService_iff, beq_iff_eq]
  · intro sub hsub row hrow hgone heq
    obtain ⟨hsub, hkept⟩ := List.mem_filter.mp hsub
    rw [Bool.not_eq_true', ← Bool.not_eq_true, ofPlan_iff] at hkept
    obtain ⟨own, hown, hownId, hownService, hownTenant⟩ := h.subscriptionPlan sub hsub
    obtain rfl := List.inj_on_of_nodup_map h.planIds hrow hown (heq.trans hownId.symm)
    obtain rfl := List.inj_on_of_nodup_map h.planIds hrow hmem (beq_iff_eq.mp hgone)
    exact hkept ⟨hownTenant ▸ htenant, hownService ▸ hservice, hownId ▸ hid⟩

def planCount (t : Tables) (tenantId : Nat) : Target → Nat
  | .service serviceId => t.countPlansForService tenantId serviceId
  | .plan _ _ => 0

/-- Whether the target is there. -/
def finds (t : Tables) (tenantId : Nat) : Target → Bool
  | .service serviceId => (t.getService tenantId serviceId).isSome
  | .plan serviceId planId => (t.getPlan tenantId serviceId planId).isSome

structure Shows (t : Tables) (scan : Scan Joined) (tenantId : Nat) (target : Target)
    (page pageSize : Int) (preview : CatalogDeletePreview) : Prop where
  plans : preview.affectedPlanCount = planCount t tenantId target
  total : preview.totalSubscriptionCount = t.subscriptions.countP (target.takes tenantId)
  pages : preview.pagination.totalPages = max 1
    (((t.activeOf tenantId target).length + (pageBounds page pageSize).2 - 1) /
      (pageBounds page pageSize).2)
  rows : preview.activeSubscriptions = (queryPage scan (·.sub.times)
    (t.activeRows (target.takes tenantId)) (pageBounds page pageSize).2
    ((pageBounds page pageSize).1 - 1)).map Joined.row

theorem countSubscriptions_eq {wanted : Subscription → Bool} :
    t.countSubscriptions wanted =
      ((t.subscriptions.filter fun sub => wanted sub && sub.status == "active").length,
        t.subscriptions.countP wanted -
          (t.subscriptions.filter fun sub => wanted sub && sub.status == "active").length) := by
  unfold Tables.countSubscriptions
  dsimp only
  rw [List.countP_eq_length_filter, List.countP_eq_length_filter, List.filter_filter]
  simp only [Bool.and_comm]

theorem active_add_historical {wanted : Subscription → Bool} :
    (t.countSubscriptions wanted).1 + (t.countSubscriptions wanted).2 =
      t.subscriptions.countP wanted := by
  have hle : (t.subscriptions.filter fun sub => wanted sub && sub.status == "active").length ≤
      t.subscriptions.countP wanted := by
    rw [← List.countP_eq_length_filter]
    exact List.countP_mono_left fun _ _ hboth => (Bool.and_eq_true _ _ ▸ hboth).1
  rw [countSubscriptions_eq]
  omega

theorem preview_shows (h : t.preview scan tenantId target page pageSize = some preview) :
    Shows t scan tenantId target page pageSize preview := by
  cases target with
  | service serviceId =>
    obtain ⟨service, -, heq⟩ := Option.bind_eq_some_iff.mp h
    rw [← Option.some.inj heq]
    exact ⟨rfl, active_add_historical, congrArg (fun total => max 1
      ((total + (pageBounds page pageSize).2 - 1) / (pageBounds page pageSize).2))
      (congrArg Prod.fst countSubscriptions_eq), rfl⟩
  | plan serviceId planId =>
    obtain ⟨plan, -, heq⟩ := Option.bind_eq_some_iff.mp h
    rw [← Option.some.inj heq]
    exact ⟨rfl, active_add_historical, congrArg (fun total => max 1
      ((total + (pageBounds page pageSize).2 - 1) / (pageBounds page pageSize).2))
      (congrArg Prod.fst countSubscriptions_eq), rfl⟩

theorem preview_isSome : (t.preview scan tenantId target page pageSize).isSome =
    finds t tenantId target := by
  cases target with
  | service serviceId =>
    change (t.getServiceDeletePreview scan tenantId serviceId page pageSize).isSome =
      (t.getService tenantId serviceId).isSome
    unfold Tables.getServiceDeletePreview
    generalize t.getService tenantId serviceId = found
    cases found <;> rfl
  | plan serviceId planId =>
    change (t.getPlanDeletePreview scan tenantId serviceId planId page pageSize).isSome =
      (t.getPlan tenantId serviceId planId).isSome
    unfold Tables.getPlanDeletePreview
    generalize t.getPlan tenantId serviceId planId = found
    cases found <;> rfl

theorem find_isSome {ρ : Type*} {rows : List ρ} {p : ρ → Bool} {a : ρ} (ha : a ∈ rows)
    (hp : p a = true) : (rows.find? p).isSome = true :=
  List.find?_isSome.mpr ⟨a, ha, hp⟩

theorem join_eq {sub : Subscription} (h : t.Sound) (hsub : sub ∈ t.subscriptions) :
    ∃ row, t.join sub = some row ∧ row.sub = sub := by
  obtain ⟨client, hclient, hclientId⟩ := h.subscriptionClient sub hsub
  obtain ⟨plan, hplan, hplanId, hplanService, -⟩ := h.subscriptionPlan sub hsub
  obtain ⟨service, hservice, hserviceId, -⟩ := h.planService plan hplan
  obtain ⟨c, hc⟩ := Option.isSome_iff_exists.mp
    (find_isSome (p := (·.id == sub.clientId)) hclient (beq_iff_eq.mpr hclientId))
  obtain ⟨s, hs⟩ := Option.isSome_iff_exists.mp
    (find_isSome (p := (·.id == sub.serviceId)) hservice
      (beq_iff_eq.mpr (hserviceId.trans hplanService)))
  obtain ⟨p, hp⟩ := Option.isSome_iff_exists.mp
    (find_isSome (p := (·.id == sub.planId)) hplan (beq_iff_eq.mpr hplanId))
  exact ⟨⟨sub, c, s, p⟩, by unfold Tables.join; rw [hc, hs, hp]; rfl, rfl⟩

theorem map_activeRows (h : t.Sound) :
    (t.activeRows (target.takes tenantId)).map (·.sub) = t.activeOf tenantId target := by
  have hmem : ∀ sub ∈ t.activeOf tenantId target, sub ∈ t.subscriptions :=
    fun sub hsub => (List.mem_filter.mp hsub).1
  unfold Tables.activeRows
  change ((t.activeOf tenantId target).filterMap t.join).map _ = _
  generalize t.activeOf tenantId target = active at hmem ⊢
  induction active with
  | nil => rfl
  | cons sub rest ih =>
    obtain ⟨row, hjoin, hrow⟩ := join_eq h (hmem sub List.mem_cons_self)
    rw [List.filterMap_cons_some hjoin, List.map_cons, hrow,
      ih fun s hs => hmem s (List.mem_cons_of_mem _ hs)]

theorem nodup_ids (h : t.Sound) : ((t.activeOf tenantId target).map (·.id)).Nodup :=
  h.subscriptionIds.sublist (List.filter_sublist.map _)

theorem map_id_rows (h : t.Sound) : (t.activeRows (target.takes tenantId)).map (·.sub.id) =
    (t.activeOf tenantId target).map (·.id) := by
  rw [← map_activeRows h, List.map_map]
  rfl

theorem pageBounds_size : 0 < (pageBounds page pageSize).2 := by
  unfold pageBounds
  dsimp only
  omega

theorem pageBounds_page (n : Nat) : (pageBounds (n + 1 : Nat) pageSize).1 - 1 = n := by
  unfold pageBounds
  dsimp only
  split <;> omega

theorem mem_times (h : t.Sound) (hactive : t.activeOf tenantId target ≠ []) :
    finds t tenantId target = true := by
  obtain ⟨sub, hmem⟩ := List.exists_mem_of_ne_nil _ hactive
  obtain ⟨hsub, hboth⟩ := List.mem_filter.mp hmem
  have htakes := (Bool.and_eq_true _ _ ▸ hboth).1
  obtain ⟨plan, hplan, hplanId, hplanService, hplanTenant⟩ := h.subscriptionPlan sub hsub
  obtain ⟨service, hservice, hserviceId, hserviceTenant⟩ := h.planService plan hplan
  cases target with
  | service serviceId =>
    obtain ⟨htenant, hid⟩ := ofService_iff.mp htakes
    refine find_isSome hservice ?_
    rw [Bool.and_eq_true, beq_iff_eq, beq_iff_eq]
    exact ⟨hserviceTenant.trans (hplanTenant.trans htenant),
      hserviceId.trans (hplanService.trans hid)⟩
  | plan serviceId planId =>
    obtain ⟨htenant, hservice, hid⟩ := ofPlan_iff.mp htakes
    refine find_isSome hplan ?_
    rw [Bool.and_eq_true, Bool.and_eq_true, beq_iff_eq, beq_iff_eq, beq_iff_eq]
    exact ⟨⟨hplanTenant.trans htenant, hplanService.trans hservice⟩, hplanId.trans hid⟩

theorem listed_eq (hfinds : finds t tenantId target = true) (scans : Nat → Scan Joined)
    (total : Nat) : (t.listed scans tenantId target pageSize total).map (·.id) =
      ((List.range total).flatMap fun n => queryPage (scans n) (·.sub.times)
        (t.activeRows (target.takes tenantId)) (pageBounds 1 pageSize).2 n).map (·.sub.id) := by
  unfold Tables.listed
  rw [List.map_flatMap, List.map_flatMap]
  refine List.flatMap_congr fun n _ => ?_
  rw [← @preview_isSome _ _ _ (scans n) (n + 1 : Nat) pageSize] at hfinds
  obtain ⟨shown, hshown⟩ := Option.isSome_iff_exists.mp hfinds
  have hrows := (preview_shows hshown).rows
  rw [pageBounds_page] at hrows
  rw [show ((n : Int) + 1) = ((n + 1 : Nat) : Int) from rfl, hshown, Option.elim_some, hrows,
    List.map_map]
  rfl

theorem pages_iff (h : t.Sound) (hfinds : finds t tenantId target = true) :
    (∀ scans : Nat → Scan Joined, ((t.listed scans tenantId target pageSize
        (max 1 (((t.activeOf tenantId target).length + (pageBounds 1 pageSize).2 - 1) /
          (pageBounds 1 pageSize).2))).map (·.id)).Perm
      ((t.activeOf tenantId target).map (·.id))) ↔
    Aligned (pageBounds 1 pageSize).2 (t.timesOf tenantId target) := by
  have hsize : 0 < (pageBounds 1 pageSize).2 := pageBounds_size
  have hids := @nodup_ids _ tenantId target h
  rw [← map_id_rows h] at hids ⊢
  have hlength : (t.activeRows (target.takes tenantId)).length =
      (t.activeOf tenantId target).length := by
    rw [← map_activeRows h, List.length_map]
  have htimes : t.timesOf tenantId target = (orderBy Scan.stored (·.sub.times)
      (t.activeRows (target.takes tenantId))).map (·.sub.times) := by
    unfold Tables.timesOf
    rw [map_orderBy_eq_mergeSort, ← map_activeRows h, List.map_map]
    rfl
  rw [htimes, ← hlength]
  simp only [listed_eq hfinds]
  generalize (pageBounds 1 pageSize).2 = size at *
  generalize htotal : max 1 (((t.activeRows (target.takes tenantId)).length + size - 1) / size) =
    total
  have hall : (t.activeRows (target.takes tenantId)).length ≤ total * size := by
    have hle : ((t.activeRows (target.takes tenantId)).length + size - 1) / size ≤ total := by
      rw [← htotal]
      exact Nat.le_max_right _ _
    have hdiv := Nat.lt_mul_div_succ
      ((t.activeRows (target.takes tenantId)).length + size - 1) hsize
    have hmul := Nat.mul_le_mul_left size hle
    rw [Nat.mul_comm total size]
    rw [Nat.mul_add, Nat.mul_one] at hdiv
    omega
  rw [← pages_perm_iff (hids.of_map _) hsize hall]
  refine forall_congr' fun scans => ⟨fun hperm => ?_, fun hperm => hperm.map _⟩
  -- rows with different ids are different rows
  refine (List.subperm_of_subset ((hperm.nodup_iff.mpr hids).of_map _) fun row hrow => ?_)
    |>.perm_of_length_le ?_
  · obtain ⟨n, -, hpage⟩ := List.mem_flatMap.mp hrow
    exact orderBy_perm.mem_iff.mp (List.mem_of_mem_drop (List.mem_of_mem_take hpage))
  · have hlengths := hperm.length_eq
    rw [List.length_map, List.length_map] at hlengths
    exact hlengths.ge

theorem countP_takesPlan (h : t.Sound) (hfinds : finds t tenantId target = true) :
    t.services.countP (target.isService tenantId) + t.plans.countP (target.takesPlan tenantId) =
      planCount t tenantId target + 1 := by
  cases target with
  | service serviceId =>
    obtain ⟨service, hfound⟩ := Option.isSome_iff_exists.mp hfinds
    obtain ⟨hmem, htenant, hid⟩ := getService_eq hfound
    have hone : t.services.countP (Target.isService tenantId (.service serviceId)) = 1 := by
      refine countP_eq_one h.serviceIds hmem fun row hrow => ?_
      rw [Target.isService, Bool.and_eq_true, beq_iff_eq, beq_iff_eq]
      exact ⟨fun heq => heq.2.trans hid.symm, fun heq =>
        List.inj_on_of_nodup_map h.serviceIds hrow hmem heq ▸ ⟨htenant, hid⟩⟩
    rw [hone, Nat.add_comm]
    rfl
  | plan serviceId planId =>
    obtain ⟨plan, hfound⟩ := Option.isSome_iff_exists.mp hfinds
    obtain ⟨hmem, htenant, hservice, hid⟩ := getPlan_eq hfound
    have hnone : t.services.countP (Target.isService tenantId (.plan serviceId planId)) = 0 :=
      List.countP_eq_zero.mpr fun _ _ => Bool.false_ne_true
    have hone : t.plans.countP (Target.takesPlan tenantId (.plan serviceId planId)) = 1 := by
      refine countP_eq_one h.planIds hmem fun row hrow => ?_
      rw [Target.takesPlan, Bool.and_eq_true, planOfService_iff, beq_iff_eq]
      exact ⟨fun heq => heq.2.trans hid.symm, fun heq =>
        List.inj_on_of_nodup_map h.planIds hrow hmem heq ▸ ⟨⟨htenant, hservice⟩, hid⟩⟩
    rw [hnone, hone]
    rfl

theorem announced {after : Tables} (h : t.Sound)
    (hpreview : t.preview scan tenantId target page pageSize = some preview)
    (hremoved : Removed t after tenantId target) : Announced t after preview := by
  have hfinds : finds t tenantId target = true := by
    rw [← @preview_isSome _ _ _ scan page pageSize, hpreview]
    rfl
  have hshows := preview_shows hpreview
  constructor
  · have hservices := length_filter_not (target.isService tenantId) t.services
    have hplans := length_filter_not (target.takesPlan tenantId) t.plans
    have hcount := countP_takesPlan h hfinds
    rw [hremoved.services, hremoved.plans, hshows.plans]
    omega
  · rw [hremoved.subscriptions, hshows.total]
    exact length_filter_not _ _

/-- What a delete leaves. -/
inductive Outcome (t : Tables) (tenantId : Nat) (target : Target) (trial : Trial)
    (confirm : Bool) : Answer × Tables → Prop where
  | unconfirmed (h : confirm = false) :
      Outcome t tenantId target trial confirm
        (.userFacingError "catalog_delete_confirmation_required", t)
  | missing (h : finds t tenantId target = false) :
      Outcome t tenantId target trial confirm (.missing, t)
  | raised (h : (∃ statement, trial.raises statement = true) ∨ trial.commit = .failed) :
      Outcome t tenantId target trial confirm (.raised, t)
  | refused (code : String) (h : trial.commit = .integrityError) :
      Outcome t tenantId target trial confirm (.userFacingError code, t)
  | deleted (scan : Scan Joined) (shown : CatalogDeletePreview) (after : Tables)
      (h : t.preview scan tenantId target 1 10 = some shown)
      (hremoved : Removed t after tenantId target) :
      Outcome t tenantId target trial confirm (.deleted shown, after)

theorem outcome_commit {trial : Trial} {confirm : Bool} {errCode : String} {work : Tables}
    {shown : CatalogDeletePreview} (h : t.preview scan tenantId target 1 10 = some shown)
    (hremoved : Removed t work tenantId target) :
    Outcome t tenantId target trial confirm
      (commitCatalogChange trial errCode t work shown) := by
  unfold commitCatalogChange
  cases hcommit : trial.commit with
  | done => exact .deleted scan shown work h hremoved
  | integrityError => exact .refused errCode hcommit
  | failed => exact .raised (.inr hcommit)

end DeletionLemmas

open DeletionLemmas

/-- What each outcome of a delete leaves. -/
theorem delete_spec (h : t.Sound) (trial : Trial) (confirm : Bool) :
    Outcome t tenantId target trial confirm
      (t.delete scan trial tenantId target confirm) := by
  cases target with
  | service serviceId =>
    change Outcome _ _ _ _ _ (t.deleteService scan trial tenantId serviceId confirm)
    unfold Tables.deleteService
    split
    · next hconfirm => exact .unconfirmed (by rwa [Bool.not_eq_true'] at hconfirm)
    split
    · next hraises => exact .raised (.inl ⟨_, hraises⟩)
    split
    · next hnone =>
      refine .missing ?_
      rw [← @preview_isSome _ _ _ scan 1 10]
      exact congrArg Option.isSome hnone
    next shown hshown =>
    split
    · next hraises => exact .raised (.inl ⟨_, hraises⟩)
    split
    · next hnone => exact .missing (congrArg Option.isSome hnone)
    next service hfound =>
    split
    · next hraises =>
      rw [Bool.or_eq_true, Bool.or_eq_true] at hraises
      obtain (hraises | hraises) | hraises := hraises
      all_goals exact .raised (.inl ⟨_, hraises⟩)
    · exact outcome_commit hshown (removed_service h hfound)
  | plan serviceId planId =>
    change Outcome _ _ _ _ _ (t.deletePlan scan trial tenantId serviceId planId confirm)
    unfold Tables.deletePlan
    split
    · next hconfirm => exact .unconfirmed (by rwa [Bool.not_eq_true'] at hconfirm)
    split
    · next hraises => exact .raised (.inl ⟨_, hraises⟩)
    split
    · next hnone =>
      refine .missing ?_
      rw [← @preview_isSome _ _ _ scan 1 10]
      exact congrArg Option.isSome hnone
    next shown hshown =>
    split
    · next hraises => exact .raised (.inl ⟨_, hraises⟩)
    split
    · next hnone => exact .missing (congrArg Option.isSome hnone)
    next plan hfound =>
    split
    · next hraises =>
      rw [Bool.or_eq_true] at hraises
      obtain hraises | hraises := hraises
      all_goals exact .raised (.inl ⟨_, hraises⟩)
    · exact outcome_commit hshown (removed_plan h hfound)

/-- Deletes keep the keys of the catalog. -/
theorem delete_sound (h : t.Sound) (trial : Trial) (confirm : Bool) :
    (t.delete scan trial tenantId target confirm).2.Sound := by
  have hspec := @delete_spec t tenantId target scan h trial confirm
  generalize t.delete scan trial tenantId target confirm = result at hspec ⊢
  cases hspec with
  | unconfirmed | missing | raised | refused => exact h
  | deleted _ shown after hshown hremoved =>
    refine sound_of_filter h hremoved.services hremoved.plans hremoved.subscriptions
      hremoved.clients (fun service _ plan _ hid htenant hgone => ?_)
      (fun plan _ sub _ hid hservice htenant hgone => ?_)
    · cases target with
      | service serviceId =>
        rw [Target.isService, Bool.and_eq_true, beq_iff_eq, beq_iff_eq] at hgone
        exact planOfService_iff.mpr ⟨htenant.symm.trans hgone.1, hid.symm.trans hgone.2⟩
      | plan serviceId planId => exact absurd hgone Bool.false_ne_true
    · cases target with
      | service serviceId =>
        obtain ⟨hplanTenant, hplanService⟩ := planOfService_iff.mp hgone
        exact ofService_iff.mpr ⟨htenant.symm.trans hplanTenant, hservice.symm.trans hplanService⟩
      | plan serviceId planId =>
        rw [Target.takesPlan, Bool.and_eq_true, planOfService_iff, beq_iff_eq] at hgone
        exact ofPlan_iff.mpr ⟨htenant.symm.trans hgone.1.1, hservice.symm.trans hgone.1.2,
          hid.symm.trans hgone.2⟩

/-- A delete request: the order in which its lists are read, its faults, and its arguments. -/
structure DeleteRequest where
  scan : Scan Joined
  trial : Trial
  tenantId : Nat
  target : Target
  confirm : Bool

def Tables.answer (t : Tables) (request : DeleteRequest) : Tables :=
  (t.delete request.scan request.trial request.tenantId request.target request.confirm).2

def Tables.answerAll (t : Tables) (requests : List DeleteRequest) : Tables :=
  requests.foldl Tables.answer t

/-- The keys hold, and each event and each reminder log has its subscription. -/
structure Tables.Intact (t : Tables) : Prop where
  sound : t.Sound
  events : ∀ event ∈ t.events, ∃ sub ∈ t.subscriptions, sub.id = event.subscriptionId
  reminderLogs : ∀ log ∈ t.reminderLogs, ∃ sub ∈ t.subscriptions, sub.id = log.subscriptionId

theorem answer_cases (h : t.Sound) (request : DeleteRequest) :
    t.answer request = t ∨ Removed t (t.answer request) request.tenantId request.target := by
  have hspec := @delete_spec t request.tenantId request.target request.scan h request.trial
    request.confirm
  unfold Tables.answer
  generalize t.delete _ _ _ _ _ = result at hspec ⊢
  cases hspec with
  | unconfirmed | missing | raised | refused => exact .inl rfl
  | deleted _ _ after _ hremoved => exact .inr hremoved

/-- A subscription is there afterwards, with all that belongs to it. -/
structure Keeps (before after : Tables) (sub : Subscription) : Prop where
  row : sub ∈ after.subscriptions
  events : ∀ event ∈ before.events, event.subscriptionId = sub.id → event ∈ after.events
  reminderLogs : ∀ log ∈ before.reminderLogs, log.subscriptionId = sub.id → log ∈ after.reminderLogs

theorem keeps_answer {request : DeleteRequest} {sub : Subscription} (h : t.Sound)
    (hmem : sub ∈ t.subscriptions)
    (hgone : request.target.takes request.tenantId sub = false) : Keeps t (t.answer request) sub := by
  have horphaned : t.orphaned (request.target.takes request.tenantId) sub.id = false := by
    rw [Tables.orphaned, List.any_eq_false]
    intro other hother htaken
    rw [Bool.and_eq_true, beq_iff_eq] at htaken
    obtain rfl := List.inj_on_of_nodup_map h.subscriptionIds hother hmem htaken.2
    exact Bool.false_ne_true (hgone.symm.trans htaken.1)
  obtain hsame | hremoved := answer_cases h request
  · rw [hsame]
    exact ⟨hmem, fun _ hevent _ => hevent, fun _ hlog _ => hlog⟩
  constructor
  · rw [hremoved.subscriptions]
    exact List.mem_filter.mpr ⟨hmem, by rw [hgone]; rfl⟩
  · intro event hevent hid
    rw [hremoved.events]
    exact List.mem_filter.mpr ⟨hevent, by rw [hid, horphaned]; rfl⟩
  · intro log hlog hid
    rw [hremoved.reminderLogs]
    exact List.mem_filter.mpr ⟨hlog, by rw [hid, horphaned]; rfl⟩

theorem intact_answer (h : t.Intact) (request : DeleteRequest) : (t.answer request).Intact := by
  have hsound : (t.answer request).Sound := delete_sound h.sound request.trial request.confirm
  obtain hsame | hremoved := answer_cases h.sound request
  · rw [hsame]
    exact h
  have hkept : ∀ id, (∃ sub ∈ t.subscriptions, sub.id = id) →
      t.orphaned (request.target.takes request.tenantId) id = false →
        ∃ sub ∈ (t.answer request).subscriptions, sub.id = id := by
    rintro _ ⟨sub, hmem, rfl⟩ horphaned
    refine ⟨sub, ?_, rfl⟩
    rw [hremoved.subscriptions, List.mem_filter, Bool.not_eq_true']
    refine ⟨hmem, Bool.eq_false_iff.mpr fun htaken => ?_⟩
    refine List.any_eq_false.mp horphaned sub hmem ?_
    rw [htaken, beq_self_eq_true, Bool.and_self]
  refine ⟨hsound, fun event hevent => ?_, fun log hlog => ?_⟩
  · rw [hremoved.events, List.mem_filter, Bool.not_eq_true'] at hevent
    exact hkept _ (h.events event hevent.1) hevent.2
  · rw [hremoved.reminderLogs, List.mem_filter, Bool.not_eq_true'] at hlog
    exact hkept _ (h.reminderLogs log hlog.1) hlog.2

/-- In every run of deletes, of any tenants and with any faults, the catalog stays intact, and a
subscription that no target takes keeps its row, its events and its reminder logs. -/
theorem deletes_intact (h : t.Intact) (requests : List DeleteRequest) :
    (t.answerAll requests).Intact ∧
      ∀ sub ∈ t.subscriptions,
        (∀ request ∈ requests, request.target.takes request.tenantId sub = false) →
          Keeps t (t.answerAll requests) sub := by
  induction requests generalizing t with
  | nil => exact ⟨h, fun sub hmem _ => ⟨hmem, fun _ hevent _ => hevent, fun _ hlog _ => hlog⟩⟩
  | cons request rest ih =>
    obtain ⟨hintact, hrest⟩ := ih (intact_answer h request)
    refine ⟨hintact, fun sub hmem hspared => ?_⟩
    have hfirst := keeps_answer h.sound hmem (hspared request List.mem_cons_self)
    have hlast := hrest sub hfirst.row fun later hlater =>
      hspared later (List.mem_cons_of_mem _ hlater)
    exact ⟨hlast.row, fun event hevent hid => hlast.events event (hfirst.events event hevent hid) hid,
      fun log hlog hid => hlast.reminderLogs log (hfirst.reminderLogs log hlog hid) hid⟩

/-- Previews announce what deletes do, and their pages list every active subscription exactly if no
two pages meet between subscriptions with the same times. -/
theorem preview_honest_iff (catalog : TenantCatalog) (tenantId : Nat) (target : Target)
    (pageSize : Int) :
    Honest catalog.toTables tenantId target pageSize ↔
      Aligned (pageBounds 1 pageSize).2 (catalog.timesOf tenantId target) := by
  have h := catalog.sound
  constructor
  · intro honest
    by_cases hactive : catalog.activeOf tenantId target = []
    · -- nothing is listed, and no two pages meet
      intro n hn hlt
      rw [Tables.timesOf, hactive, List.length_mergeSort] at hlt
      exact absurd hlt (Nat.not_lt_zero _)
    · have hfinds := mem_times h hactive
      obtain ⟨shown, hshown⟩ := Option.isSome_iff_exists.mp
        ((@preview_isSome _ tenantId target Scan.stored 1 pageSize).trans hfinds)
      have hpages := honest.pages _ _ _ hshown
      rw [(preview_shows hshown).pages] at hpages
      exact (pages_iff h hfinds).mp hpages
  · intro haligned
    constructor
    · intro scan scan' page trial confirm seen shown after hseen hdelete
      have hspec := @delete_spec _ tenantId target scan h trial confirm
      rw [hdelete] at hspec
      cases hspec with
      | deleted _ _ _ _ hremoved => exact ⟨hremoved, announced h hseen hremoved⟩
    · intro scan trial confirm answer after hdelete hnot
      have hspec := @delete_spec _ tenantId target scan h trial confirm
      rw [hdelete] at hspec
      cases hspec with
      | deleted _ shown _ _ _ => exact absurd rfl (hnot shown)
      | unconfirmed | missing | raised | refused => rfl
    · intro scan scan' page trial seen hseen hraises hcommit
      have hfinds := (@preview_isSome _ tenantId target scan' page pageSize).symm.trans
        (congrArg Option.isSome hseen)
      have hspec := @delete_spec _ tenantId target scan h trial true
      generalize hresult : catalog.delete scan trial tenantId target true = result at hspec
      cases hspec with
      | unconfirmed hconfirm => exact absurd hconfirm (by decide)
      | missing hmissing => exact absurd (hmissing.symm.trans hfinds) Bool.false_ne_true
      | raised hfault =>
        obtain ⟨statement, hraised⟩ | hfailed := hfault
        · exact absurd ((hraises statement).symm.trans hraised) (by decide)
        · exact absurd (hcommit.symm.trans hfailed) (by decide)
      | refused _ hrefused => exact absurd (hcommit.symm.trans hrefused) (by decide)
      | deleted _ shown after _ _ => exact ⟨shown, after, rfl⟩
    · intro scan page seen hseen
      have hfinds := (@preview_isSome _ tenantId target scan page pageSize).symm.trans
        (congrArg Option.isSome hseen)
      rw [(preview_shows hseen).pages]
      exact (pages_iff h hfinds).mpr haligned

/-! ## Two subscriptions of one moment -/

def exService : Service :=
  { id := 1, tenantId := 1, name := "Netflix", icon := none, createdAt := 0 }

def exPlan : Plan :=
  { id := 1, tenantId := 1, serviceId := 1, name := "Premium", price := none, createdAt := 0 }

def exSubscription (id : Nat) : Subscription where
  id := id
  tenantId := 1
  clientId := 1
  serviceId := 1
  planId := 1
  streamingEmail := "ana@example.com"
  status := "active"
  expiresAt := 100
  createdAt := 50

def exKept : Subscription := { exSubscription 3 with serviceId := 2, planId := 2 }

def exTables : Tables where
  services := [exService, { exService with id := 2, name := "Disney" }]
  plans := [exPlan, { exPlan with id := 2, serviceId := 2 }]
  clients := [{ id := 1, fullName := "Ana", phone := none }]
  subscriptions := [exSubscription 1, exSubscription 2, exKept]
  events := [⟨1, 1⟩, ⟨2, 3⟩]
  reminderLogs := [⟨1, 2⟩, ⟨2, 3⟩]

theorem exTables_sound : exTables.Sound where
  serviceIds := by decide
  planIds := by decide
  subscriptionIds := by decide
  planService := by decide
  subscriptionClient := by decide
  subscriptionPlan := by decide

/-- The first delete fails at its commit, the second is done, and the third comes too late. -/
def exDeletes : List DeleteRequest :=
  [⟨Scan.stored, ⟨fun _ => false, .failed⟩, 1, .service 1, true⟩,
    ⟨Scan.stored, ⟨fun _ => false, .done⟩, 1, .service 1, true⟩,
    ⟨Scan.stored, ⟨fun _ => false, .done⟩, 1, .plan 1 1, true⟩]

/-- The subscription of the other service stays with its event and its log. -/
theorem other_service_kept : (exTables.answerAll exDeletes).Intact ∧
    Keeps exTables (exTables.answerAll exDeletes) exKept := by
  have hintact := deletes_intact ⟨exTables_sound, by decide, by decide⟩ exDeletes
  exact ⟨hintact.1, hintact.2 exKept (by decide) (by decide)⟩

/-- A page may end between two subscriptions of one moment. -/
theorem pages_miss : ¬Honest exTables 1 (.service 1) 1 := by
  intro honest
  have hfinds : finds exTables 1 (.service 1) = true := by decide
  obtain ⟨shown, hshown⟩ := Option.isSome_iff_exists.mp
    ((@preview_isSome _ _ _ Scan.stored 1 1).trans hfinds)
  have hpages := honest.pages _ _ _ hshown
  rw [(preview_shows hshown).pages] at hpages
  have hmeet := (pages_iff exTables_sound hfinds).mp hpages 1 (by decide)
  have htimes : exTables.timesOf 1 (.service 1) = [toLex (100, 50), toLex (100, 50)] :=
    List.mergeSort_of_pairwise (by decide)
  rw [htimes] at hmeet
  exact hmeet (by decide) rfl

end Trackpal.Catalog
