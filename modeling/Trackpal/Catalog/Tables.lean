import Mathlib.Data.List.Nodup

/-!
# The tables of the catalog

Services, their plans and the subscriptions to them, with the foreign keys that delete what belongs
to a deleted row.

Results:
1. `dropSubscriptions_of_none`, `dropPlans_eq`, `dropServices_eq`: when a cascade finds nothing.
2. `sound_of_filter`: deletes that leave no orphan keep the keys.
-/

namespace Trackpal.Catalog

structure Client where
  id : Nat
  fullName : String
  phone : Option String
deriving DecidableEq

structure Service where
  id : Nat
  tenantId : Nat
  name : String
  icon : Option String
  createdAt : Int
deriving DecidableEq

structure Plan where
  id : Nat
  tenantId : Nat
  serviceId : Nat
  name : String
  price : Option Int
  createdAt : Int
deriving DecidableEq

structure Subscription where
  id : Nat
  tenantId : Nat
  clientId : Nat
  serviceId : Nat
  planId : Nat
  streamingEmail : String
  status : String
  expiresAt : Int
  createdAt : Int
deriving DecidableEq

structure SubscriptionEvent where
  id : Nat
  subscriptionId : Nat
deriving DecidableEq

structure SubscriptionReminderLog where
  id : Nat
  subscriptionId : Nat
deriving DecidableEq

structure Tables where
  services : List Service
  plans : List Plan
  clients : List Client
  subscriptions : List Subscription
  events : List SubscriptionEvent
  reminderLogs : List SubscriptionReminderLog

structure Tables.Sound (t : Tables) : Prop where
  serviceIds : (t.services.map (·.id)).Nodup
  planIds : (t.plans.map (·.id)).Nodup
  subscriptionIds : (t.subscriptions.map (·.id)).Nodup
  planService : ∀ plan ∈ t.plans, ∃ service ∈ t.services,
    service.id = plan.serviceId ∧ service.tenantId = plan.tenantId
  subscriptionClient : ∀ sub ∈ t.subscriptions, ∃ client ∈ t.clients, client.id = sub.clientId
  subscriptionPlan : ∀ sub ∈ t.subscriptions, ∃ plan ∈ t.plans,
    plan.id = sub.planId ∧ plan.serviceId = sub.serviceId ∧ plan.tenantId = sub.tenantId

structure TenantCatalog extends Tables where
  sound : toTables.Sound

/-- Whether a row belongs to a subscription that is deleted. -/
def Tables.orphaned (t : Tables) (gone : Subscription → Bool) (subscriptionId : Nat) : Bool :=
  t.subscriptions.any fun sub => gone sub && sub.id == subscriptionId

def Tables.dropSubscriptions (t : Tables) (gone : Subscription → Bool) : Tables :=
  { t with
    subscriptions := t.subscriptions.filter fun sub => !gone sub
    events := t.events.filter fun event => !t.orphaned gone event.subscriptionId
    reminderLogs := t.reminderLogs.filter fun log => !t.orphaned gone log.subscriptionId }

def Tables.dropPlans (t : Tables) (gone : Plan → Bool) : Tables :=
  let t' := t.dropSubscriptions fun sub =>
    t.plans.any fun plan => gone plan && plan.id == sub.planId
  { t' with plans := t.plans.filter fun plan => !gone plan }

def Tables.dropServices (t : Tables) (gone : Service → Bool) : Tables :=
  let t' := (t.dropPlans fun plan => t.services.any fun service =>
      gone service && service.tenantId == plan.tenantId && service.id == plan.serviceId)
    |>.dropSubscriptions fun sub => t.services.any fun service =>
      gone service && service.tenantId == sub.tenantId && service.id == sub.serviceId
  { t' with services := t.services.filter fun service => !gone service }

variable {t : Tables}

theorem dropSubscriptions_of_none {gone : Subscription → Bool}
    (h : ∀ sub ∈ t.subscriptions, gone sub = false) : t.dropSubscriptions gone = t := by
  have hnot : ∀ id, t.orphaned gone id = false := by
    intro id
    refine List.any_eq_false.mpr fun sub hsub => ?_
    rw [h sub hsub]
    simp
  have hsubs : t.subscriptions.filter (fun sub => !gone sub) = t.subscriptions :=
    List.filter_eq_self.mpr fun sub hsub => by rw [h sub hsub]; rfl
  unfold Tables.dropSubscriptions
  simp only [hnot, hsubs, Bool.not_false, List.filter_true]

theorem dropPlans_of_none {gone : Plan → Bool} (hplans : ∀ plan ∈ t.plans, gone plan = false) :
    t.dropPlans gone = t := by
  have hkept : t.plans.filter (fun plan => !gone plan) = t.plans :=
    List.filter_eq_self.mpr fun plan hplan => by rw [hplans plan hplan]; rfl
  have hsubs : (t.dropSubscriptions fun sub =>
      t.plans.any fun plan => gone plan && plan.id == sub.planId) = t := by
    refine dropSubscriptions_of_none fun sub _ => List.any_eq_false.mpr fun plan hplan => ?_
    rw [hplans plan hplan]
    simp
  unfold Tables.dropPlans
  dsimp only
  rw [hsubs, hkept]

theorem dropPlans_eq {gone : Plan → Bool}
    (h : ∀ sub ∈ t.subscriptions, ∀ plan ∈ t.plans, gone plan = true → plan.id ≠ sub.planId) :
    t.dropPlans gone = { t with plans := t.plans.filter fun plan => !gone plan } := by
  have hsubs : (t.dropSubscriptions fun sub =>
      t.plans.any fun plan => gone plan && plan.id == sub.planId) = t := by
    refine dropSubscriptions_of_none fun sub hsub => List.any_eq_false.mpr fun plan hplan => ?_
    rw [Bool.and_eq_true, beq_iff_eq]
    exact fun hboth => h sub hsub plan hplan hboth.1 hboth.2
  unfold Tables.dropPlans
  dsimp only
  rw [hsubs]

theorem dropServices_eq {gone : Service → Bool}
    (hplans : ∀ service ∈ t.services, gone service = true → ∀ plan ∈ t.plans,
      service.tenantId = plan.tenantId → service.id ≠ plan.serviceId)
    (hsubs : ∀ service ∈ t.services, gone service = true → ∀ sub ∈ t.subscriptions,
      service.tenantId = sub.tenantId → service.id ≠ sub.serviceId) :
    t.dropServices gone =
      { t with services := t.services.filter fun service => !gone service } := by
  have hdropPlans : (t.dropPlans fun plan => t.services.any fun service =>
      gone service && service.tenantId == plan.tenantId && service.id == plan.serviceId) = t := by
    refine dropPlans_of_none fun plan hplan => List.any_eq_false.mpr fun service hservice => ?_
    rw [Bool.and_eq_true, Bool.and_eq_true, beq_iff_eq, beq_iff_eq]
    exact fun hall => hplans service hservice hall.1.1 plan hplan hall.1.2 hall.2
  have hdropSubs : (t.dropSubscriptions fun sub => t.services.any fun service =>
      gone service && service.tenantId == sub.tenantId && service.id == sub.serviceId) = t := by
    refine dropSubscriptions_of_none fun sub hsub =>
      List.any_eq_false.mpr fun service hservice => ?_
    rw [Bool.and_eq_true, Bool.and_eq_true, beq_iff_eq, beq_iff_eq]
    exact fun hall => hsubs service hservice hall.1.1 sub hsub hall.1.2 hall.2
  unfold Tables.dropServices
  dsimp only
  rw [hdropPlans, hdropSubs]

theorem sound_of_filter {t' : Tables} (h : t.Sound) {goneService : Service → Bool}
    {gonePlan : Plan → Bool} {gone : Subscription → Bool}
    (hservices : t'.services = t.services.filter fun service => !goneService service)
    (hplans : t'.plans = t.plans.filter fun plan => !gonePlan plan)
    (hsubs : t'.subscriptions = t.subscriptions.filter fun sub => !gone sub)
    (hclients : t'.clients = t.clients)
    (hplan : ∀ service ∈ t.services, ∀ plan ∈ t.plans, service.id = plan.serviceId →
      service.tenantId = plan.tenantId → goneService service = true → gonePlan plan = true)
    (hsub : ∀ plan ∈ t.plans, ∀ sub ∈ t.subscriptions, plan.id = sub.planId →
      plan.serviceId = sub.serviceId → plan.tenantId = sub.tenantId → gonePlan plan = true →
      gone sub = true) : t'.Sound where
  serviceIds := by
    rw [hservices]
    exact h.serviceIds.sublist (List.filter_sublist.map _)
  planIds := by
    rw [hplans]
    exact h.planIds.sublist (List.filter_sublist.map _)
  subscriptionIds := by
    rw [hsubs]
    exact h.subscriptionIds.sublist (List.filter_sublist.map _)
  planService plan hmem := by
    rw [hplans, List.mem_filter, Bool.not_eq_true'] at hmem
    obtain ⟨service, hservice, hid, htenant⟩ := h.planService plan hmem.1
    refine ⟨service, ?_, hid, htenant⟩
    rw [hservices, List.mem_filter, Bool.not_eq_true', ← Bool.not_eq_true]
    exact ⟨hservice, fun hgone => absurd (hplan _ hservice _ hmem.1 hid htenant hgone)
      (Bool.not_eq_true _ ▸ hmem.2)⟩
  subscriptionClient sub hmem := by
    rw [hsubs, List.mem_filter] at hmem
    rw [hclients]
    exact h.subscriptionClient sub hmem.1
  subscriptionPlan sub hmem := by
    rw [hsubs, List.mem_filter, Bool.not_eq_true'] at hmem
    obtain ⟨plan, hplanMem, hid, hservice, htenant⟩ := h.subscriptionPlan sub hmem.1
    refine ⟨plan, ?_, hid, hservice, htenant⟩
    rw [hplans, List.mem_filter, Bool.not_eq_true', ← Bool.not_eq_true]
    exact ⟨hplanMem, fun hgone => absurd (hsub _ hplanMem _ hmem.1 hid hservice htenant hgone)
      (Bool.not_eq_true _ ▸ hmem.2)⟩

end Trackpal.Catalog
