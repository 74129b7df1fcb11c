import Mathlib.Data.List.Pairwise
import Trackpal.Foundation.Runs
import Trackpal.Browser.Readable

/-!
# The integrity of a demo workspace

The collections of a demo workspace, from its baseline on, behind operations on the catalog, the
clients and the subscriptions, of which several may be called within one millisecond.
-/

namespace Trackpal.Browser.Workspace

open Trackpal.Foundation Json

def emailOf (rt : Runtime) (subscription : Json) : Option String :=
  (subscription.textAt "streaming_email").map rt.toLocaleLowerCase

/-- Two subscriptions of one client and service with one email. -/
def sameSeat (rt : Runtime) (a b : Json) : Bool :=
  a.textAt "client_id" = b.textAt "client_id" && a.textAt "service_id" = b.textAt "service_id" &&
    emailOf rt a = emailOf rt b

/-- No two items of a collection are related. -/
def Distinct (related : Json → Json → Prop) (list : List Json) : Prop :=
  list.Pairwise fun a b => ¬ related a b

def SameId (a b : Json) : Prop := a.textAt "id" = b.textAt "id"

/-- The client, the service and the plan of a subscription exist, and the plan is of the service. -/
structure Related (clients services plans : List Json) (subscription : Json) : Prop where
  client : ∃ client ∈ clients, client.textAt "id" = subscription.textAt "client_id"
  service : ∃ service ∈ services, service.textAt "id" = subscription.textAt "service_id"
  plan : ∃ plan ∈ plans, plan.textAt "id" = subscription.textAt "plan_id" ∧
    plan.textAt "service_id" = subscription.textAt "service_id"

def SameServiceName (rt : Runtime) (a b : Json) : Prop := foldedName rt a = foldedName rt b

def SamePlanName (rt : Runtime) (a b : Json) : Prop :=
  a.textAt "service_id" = b.textAt "service_id" ∧ foldedName rt a = foldedName rt b

def SameUsername (a b : Json) : Prop := localUsername a = localUsername b

def SamePhone (a b : Json) : Prop :=
  ∃ phone, a.textAt "phone" = some phone ∧ b.textAt "phone" = some phone

def BothActive (rt : Runtime) (a b : Json) : Prop :=
  isActive a = true ∧ isActive b = true ∧ sameSeat rt a b = true

def PinNamed (subscription : Json) : Prop :=
  (subscription.get "pin_secret").any truthy = true →
    (subscription.get "profile_name").any truthy = true

/-- The constraints on the collections. -/
structure Integral (rt : Runtime) (clients services plans subscriptions : List Json) : Prop where
  clientIds : Distinct SameId clients
  serviceIds : Distinct SameId services
  planIds : Distinct SameId plans
  subscriptionIds : Distinct SameId subscriptions
  relations : ∀ subscription ∈ subscriptions, Related clients services plans subscription
  serviceNames : Distinct (SameServiceName rt) services
  planNames : Distinct (SamePlanName rt) plans
  usernames : Distinct SameUsername clients
  phones : Distinct SamePhone clients
  active : Distinct (BothActive rt) subscriptions
  pins : ∀ subscription ∈ subscriptions, PinNamed subscription

/-- The collections of a state meet them. -/
def IsIntegral (rt : Runtime) (state : Json) : Prop :=
  Integral rt (state.itemsAt "clients") (state.itemsAt "services") (state.itemsAt "plans")
    (state.itemsAt "subscriptions")

/-- The workspace that is stored meets them. -/
def Sound (rt : Runtime) (s : State) : Prop :=
  ∃ envelope, s.stored = some envelope ∧ IsIntegral rt (planSpecific envelope)

/-- The operations on the catalog, the clients and the subscriptions. -/
def Op.isRelational : Op → Bool
  | .updateProfile _ | .updateReminderSettings _ | .updateTenantSettings _ | .updateCodeServices _
  | .createAccessBlock _ | .deleteAccessBlock _ => false
  | _ => true

def Op.newId (metadata : Metadata) (call : Call) (state : Json) : Op → Option (String × String)
  | .createService _ => some ("services", serviceId metadata call)
  | .createPlan .. => some ("plans", planId metadata call)
  | .createClient _ => some ("clients", newClientId metadata call (state.itemsAt "clients"))
  | .createSubscription _ => some ("subscriptions", subscriptionId metadata call)
  | _ => none

def Op.activates : Op → Option String
  | .renewSubscription id .. | .reactivateSubscription id .. => some id
  | _ => none

/-- An item of the collection has the id. -/
def isTaken (state : Json) (name id : String) : Bool := (state.itemsAt name).any (hasId id)

/-- Another subscription of the client, service and email is active. -/
def hasRival (rt : Runtime) (state : Json) (id : String) : Bool :=
  (state.itemsAt "subscriptions").any fun own => hasId id own &&
    (state.itemsAt "subscriptions").any fun other =>
      !hasId id other && isActive other && sameSeat rt other own

/-- An operation passes its checks, and creates an item with an id that is taken, or makes a
subscription active beside another one of its client, service and email. -/
def collides (rt : Runtime) (metadata : Metadata) (call : Call) (op : Op) (state : Json) : Bool :=
  (op.make rt metadata call state).toOption.isSome &&
    ((op.newId metadata call state).any (fun new => isTaken state new.1 new.2) ||
      op.activates.any (hasRival rt state))

/-- It collides, and the storage has room for it. -/
def crowds (rt : Runtime) (s : State) (a : Action) : Bool :=
  !a.call.full && s.stored.any fun envelope =>
    collides rt a.metadata a.call a.op (planSpecific envelope)

section Collections

variable {rt : Runtime} {owner : Owner} {metadata : Metadata} {call : Call} {plan : Plan}
  {state item other value : Json} {key name id : String} {list : List Json}
  {related : Json → Json → Prop}

/-! ## Collections -/

theorem Distinct.append (h : Distinct related list) (hnew : ∀ a ∈ list, ¬ related a item) :
    Distinct related (list ++ [item]) :=
  List.pairwise_append.mpr ⟨h, List.pairwise_singleton _ _, fun a ha b hb => by
    rw [List.mem_singleton.mp hb]
    exact hnew a ha⟩

theorem Distinct.of_append (h : Distinct related (list ++ [item])) : ∀ a ∈ list, ¬ related a item :=
  fun a ha => (List.pairwise_append.mp h).2.2 a ha item (List.mem_singleton_self _)

theorem Distinct.filter (h : Distinct related list) (p : Json → Bool) :
    Distinct related (list.filter p) := h.sublist List.filter_sublist

theorem Distinct.eq (h : Distinct SameId list) (hitem : item ∈ list) (hother : other ∈ list)
    (hid : item.textAt "id" = other.textAt "id") : item = other := by
  by_contra hne
  have hsymm : Std.Symm fun a b : Json => ¬ SameId a b := ⟨fun _ _ hab hba => hab hba.symm⟩
  exact h.forall hitem hother hne hid

theorem hasId_iff : hasId id item = true ↔ item.textAt "id" = some id := by
  unfold hasId
  exact decide_eq_true_iff

theorem Distinct.replace (hids : Distinct SameId list) (h : Distinct related list)
    (hsymm : ∀ a b, related a b → related b a)
    (hnew : ∀ a ∈ list, hasId id a = false → ¬ related a item) :
    Distinct related (replaceItem id item list) := by
  unfold replaceItem Distinct
  rw [List.pairwise_map]
  refine (hids.and h).imp_of_mem fun {a b} ha hb ⟨hid, hab⟩ => ?_
  cases hida : hasId id a <;> cases hidb : hasId id b
  · rw [if_neg Bool.false_ne_true, if_neg Bool.false_ne_true]
    exact hab
  · rw [if_neg Bool.false_ne_true, if_pos rfl]
    exact hnew a ha hida
  · rw [if_pos rfl, if_neg Bool.false_ne_true]
    exact fun hrelated => hnew b hb hidb (hsymm _ _ hrelated)
  · exact absurd ((hasId_iff.mp hida).trans (hasId_iff.mp hidb).symm) hid

theorem mem_replaceItem (h : other ∈ replaceItem id item list) :
    other = item ∨ other ∈ list ∧ hasId id other = false := by
  obtain ⟨before, hbefore, rfl⟩ := List.mem_map.mp h
  cases hid : hasId id before
  · rw [if_neg Bool.false_ne_true]
    exact Or.inr ⟨hbefore, hid⟩
  · rw [if_pos rfl]
    exact Or.inl rfl

theorem exists_replaceItem {p : Json → Prop} (h : ∃ a ∈ list, p a)
    (hnew : ∀ a ∈ list, hasId id a = true → p a → p item) : ∃ a ∈ replaceItem id item list, p a := by
  obtain ⟨a, ha, hp⟩ := h
  refine ⟨_, List.mem_map_of_mem ha, ?_⟩
  cases hid : hasId id a
  · rw [if_neg Bool.false_ne_true]
    exact hp
  · rw [if_pos rfl]
    exact hnew a ha hid hp

theorem exists_filter {p : Json → Prop} {q : Json → Bool} (h : ∃ a ∈ list, p a)
    (hkept : ∀ a ∈ list, p a → q a = true) : ∃ a ∈ list.filter q, p a := by
  obtain ⟨a, ha, hp⟩ := h
  exact ⟨a, List.mem_filter.mpr ⟨ha, hkept a ha hp⟩, hp⟩

theorem anyM_eq_false {p : Json → Except String Bool} :
    list.anyM p = .ok false ↔ ∀ a ∈ list, p a = .ok false := by
  induction list with
  | nil => simp [pure, Except.pure]
  | cons a rest ih =>
    rw [List.anyM_cons]
    cases hp : p a with
    | error e =>
      refine iff_of_false (fun h => nomatch h) fun h => ?_
      have hfirst := h a List.mem_cons_self
      rw [hp] at hfirst
      cases hfirst
    | ok found =>
      cases found with
      | false => simpa [bind, Except.bind, hp] using ih
      | true => simp [bind, Except.bind, pure, Except.pure, hp]

/-! ## What is made -/

/-- What the operations read of the clients and the subscriptions is of its type. -/
structure Typed (clients subscriptions : List Json) : Prop where
  usernames : ∀ client ∈ clients, (client.textAt "username").isSome
  phones : ∀ client ∈ clients, client.get "phone" = some .null ∨
    ∃ phone, phone ≠ "" ∧ client.get "phone" = some (.str phone)
  emails : ∀ subscription ∈ subscriptions, (subscription.textAt "streaming_email").isSome

theorem textAt_touched (hkey : key ≠ "updated_at") :
    (touched rt call item).textAt key = item.textAt key := textAt_put_of_ne hkey

theorem get_touched (hkey : key ≠ "updated_at") :
    (touched rt call item).get key = item.get key := get_put_of_ne hkey

variable {clients services plans subscriptions : List Json}

theorem newService_ok {payload : String × Json}
    (h : newService rt metadata call payload state = .ok item) :
    ∀ service ∈ state.itemsAt "services", ¬ SameServiceName rt service item := by
  unfold newService at h
  obtain ⟨_, hnamed, h⟩ := bind_eq_ok.mp h
  rw [← Except.ok.inj h]
  intro service hservice hsame
  have hfree := List.any_eq_false.mp (throwIf_eq_ok.mp hnamed) service hservice
  exact hfree (decide_eq_true hsame)

theorem changedService_ok {payload : ServiceUpdate}
    (h : changedService rt call id payload state = .ok item) : item.textAt "id" = some id ∧
      ∀ service ∈ state.itemsAt "services", hasId id service = false →
        ¬ SameServiceName rt service item := by
  unfold changedService at h
  obtain ⟨existing, hfind, h⟩ := bind_eq_ok.mp h
  obtain ⟨name, -, h⟩ := bind_eq_ok.mp h
  obtain ⟨_, hnamed, h⟩ := bind_eq_ok.mp h
  obtain ⟨icon, -, h⟩ := bind_eq_ok.mp h
  rw [← Except.ok.inj h]
  have hname : (touched rt call ((existing.put "name" (some (.str name))).put "icon" icon)).textAt
      "name" = some name := by
    rw [textAt_touched (by decide), textAt_put_of_ne (by decide), textAt_put_self]
    rfl
  refine ⟨?_, fun service hservice hid hsame => ?_⟩
  · rw [textAt_touched (by decide), textAt_put_of_ne (by decide), textAt_put_of_ne (by decide)]
    exact hasId_iff.mp (findItem_eq_ok hfind).2
  · have hfree := List.any_eq_false.mp (throwIf_eq_ok.mp hnamed) service hservice
    rw [hid] at hfree
    refine hfree (decide_eq_true ?_)
    unfold SameServiceName at hsame
    rw [hsame]
    unfold foldedName
    rw [hname]
    rfl

theorem newPlan_ok {payload : String × Json}
    (h : newPlan rt metadata call id payload state = .ok item) :
    ∀ plan ∈ state.itemsAt "plans", ¬ SamePlanName rt plan item := by
  unfold newPlan at h
  obtain ⟨_, -, h⟩ := bind_eq_ok.mp h
  obtain ⟨_, hnamed, h⟩ := bind_eq_ok.mp h
  rw [← Except.ok.inj h]
  intro plan hplan hsame
  have hfree := List.any_eq_false.mp (throwIf_eq_ok.mp hnamed) plan hplan
  exact hfree (Bool.and_eq_true_iff.mpr ⟨decide_eq_true hsame.1, decide_eq_true hsame.2⟩)

theorem changedPlan_ok {planId : String} {payload : PlanUpdate}
    (h : changedPlan rt call id planId payload state = .ok item) :
    ∃ existing ∈ state.itemsAt "plans", hasId planId existing = true ∧
      item.textAt "id" = some planId ∧ item.textAt "service_id" = existing.textAt "service_id" ∧
      ∀ plan ∈ state.itemsAt "plans", hasId planId plan = false → ¬ SamePlanName rt plan item := by
  unfold changedPlan at h
  obtain ⟨existing, hfind, h⟩ := bind_eq_ok.mp h
  obtain ⟨name, -, h⟩ := bind_eq_ok.mp h
  obtain ⟨_, hnamed, h⟩ := bind_eq_ok.mp h
  obtain ⟨price, -, h⟩ := bind_eq_ok.mp h
  rw [← Except.ok.inj h]
  obtain ⟨hmem, hof⟩ := findItem_eq_ok hfind
  unfold isPlanOf at hof
  rw [Bool.and_eq_true] at hof
  have hservice := of_decide_eq_true hof.2
  have hname : (touched rt call ((existing.put "name" (some (.str name))).put "price" price)).textAt
      "name" = some name := by
    rw [textAt_touched (by decide), textAt_put_of_ne (by decide), textAt_put_self]
    rfl
  have hkept : ∀ key, key ≠ "name" → key ≠ "price" → key ≠ "updated_at" →
      (touched rt call ((existing.put "name" (some (.str name))).put "price" price)).textAt key =
        existing.textAt key := fun key hname hprice hupdated => by
    rw [textAt_touched hupdated, textAt_put_of_ne hprice, textAt_put_of_ne hname]
  refine ⟨existing, hmem, hof.1, ?_, hkept _ (by decide) (by decide) (by decide),
    fun plan hplan hid hsame => ?_⟩
  · rw [hkept _ (by decide) (by decide) (by decide)]
    exact hasId_iff.mp hof.1
  · have hfree := List.any_eq_false.mp (throwIf_eq_ok.mp hnamed) plan hplan
    rw [hid] at hfree
    refine hfree (Bool.and_eq_true_iff.mpr ⟨rfl, Bool.and_eq_true_iff.mpr
      ⟨decide_eq_true ?_, decide_eq_true ?_⟩⟩)
    · exact (hsame.1.trans (hkept _ (by decide) (by decide) (by decide))).trans hservice
    · rw [hsame.2]
      unfold foldedName
      rw [hname]
      rfl

theorem localUsername_canonical {username : String}
    (h : item.textAt "username" = some (canonicalUsername username)) :
    localUsername item = .ok username := by
  unfold localUsername
  rw [h]
  unfold canonicalUsername
  dsimp only
  rw [String.toList_ofList, if_pos (List.isPrefixOf_iff_prefix.mpr (List.prefix_append _ _))]
  show Except.ok (String.ofList ((demoPrefix ++ username.toList).drop demoPrefix.length)) = _
  rw [List.drop_left, String.ofList_toList]

/-- The username and the phone of a client are those of no other one. -/
structure Unique (clients : List Json) (exceptId : Option String) (item : Json) : Prop where
  username : ∀ client ∈ clients, isOther exceptId client = true → ¬ SameUsername client item
  phone : ∀ client ∈ clients, isOther exceptId client = true → ¬ SamePhone client item
  typed : (item.textAt "username").isSome
  phoneTyped : item.get "phone" = some .null ∨
    ∃ phone, phone ≠ "" ∧ item.get "phone" = some (.str phone)

theorem unique_of_assert {exceptId : Option String} {username : String}
    (h : assertUnique clients username (item.get "phone") exceptId = .ok ())
    (husername : item.textAt "username" = some (canonicalUsername username))
    (hphone : item.get "phone" = some .null ∨
      ∃ phone, phone ≠ "" ∧ item.get "phone" = some (.str phone)) :
    Unique clients exceptId item := by
  unfold assertUnique at h
  obtain ⟨taken, htaken, h⟩ := bind_eq_ok.mp h
  obtain ⟨_, hfree, h⟩ := bind_eq_ok.mp h
  rw [throwIf_eq_ok.mp hfree] at htaken
  have hphones := throwIf_eq_ok.mp h
  refine ⟨fun client hclient hother hsame => ?_, fun client hclient hother hsame => ?_,
    by rw [husername]; rfl, hphone⟩
  · have hnone := anyM_eq_false.mp htaken client hclient
    rw [if_pos hother, hsame, localUsername_canonical husername] at hnone
    cases of_decide_eq_false (Except.ok.inj hnone) rfl
  · obtain ⟨phone, hclientPhone, hitemPhone⟩ := hsame
    rcases hphone with hnull | ⟨given, hne, hgiven⟩
    · unfold textAt at hitemPhone
      rw [hnull] at hitemPhone
      cases hitemPhone
    · unfold textAt at hitemPhone
      rw [hgiven] at hitemPhone
      rw [hgiven] at hphones
      rw [← Option.some.inj hitemPhone] at hclientPhone
      have htruthy : Json.truthy (.str given) = true := decide_eq_true hne
      unfold phoneTaken at hphones
      rw [Option.any_some, htruthy, Bool.true_and] at hphones
      refine List.any_eq_false.mp hphones client hclient (Bool.and_eq_true_iff.mpr ⟨hother, ?_⟩)
      unfold textAt at hclientPhone
      obtain ⟨v, hv, htext⟩ := Option.bind_eq_some_iff.mp hclientPhone
      rw [hv]
      cases v with
      | str t =>
        rw [Option.some.inj htext]
        exact decide_eq_true rfl
      | _ => cases htext

theorem normalizePhone_typed {phone : Field String} (h : normalizePhone phone = .ok value) :
    value = .null ∨ ∃ digits, digits ≠ "" ∧ value = .str digits := by
  unfold normalizePhone at h
  split at h
  · exact Or.inl (Except.ok.inj h).symm
  · cases h
  · split at h
    · exact Or.inl (Except.ok.inj h).symm
    · dsimp only at h
      split at h
      · cases h
      · split at h
        · cases h
        · next hlength =>
          refine Or.inr ⟨_, fun hempty => hlength ?_, (Except.ok.inj h).symm⟩
          have hnil := congrArg String.toList hempty
          rw [String.toList_ofList] at hnil
          rw [hnil]
          decide

theorem checkedClient_phone {payload : ClientCreate} {checked : String × String × Json}
    (h : payload.check rt = .ok checked) :
    checked.2.2 = .null ∨ ∃ digits, digits ≠ "" ∧ checked.2.2 = .str digits := by
  unfold ClientCreate.check at h
  obtain ⟨_, -, h⟩ := bind_eq_ok.mp h
  obtain ⟨_, -, h⟩ := bind_eq_ok.mp h
  obtain ⟨phone, hphone, h⟩ := bind_eq_ok.mp h
  obtain ⟨_, -, h⟩ := bind_eq_ok.mp h
  rw [← Except.ok.inj h]
  exact normalizePhone_typed hphone

theorem newClient_ok {payload : String × String × Json}
    (hphone : payload.2.2 = .null ∨ ∃ digits, digits ≠ "" ∧ payload.2.2 = .str digits)
    (h : newClient rt metadata call payload state = .ok item) :
    Unique (state.itemsAt "clients") none item := by
  unfold newClient at h
  obtain ⟨_, hunique, h⟩ := bind_eq_ok.mp h
  rw [← Except.ok.inj h]
  refine unique_of_assert hunique rfl ?_
  rcases hphone with hnull | ⟨digits, hne, hdigits⟩
  · exact Or.inl (congrArg some hnull)
  · exact Or.inr ⟨digits, hne, congrArg some hdigits⟩

theorem changedClient_ok {payload : ClientUpdate}
    (htyped : Typed (state.itemsAt "clients") subscriptions)
    (h : changedClient rt call id payload state = .ok item) : item.textAt "id" = some id ∧
      Unique (state.itemsAt "clients") (some id) item := by
  unfold changedClient at h
  obtain ⟨existing, hfind, h⟩ := bind_eq_ok.mp h
  obtain ⟨fullName, -, h⟩ := bind_eq_ok.mp h
  obtain ⟨username, -, h⟩ := bind_eq_ok.mp h
  obtain ⟨phone, hphone, h⟩ := bind_eq_ok.mp h
  obtain ⟨_, hunique, h⟩ := bind_eq_ok.mp h
  obtain ⟨hmem, hid⟩ := findItem_eq_ok hfind
  have hitem := Except.ok.inj h
  have hphoneAt : item.get "phone" = phone := by
    rw [← hitem, get_touched (by decide), get_put_self]
  refine ⟨?_, unique_of_assert (by rw [hphoneAt]; exact hunique) ?_ ?_⟩
  · rw [← hitem, textAt_touched (by decide), textAt_put_of_ne (by decide),
      textAt_put_of_ne (by decide), textAt_put_of_ne (by decide)]
    exact hasId_iff.mp hid
  · rw [← hitem, textAt_touched (by decide), textAt_put_of_ne (by decide), textAt_put_self]
    rfl
  · rw [hphoneAt]
    unfold changedPhone at hphone
    split at hphone
    · rw [← Except.ok.inj hphone]
      exact htyped.phones existing hmem
    · cases hvalue : normalizePhone payload.phone with
      | error e =>
        rw [hvalue] at hphone
        cases hphone
      | ok value =>
        rw [hvalue] at hphone
        rw [← Except.ok.inj hphone]
        rcases normalizePhone_typed hvalue with hnull | ⟨digits, hne, hdigits⟩
        · exact Or.inl (congrArg some hnull)
        · exact Or.inr ⟨digits, hne, congrArg some hdigits⟩

theorem switchedClient_ok {isActive : Bool}
    (h : switchedClient rt call id isActive state = .ok item) :
    ∃ existing ∈ state.itemsAt "clients", hasId id existing = true ∧
      ∀ key, key ≠ "is_active" → key ≠ "updated_at" → item.get key = existing.get key := by
  unfold switchedClient at h
  obtain ⟨existing, hfind, h⟩ := bind_eq_ok.mp h
  rw [← Except.ok.inj h]
  obtain ⟨hmem, hid⟩ := findItem_eq_ok hfind
  refine ⟨existing, hmem, hid, fun key hactive hupdated => ?_⟩
  rw [get_touched hupdated, get_put_of_ne hactive]

theorem validateRelationships_ok {clientId serviceId planId : Option String} {u : Unit}
    (h : validateRelationships state clientId serviceId planId = .ok u) :
    (∃ client ∈ state.itemsAt "clients", client.textAt "id" = clientId) ∧
      (∃ service ∈ state.itemsAt "services", service.textAt "id" = serviceId) ∧
      ∃ plan ∈ state.itemsAt "plans", plan.textAt "id" = planId ∧
        plan.textAt "service_id" = serviceId := by
  unfold validateRelationships at h
  obtain ⟨_, hclient, h⟩ := bind_eq_ok.mp h
  obtain ⟨_, hservice, h⟩ := bind_eq_ok.mp h
  have hfound : ∀ {name : String} {p : Json → Prop} [DecidablePred p],
      (!(state.itemsAt name).any fun item => decide (p item)) = false →
        ∃ item ∈ state.itemsAt name, p item := fun hany => by
    rw [Bool.not_eq_false', List.any_eq_true] at hany
    obtain ⟨found, hmem, hp⟩ := hany
    exact ⟨found, hmem, of_decide_eq_true hp⟩
  refine ⟨hfound (throwIf_eq_ok.mp hclient), hfound (throwIf_eq_ok.mp hservice), ?_⟩
  have hplan := throwIf_eq_ok.mp h
  rw [Bool.not_eq_false', Option.any_eq_true] at hplan
  obtain ⟨plan, hfind, hof⟩ := hplan
  have hid := List.find?_some hfind
  exact ⟨plan, List.mem_of_find?_eq_some hfind, of_decide_eq_true hid, of_decide_eq_true hof⟩

theorem foldedEmail_ok {folded : String} (h : foldedEmail rt (item.get "streaming_email") =
    .ok folded) : emailOf rt item = some folded := by
  unfold foldedEmail at h
  unfold emailOf textAt
  cases hemail : (item.get "streaming_email").bind Json.text with
  | none =>
    rw [hemail] at h
    cases h
  | some text =>
    rw [hemail] at h
    exact congrArg some (Except.ok.inj h)

theorem validateDuplicate_ok {clientId serviceId exceptId : Option String} {email : Option Json}
    {u : Unit} (h : validateDuplicate rt state clientId serviceId email exceptId = .ok u) :
    ∀ subscription ∈ state.itemsAt "subscriptions",
      rivals clientId serviceId exceptId subscription = true →
        ∃ own, foldedEmail rt email = .ok own ∧ emailOf rt subscription ≠ some own := by
  unfold validateDuplicate at h
  obtain ⟨duplicate, hnone, h⟩ := bind_eq_ok.mp h
  rw [throwIf_eq_ok.mp h] at hnone
  intro subscription hsubscription hrivals
  have hother := anyM_eq_false.mp hnone subscription hsubscription
  rw [if_pos hrivals] at hother
  obtain ⟨other, hfolded, hother⟩ := bind_eq_ok.mp hother
  obtain ⟨own, hown, hother⟩ := bind_eq_ok.mp hother
  refine ⟨own, hown, fun hsame => of_decide_eq_false (Except.ok.inj hother) ?_⟩
  rw [foldedEmail_ok hfolded] at hsame
  exact Option.some.inj hsame

/-- A subscription that may take its place among the other ones. -/
structure Placed (rt : Runtime) (state : Json) (exceptId : Option String) (item : Json) : Prop where
  related : Related (state.itemsAt "clients") (state.itemsAt "services") (state.itemsAt "plans") item
  pin : PinNamed item
  email : (item.textAt "streaming_email").isSome
  alone : ∀ other ∈ state.itemsAt "subscriptions", isOther exceptId other = true →
    ¬ BothActive rt other item

theorem placed_of_checks {exceptId : Option String}
    (hrelated : validateRelationships state (item.textAt "client_id") (item.textAt "service_id")
      (item.textAt "plan_id") = .ok ())
    (halone : validateDuplicate rt state (item.textAt "client_id") (item.textAt "service_id")
      (item.get "streaming_email") exceptId = .ok ())
    (hpin : throwIf ((item.get "pin_secret").any Json.truthy &&
      !(item.get "profile_name").any Json.truthy) "subscription_pin_requires_profile" = .ok ())
    (hemail : (item.textAt "streaming_email").isSome) : Placed rt state exceptId item := by
  obtain ⟨hclient, hservice, hplan⟩ := validateRelationships_ok hrelated
  refine ⟨⟨hclient, hservice, hplan⟩, fun hsecret => ?_, hemail, fun other hmem hother hboth => ?_⟩
  · have hnamed := throwIf_eq_ok.mp hpin
    rw [hsecret, Bool.true_and, Bool.not_eq_false'] at hnamed
    exact hnamed
  · obtain ⟨hactive, -, hseat⟩ := hboth
    unfold sameSeat at hseat
    simp only [Bool.and_eq_true, decide_eq_true_eq] at hseat
    have hrivals : rivals (item.textAt "client_id") (item.textAt "service_id") exceptId other =
        true := by
      unfold rivals
      rw [hother, hactive, decide_eq_true hseat.1.1, decide_eq_true hseat.1.2]
      rfl
    obtain ⟨own, hown, hne⟩ := validateDuplicate_ok halone other hmem hrivals
    exact hne (hseat.2.trans (foldedEmail_ok hown))

theorem newSubscription_ok {payload : SubscriptionCreate}
    (h : newSubscription rt metadata call payload state = .ok item) :
    item.textAt "id" = some (subscriptionId metadata call) ∧ Placed rt state none item := by
  unfold newSubscription at h
  obtain ⟨_, hrelated, h⟩ := bind_eq_ok.mp h
  obtain ⟨_, -, h⟩ := bind_eq_ok.mp h
  obtain ⟨email, -, h⟩ := bind_eq_ok.mp h
  obtain ⟨_, halone, h⟩ := bind_eq_ok.mp h
  obtain ⟨startsAt, -, h⟩ := bind_eq_ok.mp h
  obtain ⟨expiresAt, -, h⟩ := bind_eq_ok.mp h
  obtain ⟨_, -, h⟩ := bind_eq_ok.mp h
  obtain ⟨_, hpin, h⟩ := bind_eq_ok.mp h
  rw [← Except.ok.inj h]
  exact ⟨rfl, placed_of_checks hrelated halone hpin rfl⟩

theorem changedEmail_ok {existing : Json} {email : Field String} {changed : Option Json}
    (hexisting : (existing.textAt "streaming_email").isSome)
    (h : changedEmail existing email = .ok changed) : (changed.bind Json.text).isSome := by
  unfold changedEmail at h
  split at h
  · rw [← Except.ok.inj h]
    exact hexisting
  · cases h
  · next text _ =>
    cases hvalid : validateEmail text with
    | error e =>
      rw [hvalid] at h
      cases h
    | ok email =>
      rw [hvalid] at h
      rw [← Except.ok.inj h]
      rfl

theorem changedSubscription_ok {payload : SubscriptionUpdate} {clients : List Json}
    (htyped : Typed clients (state.itemsAt "subscriptions"))
    (h : changedSubscription rt call id payload state = .ok item) :
    item.textAt "id" = some id ∧ Placed rt state (some id) item := by
  unfold changedSubscription at h
  obtain ⟨existing, hfind, h⟩ := bind_eq_ok.mp h
  obtain ⟨_, hrelated, h⟩ := bind_eq_ok.mp h
  obtain ⟨_, -, h⟩ := bind_eq_ok.mp h
  obtain ⟨startsAt, -, h⟩ := bind_eq_ok.mp h
  obtain ⟨expiresAt, -, h⟩ := bind_eq_ok.mp h
  obtain ⟨_, -, h⟩ := bind_eq_ok.mp h
  obtain ⟨profileName, -, h⟩ := bind_eq_ok.mp h
  obtain ⟨_, hpin, h⟩ := bind_eq_ok.mp h
  obtain ⟨email, hemail, h⟩ := bind_eq_ok.mp h
  obtain ⟨_, halone, h⟩ := bind_eq_ok.mp h
  obtain ⟨hmem, hid⟩ := findItem_eq_ok hfind
  have hemail := changedEmail_ok (htyped.emails existing hmem) hemail
  have hget : item.get "client_id" = payload.clientId.orExisting (existing.get "client_id") ∧
      item.get "service_id" = payload.serviceId.orExisting (existing.get "service_id") ∧
      item.get "plan_id" = payload.planId.orExisting (existing.get "plan_id") ∧
      item.get "streaming_email" = email ∧ item.get "profile_name" = profileName ∧
      item.get "pin_secret" = changedSecret existing "pin_secret" payload.profilePin ∧
      item.get "id" = existing.get "id" := by
    rw [← Except.ok.inj h]
    simp [get_touched, get_put_of_ne]
  obtain ⟨hclient, hservice, hplan, hemailAt, hprofile, hsecret, hidAt⟩ := hget
  refine ⟨?_, placed_of_checks ?_ ?_ ?_ ?_⟩
  · unfold textAt
    rw [hidAt]
    exact hasId_iff.mp hid
  · unfold textAt
    rw [hclient, hservice, hplan]
    exact hrelated
  · unfold textAt
    rw [hclient, hservice, hemailAt]
    exact halone
  · rw [hsecret, hprofile]
    exact hpin
  · unfold textAt
    rw [hemailAt]
    exact hemail

/-- A subscription with another status and other dates. -/
structure Rescheduled (existing item : Json) : Prop where
  clientId : item.textAt "client_id" = existing.textAt "client_id"
  serviceId : item.textAt "service_id" = existing.textAt "service_id"
  planId : item.textAt "plan_id" = existing.textAt "plan_id"
  email : item.textAt "streaming_email" = existing.textAt "streaming_email"
  pin : item.get "pin_secret" = existing.get "pin_secret"
  profile : item.get "profile_name" = existing.get "profile_name"
  id : item.textAt "id" = existing.textAt "id"

theorem cancelled_ok (h : cancelled rt call id state = .ok item) :
    ∃ existing ∈ state.itemsAt "subscriptions", hasId id existing = true ∧
      Rescheduled existing item ∧ isActive item = false := by
  unfold cancelled at h
  obtain ⟨existing, hfind, h⟩ := bind_eq_ok.mp h
  obtain ⟨hmem, hid⟩ := findItem_eq_ok hfind
  rw [← Except.ok.inj h]
  refine ⟨existing, hmem, hid, ?_, ?_⟩
  · constructor <;> simp [textAt_touched, get_touched, textAt_put_of_ne, get_put_of_ne]
  · unfold isActive
    rw [textAt_touched (by decide), textAt_put_of_ne (by decide), textAt_put_self]
    decide

theorem isActive_activated {existing : Json} {durationType : Option Json} {expiresAt : String} :
    isActive (activated rt call existing durationType expiresAt) = true := by
  unfold isActive activated
  rw [textAt_touched (by decide), textAt_put_self]
  rfl

theorem renewed_ok {durationType : String} {expiresAt : Field String}
    (h : renewed rt call id durationType expiresAt state = .ok item) :
    ∃ existing ∈ state.itemsAt "subscriptions", hasId id existing = true ∧
      Rescheduled existing item ∧ isActive item = true := by
  unfold renewed at h
  obtain ⟨existing, hfind, h⟩ := bind_eq_ok.mp h
  obtain ⟨_, -, h⟩ := bind_eq_ok.mp h
  obtain ⟨_, -, h⟩ := bind_eq_ok.mp h
  obtain ⟨_, -, h⟩ := bind_eq_ok.mp h
  obtain ⟨hmem, hid⟩ := findItem_eq_ok hfind
  rw [← Except.ok.inj h]
  refine ⟨existing, hmem, hid, ?_, isActive_activated⟩
  constructor <;> simp [activated, textAt_touched, get_touched, textAt_put_of_ne, get_put_of_ne]

theorem reactivated_ok {durationType startsAt expiresAt : Field String}
    (h : reactivated rt call id durationType startsAt expiresAt state = .ok item) :
    ∃ existing ∈ state.itemsAt "subscriptions", hasId id existing = true ∧
      Rescheduled existing item ∧ isActive item = true := by
  unfold reactivated at h
  obtain ⟨existing, hfind, h⟩ := bind_eq_ok.mp h
  obtain ⟨_, -, h⟩ := bind_eq_ok.mp h
  obtain ⟨starts, -, h⟩ := bind_eq_ok.mp h
  obtain ⟨_, -, h⟩ := bind_eq_ok.mp h
  obtain ⟨_, -, h⟩ := bind_eq_ok.mp h
  obtain ⟨hmem, hid⟩ := findItem_eq_ok hfind
  rw [← Except.ok.inj h]
  refine ⟨existing, hmem, hid, ?_, isActive_activated⟩
  constructor <;> simp [activated, textAt_touched, get_touched, textAt_put_of_ne, get_put_of_ne]

/-! ## The collections behind an operation -/

theorem isOther_some : isOther (some id) item = true ↔ hasId id item = false := by
  unfold isOther hasId
  rw [decide_eq_true_iff, decide_eq_false_iff_not]

theorem isOther_none (h : (item.textAt "id").isSome) : isOther none item = true := by
  unfold isOther
  rw [decide_eq_true_iff]
  intro hnone
  rw [hnone] at h
  cases h

theorem distinctId_append_iff (h : Distinct SameId list) (hid : item.textAt "id" = some id) :
    Distinct SameId (list ++ [item]) ↔ list.any (hasId id) = false := by
  rw [List.any_eq_false]
  constructor
  · intro happend a ha hsame
    exact happend.of_append a ha ((hasId_iff.mp hsame).trans hid.symm)
  · intro hfree
    exact h.append fun a ha hsame => hfree a ha (hasId_iff.mpr (hsame.trans hid))

theorem distinctId_replace (h : Distinct SameId list) (hid : item.textAt "id" = some id) :
    Distinct SameId (replaceItem id item list) := by
  refine h.replace h (fun _ _ hsame => hsame.symm) fun a _ hother hsame => ?_
  rw [hasId_iff.mpr (hsame.trans hid)] at hother
  cases hother

theorem BothActive.symm {a b : Json} (h : BothActive rt a b) : BothActive rt b a := by
  obtain ⟨ha, hb, hseat⟩ := h
  refine ⟨hb, ha, ?_⟩
  unfold sameSeat at hseat ⊢
  simp only [Bool.and_eq_true, decide_eq_true_eq] at hseat ⊢
  exact ⟨⟨hseat.1.1.symm, hseat.1.2.symm⟩, hseat.2.symm⟩

variable {clients' services' plans' : List Json}

theorem Related.grow (h : Related clients services plans item) (hclients : clients ⊆ clients')
    (hservices : services ⊆ services') (hplans : plans ⊆ plans') :
    Related clients' services' plans' item := by
  obtain ⟨⟨client, hclient, hof⟩, ⟨service, hservice, hat⟩, plan, hplan, hby⟩ := h
  exact ⟨⟨client, hclients hclient, hof⟩, ⟨service, hservices hservice, hat⟩,
    ⟨plan, hplans hplan, hby⟩⟩

theorem Integral.addService (h : Integral rt clients services plans subscriptions)
    (hid : item.textAt "id" = some id) (hfree : services.any (hasId id) = false)
    (hname : ∀ service ∈ services, ¬ SameServiceName rt service item) :
    Integral rt clients (services ++ [item]) plans subscriptions :=
  { h with
    serviceIds := (distinctId_append_iff h.serviceIds hid).mpr hfree
    relations := fun subscription hsubscription => (h.relations subscription hsubscription).grow
      (List.Subset.refl _) (List.subset_append_left _ _) (List.Subset.refl _)
    serviceNames := h.serviceNames.append hname }

theorem Integral.putService (h : Integral rt clients services plans subscriptions)
    (hid : item.textAt "id" = some id)
    (hname : ∀ service ∈ services, hasId id service = false → ¬ SameServiceName rt service item) :
    Integral rt clients (replaceItem id item services) plans subscriptions :=
  { h with
    serviceIds := distinctId_replace h.serviceIds hid
    relations := fun subscription hsubscription =>
      { h.relations subscription hsubscription with
        service := exists_replaceItem (h.relations subscription hsubscription).service
          fun _ _ hsame hof => (hid.trans (hasId_iff.mp hsame).symm).trans hof }
    serviceNames := h.serviceIds.replace h.serviceNames (fun _ _ hsame => hsame.symm) hname }

theorem Integral.addPlan (h : Integral rt clients services plans subscriptions)
    (hid : item.textAt "id" = some id) (hfree : plans.any (hasId id) = false)
    (hname : ∀ plan ∈ plans, ¬ SamePlanName rt plan item) :
    Integral rt clients services (plans ++ [item]) subscriptions :=
  { h with
    planIds := (distinctId_append_iff h.planIds hid).mpr hfree
    relations := fun subscription hsubscription => (h.relations subscription hsubscription).grow
      (List.Subset.refl _) (List.Subset.refl _) (List.subset_append_left _ _)
    planNames := h.planNames.append hname }

theorem Integral.putPlan {existing : Json} (h : Integral rt clients services plans subscriptions)
    (hexisting : existing ∈ plans) (hof : hasId id existing = true)
    (hid : item.textAt "id" = some id)
    (hservice : item.textAt "service_id" = existing.textAt "service_id")
    (hname : ∀ plan ∈ plans, hasId id plan = false → ¬ SamePlanName rt plan item) :
    Integral rt clients services (replaceItem id item plans) subscriptions :=
  { h with
    planIds := distinctId_replace h.planIds hid
    relations := fun subscription hsubscription =>
      { h.relations subscription hsubscription with
        plan := exists_replaceItem (h.relations subscription hsubscription).plan
          fun plan hplan hsame hat => by
            have heq : plan = existing := h.planIds.eq hplan hexisting
              ((hasId_iff.mp hsame).trans (hasId_iff.mp hof).symm)
            rw [heq] at hat
            exact ⟨(hid.trans (hasId_iff.mp hof).symm).trans hat.1, hservice.trans hat.2⟩ }
    planNames := h.planIds.replace h.planNames
      (fun _ _ hsame => ⟨hsame.1.symm, hsame.2.symm⟩) hname }

theorem SamePhone.symm {a b : Json} (h : SamePhone a b) : SamePhone b a := by
  obtain ⟨phone, ha, hb⟩ := h
  exact ⟨phone, hb, ha⟩

theorem Integral.addClient (h : Integral rt clients services plans subscriptions)
    (hids : ∀ client ∈ clients, (client.textAt "id").isSome)
    (hid : item.textAt "id" = some id) (hfree : clients.any (hasId id) = false)
    (hunique : Unique clients none item) :
    Integral rt (clients ++ [item]) services plans subscriptions :=
  { h with
    clientIds := (distinctId_append_iff h.clientIds hid).mpr hfree
    relations := fun subscription hsubscription => (h.relations subscription hsubscription).grow
      (List.subset_append_left _ _) (List.Subset.refl _) (List.Subset.refl _)
    usernames := h.usernames.append fun client hclient =>
      hunique.username client hclient (isOther_none (hids client hclient))
    phones := h.phones.append fun client hclient =>
      hunique.phone client hclient (isOther_none (hids client hclient)) }

theorem Integral.putClient (h : Integral rt clients services plans subscriptions)
    (hid : item.textAt "id" = some id) (hunique : Unique clients (some id) item) :
    Integral rt (replaceItem id item clients) services plans subscriptions :=
  { h with
    clientIds := distinctId_replace h.clientIds hid
    relations := fun subscription hsubscription =>
      { h.relations subscription hsubscription with
        client := exists_replaceItem (h.relations subscription hsubscription).client
          fun _ _ hsame hof => (hid.trans (hasId_iff.mp hsame).symm).trans hof }
    usernames := h.clientIds.replace h.usernames (fun _ _ hsame => hsame.symm)
      fun client hclient hother => hunique.username client hclient (isOther_some.mpr hother)
    phones := h.clientIds.replace h.phones (fun _ _ hsame => hsame.symm)
      fun client hclient hother => hunique.phone client hclient (isOther_some.mpr hother) }

theorem IsIntegral.addSubscription (h : IsIntegral rt state)
    (hids : ∀ other ∈ state.itemsAt "subscriptions", (other.textAt "id").isSome)
    (hid : item.textAt "id" = some id) (hfree : isTaken state "subscriptions" id = false)
    (hplaced : Placed rt state none item) :
    Integral rt (state.itemsAt "clients") (state.itemsAt "services") (state.itemsAt "plans")
      (state.itemsAt "subscriptions" ++ [item]) :=
  { h with
    subscriptionIds := (distinctId_append_iff h.subscriptionIds hid).mpr hfree
    relations := fun subscription hsubscription => by
      rcases List.mem_append.mp hsubscription with hold | hnew
      · exact h.relations subscription hold
      · rw [List.mem_singleton.mp hnew]
        exact hplaced.related
    active := h.active.append fun other hother =>
      hplaced.alone other hother (isOther_none (hids other hother))
    pins := fun subscription hsubscription => by
      rcases List.mem_append.mp hsubscription with hold | hnew
      · exact h.pins subscription hold
      · rw [List.mem_singleton.mp hnew]
        exact hplaced.pin }

theorem IsIntegral.putSubscription (h : IsIntegral rt state) (hid : item.textAt "id" = some id)
    (hplaced : Placed rt state (some id) item) :
    Integral rt (state.itemsAt "clients") (state.itemsAt "services") (state.itemsAt "plans")
      (replaceItem id item (state.itemsAt "subscriptions")) :=
  { h with
    subscriptionIds := distinctId_replace h.subscriptionIds hid
    relations := fun subscription hsubscription => by
      rcases mem_replaceItem hsubscription with rfl | ⟨hold, -⟩
      · exact hplaced.related
      · exact h.relations subscription hold
    active := h.subscriptionIds.replace h.active (fun _ _ hboth => hboth.symm)
      fun other hother hne => hplaced.alone other hother (isOther_some.mpr hne)
    pins := fun subscription hsubscription => by
      rcases mem_replaceItem hsubscription with rfl | ⟨hold, -⟩
      · exact hplaced.pin
      · exact h.pins subscription hold }

theorem Rescheduled.placed {existing : Json} (hsame : Rescheduled existing item)
    (h : IsIntegral rt state) (htyped : Typed clients (state.itemsAt "subscriptions"))
    (hexisting : existing ∈ state.itemsAt "subscriptions")
    (halone : ∀ other ∈ state.itemsAt "subscriptions", hasId id other = false →
      ¬ BothActive rt other item) : Placed rt state (some id) item := by
  obtain ⟨hclient, hservice, hplan⟩ := h.relations existing hexisting
  refine ⟨⟨?_, ?_, ?_⟩, ?_, ?_, fun other hother hne => halone other hother (isOther_some.mp hne)⟩
  · rw [hsame.clientId]
    exact hclient
  · rw [hsame.serviceId]
    exact hservice
  · rw [hsame.planId, hsame.serviceId]
    exact hplan
  · have hpin := h.pins existing hexisting
    unfold PinNamed at hpin ⊢
    rw [hsame.pin, hsame.profile]
    exact hpin
  · rw [hsame.email]
    exact htyped.emails existing hexisting

theorem Integral.filterSubscriptions (h : Integral rt clients services plans subscriptions)
    (keep : Json → Bool)
    (hrelated : ∀ subscription ∈ subscriptions, keep subscription = true →
      Related clients services plans subscription → Related clients' services' plans' subscription)
    (hclientIds : Distinct SameId clients') (hserviceIds : Distinct SameId services')
    (hplanIds : Distinct SameId plans') (hserviceNames : Distinct (SameServiceName rt) services')
    (hplanNames : Distinct (SamePlanName rt) plans') (husernames : Distinct SameUsername clients')
    (hphones : Distinct SamePhone clients') :
    Integral rt clients' services' plans' (subscriptions.filter keep) where
  clientIds := hclientIds
  serviceIds := hserviceIds
  planIds := hplanIds
  subscriptionIds := h.subscriptionIds.filter keep
  relations subscription hsubscription := by
    obtain ⟨hmem, hkeep⟩ := List.mem_filter.mp hsubscription
    exact hrelated subscription hmem hkeep (h.relations subscription hmem)
  serviceNames := hserviceNames
  planNames := hplanNames
  usernames := husernames
  phones := hphones
  active := h.active.filter keep
  pins subscription hsubscription := h.pins subscription (List.mem_filter.mp hsubscription).1

theorem Integral.dropClient (h : Integral rt clients services plans subscriptions) (id : String) :
    Integral rt (clients.filter fun client => !hasId id client) services plans
      (subscriptions.filter fun subscription => subscription.textAt "client_id" ≠ some id) :=
  h.filterSubscriptions _
    (fun subscription _ hkeep hrelated =>
      { hrelated with
        client := exists_filter hrelated.client fun client _ hof => by
          rw [Bool.not_eq_true', ← Bool.not_eq_true, hasId_iff, hof]
          exact of_decide_eq_true hkeep })
    (h.clientIds.filter _) h.serviceIds h.planIds h.serviceNames h.planNames (h.usernames.filter _)
    (h.phones.filter _)

theorem Integral.dropPlan (h : Integral rt clients services plans subscriptions) (id : String) :
    Integral rt clients services (plans.filter fun plan => !hasId id plan)
      (subscriptions.filter fun subscription => subscription.textAt "plan_id" ≠ some id) :=
  h.filterSubscriptions _
    (fun subscription _ hkeep hrelated =>
      { hrelated with
        plan := exists_filter hrelated.plan fun plan _ hof => by
          rw [Bool.not_eq_true', ← Bool.not_eq_true, hasId_iff, hof.1]
          exact of_decide_eq_true hkeep })
    h.clientIds h.serviceIds (h.planIds.filter _) h.serviceNames (h.planNames.filter _) h.usernames
    h.phones

theorem Integral.dropService (h : Integral rt clients services plans subscriptions) (id : String)
    (planIds : List (Option String)) :
    Integral rt clients (services.filter fun service => !hasId id service)
      (plans.filter fun plan => plan.textAt "service_id" ≠ some id)
      (subscriptions.filter fun subscription =>
        subscription.textAt "service_id" ≠ some id && subscription.textAt "plan_id" ∉ planIds) :=
  h.filterSubscriptions _
    (fun subscription _ hkeep hrelated => by
      have hother := of_decide_eq_true (Bool.and_eq_true_iff.mp hkeep).1
      refine ⟨hrelated.client, exists_filter hrelated.service fun service _ hof => ?_,
        exists_filter hrelated.plan fun plan _ hof => ?_⟩
      · rw [Bool.not_eq_true', ← Bool.not_eq_true, hasId_iff, hof]
        exact hother
      · rw [decide_eq_true_iff, hof.2]
        exact hother)
    h.clientIds (h.serviceIds.filter _) (h.planIds.filter _) (h.serviceNames.filter _)
    (h.planNames.filter _) h.usernames h.phones

theorem Typed.addClient (h : Typed clients subscriptions) {exceptId : Option String}
    (hunique : Unique list exceptId item) : Typed (clients ++ [item]) subscriptions where
  usernames client hclient := by
    rcases List.mem_append.mp hclient with hold | hnew
    · exact h.usernames client hold
    · rw [List.mem_singleton.mp hnew]
      exact hunique.typed
  phones client hclient := by
    rcases List.mem_append.mp hclient with hold | hnew
    · exact h.phones client hold
    · rw [List.mem_singleton.mp hnew]
      exact hunique.phoneTyped
  emails := h.emails

theorem Typed.putClient (h : Typed clients subscriptions) {exceptId : Option String}
    (hunique : Unique list exceptId item) : Typed (replaceItem id item clients) subscriptions where
  usernames client hclient := by
    rcases mem_replaceItem hclient with rfl | ⟨hold, -⟩
    · exact hunique.typed
    · exact h.usernames client hold
  phones client hclient := by
    rcases mem_replaceItem hclient with rfl | ⟨hold, -⟩
    · exact hunique.phoneTyped
    · exact h.phones client hold
  emails := h.emails

theorem Typed.filter (h : Typed clients subscriptions) (p q : Json → Bool) :
    Typed (clients.filter p) (subscriptions.filter q) where
  usernames client hclient := h.usernames client (List.mem_filter.mp hclient).1
  phones client hclient := h.phones client (List.mem_filter.mp hclient).1
  emails subscription hmem := h.emails subscription (List.mem_filter.mp hmem).1

theorem Typed.filterSubscriptions (h : Typed clients subscriptions) (q : Json → Bool) :
    Typed clients (subscriptions.filter q) where
  usernames := h.usernames
  phones := h.phones
  emails subscription hmem := h.emails subscription (List.mem_filter.mp hmem).1

theorem Typed.addSubscription (h : Typed clients subscriptions)
    (hemail : (item.textAt "streaming_email").isSome) :
    Typed clients (subscriptions ++ [item]) where
  usernames := h.usernames
  phones := h.phones
  emails subscription hmem := by
    rcases List.mem_append.mp hmem with hold | hnew
    · exact h.emails subscription hold
    · rw [List.mem_singleton.mp hnew]
      exact hemail

theorem Typed.putSubscription (h : Typed clients subscriptions)
    (hemail : (item.textAt "streaming_email").isSome) :
    Typed clients (replaceItem id item subscriptions) where
  usernames := h.usernames
  phones := h.phones
  emails subscription hmem := by
    rcases mem_replaceItem hmem with rfl | ⟨hold, -⟩
    · exact hemail
    · exact h.emails subscription hold

theorem unique_switched {existing : Json} (h : Integral rt clients services plans subscriptions)
    (htyped : Typed clients subscriptions) (hexisting : existing ∈ clients)
    (hid : hasId id existing = true)
    (hsame : ∀ key, key ≠ "is_active" → key ≠ "updated_at" → item.get key = existing.get key) :
    Unique clients (some id) item := by
  have husername : item.textAt "username" = existing.textAt "username" := by
    unfold textAt
    rw [hsame "username" (by decide) (by decide)]
  have hphone : item.get "phone" = existing.get "phone" := hsame "phone" (by decide) (by decide)
  have hne : ∀ client, isOther (some id) client = true → client ≠ existing := by
    rintro client hother rfl
    rw [isOther_some.mp hother] at hid
    cases hid
  refine ⟨fun client hclient hother hlike => ?_, fun client hclient hother hlike => ?_, ?_, ?_⟩
  · have hsymm : Std.Symm fun a b : Json => ¬ SameUsername a b := ⟨fun _ _ hab hba => hab hba.symm⟩
    refine h.usernames.forall hclient hexisting (hne client hother) ?_
    unfold SameUsername localUsername at hlike ⊢
    rw [husername] at hlike
    exact hlike
  · have hsymm : Std.Symm fun a b : Json => ¬ SamePhone a b := ⟨fun _ _ hab hba => hab hba.symm⟩
    refine h.phones.forall hclient hexisting (hne client hother) ?_
    unfold SamePhone textAt at hlike ⊢
    rw [hphone] at hlike
    exact hlike
  · rw [husername]
    exact htyped.usernames existing hexisting
  · rw [hphone]
    exact htyped.phones existing hexisting

variable {op : Op} {next : Json}

theorem itemsAt_putItems_self : (putItems state key list).itemsAt key = list := itemsAt_put_arr

theorem itemsAt_putItems_of_ne (h : name ≠ key) :
    (putItems state key list).itemsAt name = state.itemsAt name := itemsAt_put_of_ne h

structure Leaves (rt : Runtime) (next : Json) (collided : Bool) : Prop where
  typed : Typed (next.itemsAt "clients") (next.itemsAt "subscriptions")
  integral : IsIntegral rt next ↔ collided = false

theorem isIntegral_services : IsIntegral rt (putItems state "services" list) =
    Integral rt (state.itemsAt "clients") list (state.itemsAt "plans")
      (state.itemsAt "subscriptions") := by
  unfold IsIntegral putItems
  rw [itemsAt_put_arr, itemsAt_put_of_ne (by decide), itemsAt_put_of_ne (by decide),
    itemsAt_put_of_ne (by decide)]

theorem isIntegral_plans : IsIntegral rt (putItems state "plans" list) =
    Integral rt (state.itemsAt "clients") (state.itemsAt "services") list
      (state.itemsAt "subscriptions") := by
  unfold IsIntegral putItems
  rw [itemsAt_put_arr, itemsAt_put_of_ne (by decide), itemsAt_put_of_ne (by decide),
    itemsAt_put_of_ne (by decide)]

theorem isIntegral_clients : IsIntegral rt (putItems state "clients" list) =
    Integral rt list (state.itemsAt "services") (state.itemsAt "plans")
      (state.itemsAt "subscriptions") := by
  unfold IsIntegral putItems
  rw [itemsAt_put_arr, itemsAt_put_of_ne (by decide), itemsAt_put_of_ne (by decide),
    itemsAt_put_of_ne (by decide)]

theorem isIntegral_subscriptions : IsIntegral rt (putItems state "subscriptions" list) =
    Integral rt (state.itemsAt "clients") (state.itemsAt "services") (state.itemsAt "plans")
      list := by
  unfold IsIntegral putItems
  rw [itemsAt_put_arr, itemsAt_put_of_ne (by decide), itemsAt_put_of_ne (by decide),
    itemsAt_put_of_ne (by decide)]

variable {collided : Bool}

theorem leaves_services (htyped : Typed (state.itemsAt "clients") (state.itemsAt "subscriptions"))
    (h : Integral rt (state.itemsAt "clients") list (state.itemsAt "plans")
      (state.itemsAt "subscriptions") ↔ collided = false) :
    Leaves rt (putItems state "services" list) collided := by
  refine ⟨?_, by rw [isIntegral_services]; exact h⟩
  rw [itemsAt_putItems_of_ne (by decide), itemsAt_putItems_of_ne (by decide)]
  exact htyped

theorem leaves_plans (htyped : Typed (state.itemsAt "clients") (state.itemsAt "subscriptions"))
    (h : Integral rt (state.itemsAt "clients") (state.itemsAt "services") list
      (state.itemsAt "subscriptions") ↔ collided = false) :
    Leaves rt (putItems state "plans" list) collided := by
  refine ⟨?_, by rw [isIntegral_plans]; exact h⟩
  rw [itemsAt_putItems_of_ne (by decide), itemsAt_putItems_of_ne (by decide)]
  exact htyped

theorem leaves_clients (htyped : Typed list (state.itemsAt "subscriptions"))
    (h : Integral rt list (state.itemsAt "services") (state.itemsAt "plans")
      (state.itemsAt "subscriptions") ↔ collided = false) :
    Leaves rt (putItems state "clients" list) collided := by
  refine ⟨?_, by rw [isIntegral_clients]; exact h⟩
  rw [itemsAt_putItems_self, itemsAt_putItems_of_ne (by decide)]
  exact htyped

theorem leaves_subscriptions (htyped : Typed (state.itemsAt "clients") list)
    (h : Integral rt (state.itemsAt "clients") (state.itemsAt "services") (state.itemsAt "plans")
      list ↔ collided = false) : Leaves rt (putItems state "subscriptions" list) collided := by
  refine ⟨?_, by rw [isIntegral_subscriptions]; exact h⟩
  rw [itemsAt_putItems_self, itemsAt_putItems_of_ne (by decide)]
  exact htyped

theorem collides_of_make (h : op.make rt metadata call state = .ok next) :
    collides rt metadata call op state =
      ((op.newId metadata call state).any (fun new => isTaken state new.1 new.2) ||
        op.activates.any (hasRival rt state)) := by
  unfold collides
  rw [h]
  exact Bool.true_and _

theorem leaves_activated {existing : Json} (h : IsIntegral rt state)
    (htyped : Typed (state.itemsAt "clients") (state.itemsAt "subscriptions"))
    (hexisting : existing ∈ state.itemsAt "subscriptions") (hid : hasId id existing = true)
    (hsame : Rescheduled existing item) (hactive : isActive item = true) :
    Leaves rt (setItem "subscriptions" id item state) (hasRival rt state id) := by
  have hitem : item.textAt "id" = some id := hsame.id.trans (hasId_iff.mp hid)
  have hseat : ∀ other, sameSeat rt other existing = sameSeat rt other item := fun other => by
    unfold sameSeat emailOf
    rw [hsame.clientId, hsame.serviceId, hsame.email]
  refine leaves_subscriptions (htyped.putSubscription ?_) ⟨fun hnext => ?_, fun hfree => ?_⟩
  · rw [hsame.email]
    exact htyped.emails existing hexisting
  · -- A rival stays where it is, beside the item.
    unfold hasRival
    rw [List.any_eq_false]
    intro own hown hrival
    rw [Bool.and_eq_true, List.any_eq_true] at hrival
    obtain ⟨hownId, other, hother, hrival⟩ := hrival
    rw [Bool.and_eq_true, Bool.and_eq_true, Bool.not_eq_true'] at hrival
    obtain ⟨⟨hne, hotherActive⟩, hownSeat⟩ := hrival
    rw [h.subscriptionIds.eq hown hexisting
      ((hasId_iff.mp hownId).trans (hasId_iff.mp hid).symm), hseat] at hownSeat
    have hput : other ∈ replaceItem id item (state.itemsAt "subscriptions") := by
      have hmem := List.mem_map_of_mem
        (f := fun before => if hasId id before then item else before) hother
      rw [hne, if_neg Bool.false_ne_true] at hmem
      exact hmem
    have hitemPut : item ∈ replaceItem id item (state.itemsAt "subscriptions") := by
      have hmem := List.mem_map_of_mem
        (f := fun before => if hasId id before then item else before) hexisting
      rw [hid, if_pos rfl] at hmem
      exact hmem
    have hsymm : Std.Symm fun a b : Json => ¬ BothActive rt a b := ⟨fun _ _ hab hba => hab hba.symm⟩
    refine hnext.active.forall hput hitemPut ?_ ⟨hotherActive, hactive, hownSeat⟩
    rintro rfl
    rw [hasId_iff.mpr hitem] at hne
    cases hne
  · refine h.putSubscription hitem (hsame.placed h htyped hexisting fun other hother hne hboth => ?_)
    unfold hasRival at hfree
    refine List.any_eq_false.mp hfree existing hexisting ?_
    rw [Bool.and_eq_true, List.any_eq_true]
    refine ⟨hid, other, hother, ?_⟩
    rw [hne, hboth.1, hseat, hboth.2.2]
    rfl

theorem leaves_make (h : IsIntegral rt state)
    (htyped : Typed (state.itemsAt "clients") (state.itemsAt "subscriptions"))
    (hids : ∀ name ∈ proKeys, ∀ item ∈ state.itemsAt name, (item.textAt "id").isSome)
    (hop : op.isRelational = true) (hmake : op.make rt metadata call state = .ok next) :
    Leaves rt next (collides rt metadata call op state) := by
  rw [collides_of_make hmake]
  cases op with
  | load reader => cases hmake
  | createService payload =>
    obtain ⟨checked, item, -, hitem, rfl⟩ := making_eq_ok.mp hmake
    have hid : item.textAt "id" = some (serviceId metadata call) := by
      unfold newService at hitem
      obtain ⟨_, -, hitem⟩ := bind_eq_ok.mp hitem
      rw [← Except.ok.inj hitem]
      rfl
    show Leaves rt (putItems state "services" _) (isTaken state "services" _ || false)
    rw [Bool.or_false]
    exact leaves_services htyped ⟨fun hnext => (distinctId_append_iff h.serviceIds hid).mp
      hnext.serviceIds, fun hfree => h.addService hid hfree (newService_ok hitem)⟩
  | updateService id payload =>
    obtain ⟨_, item, -, hitem, rfl⟩ := making_eq_ok.mp hmake
    obtain ⟨hid, hname⟩ := changedService_ok hitem
    exact leaves_services htyped (iff_of_true (h.putService hid hname) rfl)
  | deleteService id =>
    obtain ⟨_, planIds, -, -, rfl⟩ := making_eq_ok.mp hmake
    have hdrop := Integral.dropService h id planIds
    refine leaves_subscriptions ?_ (iff_of_true ?_ rfl)
    · simpa [itemsAt_putItems_of_ne] using htyped.filterSubscriptions _
    · simpa [itemsAt_putItems_of_ne, itemsAt_putItems_self] using hdrop
  | createPlan service payload =>
    obtain ⟨checked, item, -, hitem, rfl⟩ := making_eq_ok.mp hmake
    have hid : item.textAt "id" = some (planId metadata call) := by
      unfold newPlan at hitem
      obtain ⟨_, -, hitem⟩ := bind_eq_ok.mp hitem
      obtain ⟨_, -, hitem⟩ := bind_eq_ok.mp hitem
      rw [← Except.ok.inj hitem]
      rfl
    show Leaves rt (putItems state "plans" _) (isTaken state "plans" _ || false)
    rw [Bool.or_false]
    exact leaves_plans htyped ⟨fun hnext => (distinctId_append_iff h.planIds hid).mp hnext.planIds,
      fun hfree => h.addPlan hid hfree (newPlan_ok hitem)⟩
  | updatePlan service id payload =>
    obtain ⟨_, item, -, hitem, rfl⟩ := making_eq_ok.mp hmake
    obtain ⟨existing, hexisting, hof, hid, hservice, hname⟩ := changedPlan_ok hitem
    exact leaves_plans htyped (iff_of_true (h.putPlan hexisting hof hid hservice hname) rfl)
  | deletePlan service id =>
    obtain ⟨_, _, -, -, rfl⟩ := making_eq_ok.mp hmake
    have hdrop := Integral.dropPlan h id
    refine leaves_subscriptions ?_ (iff_of_true ?_ rfl)
    · simpa [itemsAt_putItems_of_ne] using htyped.filterSubscriptions _
    · simpa [itemsAt_putItems_of_ne, itemsAt_putItems_self] using hdrop
  | createClient payload =>
    obtain ⟨checked, item, hchecked, hitem, rfl⟩ := making_eq_ok.mp hmake
    have hid : item.textAt "id" = some (newClientId metadata call (state.itemsAt "clients")) := by
      unfold newClient at hitem
      obtain ⟨_, -, hitem⟩ := bind_eq_ok.mp hitem
      rw [← Except.ok.inj hitem]
      rfl
    have hunique := newClient_ok (checkedClient_phone hchecked) hitem
    show Leaves rt (putItems state "clients" _) (isTaken state "clients" _ || false)
    rw [Bool.or_false]
    exact leaves_clients (htyped.addClient hunique)
      ⟨fun hnext => (distinctId_append_iff h.clientIds hid).mp hnext.clientIds,
        fun hfree => h.addClient (hids "clients" (by decide)) hid hfree hunique⟩
  | updateClient id payload =>
    obtain ⟨_, item, -, hitem, rfl⟩ := making_eq_ok.mp hmake
    obtain ⟨hid, hunique⟩ := changedClient_ok htyped hitem
    exact leaves_clients (htyped.putClient hunique) (iff_of_true (h.putClient hid hunique) rfl)
  | setActive id isActive =>
    obtain ⟨_, item, -, hitem, rfl⟩ := making_eq_ok.mp hmake
    obtain ⟨existing, hexisting, hof, hsame⟩ := switchedClient_ok hitem
    have hid : item.textAt "id" = some id := by
      unfold textAt
      rw [hsame "id" (by decide) (by decide)]
      exact hasId_iff.mp hof
    have hunique := unique_switched h htyped hexisting hof hsame
    exact leaves_clients (htyped.putClient hunique) (iff_of_true (h.putClient hid hunique) rfl)
  | deleteClient id =>
    obtain ⟨_, _, -, -, rfl⟩ := making_eq_ok.mp hmake
    have hdrop := Integral.dropClient h id
    refine leaves_subscriptions ?_ (iff_of_true ?_ rfl)
    · simpa [itemsAt_putItems_of_ne, itemsAt_putItems_self] using htyped.filter _ _
    · simpa [itemsAt_putItems_of_ne, itemsAt_putItems_self] using hdrop
  | createSubscription payload =>
    obtain ⟨_, item, -, hitem, rfl⟩ := making_eq_ok.mp hmake
    obtain ⟨hid, hplaced⟩ := newSubscription_ok hitem
    show Leaves rt (putItems state "subscriptions" _) (isTaken state "subscriptions" _ || false)
    rw [Bool.or_false]
    exact leaves_subscriptions (htyped.addSubscription hplaced.email)
      ⟨fun hnext => (distinctId_append_iff h.subscriptionIds hid).mp hnext.subscriptionIds,
        fun hfree => h.addSubscription (hids "subscriptions" (by decide)) hid hfree hplaced⟩
  | updateSubscription id payload =>
    obtain ⟨_, item, -, hitem, rfl⟩ := making_eq_ok.mp hmake
    obtain ⟨hid, hplaced⟩ := changedSubscription_ok htyped hitem
    exact leaves_subscriptions (htyped.putSubscription hplaced.email)
      (iff_of_true (h.putSubscription hid hplaced) rfl)
  | cancelSubscription id =>
    obtain ⟨_, item, -, hitem, rfl⟩ := making_eq_ok.mp hmake
    obtain ⟨existing, hexisting, hof, hsame, hinactive⟩ := cancelled_ok hitem
    have hplaced : Placed rt state (some id) item :=
      hsame.placed h htyped hexisting fun other _ _ ⟨_, hactive, _⟩ => by
        rw [hinactive] at hactive
        cases hactive
    exact leaves_subscriptions (htyped.putSubscription hplaced.email)
      (iff_of_true (h.putSubscription (hsame.id.trans (hasId_iff.mp hof)) hplaced) rfl)
  | renewSubscription id durationType expiresAt =>
    obtain ⟨_, item, -, hitem, rfl⟩ := making_eq_ok.mp hmake
    obtain ⟨existing, hexisting, hof, hsame, hactive⟩ := renewed_ok hitem
    exact leaves_activated h htyped hexisting hof hsame hactive
  | reactivateSubscription id durationType startsAt expiresAt =>
    obtain ⟨_, item, -, hitem, rfl⟩ := making_eq_ok.mp hmake
    obtain ⟨existing, hexisting, hof, hsame, hactive⟩ := reactivated_ok hitem
    exact leaves_activated h htyped hexisting hof hsame hactive
  | _ => cases hop

/-! ## One operation -/

open ReadableLemmas

/-- An envelope of a pro workspace that meets the constraints. -/
structure Whole (rt : Runtime) (owner : Owner) (envelope : Json) : Prop where
  accepted : Accepted rt owner envelope
  shape : Shape rt owner.plan true (planSpecific envelope)
  integral : IsIntegral rt (planSpecific envelope)
  typed : Typed ((planSpecific envelope).itemsAt "clients")
    ((planSpecific envelope).itemsAt "subscriptions")

theorem ids_of_shape (h : Shape rt plan true state) :
    ∀ name ∈ proKeys, ∀ item ∈ state.itemsAt name, (item.textAt "id").isSome := by
  intro name hname item hitem
  obtain ⟨items, hitems, hfine⟩ := h.items name (List.mem_append_right _ hname)
  unfold itemsAt at hitem
  rw [hitems] at hitem
  refine (hfine item hitem).texts "id" ?_
  revert hname
  unfold proKeys
  simp only [List.mem_cons, List.not_mem_nil, or_false]
  rintro (rfl | rfl | rfl | rfl) <;> decide

theorem reads_pro (h : Shape rt plan true state) (hop : op.isRelational = true)
    (hload : ∀ reader, op ≠ .load reader) : op.reader.read state = some state := by
  cases op with
  | load reader => exact absurd rfl (hload reader)
  | updateProfile payload => cases hop
  | updateReminderSettings payload => cases hop
  | updateTenantSettings payload => cases hop
  | updateCodeServices keys => cases hop
  | createAccessBlock phone => cases hop
  | deleteAccessBlock id => cases hop
  | _ => exact h.readPro

theorem reads_next (h : Shape rt plan true state) (hop : op.isRelational = true)
    (hmake : op.make rt metadata call state = .ok next) : Shape rt plan true next := by
  have hload : ∀ reader, op ≠ .load reader := by
    rintro reader rfl
    cases hmake
  refine shape_make h (by rw [reads_pro h hop hload]; rfl) hmake ?_
  rintro payload rfl
  cases hop

theorem stored_of_make {envelope : Json} {s s' : State} {a : Action} (h : Whole rt owner envelope)
    (hstored : s.stored = some envelope) (hop : a.op.isRelational = true)
    (hmake : a.op.make rt a.metadata a.call (planSpecific envelope) = .ok next)
    (hfull : a.call.full = false) (hstep : step rt owner s a = some s') :
    perform rt a.metadata a.call a.op s.stored = (.ok (), s'.stored) ∧
      s'.stored = some (updated rt a.call envelope next) := by
  unfold step at hstep
  split at hstep
  swap
  · cases hstep
  next hcalled =>
  have hlive := hcalled.2
  rw [← Option.some.inj hstep]
  rw [hstored] at hlive ⊢
  have hload : ∀ reader, a.op ≠ .load reader := by
    intro reader hreader
    rw [hreader] at hmake
    cases hmake
  have hnext := reads_next h.shape hop hmake
  have hstoring := storing_eq_some.mpr ⟨_, reads_pro h.shape hop hload, hmake, by
    unfold isWritable
    rw [hnext.record, hnext.allowed, hfull]
    rfl⟩
  have hstores := stores_perform a.call h.accepted hlive a.op
  rw [hstoring] at hstores
  have houtcome : perform rt a.metadata a.call a.op (some envelope) = _ := hstores
  rw [reads_pro hnext hop hload] at houtcome
  rw [houtcome]
  exact ⟨rfl, rfl⟩

theorem stored_of_refused {envelope : Json} {s s' : State} {a : Action} (h : Whole rt owner envelope)
    (hstored : s.stored = some envelope)
    (hrefused : a.call.full = true ∨
      ∃ e, a.op.make rt a.metadata a.call (planSpecific envelope) = .error e)
    (hstep : step rt owner s a = some s') : s'.stored = some envelope := by
  unfold step at hstep
  split at hstep
  swap
  · cases hstep
  next hcalled =>
  have hlive := hcalled.2
  rw [← Option.some.inj hstep]
  rw [hstored] at hlive ⊢
  have hstores := stores_perform a.call h.accepted hlive a.op
  have hnone : storing rt a.call a.op.reader (a.op.make rt a.metadata a.call)
      (planSpecific envelope) = none := by
    rw [Option.eq_none_iff_forall_ne_some]
    intro next hnext
    obtain ⟨read, hread, hmake, hwritable⟩ := storing_eq_some.mp hnext
    rcases hrefused with hfull | ⟨e, herror⟩
    · unfold isWritable at hwritable
      rw [hfull, Bool.not_true, Bool.and_false] at hwritable
      cases hwritable
    · have hload : ∀ reader, a.op ≠ .load reader := by
        intro reader hreader
        rw [hreader] at hmake
        cases hmake
      rw [read_eq hread hload, herror] at hmake
      cases hmake
  rw [hnone] at hstores
  exact hstores

theorem step_whole {envelope : Json} {s s' : State} {a : Action} (h : Whole rt owner envelope)
    (hstored : s.stored = some envelope) (hop : a.op.isRelational = true)
    (hstep : step rt owner s a = some s') :
    (crowds rt s a = false → ∃ envelope', s'.stored = some envelope' ∧ Whole rt owner envelope') ∧
      (crowds rt s a = true → ¬ Sound rt s') ∧
      ((perform rt a.metadata a.call a.op s.stored).1.toOption = none → s'.stored = s.stored) := by
  have hcrowds : crowds rt s a = (!a.call.full &&
      collides rt a.metadata a.call a.op (planSpecific envelope)) := by
    unfold crowds
    rw [hstored]
    rfl
  have hrefuses : (a.call.full = true ∨
      ∃ e, a.op.make rt a.metadata a.call (planSpecific envelope) = .error e) →
      crowds rt s a = false ∧ s'.stored = some envelope := by
    refine fun hrefused => ⟨?_, stored_of_refused h hstored hrefused hstep⟩
    rw [hcrowds]
    rcases hrefused with hfull | ⟨e, herror⟩
    · rw [hfull]
      rfl
    · unfold collides
      rw [herror]
      exact Bool.and_false _
  cases hmake : a.op.make rt a.metadata a.call (planSpecific envelope) with
  | error e =>
    obtain ⟨hfree, hkept⟩ := hrefuses (Or.inr ⟨e, hmake⟩)
    refine ⟨fun _ => ⟨envelope, hkept, h⟩, fun hcrowded => ?_, fun _ => hkept.trans hstored.symm⟩
    rw [hfree] at hcrowded
    cases hcrowded
  | ok next =>
    cases hfull : a.call.full with
    | true =>
      obtain ⟨hfree, hkept⟩ := hrefuses (Or.inl hfull)
      refine ⟨fun _ => ⟨envelope, hkept, h⟩, fun hcrowded => ?_, fun _ => hkept.trans hstored.symm⟩
      rw [hfree] at hcrowded
      cases hcrowded
    | false =>
      obtain ⟨houtcome, hupdated⟩ := stored_of_make h hstored hop hmake hfull hstep
      have hnext := reads_next h.shape hop hmake
      have hleaves := leaves_make h.integral h.typed (ids_of_shape h.shape) hop hmake
      rw [hfull, Bool.not_false, Bool.true_and] at hcrowds
      rw [hcrowds]
      refine ⟨fun hfree => ⟨_, hupdated, accepted_updated h.accepted hnext.accepted, ?_, ?_, ?_⟩,
        fun hcollides hsound => ?_, fun hthrows => ?_⟩
      · rw [planSpecific_updated]
        exact hnext
      · rw [planSpecific_updated]
        exact hleaves.integral.mpr hfree
      · rw [planSpecific_updated]
        exact hleaves.typed
      · obtain ⟨envelope', henvelope, hintegral⟩ := hsound
        rw [hupdated] at henvelope
        rw [← Option.some.inj henvelope, planSpecific_updated, hleaves.integral, hcollides]
          at hintegral
        cases hintegral
      · rw [houtcome] at hthrows
        cases hthrows

/-! ## The baseline -/

/-- The first letters are different ones of ASCII, ignoring case. -/
def startsApart (a b : String) : Bool :=
  match a.toList, b.toList with
  | c :: _, d :: _ => c.toNat < 128 && d.toNat < 128 && c.toLower ≠ d.toLower
  | _, _ => false

theorem folded_ne {a b : String} (h : startsApart a b = true) :
    rt.toLocaleLowerCase a ≠ rt.toLocaleLowerCase b := by
  intro hsame
  have hsplit : ∀ {text : String} {c : Char} {rest : List Char}, text.toList = c :: rest →
      text = c.toString ++ String.ofList rest := fun {text c rest} htext => by
    rw [← String.toList_inj, htext, String.toList_append, String.toList_ofList,
      Char.toString_eq_singleton, String.toList_singleton]
    rfl
  unfold startsApart at h
  cases ha : a.toList with
  | nil =>
    rw [ha] at h
    cases h
  | cons c rest =>
    cases hb : b.toList with
    | nil =>
      rw [ha, hb] at h
      cases h
    | cons d rest' =>
      rw [ha, hb] at h
      simp only [Bool.and_eq_true, decide_eq_true_eq] at h
      rw [hsplit ha, hsplit hb] at hsame
      exact h.2 (rt.first_letter c d _ _ h.1.1 h.1.2 hsame)

section Mapped

variable {α : Type} {f : α → Except String Json} {defs : List α} {out : List Json}

theorem forall₂_of_mapM (h : defs.mapM f = .ok out) :
    List.Forall₂ (fun d item => f d = .ok item) defs out := by
  induction defs generalizing out with
  | nil =>
    rw [List.mapM_nil] at h
    rw [← Except.ok.inj h]
    exact .nil
  | cons d rest ih =>
    rw [List.mapM_cons] at h
    obtain ⟨item, hitem, h⟩ := bind_eq_ok.mp h
    obtain ⟨items, hitems, h⟩ := bind_eq_ok.mp h
    rw [← Except.ok.inj h]
    exact .cons hitem (ih hitems)

theorem exists_definition (h : List.Forall₂ (fun d item => f d = .ok item) defs out) :
    ∀ item ∈ out, ∃ d ∈ defs, f d = .ok item := by
  induction h with
  | nil => exact fun _ hitem => absurd hitem List.not_mem_nil
  | cons hhead _ ih =>
    intro item hitem
    rcases List.mem_cons.mp hitem with rfl | hrest
    · exact ⟨_, List.mem_cons_self, hhead⟩
    · obtain ⟨d, hd, hf⟩ := ih item hrest
      exact ⟨d, List.mem_cons_of_mem _ hd, hf⟩

theorem exists_made (h : List.Forall₂ (fun d item => f d = .ok item) defs out) :
    ∀ d ∈ defs, ∃ item ∈ out, f d = .ok item := by
  induction h with
  | nil => exact fun _ hd => absurd hd List.not_mem_nil
  | cons hhead _ ih =>
    intro d hd
    rcases List.mem_cons.mp hd with rfl | hrest
    · exact ⟨_, List.mem_cons_self, hhead⟩
    · obtain ⟨item, hitem, hf⟩ := ih d hrest
      exact ⟨item, List.mem_cons_of_mem _ hitem, hf⟩

theorem distinct_of_apart {apart : α → α → Prop}
    (h : List.Forall₂ (fun d item => f d = .ok item) defs out) (hdefs : defs.Pairwise apart)
    (himp : ∀ a b item other, f a = .ok item → f b = .ok other → apart a b →
      ¬ related item other) : Distinct related out := by
  induction h with
  | nil => exact .nil
  | cons hhead htail ih =>
    obtain ⟨hfirst, hrest⟩ := List.pairwise_cons.mp hdefs
    refine List.pairwise_cons.mpr ⟨fun other hother => ?_, ih hrest⟩
    obtain ⟨d, hd, hf⟩ := exists_definition htail other hother
    exact himp _ d _ other hhead hf (hfirst d hd)

end Mapped

theorem baselineClient_ok {d : String × String × String × String × Bool × Int}
    (h : baselineClient rt metadata d = .ok item) :
    item.textAt "id" = some (clientId metadata d.1) ∧
      item.textAt "username" = some (canonicalUsername d.2.2.1) ∧
      item.get "phone" = some (.str d.2.2.2.1) := by
  unfold baselineClient at h
  obtain ⟨time, -, h⟩ := bind_eq_ok.mp h
  rw [← Except.ok.inj h]
  refine ⟨rfl, congrArg some ?_, rfl⟩
  unfold canonicalUsername
  rw [← String.toList_inj, String.toList_append, String.toList_ofList, String.toList_ofList,
    demoPrefix]

/-- A subscription of the baseline, as its definition says. -/
structure Drafted (metadata : Metadata) (d : Draft) (item : Json) : Prop where
  id : item.textAt "id" = some (metadata.tenantId ++ "-" ++ d.id)
  client : item.textAt "client_id" = some (clientId metadata d.client)
  service : item.textAt "service_id" = some (metadata.tenantId ++ "-" ++ d.service)
  plan : item.textAt "plan_id" = some (metadata.tenantId ++ "-" ++ d.plan)
  email : item.textAt "streaming_email" = some d.email
  pin : item.get "pin_secret" = some (orNull d.profilePin)
  profile : item.get "profile_name" = some (orNull d.profileName)
  status : item.textAt "status" = some d.status

theorem baselineSubscription_ok {d : Draft} (h : baselineSubscription rt metadata d = .ok item) :
    Drafted metadata d item := by
  unfold baselineSubscription at h
  obtain ⟨now, -, h⟩ := bind_eq_ok.mp h
  obtain ⟨startsAt, -, h⟩ := bind_eq_ok.mp h
  obtain ⟨expiresAt, -, h⟩ := bind_eq_ok.mp h
  obtain ⟨cancelledAt, -, h⟩ := bind_eq_ok.mp h
  rw [← Except.ok.inj h]
  exact ⟨rfl, rfl, rfl, rfl, rfl, rfl, rfl, rfl⟩

theorem append_ne {a b : String} (tenant : String) (h : a ≠ b) : tenant ++ a ≠ tenant ++ b :=
  fun hsame => h ((String.append_right_inj tenant).mp hsame)

theorem integral_baseline (hclients : createProClients rt metadata = .ok clients)
    (hsubscriptions : createProSubscriptions rt metadata = .ok subscriptions) :
    Integral rt clients (serviceDefinitions.map (baselineService metadata))
      (planDefinitions.map (baselinePlan metadata)) subscriptions := by
  have hmadeClients := forall₂_of_mapM hclients
  have hmade := forall₂_of_mapM hsubscriptions
  have hapart : clientDefinitions.Pairwise fun a b =>
      a.1 ≠ b.1 ∧ a.2.2.1 ≠ b.2.2.1 ∧ a.2.2.2.1 ≠ b.2.2.2.1 := by decide
  have hservices : serviceDefinitions.Pairwise fun a b =>
      a.1 ≠ b.1 ∧ startsApart a.2.1 b.2.1 = true := by decide
  have hplans : planDefinitions.Pairwise fun a b =>
      a.2.1 ≠ b.2.1 ∧ (a.1 = b.1 → startsApart a.2.2.1 b.2.2.1 = true) := by decide
  have hdrafts : subscriptionDefinitions.Pairwise fun a b => a.id ≠ b.id ∧
      ¬ (a.status = "active" ∧ b.status = "active" ∧ a.client = b.client ∧ a.service = b.service) := by
    decide
  have htenant : ∀ {a b : String}, a ≠ b →
      some (metadata.tenantId ++ "-" ++ a) ≠ some (metadata.tenantId ++ "-" ++ b) :=
    fun hne hsame => append_ne _ hne (Option.some.inj hsame)
  have hrelated : ∀ d ∈ subscriptionDefinitions, (∃ c ∈ clientDefinitions, c.1 = d.client) ∧
      (∃ s ∈ serviceDefinitions, s.1 = d.service) ∧
      ∃ p ∈ planDefinitions, p.2.1 = d.plan ∧ p.1 = d.service := by decide
  have hpins : ∀ d ∈ subscriptionDefinitions,
      (orNull d.profilePin).truthy = true → (orNull d.profileName).truthy = true := by decide
  constructor
  case clientIds =>
    refine distinct_of_apart hmadeClients hapart fun a b item other ha hb hab hsame => ?_
    unfold SameId at hsame
    rw [(baselineClient_ok ha).1, (baselineClient_ok hb).1] at hsame
    exact append_ne _ hab.1 (Option.some.inj hsame)
  case serviceIds =>
    exact List.pairwise_map.mpr (hservices.imp fun hab => htenant hab.1)
  case planIds =>
    exact List.pairwise_map.mpr (hplans.imp fun hab => htenant hab.1)
  case subscriptionIds =>
    refine distinct_of_apart hmade hdrafts fun a b item other ha hb hab hsame => ?_
    unfold SameId at hsame
    rw [(baselineSubscription_ok ha).id, (baselineSubscription_ok hb).id] at hsame
    exact htenant hab.1 hsame
  case relations =>
    intro subscription hsubscription
    obtain ⟨d, hd, hd'⟩ := exists_definition hmade subscription hsubscription
    have hdrafted := baselineSubscription_ok hd'
    obtain ⟨⟨c, hc, hclient⟩, ⟨s, hs, hservice⟩, p, hp, hplan, hof⟩ := hrelated d hd
    obtain ⟨client, hmem, hmadeOf⟩ := exists_made hmadeClients c hc
    refine ⟨⟨client, hmem, ?_⟩, ⟨_, List.mem_map_of_mem hs, ?_⟩, ⟨_, List.mem_map_of_mem hp, ?_, ?_⟩⟩
    · rw [(baselineClient_ok hmadeOf).1, hdrafted.client, hclient]
    · rw [hdrafted.service, ← hservice]
      rfl
    · rw [hdrafted.plan, ← hplan]
      rfl
    · rw [hdrafted.service, ← hof]
      rfl
  case serviceNames =>
    refine List.pairwise_map.mpr (hservices.imp fun {a b} hab hsame => ?_)
    exact folded_ne hab.2 (Option.some.inj hsame)
  case planNames =>
    refine List.pairwise_map.mpr (hplans.imp fun {a b} hab hsame => ?_)
    refine folded_ne (hab.2 ?_) (Option.some.inj hsame.2)
    by_contra hne
    exact htenant hne hsame.1
  case usernames =>
    refine distinct_of_apart hmadeClients hapart fun a b item other ha hb hab hsame => ?_
    unfold SameUsername at hsame
    rw [localUsername_canonical (baselineClient_ok ha).2.1,
      localUsername_canonical (baselineClient_ok hb).2.1] at hsame
    exact hab.2.1 (Except.ok.inj hsame)
  case phones =>
    refine distinct_of_apart hmadeClients hapart fun a b item other ha hb hab hsame => ?_
    obtain ⟨phone, hitem, hother⟩ := hsame
    unfold textAt at hitem hother
    rw [(baselineClient_ok ha).2.2] at hitem
    rw [(baselineClient_ok hb).2.2] at hother
    exact hab.2.2 ((Option.some.inj hitem).trans (Option.some.inj hother).symm)
  case active =>
    refine distinct_of_apart hmade hdrafts fun a b item other ha hb hab hboth => ?_
    have hda := baselineSubscription_ok ha
    have hdb := baselineSubscription_ok hb
    obtain ⟨hitem, hother, hseat⟩ := hboth
    unfold isActive at hitem hother
    unfold sameSeat at hseat
    rw [hda.status, decide_eq_true_iff] at hitem
    rw [hdb.status, decide_eq_true_iff] at hother
    rw [hda.client, hdb.client, hda.service, hdb.service] at hseat
    simp only [Bool.and_eq_true, decide_eq_true_eq] at hseat
    refine hab.2 ⟨Option.some.inj hitem, Option.some.inj hother, ?_, ?_⟩
    · by_contra hne
      exact append_ne _ hne (Option.some.inj hseat.1.1)
    · by_contra hne
      exact htenant hne hseat.1.2
  case pins =>
    intro subscription hsubscription
    obtain ⟨d, hd, hd'⟩ := exists_definition hmade subscription hsubscription
    have hdrafted := baselineSubscription_ok hd'
    unfold PinNamed
    rw [hdrafted.pin, hdrafted.profile]
    exact hpins d hd

theorem typed_baseline (hclients : createProClients rt metadata = .ok clients)
    (hsubscriptions : createProSubscriptions rt metadata = .ok subscriptions) :
    Typed clients subscriptions where
  usernames client hclient := by
    obtain ⟨d, -, hmade⟩ := exists_definition (forall₂_of_mapM hclients) client hclient
    rw [(baselineClient_ok hmade).2.1]
    rfl
  phones client hclient := by
    obtain ⟨d, hd, hmade⟩ := exists_definition (forall₂_of_mapM hclients) client hclient
    have hphones : ∀ d ∈ clientDefinitions, d.2.2.2.1 ≠ "" := by decide
    exact Or.inr ⟨_, hphones d hd, (baselineClient_ok hmade).2.2⟩
  emails subscription hsubscription := by
    obtain ⟨d, -, hmade⟩ := exists_definition (forall₂_of_mapM hsubscriptions) subscription
      hsubscription
    rw [(baselineSubscription_ok hmade).email]
    rfl

theorem planOf_createEnvelope :
    planOf (createEnvelope rt metadata call state) = some metadata.plan := by
  unfold planOf
  rw [show (createEnvelope rt metadata call state).textAt "plan" = some metadata.plan.text from rfl]
  cases metadata.plan <;> rfl

theorem whole_baseline {stored : Option Json} {envelope : Json} (hplan : metadata.plan = .pro)
    (h : save rt metadata call metadata.tenantId stored = (.ok envelope, some envelope)) :
    Whole rt metadata.owner envelope := by
  unfold save createDemoBaseline at h
  rw [hplan] at h
  dsimp only at h
  cases hclients : createProClients rt metadata with
  | error e =>
    rw [hclients] at h
    cases h
  | ok clients =>
    cases hsubscriptions : createProSubscriptions rt metadata with
    | error e =>
      rw [hclients, hsubscriptions] at h
      cases h
    | ok subscriptions =>
      rw [hclients, hsubscriptions] at h
      dsimp only [bind, Except.bind, pure, Except.pure] at h
      split at h
      swap
      · cases h
      next hvalid =>
      unfold write at h
      split at h
      · cases h
      rw [← Except.ok.inj (Prod.mk.inj h).1]
      have haccepted : Accepted rt metadata.owner _ := ⟨hvalid, planOf_createEnvelope, rfl⟩
      have hshape : Shape rt metadata.owner.plan _ _ := shape_of_profiled haccepted.plan_specific.2 rfl
      exact ⟨haccepted, hshape, integral_baseline hclients hsubscriptions,
        typed_baseline hclients hsubscriptions⟩

end Collections

/-! ## The workspace keeps its constraints -/

/-- **Integrity of the demo workspace.** From the baseline of a pro tenant, behind operations on the
catalog, the clients and the subscriptions that did not collide, what is stored meets the
constraints; an operation keeps them if and only if it does not collide; and one that throws leaves
what is stored as it was. -/
theorem integral_iff {rt : Runtime} {metadata : Metadata} {call : Call} {before : Option Json}
    {envelope : Json} {s s' : State} {a : Action} (hplan : metadata.plan = .pro)
    (hbaseline : save rt metadata call metadata.tenantId before = (.ok envelope, some envelope))
    (h : Reaches (step rt metadata.owner)
      (fun s a => a.op.isRelational = true ∧ crowds rt s a = false) ⟨call.now, some envelope⟩ s)
    (hop : a.op.isRelational = true) (hstep : step rt metadata.owner s a = some s') :
    Sound rt s ∧ (Sound rt s' ↔ crowds rt s a = false) ∧
      ((perform rt a.metadata a.call a.op s.stored).1.toOption = none → s'.stored = s.stored) := by
  obtain ⟨current, hstored, hwhole⟩ := h.invariant
    (I := fun s => ∃ envelope, s.stored = some envelope ∧ Whole rt metadata.owner envelope)
    ⟨envelope, rfl, whole_baseline hplan hbaseline⟩ fun s a s' ⟨current, hstored, hwhole⟩ hok hstep =>
      (step_whole hwhole hstored hok.1 hstep).1 hok.2
  obtain ⟨hkeeps, hbreaks, hthrows⟩ := step_whole hwhole hstored hop hstep
  refine ⟨⟨current, hstored, hwhole.integral⟩, ⟨fun hsound => ?_, fun hok => ?_⟩, hthrows⟩
  · cases hcrowds : crowds rt s a with
    | false => rfl
    | true => exact absurd hsound (hbreaks hcrowds)
  · obtain ⟨next, hnext, hwhole⟩ := hkeeps hok
    exact ⟨next, hnext, hwhole.integral⟩

def exPro : Metadata := { exMetadata with plan := .pro }

def exValueOf (x : Except String Json) : Json := x.toOption.getD .null

theorem eq_exValueOf {x : Except String Json} (h : x.toOption.isSome = true) :
    x = .ok (exValueOf x) := by
  cases x with
  | error e => cases h
  | ok value => rfl

def exBaseline : Json := exValueOf (createDemoBaseline exRuntime exPro)

def exProEnvelope : Json := createEnvelope exRuntime exPro exCall exBaseline

theorem exProEnvelope_saved : save exRuntime exPro exCall exPro.tenantId none =
    (.ok exProEnvelope, some exProEnvelope) := by
  have hvalid : isWorkspaceEnvelope exRuntime exProEnvelope exPro.tenantId = true := by
    refine ReadableLemmas.valid_of_plain rfl ?_ ?_
    · decide +kernel
    · decide +kernel
  unfold save
  rw [eq_exValueOf (x := createDemoBaseline exRuntime exPro) (by decide +kernel)]
  exact if_pos hvalid

def exCalled (op : Op) : Action := ⟨exPro, exCall, op⟩

def exNext (op : Op) : Json := exValueOf (op.make exRuntime exPro exCall exBaseline)

def exWish : SubscriptionCreate :=
  ⟨"client-demo-2", "demo-service-netflix", "demo-netflix-basic", "demo.cancelled@example.test",
    .absent, .absent, .absent, "1_month", "2026-07-24T12:00:00.000Z", .absent⟩

def exReactivate : Op :=
  .reactivateSubscription "demo-subscription-cancelled" .absent .absent .absent

theorem exCalled_step (envelope : Json) (op : Op)
    (hexpires : envelope.get "expires_at" = some .null) :
    ∃ stored, step exRuntime exPro.owner ⟨exCall.now, some envelope⟩ (exCalled op) =
      some ⟨exCall.now, stored⟩ := by
  have hlive : isLive exRuntime exPro.owner exPro (some envelope) = true := by
    unfold isLive isExpiredOrphan isTimestamp
    rw [Option.any_some, hexpires]
    decide
  unfold step
  rw [if_pos ⟨Fin.le_refl _, hlive⟩]
  exact ⟨_, rfl⟩

theorem exCalled_twice {first second : Op} (hfirst : first.isRelational = true)
    (hmake : (first.make exRuntime exPro exCall exBaseline).toOption.isSome = true)
    (hfree : collides exRuntime exPro exCall first exBaseline = false)
    (hsecond : second.isRelational = true)
    (hcollides : collides exRuntime exPro exCall second (exNext first) = true) :
    ∃ s s', step exRuntime exPro.owner ⟨exCall.now, some exProEnvelope⟩ (exCalled first) = some s ∧
      step exRuntime exPro.owner s (exCalled second) = some s' ∧ ¬ Sound exRuntime s' := by
  have hwhole := whole_baseline rfl exProEnvelope_saved
  obtain ⟨stored, hs⟩ := exCalled_step exProEnvelope first rfl
  have hstored := (stored_of_make hwhole rfl hfirst (eq_exValueOf hmake) rfl hs).2
  obtain ⟨envelope, henvelope, hnext⟩ := (step_whole hwhole rfl hfirst hs).1 hfree
  have hupdated : envelope = updated exRuntime exCall exProEnvelope (exNext first) :=
    Option.some.inj (henvelope.symm.trans hstored)
  obtain rfl : stored = some envelope := henvelope
  obtain ⟨stored', hs'⟩ := exCalled_step envelope second (by
    rw [hupdated]
    unfold updated
    rw [get_put_of_ne (by decide), get_put_of_ne (by decide)]
    rfl)
  refine ⟨_, _, hs, hs', (step_whole hnext rfl hsecond hs').2.1 ?_⟩
  unfold crowds
  rw [Option.any_some, hupdated, ReadableLemmas.planSpecific_updated]
  exact hcollides

/-- A subscription is created for the seat of the cancelled one. -/
theorem integral_created : ∃ s', step exRuntime exPro.owner ⟨exCall.now, some exProEnvelope⟩
    (exCalled (.createSubscription exWish)) = some s' ∧ Sound exRuntime s' := by
  obtain ⟨stored, hs⟩ := exCalled_step exProEnvelope (.createSubscription exWish) rfl
  exact ⟨_, hs, (integral_iff rfl exProEnvelope_saved .refl rfl hs).2.1.mpr (by decide +kernel)⟩

/-- The cancelled subscription is made active again beside the one that was created for its client,
service and email. -/
theorem reactivated_twice : ∃ s s',
    step exRuntime exPro.owner ⟨exCall.now, some exProEnvelope⟩
      (exCalled (.createSubscription exWish)) = some s ∧
    step exRuntime exPro.owner s (exCalled exReactivate) = some s' ∧ ¬ Sound exRuntime s' :=
  exCalled_twice rfl (by decide +kernel) (by decide +kernel) rfl (by decide +kernel)

end Trackpal.Browser.Workspace
